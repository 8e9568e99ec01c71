import ApRoIntegrity.Images

/-!
# PASS is sound

`do_ap_ro_check` releases the AP only after the AP flash has been checked against a trusted
record: the factory V1 record on the H1 flash page, or a GVD whose hash the page caches or whose
signature chain the scan has just verified. This module proves that over whole runs, from an
erased page through any seeds, runs, resets and changes of the AP flash image, with SHA-256 and
RSA verification uninterpreted.

The page is trusted because only two writers touch it, each right after it has checked what it
writes: the seeding command and `save_gvd_hash`. That holds only while the page's erases and
writes succeed. A write that fails part-way leaves a record no writer produced, and its 4-byte
truncated checksum is all that stands between it and the V1 or V2 check.

## What is proved here

* `PageExplained`: the page is erased, holds the factory record of a payload the history shows
  was seeded, or holds the descriptor of a GVD the history shows was verified with a rollback
  counter past the floor.
* `explained_run`: every operation whose page erases and writes succeed keeps the page
  explained, so every such run from an erased page does.
* `verified_run`: what the history's verified GVDs are. Over every sequence of operations, a GVD
  recorded as verified at an offset was read at that offset by one of the sequence's
  verification runs, from its AP flash, with its whole signature chain holding (the root key's
  hash is `root_key_hash[]`, the keyblock signature and the GVD signature verify) and its ranges
  hashing to its digest (`ChainVerified`).
* `pass_sound`: a run that returns `EC_SUCCESS` either checked the AP flash against the factory
  record of an earlier successful seed (`FactoryPass`), or found a GVD bound to this board whose
  ranges hash to its digest and whose header and ranges hash as those of a verified GVD
  (`GvdPass`).
* `torn_seed_pass`: without the proviso the result fails. A seed whose payload write fails
  leaves a torn record, and under a SHA-256 stand-in whose truncated checksum does not see the
  torn bytes, a later run passes on it with no successful seed and no verified GVD in the
  history.
-/

namespace ApRoIntegrity

/-! ### Runs whose page writes succeed -/

/-- No erase or write of the record page fails. -/
def Faults.PageOk (fs : Faults) : Prop := (∀ b ∈ fs.erase, b = true) ∧ ∀ w ∈ fs.write, w = none

/-- An operation during which no erase or write of the record page fails. -/
def Op.PageOk : Op → Prop
  | .seed _ _ fs => fs.PageOk
  | .check _ fs => fs.PageOk
  | .deviceReset => True
  | .fire => True

namespace Faults.PageOk

variable {fs : Faults} (h : fs.PageOk)
include h

theorem erase_headD : fs.erase.headD true = true := by
  cases hl : fs.erase with
  | nil => rfl
  | cons b bs => exact h.1 b (hl ▸ List.mem_cons_self b bs)

theorem write_headD : fs.write.headD none = none := by
  cases hl : fs.write with
  | nil => rfl
  | cons w ws => exact h.2 w (hl ▸ List.mem_cons_self w ws)

theorem erase_tail : { fs with erase := fs.erase.tail }.PageOk :=
  ⟨fun b hb => h.1 b (List.mem_of_mem_tail hb), h.2⟩

theorem write_tail : { fs with write := fs.write.tail }.PageOk :=
  ⟨h.1, fun w hw => h.2 w (List.mem_of_mem_tail hw)⟩

end Faults.PageOk

/-! ### The records the writers leave -/

/-- The page a successful `vc_seed_ap_ro_check` of `buf` leaves on an erased page. -/
def seedImage (P : Platform) (buf : List UInt8) : ℕ → UInt8 :=
  program erased 0 (seedHeader P buf ((buf.length - 32) / 8) ++ buf)

/-- The page a successful `save_gvd_hash` leaves on an erased page. -/
def gvdImage (P : Platform) (offset : ℕ) (h : GscVerificationData) (ranges : List UInt8) :
    ℕ → UInt8 :=
  program erased 0 (gvdRecord P (gvdDescriptorOf P offset h ranges))

/-- A payload the seeding command accepts: a digest and between 1 and 32 ranges. -/
def SeedShape (buf : List UInt8) : Prop :=
  40 ≤ buf.length ∧ (buf.length - 32) % 8 = 0 ∧ (buf.length - 32) / 8 ≤ 32

/-- What the record page can hold while its erases and writes succeed, each record with the
point of the history that wrote it. -/
inductive PageExplained (P : Platform) (hist : List Event) : (ℕ → UInt8) → Prop where
  /-- Nothing written since the last erase. -/
  | empty : PageExplained P hist erased
  /-- The factory record of a payload seeded earlier. -/
  | seeded {buf : List UInt8} : .seeded buf ∈ hist → SeedShape buf →
      PageExplained P hist (seedImage P buf)
  /-- The descriptor of a GVD verified earlier, past the rollback floor. -/
  | verified {offset : ℕ} {h : GscVerificationData} {ranges : List UInt8} :
      .verified offset h ranges ∈ hist → lowestAcceptableGvdRollback ≤ h.rollbackCounter →
      offset < 2 ^ 32 → PageExplained P hist (gvdImage P offset h ranges)

theorem PageExplained.mono {P : Platform} {hist hist' : List Event} {p : ℕ → UInt8}
    (h : PageExplained P hist p) (hh : hist ⊆ hist') : PageExplained P hist' p := by
  cases h with
  | empty => exact .empty
  | seeded he hs => exact .seeded (hh he) hs
  | verified he hr ho => exact .verified (hh he) hr ho

/-! ### Reading the records back -/

section

variable (P : Platform)

theorem length_seedHeader (buf : List UInt8) (n : ℕ) : (seedHeader P buf n).length = 8 := by
  simp [seedHeader, P.length_sha256]

theorem seedImage_eq (buf : List UInt8) :
    seedImage P buf = program (program erased 0 (seedHeader P buf ((buf.length - 32) / 8)))
      apRoCheckHeaderSize buf := by
  rw [seedImage, ← program_append, length_seedHeader]; rfl

theorem bytesAt_seedImage (buf : List UInt8) :
    BytesAt (seedImage P buf) 0 (seedHeader P buf ((buf.length - 32) / 8) ++ buf) :=
  bytesAt_program (erasedAt_erased _ _)

theorem bytesAt_gvdImage (offset : ℕ) (h : GscVerificationData) (ranges : List UInt8) :
    BytesAt (gvdImage P offset h ranges) 0 (gvdRecord P (gvdDescriptorOf P offset h ranges)) :=
  bytesAt_program (erasedAt_erased _ _)

/-- Every record starts with the layout version 1, which no erased page holds. -/
theorem PageExplained.eq_erased {hist : List Event} {p : ℕ → UInt8} (h : PageExplained P hist p)
    (h₀ : p 0 = 0xFF) : p = erased := by
  cases h with
  | empty => rfl
  | seeded =>
    rw [bytesAt_seedImage P _ 0 (by simp only [List.length_append, length_seedHeader]; omega)]
      at h₀
    cases h₀
  | verified =>
    rw [bytesAt_gvdImage P _ _ _ 0 (by simp [gvdRecord])] at h₀
    cases h₀

theorem seedHeader_append (buf : List UInt8) (n : ℕ) :
    seedHeader P buf n ++ buf = [1, 0] ++ (toLE 2 n ++ ((P.sha256 buf).take 4 ++ buf)) := by
  simp [seedHeader]

theorem pageType_seedImage (buf : List UInt8) :
    pageType (seedImage P buf) = apRoHashTypeFactory := by
  rw [pageType, bytesAt_seedImage P buf 1 (by
    simp only [List.length_append, length_seedHeader]; omega)]
  rfl

theorem pageNumRanges_seedImage {buf : List UInt8} (hs : SeedShape buf) :
    pageNumRanges (seedImage P buf) = (buf.length - 32) / 8 := by
  rw [pageNumRanges, readMem_of_bytesAt_sub (i := 2) (bytesAt_seedImage P buf) (by
    simp only [List.length_append, length_seedHeader]; omega), seedHeader_append,
    List.drop_left' (by rfl : ([1, 0] : List UInt8).length = 2), List.take_left' (length_toLE 2 _),
    ofLE_toLE_of_lt]
  exact lt_of_le_of_lt hs.2.2 (by decide)

theorem pageDigest_seedImage {buf : List UInt8} (hs : SeedShape buf) :
    pageDigest (seedImage P buf) = buf.take 32 := by
  obtain ⟨h₁, -, -⟩ := hs
  rw [pageDigest, readMem_of_bytesAt_sub (i := 8) (bytesAt_seedImage P buf) (by
    simp only [List.length_append, length_seedHeader]; omega),
    List.drop_left' (length_seedHeader P _ _)]

theorem pageRanges_seedImage {buf : List UInt8} (hs : SeedShape buf) :
    pageRanges (seedImage P buf) (pageNumRanges (seedImage P buf)) =
      rangesOf (buf.drop 32) ((buf.length - 32) / 8) := by
  obtain ⟨h₁, h₂, h₃⟩ := hs
  rw [pageNumRanges_seedImage P ⟨h₁, h₂, h₃⟩, pageRanges,
    readMem_of_bytesAt_sub (i := 40) (bytesAt_seedImage P buf) (by
      simp only [List.length_append, length_seedHeader]; omega),
    List.drop_append_eq_append_drop, List.drop_eq_nil_of_le (by rw [length_seedHeader]; omega),
    List.nil_append, length_seedHeader, List.take_of_length_le (by simp; omega)]

theorem pageType_gvdImage (offset : ℕ) (h : GscVerificationData) (ranges : List UInt8) :
    pageType (gvdImage P offset h ranges) = apRoHashTypeGscvd := by
  rw [pageType, bytesAt_gvdImage P _ _ _ 1 (by simp [gvdRecord])]; rfl

theorem pageNumRanges_gvdImage (offset : ℕ) (h : GscVerificationData) (ranges : List UInt8) :
    pageNumRanges (gvdImage P offset h ranges) = 0 := by
  rw [pageNumRanges, readMem_of_bytesAt_sub (i := 2) (bytesAt_gvdImage P _ _ _) (by
    simp [gvdRecord])]
  rfl

theorem findV2Entry_gvdImage {offset : ℕ} (ho : offset < 2 ^ 32) (h : GscVerificationData)
    (ranges : List UInt8) :
    findV2Entry P (gvdImage P offset h ranges) = some (gvdDescriptorOf P offset h ranges) :=
  findV2Entry_of_bytesAt P (gvdDescriptorOf_fits P ho h ranges) (bytesAt_gvdImage P _ _ _)

/-- Only the erased page reads `num_ranges` as erased. -/
theorem PageExplained.eq_erased_of_numRanges {hist : List Event} {p : ℕ → UInt8}
    (h : PageExplained P hist p) (hn : pageNumRanges p = 0xFFFF) : p = erased := by
  cases h with
  | empty => rfl
  | seeded _ hs => rw [pageNumRanges_seedImage P hs] at hn; have := hs.2.2; omega
  | verified => rw [pageNumRanges_gvdImage] at hn; cases hn

/-- Only a descriptor the history shows was verified passes `find_v2_entry`. -/
theorem PageExplained.findV2Entry {hist : List Event} {p : ℕ → UInt8}
    (h : PageExplained P hist p) {d : GvdDescriptor} (hd : findV2Entry P p = some d) :
    ∃ offset h₀ ranges₀, .verified offset h₀ ranges₀ ∈ hist ∧
      lowestAcceptableGvdRollback ≤ h₀.rollbackCounter ∧ d = gvdDescriptorOf P offset h₀ ranges₀ := by
  cases h with
  | empty => rw [ApRoIntegrity.findV2Entry, if_pos (.inr (by decide))] at hd; cases hd
  | seeded =>
    rw [ApRoIntegrity.findV2Entry, if_pos (.inr (by rw [pageType_seedImage]; decide))] at hd
    cases hd
  | verified hv hr ho =>
    rw [findV2Entry_gvdImage P ho] at hd
    exact ⟨_, _, _, hv, hr, (Option.some.inj hd).symm⟩

end

/-! ### The writers keep the page explained -/

section

variable (P : Platform) (E : Env)

/-- The page and the history agree. -/
def Explained (s : St) : Prop := PageExplained P s.history s.page

/-- The page and the history agree, and no erase or write of the page still to come in this
operation fails. -/
def ExplainedOk (s : St) : Prop := Explained P s ∧ s.faults.PageOk

/-- Past the rollback floor, with the page's erase and write succeeding, `save_gvd_hash` leaves
its record alone on the page, provided a page whose `num_ranges` reads as erased, which it does
not erase, is erased. -/
theorem saveGvdHash_fields {offset : ℕ} {h : GscVerificationData} {ranges : List UInt8}
    {s : St} (hr : lowestAcceptableGvdRollback ≤ h.rollbackCounter) (hf : s.faults.PageOk)
    (hp : pageNumRanges s.page = 0xFFFF → s.page = erased) :
    (saveGvdHash P offset h ranges s).2.page = gvdImage P offset h ranges ∧
      (saveGvdHash P offset h ranges s).2.history = s.history ∧
      (saveGvdHash P offset h ranges s).2.faults.PageOk := by
  rw [saveGvdHash_snd, if_neg (Nat.not_lt.mpr hr)]
  have hu : (if pageNumRanges s.page ≠ 0xFFFF then s.apRoEraseHash.2 else s).page = erased ∧
      (if pageNumRanges s.page ≠ 0xFFFF then s.apRoEraseHash.2 else s).history = s.history ∧
      (if pageNumRanges s.page ≠ 0xFFFF then s.apRoEraseHash.2 else s).faults.PageOk := by
    split
    · rw [St.apRoEraseHash_snd, hf.erase_headD]; exact ⟨rfl, rfl, hf.erase_tail⟩
    · exact ⟨hp (not_not.mp ‹_›), rfl, hf⟩
  generalize (if pageNumRanges s.page ≠ 0xFFFF then s.apRoEraseHash.2 else s) = u at hu
  obtain ⟨hu₁, hu₂, hu₃⟩ := hu
  rw [St.pageWrite_snd, hu₃.write_headD]
  exact ⟨by rw [hu₁]; rfl, hu₂, hu₃.write_tail⟩

theorem saveGvdHash_explained {offset : ℕ} {h : GscVerificationData} {ranges : List UInt8}
    {s : St} (ho : offset < 2 ^ 32) (hv : .verified offset h ranges ∈ s.history)
    (hs : ExplainedOk P s) : ExplainedOk P (saveGvdHash P offset h ranges s).2 := by
  by_cases hr : lowestAcceptableGvdRollback ≤ h.rollbackCounter
  · obtain ⟨h₁, h₂, h₃⟩ := saveGvdHash_fields P hr hs.2
      (PageExplained.eq_erased_of_numRanges P hs.1)
    refine ⟨?_, h₃⟩
    unfold Explained
    rw [h₁, h₂]
    exact .verified hv hr ho
  · rw [saveGvdHash_snd, if_pos (Nat.not_le.mp hr)]
    exact hs

theorem commitInfo_fields (s : St) :
    (commitInfo s).2.page = s.page ∧ (commitInfo s).2.history = s.history ∧
      (commitInfo s).2.faults.erase = s.faults.erase ∧
      (commitInfo s).2.faults.write = s.faults.write := by
  unfold commitInfo
  split
  · exact ⟨rfl, rfl, rfl, rfl⟩
  · rw [St.requireFutureChecks_snd]; exact ⟨rfl, rfl, rfl, rfl⟩

theorem commitGscvd_explained {offset : ℕ} {h : GscVerificationData} {ranges : List UInt8}
    {s : St} (ho : offset < 2 ^ 32) (hv : .verified offset h ranges ∈ s.history)
    (hs : ExplainedOk P s) : ExplainedOk P (commitGscvd P offset h ranges s).2 := by
  obtain ⟨h₁, h₂, h₃, h₄⟩ := commitInfo_fields s
  have hc : ExplainedOk P (commitInfo s).2 :=
    ⟨by rw [Explained, h₁, h₂]; exact hs.1, by
      unfold Faults.PageOk; rw [h₃, h₄]; exact hs.2⟩
  rcases commitGscvd_cases P offset h ranges s with ⟨-, e⟩ | ⟨-, e⟩ <;> rw [e]
  · exact hc
  · exact saveGvdHash_explained P ho (h₂ ▸ hv) hc

theorem checkGscvd_explained {fmapOffset offset : ℕ} (ho : offset < 2 ^ 32) {s : St}
    (hs : ExplainedOk P s) : ExplainedOk P (checkGscvd P E fmapOffset offset s).2 := by
  rcases checkGscvd_cases P E fmapOffset offset s with ⟨rv, e, -⟩ | ⟨rv, m, e, -⟩ |
    ⟨h, ranges, m, -, -, -, -, e⟩ <;> rw [e]
  · exact hs
  · exact hs
  · refine commitGscvd_explained P ho (List.mem_append_right _ (List.mem_singleton_self _)) ⟨?_, hs.2⟩
    exact hs.1.mono (List.subset_append_left _ _)

/-- A seed whose page writes succeed writes the factory record of its payload on an erased
page, or leaves the page as it was, or erased. -/
theorem vcSeedApRoCheck_explained (brd : Board) (buf : List UInt8) {s : St}
    (hf : s.faults.PageOk) (hs : Explained P s) : Explained P (vcSeedApRoCheck P brd buf s).2 := by
  have hw₁ : s.faults.write.headD none = none := hf.write_headD
  have hw₂ : s.faults.write.tail.headD none = none := hf.write_tail.write_headD
  unfold Explained
  rcases vcSeedApRoCheck_cases P brd buf s with ⟨-, e⟩ | ⟨-, e⟩ | ⟨-, h₁, h₂, h₃, -, hff, hw⟩ <;>
    try rw [e]
  · exact hs
  · rw [St.apRoEraseHash_snd, hf.erase_headD]; exact .empty
  simp only [St.pageWrite_fst, St.pageWrite_snd, hw₁, hw₂, Option.isNone_none,
    Option.elim_none] at hw
  obtain ⟨-, -, -, e⟩ := hw.resolve_left (by simp) |>.resolve_left (by simp)
  rw [e]
  have he : s.page = erased := PageExplained.eq_erased P hs (by
    have h0 := List.all_eq_true.mp hff (s.page 0) (by
      simp only [readMem, List.mem_map, List.mem_range]; exact ⟨0, by omega, rfl⟩)
    simpa using h0)
  show PageExplained P (s.history ++ [.seeded buf]) (program (program s.page 0 _) _ buf)
  rw [he, ← seedImage_eq]
  exact .seeded (List.mem_append_right _ (List.mem_singleton_self _)) ⟨h₁, h₂, h₃⟩

theorem explained_step {s : St} {op : Op} (hop : op.PageOk) (hs : Explained P s) :
    Explained P (step P s op) := by
  cases op with
  | seed brd buf fs => exact vcSeedApRoCheck_explained P brd buf (s := { s with faults := fs }) hop hs
  | check E fs =>
    obtain ⟨hp, -, hh⟩ := step_check_fields P s E fs
    unfold Explained
    rw [hp, hh]
    unfold verdictState
    split
    · exact hs
    · exact (v2Check_inv P E (Q := ExplainedOk P) (fun _ _ _ ho ht => checkGscvd_explained P E ho ht)
        { s with faults := fs, heap.acquire := E.shm } ⟨hs, hop⟩).1
  | deviceReset =>
    unfold Explained; simp only [step, apRoDeviceReset]; split <;> exact hs
  | fire =>
    unfold Explained; simp only [step]; split <;> exact hs

theorem explained_run (ops : List Op) (hops : ∀ op ∈ ops, op.PageOk) :
    ∀ s, Explained P s → Explained P (run P s ops) := by
  induction ops with
  | nil => exact fun _ h => h
  | cons op ops ih =>
    exact fun s h => ih (fun o ho => hops o (List.mem_cons_of_mem _ ho)) _
      (explained_step P (hops op (List.mem_cons_self _ _)) h)

/-! ### What the history's verified GVDs are -/

/-- What `check_gscvd` has established, on the AP flash and board of `E`, of the GVD header `h`
read at `offset` and its range bytes `ranges` when it records them as verified: the header read
under an FMAP offset, the ranges after it, the whole signature chain from the pinned root key to
the GVD's signature, and the ranges hashing to the header's digest. -/
def ChainVerified (offset : ℕ) (h : GscVerificationData) (ranges : List UInt8) : Prop :=
  ∃ fmapOffset m, readGscvdHeader E fmapOffset offset = some h ∧
    readRanges E offset h = some ranges ∧ ChainHolds P E offset h ranges m ∧
    validateRangesSha P E (rangesOf ranges h.rangeCount) h.rangesDigest = .succeeded

/-- Every GVD the history of `t` records as verified is recorded in the history of `s`, or was
verified on `E`. -/
def VerifiedOn (s t : St) : Prop :=
  ∀ o h ranges, .verified o h ranges ∈ t.history →
    .verified o h ranges ∈ s.history ∨ ChainVerified P E o h ranges

theorem VerifiedOn.trans {s t u : St} (h₁ : VerifiedOn P E s t) (h₂ : VerifiedOn P E t u) :
    VerifiedOn P E s u := fun o h ranges hm =>
  (h₂ o h ranges hm).elim (h₁ o h ranges) .inr

theorem commitGscvd_history (offset : ℕ) (h : GscVerificationData) (ranges : List UInt8)
    (s : St) : (commitGscvd P offset h ranges s).2.history = s.history := by
  have hc := (commitInfo_fields s).2.1
  rcases commitGscvd_cases P offset h ranges s with ⟨-, e⟩ | ⟨-, e⟩ <;> rw [e]
  · exact hc
  · rw [saveGvdHash_snd]
    split
    · exact hc
    · split <;> simp only [St.pageWrite_snd, St.apRoEraseHash_snd, hc]

/-- `check_gscvd` records a GVD as verified only once it has read it, the signature chain has
held and the ranges have hashed to its digest. -/
theorem checkGscvd_verifiedOn (fmapOffset offset : ℕ) (s : St) :
    VerifiedOn P E s (checkGscvd P E fmapOffset offset s).2 := by
  intro o h' r hm
  rcases checkGscvd_cases P E fmapOffset offset s with ⟨rv, e, -⟩ | ⟨rv, m, e, -⟩ |
    ⟨h, ranges, m, hh, hr, hc, hv, e⟩ <;> rw [e] at hm
  · exact .inl hm
  · exact .inl hm
  rw [commitGscvd_history] at hm
  simp only [St.record, List.mem_append, List.mem_singleton] at hm
  rcases hm with hm | hm
  · exact .inl hm
  · cases hm
    exact .inr ⟨fmapOffset, s.heap, hh, hr, chainHolds_of_verifyChain P E hc, hv⟩

/-- A seed adds at most the record of its own payload to the history. -/
theorem vcSeedApRoCheck_history (brd : Board) (buf : List UInt8) (s : St) :
    (vcSeedApRoCheck P brd buf s).2.history = s.history ∨
      (vcSeedApRoCheck P brd buf s).2.history = s.history ++ [.seeded buf] := by
  rcases vcSeedApRoCheck_cases P brd buf s with ⟨-, e⟩ | ⟨-, e⟩ |
    ⟨-, -, -, -, -, -, ⟨-, -, e⟩ | ⟨-, -, -, e⟩ | ⟨-, -, -, e⟩⟩ <;>
    simp only [e, St.record, St.pageWrite_snd, St.apRoEraseHash_snd, true_or, or_true]

/-- **One step**: an operation records a GVD as verified only if it is a verification run that
verified it on its AP flash. -/
theorem verified_step (s : St) (op : Op) {o : ℕ} {h : GscVerificationData} {ranges : List UInt8}
    (hm : .verified o h ranges ∈ (step P s op).history) :
    .verified o h ranges ∈ s.history ∨ ∃ E fs, op = .check E fs ∧ ChainVerified P E o h ranges := by
  cases op with
  | seed brd buf fs =>
    rcases vcSeedApRoCheck_history P brd buf { s with faults := fs } with e | e <;>
      rw [step, e] at hm
    · exact .inl hm
    · simpa using hm
  | check E fs =>
    rw [(step_check_fields P s E fs).2.2, verdictState] at hm
    split at hm
    · exact .inl hm
    · refine (v2Check_inv P E (Q := VerifiedOn P E { s with faults := fs, heap.acquire := E.shm })
        (fun _ _ t _ ht => ht.trans P E (checkGscvd_verifiedOn P E _ _ t)) _
        (fun _ _ _ => .inl) o h ranges hm).imp id fun hc => ⟨E, fs, rfl, hc⟩
  | deviceReset => simp only [step, apRoDeviceReset] at hm; split at hm <;> exact .inl hm
  | fire => simp only [step] at hm; split at hm <;> exact .inl hm

/-- **What a verified GVD is.** Over every sequence of operations, each GVD the history records
as verified, with the offset it was read from, is recorded before the sequence, or one of the
sequence's verification runs read it at that offset from its AP flash, verified its whole
signature chain and hashed its ranges to its digest. -/
theorem verified_run (s : St) (ops : List Op) {o : ℕ} {h : GscVerificationData}
    {ranges : List UInt8} (hm : .verified o h ranges ∈ (run P s ops).history) :
    .verified o h ranges ∈ s.history ∨
      ∃ E fs, .check E fs ∈ ops ∧ ChainVerified P E o h ranges := by
  induction ops generalizing s with
  | nil => exact .inl hm
  | cons op ops ih =>
    rcases ih (step P s op) hm with hm | ⟨E, fs, hE, hc⟩
    · exact (verified_step P s op hm).imp id fun ⟨E, fs, e, hc⟩ =>
        ⟨E, fs, e ▸ List.mem_cons_self _ _, hc⟩
    · exact .inr ⟨E, fs, List.mem_cons_of_mem _ hE, hc⟩

/-! ### What a PASS rests on -/

/-- The V1 alternative: the page holds the factory record of a payload an earlier successful
seed wrote, and the AP flash over the payload's ranges, in order, hashes to its digest. -/
def FactoryPass (s : St) : Prop :=
  ∃ buf, .seeded buf ∈ s.history ∧ SeedShape buf ∧ s.page = seedImage P buf ∧
    P.sha256 (E.flash.rangeBytes (rangesOf (buf.drop 32) ((buf.length - 32) / 8))) = buf.take 32

/-- The V2 alternative: the AP flash holds at some offset a GVD header bound to this board,
followed by ranges over which the AP flash hashes to the header's digest, and the header and
ranges hash as those of a GVD the history records as verified, with a rollback counter past the
floor; `verified_run` says what such a record means. -/
def GvdPass (hist : List Event) : Prop :=
  ∃ (offset : ℕ) (h : GscVerificationData) (ranges : List UInt8), readMem E.flash.byte offset gvdSize = h.bytes ∧
    readMem E.flash.byte (u32 (offset + gvdSize)) (8 * h.rangeCount) = ranges ∧
    E.board.boardId.map BoardId.type = some h.gscBoardId ∧
    P.sha256 (E.flash.rangeBytes (rangesOf ranges h.rangeCount)) = h.rangesDigest.take 32 ∧
    ∃ (o₀ : ℕ) (h₀ : GscVerificationData) (ranges₀ : List UInt8), .verified o₀ h₀ ranges₀ ∈ hist ∧
      lowestAcceptableGvdRollback ≤ h₀.rollbackCounter ∧
      P.sha256 (h.bytes ++ ranges) = P.sha256 (h₀.bytes ++ ranges₀)

theorem gvdPass_of_read {hist : List Event} {fmapOffset offset : ℕ} {h : GscVerificationData}
    {ranges : List UInt8} (hh : readGscvdHeader E fmapOffset offset = some h)
    (hr : readRanges E offset h = some ranges)
    (hv : validateRangesSha P E (rangesOf ranges h.rangeCount) h.rangesDigest = .succeeded)
    {o₀ : ℕ} {h₀ : GscVerificationData} {ranges₀ : List UInt8} (hm : .verified o₀ h₀ ranges₀ ∈ hist)
    (hroll : lowestAcceptableGvdRollback ≤ h₀.rollbackCounter)
    (hsha : P.sha256 (h.bytes ++ ranges) = P.sha256 (h₀.bytes ++ ranges₀)) : GvdPass P E hist :=
  ⟨offset, h, ranges, (readGscvdHeader_some E hh).1, readRanges_some E hr,
    (readGscvdHeader_some E hh).2.1, (validateRangesSha_succeeded P E).mp hv, o₀, h₀, ranges₀, hm,
    hroll, hsha⟩

/-- A V1 success on an explained page checked the factory record of an earlier seed. -/
theorem factoryPass_of_v1Check {s : St} (hs : Explained P s)
    (h : v1Check P E s.page = .succeeded) : FactoryPass P E s := by
  unfold v1Check at h
  split at h
  · rename_i hv
    unfold Explained at hs
    generalize hp : s.page = p at hs hv h
    cases hs with
    | empty => exact absurd hv.2 (by decide)
    | seeded hm hsh =>
      rw [pageRanges_seedImage P hsh, pageDigest_seedImage P hsh,
        validateRangesSha_succeeded] at h
      exact ⟨_, hm, hsh, hp, by rw [h, List.take_take, min_self]⟩
    | verified => exact absurd hv.2 (by rw [pageType_gvdImage]; decide)
  · cases h

/-- A V2 success on an explained page found a GVD whose hash is that of a verified one. -/
theorem gvdPass_of_v2Check {s : St} (hs : Explained P s)
    (h : (v2Check P E s).1 = .succeeded) : GvdPass P E (v2Check P E s).2.history := by
  rcases v2Check_succeeded P E s h with ⟨d, hd, hc, e⟩ | ⟨fmapOffset, offset, t, -, hc⟩
  · obtain ⟨offset, h₀, ranges₀, hm, hroll, rfl⟩ := PageExplained.findV2Entry P hs hd
    obtain ⟨h, ranges, hh, hr, hcache, hv⟩ := validateCachedApRoV2_succeeded P E hc
    rw [e]
    refine gvdPass_of_read P E hh hr hv hm hroll ?_
    rw [gvdCacheCheck, decide_eq_true_iff] at hcache
    rw [hcache, gvdDescriptorOf, List.take_of_length_le (by rw [P.length_sha256])]
  · have hc' := hc
    obtain ⟨h, ranges, m, hh, hr, -, hv, e⟩ := checkGscvd_succeeded P E (by rw [hc])
    rw [e] at hc'
    have hsv := commitGscvd_succeeded P (by rw [hc'])
    rw [← congrArg Prod.snd hc']
    have hb := commitGscvd_below P offset h ranges
      ({ t with heap := m }.record (.verified offset h ranges))
    exact gvdPass_of_read P E hh hr hv
      (hb.history.subset (List.mem_append_right _ (List.mem_singleton_self _)))
      (saveGvdHash_fst P _ _ _ _ hsv.2.1).1 rfl

/-- **PASS is sound, while the page's erases and writes succeed.** From an erased page, after
any operations whose page erases and writes all succeed, a run returns `EC_SUCCESS` only if the
AP flash matched the factory record of an earlier successful seed, or holds a GVD bound to this
board, hashing over its ranges to its digest, whose header and ranges hash as those of a GVD
the history shows verified in this run or an earlier one. -/
theorem pass_sound (P : Platform) (info : ℕ) (ops : List Op) (E : Env) (fs : Faults)
    (hops : ∀ op ∈ ops, op.PageOk)
    (hpass : (doApRoCheck P E
      { run P (initial info) ops with faults := fs, heap.acquire := E.shm }).1 = .success) :
    FactoryPass P E (run P (initial info) ops) ∨
      GvdPass P E (run P (initial info) (ops ++ [.check E fs])).history := by
  have hs := explained_run P ops hops (initial info) .empty
  rw [run_concat, step_check]
  rcases doApRoCheck_success P E hpass with ⟨h, -⟩ | ⟨h, e⟩
  · exact .inl (factoryPass_of_v1Check P E hs h)
  · rw [e, (enforce_fields _ _).2.2]
    exact .inr (gvdPass_of_v2Check P E hs h)

end

set_option maxRecDepth 100000 in
/-- A run on the signed image verifies its GVD and caches it; the next run passes through the
cached descriptor, on the GVD the earlier run verified. -/
theorem pass_sound_signedImage :
    (∀ op ∈ [Op.check (signedEnv true 1 1144 1144) {}], op.PageOk) ∧
    (doApRoCheck toy (signedEnv true 1 1144 1144)
      { run toy (initial 0xFFFFFFFF) [.check (signedEnv true 1 1144 1144) {}] with
        faults := {}, heap.acquire := [] }).1 = .success ∧
    (FactoryPass toy (signedEnv true 1 1144 1144)
        (run toy (initial 0xFFFFFFFF) [.check (signedEnv true 1 1144 1144) {}]) ∨
      GvdPass toy (signedEnv true 1 1144 1144)
        (run toy (initial 0xFFFFFFFF) ([.check (signedEnv true 1 1144 1144) {}] ++
          [.check (signedEnv true 1 1144 1144) {}])).history) := by
  have hops : ∀ op ∈ [Op.check (signedEnv true 1 1144 1144) {}], op.PageOk := by
    simp [Op.PageOk, Faults.PageOk]
  have h : (doApRoCheck toy (signedEnv true 1 1144 1144)
      { run toy (initial 0xFFFFFFFF) [.check (signedEnv true 1 1144 1144) {}] with
        faults := {}, heap.acquire := [] }).1 = .success := by
    decide
  exact ⟨hops, h, pass_sound toy _ _ _ {} hops h⟩

/-! ### A torn seed -/

/-- A platform whose SHA-256 returns the same 32 bytes for every message. -/
def stuck : Platform :=
  ⟨fun _ => List.replicate 32 0, by simp, fun _ _ _ => true, List.replicate 32 0, by simp, 2048⟩

/-- A factory payload: `stuck`'s digest and one 8-byte range at 0. -/
def stuckPayload : List UInt8 := List.replicate 32 0 ++ toLE 4 0 ++ toLE 4 8

theorem history_of_seed_check :
    (run stuck (initial 0) [.seed signedBoard stuckPayload { write := [none, some 32] },
      .check erasedEnv {}]).history = [] := by
  rw [run_cons, run_cons, run_nil, (step_check_fields stuck _ erasedEnv {}).2.2]
  exact List.eq_nil_of_length_eq_zero (by decide)

set_option maxRecDepth 100000 in
/-- A seed whose payload write fails after the digest leaves a torn record, its range erased.
Under `stuck`, the torn record passes `verify_ap_ro_check_space` and the V1 check: the next run
returns `EC_SUCCESS`, with no successful seed and no verified GVD in the history. -/
theorem torn_seed_pass :
    (doApRoCheck stuck erasedEnv
      { run stuck (initial 0) [.seed signedBoard stuckPayload { write := [none, some 32] }] with
        faults := {}, heap.acquire := [] }).1 = .success ∧
    ¬FactoryPass stuck erasedEnv
      (run stuck (initial 0) [.seed signedBoard stuckPayload { write := [none, some 32] }]) ∧
    ¬GvdPass stuck erasedEnv
      (run stuck (initial 0) ([.seed signedBoard stuckPayload { write := [none, some 32] }] ++
        [.check erasedEnv {}])).history := by
  refine ⟨by decide, fun ⟨buf, hm, _⟩ => ?_, fun ⟨_, _, _, _, _, _, _, _, _, _, hm, _⟩ => ?_⟩
  · have : (run stuck (initial 0)
        [.seed signedBoard stuckPayload { write := [none, some 32] }]).history = [] :=
      List.eq_nil_of_length_eq_zero (by decide)
    rw [this] at hm; cases hm
  · rw [List.singleton_append, history_of_seed_check] at hm; cases hm

end ApRoIntegrity
