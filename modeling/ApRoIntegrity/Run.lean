import ApRoIntegrity.Enforcement

/-!
# What a verification run changes

The facts about `do_ap_ro_check` that the results over whole runs rest on, each proved once
against the definitions of `Gscvd`, `Scan` and `Enforcement`; later modules cite them and do
not unfold the run again.

* Each controller primitive is one record update (`St.checkIsRequired_snd` and the like).
* `vcSeedApRoCheck_cases` says everything the seeding command can do: its return code and the
  state it leaves.
* `checkGscvd_cases` says everything `check_gscvd` can do: stop before the signature chain with
  the state as it was, fail having used the heap only, or record the verified chain and commit.
* `scanFrom_inv` packages the induction over the scan loop: a property of the state that every
  `check_gscvd` call keeps holds after the whole scan, and `v2Check_inv` lifts it to the V2
  part of `do_ap_ro_check`.
* `St.Below`: below the verdict, a run leaves `apro_result` and the reset hold alone, keeps the
  INFO word at zero once it is, and only extends the history (`v2Check_below`).
* `scanFrom_succeeded`: a successful scan ends in a successful `check_gscvd` on the RO_GSCVD area
  of a valid FMAP header, `FmapNames`.
* `doApRoCheck_verdict`: the three ways a run ends, with the verdict and the reset hold each
  leaves.
-/

namespace ApRoIntegrity

/-! ### The controller's primitives -/

namespace St

variable (s : St)

theorem checkIsRequired_snd :
    s.checkIsRequired.2 = { s with faults := { s.faults with infoRead := s.faults.infoRead.tail } } :=
  rfl

theorem requireFutureChecks_snd :
    s.requireFutureChecks.2 =
      { s with info := (s.faults.infoWrite.headD none).elim 0 fun k => s.info / 256 ^ k * 256 ^ k,
               faults := { s.faults with infoWrite := s.faults.infoWrite.tail } } := by
  unfold requireFutureChecks
  cases s.faults.infoWrite.headD none <;> rfl

theorem apRoEraseHash_snd :
    s.apRoEraseHash.2 =
      { s with page := if s.faults.erase.headD true then erased else s.page,
               faults := { s.faults with erase := s.faults.erase.tail } } := by
  unfold apRoEraseHash
  cases s.faults.erase.headD true <;> rfl

theorem pageWrite_snd (off : ℕ) (data : List UInt8) :
    (s.pageWrite off data).2 =
      { s with page := program s.page off ((s.faults.write.headD none).elim data data.take),
               faults := { s.faults with write := s.faults.write.tail } } := by
  unfold pageWrite
  cases s.faults.write.headD none <;> rfl

/-- A write reports success exactly when its fault stream has no failure next. -/
theorem pageWrite_fst (off : ℕ) (data : List UInt8) :
    (s.pageWrite off data).1 = (s.faults.write.headD none).isNone := by
  unfold pageWrite
  cases s.faults.write.headD none <;> rfl

/-- `t` is reached from `s` by the calls below `do_ap_ro_check`'s verdict: they leave
`apro_result` and the reset hold alone, keep the INFO word at zero once it is, and only extend
the history. -/
structure Below (s t : St) : Prop where
  aproResult : t.aproResult = s.aproResult
  holdArmed : t.holdArmed = s.holdArmed
  info : s.info = 0 → t.info = 0
  history : s.history <+: t.history

namespace Below

theorem refl : Below s s := ⟨rfl, rfl, id, List.prefix_refl _⟩

theorem trans {s t u : St} (h₁ : Below s t) (h₂ : Below t u) : Below s u :=
  ⟨h₂.aproResult.trans h₁.aproResult, h₂.holdArmed.trans h₁.holdArmed, h₂.info ∘ h₁.info,
    h₁.history.trans h₂.history⟩

theorem heap (m : Heap) : Below s { s with heap := m } := ⟨rfl, rfl, id, List.prefix_refl _⟩

theorem record (e : Event) : Below s (s.record e) :=
  ⟨rfl, rfl, id, List.prefix_append _ _⟩

theorem checkIsRequired : Below s s.checkIsRequired.2 := ⟨rfl, rfl, id, List.prefix_refl _⟩

theorem requireFutureChecks : Below s s.requireFutureChecks.2 := by
  rw [requireFutureChecks_snd]
  refine ⟨rfl, rfl, fun h => ?_, List.prefix_refl _⟩
  cases s.faults.infoWrite.headD none <;> simp [h]

theorem apRoEraseHash : Below s s.apRoEraseHash.2 := by
  rw [apRoEraseHash_snd]; exact ⟨rfl, rfl, id, List.prefix_refl _⟩

theorem pageWrite (off : ℕ) (data : List UInt8) : Below s (s.pageWrite off data).2 := by
  rw [pageWrite_snd]; exact ⟨rfl, rfl, id, List.prefix_refl _⟩

end Below

end St

section

variable (P : Platform) (E : Env)

/-! ### Reading the GVD -/

/-- A header `read_gscvd_header` accepts is the AP flash's bytes at its offset, bound to this
board and to the FMAP at `fmapOffset`. -/
theorem readGscvdHeader_some {fmapOffset offset : ℕ} {h : GscVerificationData}
    (hh : readGscvdHeader E fmapOffset offset = some h) :
    readMem E.flash.byte offset gvdSize = h.bytes ∧
      E.board.boardId.map BoardId.type = some h.gscBoardId ∧ h.fmapLocation = fmapOffset := by
  unfold readGscvdHeader at hh
  split at hh
  · cases hh
  rename_i bs hb
  dsimp only at hh
  split_ifs at hh with h₁ h₂
  cases hh
  simp only [not_or, not_not] at h₁
  exact ⟨(readApSpi_eq_some.mp hb).2.2.symm, h₂, h₁.2.2⟩

/-- The ranges `read_ranges` returns are the AP flash's bytes after the header. -/
theorem readRanges_some {offset : ℕ} {h : GscVerificationData} {ranges : List UInt8}
    (hr : readRanges E offset h = some ranges) :
    readMem E.flash.byte (u32 (offset + gvdSize)) (8 * h.rangeCount) = ranges := by
  unfold readRanges at hr
  split at hr
  · cases hr
  · exact (readApSpi_eq_some.mp hr).2.2.symm

theorem validateRangesSha_succeeded {ranges : List RoRange} {digest : List UInt8} :
    validateRangesSha P E ranges digest = .succeeded ↔
      P.sha256 (E.flash.rangeBytes ranges) = digest.take 32 := by
  unfold validateRangesSha
  split <;> simp [*]

/-! ### Seeding -/

/-- **Everything `vc_seed_ap_ro_check` can do**: nothing, erase the page on an empty payload, or,
on a well-formed payload and a page erased where the record goes, write the header, then the
payload, and record the seed when both writes succeed. -/
theorem vcSeedApRoCheck_cases (brd : Board) (buf : List UInt8) (s : St) :
    ((vcSeedApRoCheck P brd buf s).1.1 ≠ .success ∧ (vcSeedApRoCheck P brd buf s).2 = s) ∨
    (buf = [] ∧ (vcSeedApRoCheck P brd buf s).2 = s.apRoEraseHash.2) ∨
    (brd.boardId.map BoardId.typeIsBlank = some true ∧
      40 ≤ buf.length ∧ (buf.length - 32) % 8 = 0 ∧ (buf.length - 32) / 8 ≤ 32 ∧
      seedRangeError (rangesOf (buf.drop 32) ((buf.length - 32) / 8)) = none ∧
      (readMem s.page 0 ((8 + buf.length) / 4 * 4)).all (· == 0xFF) = true ∧
      let header := s.pageWrite 0 (seedHeader P buf ((buf.length - 32) / 8))
      let payload := header.2.pageWrite apRoCheckHeaderSize buf
      ((header.1 = false ∧ (vcSeedApRoCheck P brd buf s).1.1 ≠ .success ∧
          (vcSeedApRoCheck P brd buf s).2 = header.2) ∨
        (header.1 = true ∧ payload.1 = false ∧ (vcSeedApRoCheck P brd buf s).1.1 ≠ .success ∧
          (vcSeedApRoCheck P brd buf s).2 = payload.2) ∨
        (header.1 = true ∧ payload.1 = true ∧ (vcSeedApRoCheck P brd buf s).1.1 = .success ∧
          (vcSeedApRoCheck P brd buf s).2 = payload.2.record (.seeded buf)))) := by
  unfold vcSeedApRoCheck
  dsimp only
  by_cases hb : brd.boardId.map BoardId.typeIsBlank ≠ some true
  · exact .inl (by rw [if_pos hb]; exact ⟨nofun, rfl⟩)
  rw [if_neg hb]
  by_cases h0 : buf.length = 0
  · exact .inr (.inl ⟨List.length_eq_zero.mp h0, by rw [if_pos h0]⟩)
  rw [if_neg h0]
  by_cases h1 : buf.length < 32 + 8
  · exact .inl (by rw [if_pos h1]; exact ⟨nofun, rfl⟩)
  rw [if_neg h1]
  by_cases h2 : (buf.length - 32) % 8 ≠ 0
  · exact .inl (by rw [if_pos h2]; exact ⟨nofun, rfl⟩)
  rw [if_neg h2]
  by_cases h3 : aproMaxNumRanges < (buf.length - 32) / 8
  · exact .inl (by rw [if_pos h3]; exact ⟨nofun, rfl⟩)
  rw [if_neg h3]
  cases seedRangeError (rangesOf (buf.drop 32) ((buf.length - 32) / 8)) with
  | some e => exact .inl ⟨nofun, rfl⟩
  | none =>
    dsimp only
    by_cases hf : (readMem s.page 0 ((apRoCheckHeaderSize + buf.length) / 4 * 4)).all
        (· == 0xFF) = false
    · exact .inl (by rw [if_pos hf]; exact ⟨nofun, rfl⟩)
    rw [if_neg hf]
    refine .inr (.inr ⟨not_not.mp hb, by omega, by omega, Nat.not_lt.mp h3, rfl,
      Bool.of_not_eq_false hf, ?_⟩)
    by_cases hh : (s.pageWrite 0 (seedHeader P buf ((buf.length - 32) / 8))).1 = true
    · rw [if_pos hh]
      by_cases hp : ((s.pageWrite 0 (seedHeader P buf ((buf.length - 32) / 8))).2.pageWrite
          apRoCheckHeaderSize buf).1 = true
      · rw [if_pos hp]; exact .inr (.inr ⟨hh, hp, rfl, rfl⟩)
      · rw [if_neg hp]; exact .inr (.inl ⟨hh, Bool.of_not_eq_true hp, nofun, rfl⟩)
    · rw [if_neg hh]; exact .inl ⟨Bool.of_not_eq_true hh, nofun, rfl⟩

theorem vcSeedApRoCheck_below (brd : Board) (buf : List UInt8) (s : St) :
    s.Below (vcSeedApRoCheck P brd buf s).2 := by
  rcases vcSeedApRoCheck_cases P brd buf s with ⟨-, e⟩ | ⟨-, e⟩ |
    ⟨-, -, -, -, -, -, ⟨-, -, e⟩ | ⟨-, -, -, e⟩ | ⟨-, -, -, e⟩⟩ <;> rw [e]
  · exact .refl s
  · exact .apRoEraseHash s
  · exact .pageWrite s _ _
  · exact (St.Below.pageWrite s _ _).trans (.pageWrite _ _ _)
  · exact ((St.Below.pageWrite s _ _).trans (.pageWrite _ _ _)).trans (.record _ _)

/-! ### `save_gvd_hash` and the commit -/

theorem saveGvdHash_snd (offset : ℕ) (h : GscVerificationData) (ranges : List UInt8) (s : St) :
    (saveGvdHash P offset h ranges s).2 =
      if h.rollbackCounter < lowestAcceptableGvdRollback then s
      else ((if pageNumRanges s.page ≠ 0xFFFF then s.apRoEraseHash.2 else s).pageWrite 0
        (gvdRecord P (gvdDescriptorOf P offset h ranges))).2 := by
  unfold saveGvdHash; split <;> rfl

/-- `save_gvd_hash` returns zero only past the rollback floor and when its write succeeds. -/
theorem saveGvdHash_fst (offset : ℕ) (h : GscVerificationData) (ranges : List UInt8) (s : St)
    (hs : (saveGvdHash P offset h ranges s).1 = true) :
    lowestAcceptableGvdRollback ≤ h.rollbackCounter ∧
      ((if pageNumRanges s.page ≠ 0xFFFF then s.apRoEraseHash.2 else s).pageWrite 0
        (gvdRecord P (gvdDescriptorOf P offset h ranges))).1 = true := by
  unfold saveGvdHash at hs
  split at hs
  · cases hs
  · exact ⟨Nat.not_lt.mp ‹_›, hs⟩

theorem saveGvdHash_below (offset : ℕ) (h : GscVerificationData) (ranges : List UInt8) (s : St) :
    s.Below (saveGvdHash P offset h ranges s).2 := by
  rw [saveGvdHash_snd]
  split
  · exact .refl s
  · refine St.Below.trans ?_ (St.Below.pageWrite _ _ _)
    split
    · exact .apRoEraseHash s
    · exact .refl s

/-- The state `commitGscvd` hands to `save_gvd_hash`: the INFO word read and, unless checks were
already required, written. -/
def commitInfo (s : St) : Bool × St :=
  if s.checkIsRequired.1 then (true, s.checkIsRequired.2) else s.checkIsRequired.2.requireFutureChecks

theorem commitInfo_below (s : St) : s.Below (commitInfo s).2 := by
  unfold commitInfo
  split
  · exact .checkIsRequired s
  · exact (St.Below.checkIsRequired s).trans (.requireFutureChecks _)

/-- Everything the commit can do: stop after the INFO word, or go on to `save_gvd_hash`, and
succeed exactly when that does. -/
theorem commitGscvd_cases (offset : ℕ) (h : GscVerificationData) (ranges : List UInt8) (s : St) :
    ((commitInfo s).1 = false ∧ commitGscvd P offset h ranges s = (.failed, (commitInfo s).2)) ∨
      ((commitInfo s).1 = true ∧
        commitGscvd P offset h ranges s =
          (if (saveGvdHash P offset h ranges (commitInfo s).2).1 then .succeeded else .failed,
            (saveGvdHash P offset h ranges (commitInfo s).2).2)) := by
  have e : commitGscvd P offset h ranges s =
      if (commitInfo s).1 then
        (if (saveGvdHash P offset h ranges (commitInfo s).2).1 then .succeeded else .failed,
          (saveGvdHash P offset h ranges (commitInfo s).2).2)
      else (.failed, (commitInfo s).2) := rfl
  rw [e]
  by_cases hw : (commitInfo s).1 = true
  · exact .inr ⟨hw, by simp [hw]⟩
  · exact .inl ⟨by simpa using hw, by simp [hw]⟩

theorem commitGscvd_below (offset : ℕ) (h : GscVerificationData) (ranges : List UInt8) (s : St) :
    s.Below (commitGscvd P offset h ranges s).2 := by
  rcases commitGscvd_cases P offset h ranges s with ⟨-, e⟩ | ⟨-, e⟩ <;> rw [e]
  · exact commitInfo_below s
  · exact (commitInfo_below s).trans (saveGvdHash_below P _ _ _ _)

/-- A successful commit went through `save_gvd_hash`'s write. -/
theorem commitGscvd_succeeded {offset : ℕ} {h : GscVerificationData} {ranges : List UInt8}
    {s : St} (hs : (commitGscvd P offset h ranges s).1 = .succeeded) :
    (commitInfo s).1 = true ∧ (saveGvdHash P offset h ranges (commitInfo s).2).1 = true ∧
      (commitGscvd P offset h ranges s).2 = (saveGvdHash P offset h ranges (commitInfo s).2).2 := by
  rcases commitGscvd_cases P offset h ranges s with ⟨-, e⟩ | ⟨hw, e⟩ <;> rw [e] at hs ⊢
  · cases hs
  · split at hs
    · exact ⟨hw, ‹_›, rfl⟩
    · cases hs

/-! ### `check_gscvd` -/

/-- **Everything `check_gscvd` can do**: stop before the signature chain with the state as it
was, fail having changed the heap only, or, once the chain holds and the ranges hash to the
GVD's digest, record the verification and commit. -/
theorem checkGscvd_cases (fmapOffset offset : ℕ) (s : St) :
    (∃ rv, checkGscvd P E fmapOffset offset s = (rv, s) ∧ rv ≠ .succeeded) ∨
    (∃ rv m, checkGscvd P E fmapOffset offset s = (rv, { s with heap := m }) ∧
      rv ≠ .succeeded) ∨
    (∃ h ranges m, readGscvdHeader E fmapOffset offset = some h ∧
      readRanges E offset h = some ranges ∧
      (verifyChain P E offset h ranges s.heap).1 = true ∧
      validateRangesSha P E (rangesOf ranges h.rangeCount) h.rangesDigest = .succeeded ∧
      checkGscvd P E fmapOffset offset s =
        commitGscvd P offset h ranges ({ s with heap := m }.record (.verified offset h ranges))) := by
  unfold checkGscvd
  split
  · exact .inl ⟨_, rfl, by decide⟩
  rename_i h hh
  split
  · exact .inl ⟨_, rfl, by decide⟩
  rename_i ranges hr
  split
  · exact .inr (.inl ⟨_, _, rfl, by decide⟩)
  rename_i m hm
  split
  · exact .inr (.inr ⟨h, ranges, _, hh, hr, by rw [hm], ‹_›, rfl⟩)
  · exact .inr (.inl ⟨_, _, rfl, ‹_›⟩)

theorem checkGscvd_below (fmapOffset offset : ℕ) (s : St) :
    s.Below (checkGscvd P E fmapOffset offset s).2 := by
  rcases checkGscvd_cases P E fmapOffset offset s with ⟨rv, e, -⟩ | ⟨rv, m, e, -⟩ |
    ⟨h, ranges, m, -, -, -, -, e⟩ <;> rw [e]
  · exact .refl s
  · exact .heap s m
  · exact ((St.Below.heap s m).trans (.record _ _)).trans (commitGscvd_below P _ _ _ _)

/-- A successful `check_gscvd` read a GVD bound to the FMAP at `fmapOffset` and to this board,
verified the chain and the ranges, recorded the verification, and committed. -/
theorem checkGscvd_succeeded {fmapOffset offset : ℕ} {s : St}
    (hs : (checkGscvd P E fmapOffset offset s).1 = .succeeded) :
    ∃ h ranges m, readGscvdHeader E fmapOffset offset = some h ∧
      readRanges E offset h = some ranges ∧
      (verifyChain P E offset h ranges s.heap).1 = true ∧
      validateRangesSha P E (rangesOf ranges h.rangeCount) h.rangesDigest = .succeeded ∧
      checkGscvd P E fmapOffset offset s =
        commitGscvd P offset h ranges ({ s with heap := m }.record (.verified offset h ranges)) := by
  rcases checkGscvd_cases P E fmapOffset offset s with ⟨rv, e, hrv⟩ | ⟨rv, m, e, hrv⟩ | h
  · rw [e] at hs; exact absurd hs hrv
  · rw [e] at hs; exact absurd hs hrv
  · exact h

/-! ### The signature chain -/

/-- The root key buffer `read_rootk` hands over holds a key whose SHA-256 is the pinned
`root_key_hash[]`. -/
theorem readRootk_some {offset : ℕ} {h : GscVerificationData} {m : Heap} {rk : List UInt8}
    (e : (readRootk P E offset h m).1 = some rk) :
    ∃ body, P.sha256 body = P.rootKeyHash ∧ rk = rootkBuffer h body := by
  unfold readRootk at e
  dsimp only at e
  split at e
  · cases e
  split at e
  · cases e
  split_ifs at e with hk <;> cases e <;> exact ⟨_, not_not.mp hk, rfl⟩

/-- What holds once the signature chain of `check_gscvd` holds: `read_keyblock` returned a
keyblock, `read_rootk` the buffer of a root key whose SHA-256 is `root_key_hash[]`,
`unpack_pubk` the root key's modulus, `verify_keyblock` accepted the keyblock's signature under
it, and `verify_gvd_signature` the GVD's signature under the keyblock's data key. -/
def ChainHolds (offset : ℕ) (h : GscVerificationData) (ranges : List UInt8) (m : Heap) : Prop :=
  ∃ kb m₁ body m₂ mo m₃ m₄, readKeyblock E (u32 (offset + h.size)) m = (some kb, m₁) ∧
    readRootk P E offset h m₁ = (some (rootkBuffer h body), m₂) ∧
    P.sha256 body = P.rootKeyHash ∧
    unpackPubk E .rootKey (u32 (32 + h.rootKeyHeader.keySize)) (rootkBuffer h body) 0 m₂ =
      (some mo, m₃) ∧
    verifyKeyblock P E kb (rootkBuffer h body) (u32 (32 + h.rootKeyHeader.keySize)) mo m₃ =
      (true, m₄) ∧
    (verifyGvdSignature P E offset h ranges kb (m₄.shmRelease .rootKey)).1 = true

theorem chainHolds_of_verifyChain {offset : ℕ} {h : GscVerificationData} {ranges : List UInt8}
    {m : Heap} (hc : (verifyChain P E offset h ranges m).1 = true) :
    ChainHolds P E offset h ranges m := by
  unfold verifyChain at hc
  split at hc
  · cases hc
  rename_i kb m₁ e₁
  split at hc
  · cases hc
  rename_i rk m₂ e₂
  obtain ⟨body, hbody, rfl⟩ := readRootk_some P E (congrArg Prod.fst e₂)
  dsimp only at hc
  split at hc
  · cases hc
  rename_i mo m₃ e₃
  split at hc
  · cases hc
  rename_i m₄ e₄
  exact ⟨kb, m₁, body, m₂, mo, m₃, m₄, e₁, e₂, hbody, e₃, e₄, hc⟩

/-! ### The scan -/

/-- What the full scan has checked of the FMAP at `fmapOffset` when it verifies the RO_GSCVD area
at `gscvdOffset`: the signature `__FMAP__`, the rest of the header with version 1.1 and a size
of at most `MAX_SUPPORTED_FLASH_SIZE`, and, among its `fmap_nareas` area headers (at most 64),
a first area named RO_GSCVD that starts at `gscvdOffset`. -/
def FmapNames (fmapOffset gscvdOffset : ℕ) : Prop :=
  ∃ sig rest area, readApSpi E.flash fmapOffset 8 = some sig ∧ sig = fmapSignature ∧
    readApSpi E.flash (fmapOffset + 8) (fmapHeaderSize - 8) = some rest ∧
    (FmapHeader.mk (sig ++ rest)).fmapVerMajor = 1 ∧
    (FmapHeader.mk (sig ++ rest)).fmapVerMinor = 1 ∧
    (FmapHeader.mk (sig ++ rest)).fmapSize ≤ maxSupportedFlashSize ∧
    findGscvd E (fmapOffset + fmapHeaderSize) (FmapHeader.mk (sig ++ rest)).fmapNareas = some area ∧
    area.areaOffset = gscvdOffset

/-- **The scan loop's induction, once**: a property of the state that every `check_gscvd` call
on a 32-bit area offset keeps holds after any number of probes. -/
theorem scanFrom_inv {Q : St → Prop}
    (hQ : ∀ fmapOffset offset t, offset < 2 ^ 32 → Q t → Q (checkGscvd P E fmapOffset offset t).2)
    (k offset : ℕ) (found : Bool) (s : St) (hs : Q s) : Q (scanFrom P E k offset found s).2 := by
  induction k, offset, found, s using scanFrom.induct P E with
  | case1 => exact hs
  | case2 k offset found s hr => simpa only [scanFrom, hr] using hs
  | case3 k offset found s sig hr hne ih => simpa only [scanFrom, hr, if_pos hne] using ih hs
  | case4 k offset found s sig hr hne hr' => simpa only [scanFrom, hr, if_neg hne, hr'] using hs
  | case5 k offset found s sig hr hne rest hr' fmh hv ih =>
    simpa only [scanFrom, hr, if_neg hne, hr', if_pos hv] using ih hs
  | case6 k offset found s sig hr hne rest hr' fmh hv hf ih =>
    simpa only [scanFrom, hr, if_neg hne, hr', if_neg hv, hf] using ih hs
  | case7 k offset found s sig hr hne rest hr' fmh hv area hf t hc =>
    have := hQ offset area.areaOffset s area.areaOffset_lt hs
    simp only [scanFrom, hr, if_neg hne, hr', if_neg hv, hf, hc] at this ⊢
    exact this
  | case8 k offset found s sig hr hne rest hr' fmh hv area hf rv t hrv hc ih =>
    have := hQ offset area.areaOffset s area.areaOffset_lt hs
    rw [hc] at this
    simpa only [scanFrom, hr, if_neg hne, hr', if_neg hv, hf, hc] using ih this

/-- **A successful scan** ends in a successful `check_gscvd` on an area the FMAP names. -/
theorem scanFrom_succeeded (k offset : ℕ) (found : Bool) (s : St)
    (h : (scanFrom P E k offset found s).1 = .succeeded) :
    ∃ fmapOffset gscvdOffset t, FmapNames E fmapOffset gscvdOffset ∧
      checkGscvd P E fmapOffset gscvdOffset t = (.succeeded, (scanFrom P E k offset found s).2) := by
  induction k, offset, found, s using scanFrom.induct P E with
  | case1 k found s => simp only [scanFrom] at h; split at h <;> cases h
  | case2 k offset found s hr => simp only [scanFrom, hr] at h; cases h
  | case3 k offset found s sig hr hne ih =>
    simpa only [scanFrom, hr, if_pos hne] using ih (by simpa only [scanFrom, hr, if_pos hne] using h)
  | case4 k offset found s sig hr hne hr' =>
    simp only [scanFrom, hr, if_neg hne, hr'] at h; cases h
  | case5 k offset found s sig hr hne rest hr' fmh hv ih =>
    simp only [scanFrom, hr, if_neg hne, hr', if_pos hv] at h ⊢; exact ih h
  | case6 k offset found s sig hr hne rest hr' fmh hv hf ih =>
    simp only [scanFrom, hr, if_neg hne, hr', if_neg hv, hf] at h ⊢; exact ih h
  | case7 k offset found s sig hr hne rest hr' fmh hv area hf t hc =>
    obtain ⟨h₁, h₂, h₃⟩ : fmh.fmapVerMajor = 1 ∧ fmh.fmapVerMinor = 1 ∧
        fmh.fmapSize ≤ maxSupportedFlashSize := by
      simpa only [not_or, not_not, not_lt] using hv
    simp only [scanFrom, hr, if_neg hne, hr', if_neg hv, hf, hc]
    exact ⟨offset, area.areaOffset, s,
      ⟨sig, rest, area, hr, not_not.mp hne, hr', h₁, h₂, h₃, hf, rfl⟩, hc⟩
  | case8 k offset found s sig hr hne rest hr' fmh hv area hf rv t hrv hc ih =>
    simp only [scanFrom, hr, if_neg hne, hr', if_neg hv, hf, hc] at h ⊢; exact ih h

/-! ### The V2 part of `do_ap_ro_check` -/

theorem v2Check_inv {Q : St → Prop}
    (hQ : ∀ fmapOffset offset t, offset < 2 ^ 32 → Q t → Q (checkGscvd P E fmapOffset offset t).2)
    (s : St) (hs : Q s) : Q (v2Check P E s).2 := by
  unfold v2Check validateAndCacheApRoV2FromFlash
  split
  · split
    · exact hs
    · exact scanFrom_inv P E hQ _ _ _ _ hs
  · exact scanFrom_inv P E hQ _ _ _ _ hs

theorem v2Check_below (s : St) : s.Below (v2Check P E s).2 :=
  v2Check_inv P E (Q := s.Below) (fun _ _ t _ ht => ht.trans (checkGscvd_below P E _ _ t)) s
    (.refl s)

/-- A successful `validate_cached_ap_ro_v2` reread a GVD header and ranges at the cached offsets
whose hash is the cached digest, and hashed the ranges to the header's digest. -/
theorem validateCachedApRoV2_succeeded {d : GvdDescriptor}
    (hc : validateCachedApRoV2 P E d = .succeeded) :
    ∃ h ranges, readGscvdHeader E d.fmapOffset d.gvdOffset = some h ∧
      readRanges E d.gvdOffset h = some ranges ∧ gvdCacheCheck P h ranges d = true ∧
      validateRangesSha P E (rangesOf ranges h.rangeCount) h.rangesDigest = .succeeded := by
  unfold validateCachedApRoV2 at hc
  split at hc
  · cases hc
  rename_i h hh
  split at hc
  · cases hc
  rename_i ranges hr
  split at hc
  · exact ⟨h, ranges, hh, hr, ‹_›, hc⟩
  · cases hc

/-- A V2 success came from the cache, with the state as it was, or from the scan. -/
theorem v2Check_succeeded (s : St) (h : (v2Check P E s).1 = .succeeded) :
    (∃ d, findV2Entry P s.page = some d ∧ validateCachedApRoV2 P E d = .succeeded ∧
      (v2Check P E s).2 = s) ∨
    (∃ fmapOffset gscvdOffset t, FmapNames E fmapOffset gscvdOffset ∧
      checkGscvd P E fmapOffset gscvdOffset t = (.succeeded, (v2Check P E s).2)) := by
  unfold v2Check validateAndCacheApRoV2FromFlash at h ⊢
  cases hd : findV2Entry P s.page with
  | none =>
    simp only [hd] at h ⊢
    exact .inr (scanFrom_succeeded P E _ _ _ _ h)
  | some d =>
    simp only [hd] at h ⊢
    cases hc : validateCachedApRoV2 P E d <;> simp only [hc] at h ⊢
    · exact .inr (scanFrom_succeeded P E _ _ _ _ h)
    · exact .inr (scanFrom_succeeded P E _ _ _ _ h)
    · exact .inl ⟨d, rfl, hc, by simp⟩

/-! ### The verdict -/

/-- How a run can end: `EC_SUCCESS` with `AP_RO_PASS` and the hold released, `EC_ERROR_CRC`
with `AP_RO_FAIL` and the hold armed, or `EC_ERROR_UNIMPLEMENTED` with
`AP_RO_UNSUPPORTED_TRIGGERED` and the hold as it was, `hold`. -/
def Verdict (hold : Bool) (r : EcError × St) : Prop :=
  (r.1 = .success ∧ r.2.aproResult = .pass ∧ r.2.holdArmed = false) ∨
  (r.1 = .crc ∧ r.2.aproResult = .fail ∧ r.2.holdArmed = true) ∨
  (r.1 = .unimplemented ∧ r.2.aproResult = .unsupportedTriggered ∧ r.2.holdArmed = hold)

theorem enforce_verdict (rv : ApRoCheckResult) (t : St) : Verdict t.holdArmed (enforce rv t) := by
  unfold enforce Verdict
  rcases rv with _ | _ | _
  · by_cases h : t.checkIsRequired.1 <;> simp [h, keepEcInReset, St.checkIsRequired_snd]
  · simp [keepEcInReset]
  · simp [releaseEcResetOverride]

theorem enforce_success {rv : ApRoCheckResult} {t : St} (h : (enforce rv t).1 = .success) :
    rv = .succeeded := by
  unfold enforce at h
  rcases rv with _ | _ | _
  · dsimp only at h; split at h <;> cases h
  · cases h
  · rfl

/-- Once the INFO word is zero, a run that reaches the verdict cannot end unsupported. -/
theorem enforce_of_info_zero (rv : ApRoCheckResult) {t : St} (h : t.info = 0) :
    (enforce rv t).2.aproResult = .pass ∨ (enforce rv t).2.aproResult = .fail := by
  unfold enforce
  rcases rv with _ | _ | _ <;> simp [St.checkIsRequired, h, keepEcInReset, releaseEcResetOverride]

theorem doApRoCheck_cases (s : St) :
    (¬(apRoCheckUnsupported P E.board s.page = .boardIdBlocked ∨
        apRoCheckUnsupported P E.board s.page = .flashReadFailed) →
      (v1Check P E s.page = .succeeded ∧ doApRoCheck P E s = enforce .succeeded s) ∨
      (∃ rv, doApRoCheck P E s = enforce rv (v2Check P E s).2 ∧
        (rv = .succeeded → (v2Check P E s).1 = .succeeded))) ∧
    (apRoCheckUnsupported P E.board s.page = .boardIdBlocked ∨
        apRoCheckUnsupported P E.board s.page = .flashReadFailed →
      doApRoCheck P E s = (.unimplemented, { s with aproResult := .unsupportedTriggered })) := by
  unfold doApRoCheck
  refine ⟨fun hs => ?_, fun hs => by simp only [if_pos hs]⟩
  simp only [if_neg hs]
  split
  · exact .inl ⟨‹_›, rfl⟩
  · refine .inr ?_
    rcases hv : v2Check P E s with ⟨_ | _ | _, t⟩
    · exact ⟨v1Check P E s.page, rfl, fun h => absurd h ‹_›⟩
    · exact ⟨.failed, rfl, by simp⟩
    · exact ⟨.succeeded, rfl, fun _ => rfl⟩

theorem enforce_fields (rv : ApRoCheckResult) (t : St) :
    (enforce rv t).2.page = t.page ∧ (enforce rv t).2.info = t.info ∧
      (enforce rv t).2.history = t.history := by
  unfold enforce
  rcases rv with _ | _ | _
  · dsimp only; split <;> exact ⟨rfl, rfl, rfl⟩
  · exact ⟨rfl, rfl, rfl⟩
  · exact ⟨rfl, rfl, rfl⟩

/-- The state whose page, INFO word and history a run leaves: the state before it when it
returns early or passes the V1 check, the state after its V2 part otherwise. -/
def verdictState (s : St) : St :=
  if (apRoCheckUnsupported P E.board s.page = .boardIdBlocked ∨
      apRoCheckUnsupported P E.board s.page = .flashReadFailed) ∨
      v1Check P E s.page = .succeeded then s
  else (v2Check P E s).2

theorem doApRoCheck_fields (s : St) :
    (doApRoCheck P E s).2.page = (verdictState P E s).page ∧
      (doApRoCheck P E s).2.info = (verdictState P E s).info ∧
      (doApRoCheck P E s).2.history = (verdictState P E s).history := by
  unfold verdictState doApRoCheck
  dsimp only
  by_cases hs : apRoCheckUnsupported P E.board s.page = .boardIdBlocked ∨
      apRoCheckUnsupported P E.board s.page = .flashReadFailed
  · rw [if_pos (Or.inl hs), if_pos hs]
    exact ⟨rfl, rfl, rfl⟩
  by_cases h₁ : v1Check P E s.page = .succeeded
  · rw [if_pos (Or.inr h₁), if_neg hs, if_pos h₁]
    exact enforce_fields _ _
  · rw [if_neg (not_or.mpr ⟨hs, h₁⟩), if_neg hs, if_neg h₁]
    generalize v2Check P E s = r
    obtain ⟨_ | _ | _, t⟩ := r <;> exact enforce_fields _ _

theorem v2Check_of_none {s : St} (hd : findV2Entry P s.page = none) :
    v2Check P E s = validateAndCacheApRoV2FromFlash P E s := by
  unfold v2Check; rw [hd]

/-- A run whose V1 and V2 parts both find nothing writes its verdict from
`check_is_required()`. -/
theorem doApRoCheck_of_notFound {s : St}
    (hs : ¬(apRoCheckUnsupported P E.board s.page = .boardIdBlocked ∨
      apRoCheckUnsupported P E.board s.page = .flashReadFailed))
    (h₁ : v1Check P E s.page = .notFound) (h₂ : v2Check P E s = (.notFound, s)) :
    doApRoCheck P E s = enforce .notFound s := by
  unfold doApRoCheck
  dsimp only
  rw [if_neg hs, h₁, if_neg (by decide), h₂]

/-- A run whose V1 check does not pass and whose V2 part finds something writes its verdict from
the V2 result. -/
theorem doApRoCheck_of_v2 {s t : St} {rv : ApRoCheckResult}
    (hs : ¬(apRoCheckUnsupported P E.board s.page = .boardIdBlocked ∨
      apRoCheckUnsupported P E.board s.page = .flashReadFailed))
    (h₁ : v1Check P E s.page ≠ .succeeded) (h₂ : v2Check P E s = (rv, t)) (hrv : rv ≠ .notFound) :
    doApRoCheck P E s = enforce rv t := by
  unfold doApRoCheck
  dsimp only
  rw [if_neg hs, if_neg h₁, h₂]
  rcases rv with _ | _ | _
  · exact absurd rfl hrv
  · rfl
  · rfl

/-- A run that returns early writes UNSUPPORTED_TRIGGERED. -/
theorem doApRoCheck_of_unsupported {s : St}
    (h : apRoCheckUnsupported P E.board s.page = .boardIdBlocked ∨
      apRoCheckUnsupported P E.board s.page = .flashReadFailed) :
    (doApRoCheck P E s).2.aproResult = .unsupportedTriggered := by
  rw [(doApRoCheck_cases P E s).2 h]

/-- **The three ways a run ends.** -/
theorem doApRoCheck_verdict (s : St) : Verdict s.holdArmed (doApRoCheck P E s) := by
  by_cases hs : apRoCheckUnsupported P E.board s.page = .boardIdBlocked ∨
      apRoCheckUnsupported P E.board s.page = .flashReadFailed
  · rw [(doApRoCheck_cases P E s).2 hs]
    exact .inr (.inr ⟨rfl, rfl, rfl⟩)
  · rcases (doApRoCheck_cases P E s).1 hs with ⟨-, e⟩ | ⟨rv, e, -⟩ <;> rw [e]
    · exact enforce_verdict _ _
    · rw [← (v2Check_below P E s).holdArmed]
      exact enforce_verdict _ _

/-- A run that returns `EC_SUCCESS` passed the V1 check, or the V2 part succeeded. -/
theorem doApRoCheck_success {s : St} (h : (doApRoCheck P E s).1 = .success) :
    (v1Check P E s.page = .succeeded ∧ (doApRoCheck P E s).2 = (enforce .succeeded s).2) ∨
    ((v2Check P E s).1 = .succeeded ∧
      (doApRoCheck P E s).2 = (enforce .succeeded (v2Check P E s).2).2) := by
  by_cases hs : apRoCheckUnsupported P E.board s.page = .boardIdBlocked ∨
      apRoCheckUnsupported P E.board s.page = .flashReadFailed
  · rw [(doApRoCheck_cases P E s).2 hs] at h; cases h
  rcases (doApRoCheck_cases P E s).1 hs with ⟨hv, e⟩ | ⟨rv, e, hrv⟩
  · exact .inl ⟨hv, by rw [e]⟩
  · rw [e] at h ⊢
    obtain rfl := enforce_success h
    exact .inr ⟨hrv rfl, rfl⟩

end

theorem step_check (P : Platform) (s : St) (E : Env) (fs : Faults) :
    step P s (.check E fs) = (doApRoCheck P E { s with faults := fs, heap.acquire := E.shm }).2 :=
  rfl

theorem run_cons (P : Platform) (s : St) (op : Op) (ops : List Op) :
    run P s (op :: ops) = run P (step P s op) ops := rfl

theorem step_check_fields (P : Platform) (s : St) (E : Env) (fs : Faults) :
    (step P s (.check E fs)).page =
        (verdictState P E { s with faults := fs, heap.acquire := E.shm }).page ∧
      (step P s (.check E fs)).info =
        (verdictState P E { s with faults := fs, heap.acquire := E.shm }).info ∧
      (step P s (.check E fs)).history =
        (verdictState P E { s with faults := fs, heap.acquire := E.shm }).history :=
  doApRoCheck_fields P E _

theorem step_check_of_unsupported (P : Platform) (s : St) (E : Env) (fs : Faults)
    (h : apRoCheckUnsupported P E.board s.page = .boardIdBlocked ∨
      apRoCheckUnsupported P E.board s.page = .flashReadFailed) :
    (step P s (.check E fs)).aproResult = .unsupportedTriggered :=
  doApRoCheck_of_unsupported P E h

end ApRoIntegrity
