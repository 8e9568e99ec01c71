import Mathlib.Algebra.BigOperators.Group.List
import ApRoIntegrity.Images

/-!
# Returning the scratch buffers

`check_gscvd` takes up to three buffers from `shared_mem_acquire`: the keyblock's in
`read_keyblock`, the root key's in `read_rootk`, and the GVD signature's in
`verify_gvd_signature`. The comments on `read_keyblock` and `read_rootk` say that the caller frees
the buffer even when the function fails. `check_gscvd` frees the keyblock only at its `exit`
label, which three of its early returns skip, and frees the root key only once `read_rootk` has
handed it over, which a failing `read_rootk` never does.

`Heap.held m b` is the number of allocations of buffer `b` in the log that are not yet released:
the outstanding allocations, counted per buffer.

## What is proved here

* One lemma per function of the signature chain on what it does to `Heap.held`, composed in
  `verifyChain_held`.
* `checkGscvd_held`: every call of `check_gscvd` returns with the buffers it was entered with,
  plus at most one keyblock or one root key buffer; the signature buffer is always returned, and
  a call whose chain verifies returns everything it took.
* `scanFrom_held_mono`: over the whole scan, no buffer is returned that was not taken, so a buffer
  leaked by one `check_gscvd` call is still held when the scan ends.
* `held_run_mono`: over every sequence of operations of the machine, the outstanding
  allocations only grow and the signature buffers stay balanced, so a leak is never recovered.
* `early_returns_leak`: on every image, the keyblock buffer is still held after `read_keyblock`
  fails once it is allocated and after `verify_gvd_signature` fails, and the root key buffer after
  `read_rootk` fails once it is allocated.
-/

namespace ApRoIntegrity

/-- What an event does to the outstanding allocations, per buffer. -/
def MemEvent.held : MemEvent → Buf → ℤ
  | .acquire b _ => Pi.single b 1
  | .access .. => 0
  | .release b => -Pi.single b 1

@[simp] theorem MemEvent.held_access (b : Buf) (n lo hi : ℕ) :
    (MemEvent.access b n lo hi).held = 0 := rfl

namespace Heap

/-- The allocations of each buffer in the log that are not yet released. -/
def held (m : Heap) : Buf → ℤ := (m.log.map MemEvent.held).sum

@[simp] theorem held_emit (m : Heap) (e : MemEvent) : (m.emit e).held = m.held + e.held := by
  simp only [held, emit, List.map_append, List.map_singleton, List.sum_append, List.sum_singleton]

@[simp] theorem held_shmRelease (m : Heap) (b : Buf) :
    (m.shmRelease b).held = m.held - Pi.single b 1 := by
  rw [shmRelease, held_emit, MemEvent.held, sub_eq_add_neg]

/-- An allocation that succeeds adds one buffer; one that fails adds nothing. -/
theorem held_shmAcquire (m : Heap) (b : Buf) (n : ℕ) :
    (m.shmAcquire b n).2.held = m.held + if m.acquire.headD true then Pi.single b 1 else 0 := by
  unfold shmAcquire
  cases m.acquire.headD true
  · exact (add_zero _).symm
  · exact held_emit _ _

end Heap

section

variable (P : Platform) (E : Env)

/-! ### The functions of the signature chain -/

theorem readKeyblockRest_held (offset : ℕ) (hdr : List UInt8) (restSize : ℕ) (m : Heap) :
    (readKeyblockRest E offset hdr restSize m).2.held = m.held := by
  unfold readKeyblockRest
  dsimp only
  split_ifs <;> split <;> (try split_ifs) <;> simp

/-- Once the keyblock header has the magic and its buffer is allocated, `read_keyblock` returns
holding that buffer, whether it succeeds or not. -/
theorem readKeyblock_held_of_acquired {offset : ℕ} {m : Heap} {hdr : List UInt8}
    (hk : readApSpi E.flash offset vb2KeyblockSize = some hdr)
    (hm : (Vb2Keyblock.mk hdr).magic = vb2KeyblockMagic) (ha : m.acquire.headD true = true) :
    (readKeyblock E offset m).2.held = m.held + Pi.single .keyblock 1 := by
  have hacq : m.shmAcquire .keyblock (Vb2Keyblock.mk hdr).keyblockSize =
      (true, (m.shmAcquire .keyblock (Vb2Keyblock.mk hdr).keyblockSize).2) := Prod.ext ha rfl
  rw [readKeyblock, hk]
  dsimp only
  rw [if_neg (not_not.mpr hm), hacq]
  dsimp only
  rw [readKeyblockRest_held, Heap.held_shmAcquire, if_pos ha]

/-- `read_keyblock` fails without allocating, or returns holding the keyblock buffer. -/
theorem readKeyblock_held (offset : ℕ) (m : Heap) :
    (readKeyblock E offset m).1 = none ∧ (readKeyblock E offset m).2.held = m.held ∨
      (readKeyblock E offset m).2.held = m.held + Pi.single .keyblock 1 := by
  rcases hk : readApSpi E.flash offset vb2KeyblockSize with _ | hdr
  · exact .inl (by simp only [readKeyblock, hk, and_self])
  by_cases hm : (Vb2Keyblock.mk hdr).magic = vb2KeyblockMagic
  · cases ha : m.acquire.headD true
    · refine .inl ?_
      simp only [readKeyblock, hk, hm, ne_eq, not_true_eq_false, if_false, Heap.shmAcquire, ha]
      exact ⟨trivial, rfl⟩
    · exact .inr (readKeyblock_held_of_acquired E hk hm ha)
  · exact .inl (by simp only [readKeyblock, hk, hm, ne_eq, not_false_eq_true, if_true, and_self])

/-- `read_rootk` returns holding the root key buffer whenever its allocation succeeds, whether
it succeeds or not. -/
theorem readRootk_held (offset : ℕ) (h : GscVerificationData) (m : Heap) :
    (readRootk P E offset h m).2.held =
      m.held + if m.acquire.headD true then Pi.single .rootKey 1 else 0 := by
  rw [← Heap.held_shmAcquire m .rootKey (u32 (32 + h.rootKeyHeader.keySize))]
  unfold readRootk
  dsimp only
  generalize m.shmAcquire .rootKey (u32 (32 + h.rootKeyHeader.keySize)) = r
  rcases r with ⟨_ | _, m'⟩
  · rfl
  · dsimp only
    split_ifs <;> split <;> (try split_ifs) <;> simp

theorem unpackPubk_held (b : Buf) (n : ℕ) (bs : List UInt8) (base : ℕ) (m : Heap) :
    (unpackPubk E b n bs base m).2.held = m.held := by
  unfold unpackPubk
  dsimp only
  split_ifs <;> simp

theorem verifyKeyblock_held (kb : Vb2Keyblock) (rk : List UInt8) (rkSize mo : ℕ) (m : Heap) :
    (verifyKeyblock P E kb rk rkSize mo m).2.held = m.held := by
  simp [verifyKeyblock]

/-- `verify_gvd_signature` returns the signature buffer it takes, on every path. -/
theorem verifyGvdSignature_held (offset : ℕ) (h : GscVerificationData) (ranges : List UInt8)
    (kb : Vb2Keyblock) (m : Heap) :
    (verifyGvdSignature P E offset h ranges kb m).2.held = m.held := by
  unfold verifyGvdSignature
  dsimp only
  have h₁ := unpackPubk_held E .keyblock kb.keyblockSize kb.bytes Vb2Keyblock.dataKeyOffset m
  rcases e : unpackPubk E .keyblock kb.keyblockSize kb.bytes Vb2Keyblock.dataKeyOffset m with
    ⟨_ | mo, m₁⟩ <;> rw [e] at h₁ <;> dsimp only at h₁ ⊢
  · exact h₁
  rw [← h₁]
  cases ha : m₁.acquire.headD true
  · have hacq : m₁.shmAcquire .sigBody h.sigHeader.sigSize =
        (false, (m₁.shmAcquire .sigBody h.sigHeader.sigSize).2) := Prod.ext ha rfl
    rw [hacq, Heap.held_shmAcquire, ha, if_neg Bool.false_ne_true, add_zero]
  · have hacq : m₁.shmAcquire .sigBody h.sigHeader.sigSize =
        (true, (m₁.shmAcquire .sigBody h.sigHeader.sigSize).2) := Prod.ext ha rfl
    rw [hacq]
    dsimp only
    split_ifs <;> split <;>
      simp only [Heap.held_shmRelease, Heap.held_emit, MemEvent.held_access, add_zero,
        Heap.held_shmAcquire, ha, if_true, add_sub_cancel_right]

/-- Without its allocation, `read_rootk` fails. -/
theorem readRootk_fst_of_not_acquired {offset : ℕ} {h : GscVerificationData} {m : Heap}
    (ha : m.acquire.headD true = false) : (readRootk P E offset h m).1 = none := by
  simp only [readRootk, Heap.shmAcquire, ha]

theorem readKeyblock_held_of_some {offset : ℕ} {m : Heap} {kb : Vb2Keyblock}
    (e : (readKeyblock E offset m).1 = some kb) :
    (readKeyblock E offset m).2.held = m.held + Pi.single .keyblock 1 :=
  (readKeyblock_held E offset m).resolve_left fun h => by rw [e] at h; cases h.1

theorem readRootk_held_of_some {offset : ℕ} {h : GscVerificationData} {m : Heap}
    {rk : List UInt8} (e : (readRootk P E offset h m).1 = some rk) :
    (readRootk P E offset h m).2.held = m.held + Pi.single .rootKey 1 := by
  cases ha : m.acquire.headD true
  · rw [readRootk_fst_of_not_acquired P E ha] at e; cases e
  · rw [readRootk_held, ha, if_pos rfl]

/-- What the signature chain returns holding: one keyblock buffer when the chain holds, and
otherwise nothing, one keyblock buffer or one root key buffer. -/
theorem verifyChain_held (offset : ℕ) (h : GscVerificationData) (ranges : List UInt8) (m : Heap) :
    ((verifyChain P E offset h ranges m).1 = true →
        (verifyChain P E offset h ranges m).2.held = m.held + Pi.single .keyblock 1) ∧
      ∃ l ∈ [0, Pi.single .keyblock 1, Pi.single .rootKey 1],
        (verifyChain P E offset h ranges m).2.held = m.held + l := by
  unfold verifyChain
  have h₁ := readKeyblock_held E (u32 (offset + h.size)) m
  rcases e₁ : readKeyblock E (u32 (offset + h.size)) m with ⟨_ | kb, m₁⟩ <;>
    rw [e₁] at h₁ <;> dsimp only at h₁ ⊢
  · refine ⟨nofun, ?_⟩
    rcases h₁ with ⟨-, h₁⟩ | h₁
    · exact ⟨0, by simp, by rw [h₁, add_zero]⟩
    · exact ⟨_, by simp, h₁⟩
  replace h₁ : m₁.held = m.held + Pi.single .keyblock 1 := by
    simpa only [e₁] using readKeyblock_held_of_some E (congrArg Prod.fst e₁)
  have h₂ := readRootk_held P E offset h m₁
  rcases e₂ : readRootk P E offset h m₁ with ⟨_ | rk, m₂⟩ <;> dsimp only
  · rw [e₂] at h₂
    refine ⟨nofun, ?_⟩
    rw [Heap.held_shmRelease, h₂, h₁]
    split
    · exact ⟨Pi.single .rootKey 1, by simp, by rw [add_right_comm, add_sub_cancel_right]⟩
    · exact ⟨0, by simp, by rw [add_zero, add_sub_cancel_right, add_zero]⟩
  replace h₂ : m₂.held = m₁.held + Pi.single .rootKey 1 := by
    simpa only [e₂] using readRootk_held_of_some P E (congrArg Prod.fst e₂)
  -- past `read_rootk`, a failure releases both buffers
  have hboth : ∀ {m' : Heap}, m'.held = m₂.held →
      ((m'.shmRelease .keyblock).shmRelease .rootKey).held = m.held + 0 := fun e => by
    rw [Heap.held_shmRelease, Heap.held_shmRelease, e, h₂, h₁, add_right_comm,
      add_sub_cancel_right, add_sub_cancel_right, add_zero]
  have h₃ := unpackPubk_held E .rootKey (u32 (32 + h.rootKeyHeader.keySize)) rk 0 m₂
  rcases e₃ : unpackPubk E .rootKey (u32 (32 + h.rootKeyHeader.keySize)) rk 0 m₂ with
    ⟨_ | mo, m₃⟩ <;> rw [e₃] at h₃ <;> dsimp only at h₃ ⊢
  · exact ⟨nofun, 0, by simp, hboth h₃⟩
  have h₄ := verifyKeyblock_held P E kb rk (u32 (32 + h.rootKeyHeader.keySize)) mo m₃
  rcases e₄ : verifyKeyblock P E kb rk (u32 (32 + h.rootKeyHeader.keySize)) mo m₃ with
    ⟨_ | _, m₄⟩ <;> rw [e₄] at h₄ <;> dsimp only at h₄ ⊢
  · exact ⟨nofun, 0, by simp, hboth (h₄.trans h₃)⟩
  have h₅ : (verifyGvdSignature P E offset h ranges kb (m₄.shmRelease .rootKey)).2.held =
      m.held + Pi.single .keyblock 1 := by
    rw [verifyGvdSignature_held, Heap.held_shmRelease, h₄, h₃, h₂, h₁, add_sub_cancel_right]
  exact ⟨fun _ => h₅, _, by simp, h₅⟩

/-! ### `check_gscvd` and the scan -/

/-- The commit does not touch the heap. -/
theorem commitGscvd_heap (offset : ℕ) (h : GscVerificationData) (ranges : List UInt8) (s : St) :
    (commitGscvd P offset h ranges s).2.heap = s.heap := by
  have hi : (commitInfo s).2.heap = s.heap := by
    unfold commitInfo
    split
    · rfl
    · rw [St.requireFutureChecks_snd]; rfl
  rcases commitGscvd_cases P offset h ranges s with ⟨-, e⟩ | ⟨-, e⟩ <;> rw [e]
  · exact hi
  rw [saveGvdHash_snd]
  split
  · exact hi
  rw [St.pageWrite_snd]
  dsimp only
  split
  · rw [St.apRoEraseHash_snd]; exact hi
  · exact hi

/-- **What `check_gscvd` returns holding.** Every call returns with the buffers it was entered
with, plus at most one keyblock or one root key buffer, and never a signature buffer; a call that
succeeds returns every buffer it took. -/
theorem checkGscvd_held (fmapOffset offset : ℕ) (s : St) :
    (∃ l ∈ [0, Pi.single .keyblock 1, Pi.single .rootKey 1],
      (checkGscvd P E fmapOffset offset s).2.heap.held = s.heap.held + l) ∧
      ((checkGscvd P E fmapOffset offset s).1 = .succeeded →
        (checkGscvd P E fmapOffset offset s).2.heap.held = s.heap.held) := by
  unfold checkGscvd
  split
  · exact ⟨⟨0, by simp, (add_zero _).symm⟩, nofun⟩
  rename_i h _
  split
  · exact ⟨⟨0, by simp, (add_zero _).symm⟩, nofun⟩
  rename_i ranges _
  obtain ⟨hv, hl⟩ := verifyChain_held P E offset h ranges s.heap
  rcases e : verifyChain P E offset h ranges s.heap with ⟨_ | _, m⟩ <;> rw [e] at hv hl <;>
    dsimp only
  · exact ⟨hl, nofun⟩
  have hm : (m.shmRelease .keyblock).held = s.heap.held := by
    rw [Heap.held_shmRelease, hv rfl, add_sub_cancel_right]
  split
  · rw [commitGscvd_heap]; exact ⟨⟨0, by simp, by rw [add_zero]; exact hm⟩, fun _ => hm⟩
  · exact ⟨⟨0, by simp, by rw [add_zero]; exact hm⟩, fun _ => hm⟩

theorem checkGscvd_held_mono (fmapOffset offset : ℕ) (s : St) :
    s.heap.held ≤ (checkGscvd P E fmapOffset offset s).2.heap.held := by
  obtain ⟨⟨l, hl, e⟩, -⟩ := checkGscvd_held P E fmapOffset offset s
  rw [e]
  intro b
  simp only [List.mem_cons, List.mem_singleton, List.not_mem_nil, or_false] at hl
  rcases hl with rfl | rfl | rfl <;> simp only [Pi.add_apply, Pi.zero_apply, Pi.single_apply] <;>
    (try split_ifs) <;> omega

/-- **The scan only accumulates buffers.** Over every run of the scan, from any state, no buffer
is returned that was not taken during the run. -/
theorem scanFrom_held_mono (k offset : ℕ) (found : Bool) (s : St) :
    s.heap.held ≤ (scanFrom P E k offset found s).2.heap.held :=
  scanFrom_inv P E (Q := fun t => s.heap.held ≤ t.heap.held)
    (fun _ _ t _ ht => ht.trans (checkGscvd_held_mono P E _ _ t)) k offset found s le_rfl

/-- The signature chain stops where `read_keyblock` fails. -/
theorem verifyChain_of_readKeyblock_none {offset : ℕ} {h : GscVerificationData}
    {ranges : List UInt8} {m m₁ : Heap} (e₁ : readKeyblock E (u32 (offset + h.size)) m = (none, m₁)) :
    verifyChain P E offset h ranges m = (false, m₁) := by
  simp only [verifyChain, e₁]

/-- Where `read_rootk` fails, the chain releases the keyblock buffer only. -/
theorem verifyChain_of_readRootk_none {offset : ℕ} {h : GscVerificationData}
    {ranges : List UInt8} {kb : Vb2Keyblock} {m m₁ m₂ : Heap}
    (e₁ : readKeyblock E (u32 (offset + h.size)) m = (some kb, m₁))
    (e₂ : readRootk P E offset h m₁ = (none, m₂)) :
    verifyChain P E offset h ranges m = (false, m₂.shmRelease .keyblock) := by
  simp only [verifyChain, e₁, e₂]

/-- Once the keyblock verifies, the chain releases the root key buffer and ends with
`verify_gvd_signature`. -/
theorem verifyChain_of_verifyKeyblock {offset : ℕ} {h : GscVerificationData}
    {ranges : List UInt8} {kb : Vb2Keyblock} {rk : List UInt8} {mo : ℕ} {m m₁ m₂ m₃ m₄ : Heap}
    (e₁ : readKeyblock E (u32 (offset + h.size)) m = (some kb, m₁))
    (e₂ : readRootk P E offset h m₁ = (some rk, m₂))
    (e₃ : unpackPubk E .rootKey (u32 (32 + h.rootKeyHeader.keySize)) rk 0 m₂ = (some mo, m₃))
    (e₄ : verifyKeyblock P E kb rk (u32 (32 + h.rootKeyHeader.keySize)) mo m₃ = (true, m₄)) :
    verifyChain P E offset h ranges m =
      verifyGvdSignature P E offset h ranges kb (m₄.shmRelease .rootKey) := by
  simp only [verifyChain, e₁, e₂, e₃, e₄]

/-! ### The early returns -/

/-- **Three early returns of `check_gscvd` leak a buffer.** On every image and board, from every
state, once the GVD header and its ranges are read: when `read_keyblock` fails after allocating
the keyblock buffer, `check_gscvd` returns holding that buffer; when `read_rootk` fails after
allocating the root key buffer, it returns holding that one; and when `verify_gvd_signature`
fails, it returns holding the keyblock buffer. -/
theorem early_returns_leak {fmapOffset offset : ℕ} {s : St} {h : GscVerificationData}
    {ranges : List UInt8} (hh : readGscvdHeader E fmapOffset offset = some h)
    (hr : readRanges E offset h = some ranges) :
    (∀ {hdr : List UInt8}, readApSpi E.flash (u32 (offset + h.size)) vb2KeyblockSize = some hdr →
      (Vb2Keyblock.mk hdr).magic = vb2KeyblockMagic → s.heap.acquire.headD true = true →
      (readKeyblock E (u32 (offset + h.size)) s.heap).1 = none →
      (checkGscvd P E fmapOffset offset s).2.heap.held = s.heap.held + Pi.single .keyblock 1) ∧
    (∀ {kb : Vb2Keyblock} {m₁ : Heap},
      readKeyblock E (u32 (offset + h.size)) s.heap = (some kb, m₁) →
      m₁.acquire.headD true = true → (readRootk P E offset h m₁).1 = none →
      (checkGscvd P E fmapOffset offset s).2.heap.held = s.heap.held + Pi.single .rootKey 1) ∧
    (∀ {kb : Vb2Keyblock} {rk : List UInt8} {mo : ℕ} {m₁ m₂ m₃ m₄ : Heap},
      readKeyblock E (u32 (offset + h.size)) s.heap = (some kb, m₁) →
      readRootk P E offset h m₁ = (some rk, m₂) →
      unpackPubk E .rootKey (u32 (32 + h.rootKeyHeader.keySize)) rk 0 m₂ = (some mo, m₃) →
      verifyKeyblock P E kb rk (u32 (32 + h.rootKeyHeader.keySize)) mo m₃ = (true, m₄) →
      (verifyGvdSignature P E offset h ranges kb (m₄.shmRelease .rootKey)).1 = false →
      (checkGscvd P E fmapOffset offset s).2.heap.held = s.heap.held + Pi.single .keyblock 1) := by
  have hfail : ∀ {m : Heap}, verifyChain P E offset h ranges s.heap = (false, m) →
      (checkGscvd P E fmapOffset offset s).2.heap = m := fun e => by
    simp only [checkGscvd, hh, hr, e]
  refine ⟨fun hk hm ha hkb => ?_, fun {kb m₁} e₁ ha hrk => ?_,
    fun {kb rk mo m₁ m₂ m₃ m₄} e₁ e₂ e₃ e₄ hsig => ?_⟩
  · rw [hfail (verifyChain_of_readKeyblock_none P E (Prod.ext hkb rfl)),
      readKeyblock_held_of_acquired E hk hm ha]
  · have h₁ : m₁.held = s.heap.held + Pi.single .keyblock 1 := by
      simpa only [e₁] using readKeyblock_held_of_some E (congrArg Prod.fst e₁)
    rw [hfail (verifyChain_of_readRootk_none P E e₁ (Prod.ext hrk rfl)), Heap.held_shmRelease,
      readRootk_held, if_pos ha, h₁, add_right_comm, add_sub_cancel_right]
  · have h₁ : m₁.held = s.heap.held + Pi.single .keyblock 1 := by
      simpa only [e₁] using readKeyblock_held_of_some E (congrArg Prod.fst e₁)
    have h₂ : m₂.held = m₁.held + Pi.single .rootKey 1 := by
      simpa only [e₂] using readRootk_held_of_some P E (congrArg Prod.fst e₂)
    have h₃ : m₃.held = m₂.held := by
      simpa only [e₃] using unpackPubk_held E .rootKey (u32 (32 + h.rootKeyHeader.keySize)) rk 0 m₂
    have h₄ : m₄.held = m₃.held := by
      simpa only [e₄] using verifyKeyblock_held P E kb rk (u32 (32 + h.rootKeyHeader.keySize)) mo m₃
    rw [hfail ((verifyChain_of_verifyKeyblock P E e₁ e₂ e₃ e₄).trans (Prod.ext hsig rfl)),
      verifyGvdSignature_held, Heap.held_shmRelease, h₄, h₃, h₂, h₁, add_sub_cancel_right]

end

/-! ### Whole runs of the machine -/

section

variable (P : Platform)

/-- A call of `check_gscvd` never returns a signature buffer it did not take. -/
theorem checkGscvd_held_sigBody (E : Env) (fmapOffset offset : ℕ) (s : St) :
    (checkGscvd P E fmapOffset offset s).2.heap.held .sigBody = s.heap.held .sigBody := by
  obtain ⟨⟨l, hl, e⟩, -⟩ := checkGscvd_held P E fmapOffset offset s
  rw [e]
  simp only [List.mem_cons, List.mem_singleton, List.not_mem_nil, or_false] at hl
  rcases hl with rfl | rfl | rfl <;> simp

/-- The seeding command does not touch the heap. -/
theorem vcSeedApRoCheck_heap (brd : Board) (buf : List UInt8) (s : St) :
    (vcSeedApRoCheck P brd buf s).2.heap = s.heap := by
  rcases vcSeedApRoCheck_cases P brd buf s with ⟨-, e⟩ | ⟨-, e⟩ |
    ⟨-, -, -, -, -, -, ⟨-, -, e⟩ | ⟨-, -, -, e⟩ | ⟨-, -, -, e⟩⟩ <;>
    simp only [e, St.record, St.pageWrite_snd, St.apRoEraseHash_snd]

theorem enforce_heap (rv : ApRoCheckResult) (t : St) : (enforce rv t).2.heap = t.heap := by
  unfold enforce
  rcases rv with _ | _ | _
  · dsimp only; split <;> rfl
  all_goals rfl

/-- A run leaves the heap as it found it, or as its V2 part left it. -/
theorem doApRoCheck_heap (E : Env) (s : St) :
    (doApRoCheck P E s).2.heap = s.heap ∨ (doApRoCheck P E s).2.heap = (v2Check P E s).2.heap := by
  by_cases hs : apRoCheckUnsupported P E.board s.page = .boardIdBlocked ∨
      apRoCheckUnsupported P E.board s.page = .flashReadFailed
  · rw [(doApRoCheck_cases P E s).2 hs]; exact .inl rfl
  · rcases (doApRoCheck_cases P E s).1 hs with ⟨-, e⟩ | ⟨rv, e, -⟩ <;> rw [e, enforce_heap]
    · exact .inl rfl
    · exact .inr rfl

/-- **One step**: no operation returns a buffer it did not take, or a signature buffer at all. -/
theorem held_step (s : St) (op : Op) :
    s.heap.held ≤ (step P s op).heap.held ∧
      (step P s op).heap.held .sigBody = s.heap.held .sigBody := by
  cases op with
  | seed brd buf fs => rw [step, vcSeedApRoCheck_heap]; exact ⟨le_rfl, rfl⟩
  | check E fs =>
    rw [step_check]
    rcases doApRoCheck_heap P E { s with faults := fs, heap.acquire := E.shm } with e | e <;> rw [e]
    · exact ⟨le_rfl, rfl⟩
    · exact v2Check_inv P E
        (Q := fun t => s.heap.held ≤ t.heap.held ∧ t.heap.held .sigBody = s.heap.held .sigBody)
        (fun _ _ t _ ht => ⟨ht.1.trans (checkGscvd_held_mono P E _ _ t),
          (checkGscvd_held_sigBody P E _ _ t).trans ht.2⟩) _ ⟨le_rfl, rfl⟩
  | deviceReset => simp only [step, apRoDeviceReset]; split <;> exact ⟨le_rfl, rfl⟩
  | fire => simp only [step]; split <;> exact ⟨le_rfl, rfl⟩

/-- **Leaked buffers stay leaked.** Over every sequence of operations of the machine, from any
state, no scratch buffer is returned that was not taken during it, so a buffer one
`check_gscvd` call leaks is still allocated at the end of every later run; and the number of
outstanding signature buffers never changes. -/
theorem held_run_mono (s : St) (ops : List Op) :
    s.heap.held ≤ (run P s ops).heap.held ∧
      (run P s ops).heap.held .sigBody = s.heap.held .sigBody := by
  induction ops generalizing s with
  | nil => exact ⟨le_rfl, rfl⟩
  | cons op ops ih =>
    obtain ⟨h₁, h₂⟩ := held_step P s op
    obtain ⟨h₃, h₄⟩ := ih (step P s op)
    exact ⟨h₁.trans h₃, h₄.trans h₂⟩

end

/-- `toy` pinning the hash of another root key than `signedImage`'s: `read_rootk` rejects the
image's root key. -/
def otherRootKey : Platform :=
  { toy with rootKeyHash := List.replicate 32 0, length_rootKeyHash := by simp }

/-- `toy` with an RSA verification that accepts only signatures on digests that start with the
keyblock magic: on `signedImage`, the keyblock's signature verifies and the GVD's does not. -/
def keyblockOnly : Platform :=
  { toy with rsaVerify := fun _ digest _ => decide (digest.take 8 = vb2KeyblockMagic) }

set_option maxRecDepth 100000 in
/-- The three leaks on the signed image from the erased state: a keyblock shorter than its
header, a root key whose hash is not the pinned one, and a GVD signature the data key does not
verify. The scan of the first image ends holding the keyblock buffer. -/
theorem early_returns_leak_signedImage :
    (checkGscvd toy (signedEnv true 1 100 1144) 0 0x100 (initial 0)).2.heap.held =
        (initial 0).heap.held + Pi.single .keyblock 1 ∧
      (checkGscvd otherRootKey (signedEnv true 1 1144 1144) 0 0x100 (initial 0)).2.heap.held =
        (initial 0).heap.held + Pi.single .rootKey 1 ∧
      (checkGscvd keyblockOnly (signedEnv true 1 1144 1144) 0 0x100 (initial 0)).2.heap.held =
        (initial 0).heap.held + Pi.single .keyblock 1 ∧
      (validateAndCacheApRoV2FromFlash toy (signedEnv true 1 100 1144) (initial 0)).2.heap.held =
        (initial 0).heap.held + Pi.single .keyblock 1 := by
  have h₁ : (checkGscvd toy (signedEnv true 1 100 1144) 0 0x100 (initial 0)).2.heap.held =
      (initial 0).heap.held + Pi.single .keyblock 1 := (early_returns_leak toy _
    (show readGscvdHeader _ 0 0x100 = some ⟨gvdBytes 1, rfl⟩ by decide)
    (show readRanges _ _ _ = some [] by decide)).1
    (show readApSpi _ _ _ = some (keyblockBytes 100 1144) by decide) (by decide) rfl rfl
  refine ⟨h₁, ?_, ?_, by rw [validateAndCache_signedImage]; exact h₁⟩
  · exact (early_returns_leak otherRootKey (signedEnv true 1 1144 1144)
      (show readGscvdHeader _ 0 0x100 = some ⟨gvdBytes 1, rfl⟩ by decide)
      (show readRanges _ _ _ = some [] by decide)).2.1
      (Prod.ext (Option.eq_some_of_isSome (by decide)) rfl) (by decide) (by decide)
  · exact (early_returns_leak keyblockOnly (signedEnv true 1 1144 1144)
      (show readGscvdHeader _ 0 0x100 = some ⟨gvdBytes 1, rfl⟩ by decide)
      (show readRanges _ _ _ = some [] by decide)).2.2
      (Prod.ext (Option.eq_some_of_isSome (by decide)) rfl)
      (Prod.ext (Option.eq_some_of_isSome (by decide)) rfl)
      (Prod.ext (Option.eq_some_of_isSome (by decide)) rfl) (Prod.ext (by decide) rfl) (by decide)

end ApRoIntegrity
