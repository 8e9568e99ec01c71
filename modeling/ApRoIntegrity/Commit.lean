import ApRoIntegrity.Soundness

/-!
# The commit of `check_gscvd`

Once the signature chain and the ranges of a GVD verify, `check_gscvd` commits: unless
`check_is_required()` already holds, it programs the INFO word with zero
(`require_future_checks`), which cannot be undone; then it caches the GVD's hash with
`save_gvd_hash`, which refuses a rollback counter below `LOWEST_ACCEPTABLE_GVD_ROLLBACK`. A failure
of either turns the verified GVD into `ROV_FAILED`.

## What is proved here

* `checkGscvd_of_verified`: a call whose chain and ranges verify is its commit.
* `mandate_before_rollback_floor`: the INFO word is written before the rollback floor is applied.
  On every image, a GVD whose chain and ranges verify but whose rollback counter is below the
  floor is rejected with `ROV_FAILED` after the INFO word has been set to zero.
* `verified_gvd_succeeds_iff`: on every image, a verified GVD past the rollback floor passes
  `check_gscvd` exactly when neither the INFO write it needs nor the page write of
  `save_gvd_hash` fails; the erase's outcome is ignored. On the signed image, a failed page
  write fails the GVD and the run latches AP_RO_FAIL (`storage_fault_fails_verified_signedImage`).
-/

namespace ApRoIntegrity

namespace St

theorem requireFutureChecks_fst (s : St) :
    s.requireFutureChecks.1 = (s.faults.infoWrite.headD none).isNone := by
  unfold requireFutureChecks
  cases s.faults.infoWrite.headD none <;> rfl

end St

/-- While checks are not yet required and the INFO word reads, the commit writes it. -/
theorem commitInfo_of_unset {s : St} (hinfo : s.info ≠ 0)
    (hread : s.faults.infoRead.headD true = true) :
    commitInfo s = s.checkIsRequired.2.requireFutureChecks := by
  have hr : s.checkIsRequired.1 = false := by
    simp only [St.checkIsRequired, hread, Bool.not_true, Bool.or_false, beq_eq_false_iff_ne.mpr hinfo]
  unfold commitInfo
  rw [hr, if_neg Bool.false_ne_true]

/-- The commit of the INFO word succeeds unless the write it needs fails. -/
theorem commitInfo_fst {s : St}
    (h : s.info ≠ 0 → s.faults.infoRead.headD true = true → s.faults.infoWrite.headD none = none) :
    (commitInfo s).1 = true := by
  by_cases hreq : s.info ≠ 0 ∧ s.faults.infoRead.headD true = true
  · rw [commitInfo_of_unset hreq.1 hreq.2, St.requireFutureChecks_fst]
    exact Option.isNone_iff_eq_none.mpr (h hreq.1 hreq.2)
  · have hr : s.checkIsRequired.1 = true := by
      cases hb : s.faults.infoRead.headD true
      · simp only [St.checkIsRequired, hb, Bool.not_false, Bool.or_true]
      · simp only [hb, and_true, not_not] at hreq
        simp only [St.checkIsRequired, hreq, beq_self_eq_true, Bool.true_or]
    unfold commitInfo
    rw [if_pos hr]

section

variable (P : Platform) (E : Env)

/-- A call whose GVD is read, whose signature chain holds and whose ranges hash to the GVD's
digest is its commit, on the state with the keyblock released and the verification recorded. -/
theorem checkGscvd_of_verified {fmapOffset offset : ℕ} {s : St} {h : GscVerificationData}
    {ranges : List UInt8} (hh : readGscvdHeader E fmapOffset offset = some h)
    (hr : readRanges E offset h = some ranges)
    (hc : (verifyChain P E offset h ranges s.heap).1 = true)
    (hv : validateRangesSha P E (rangesOf ranges h.rangeCount) h.rangesDigest = .succeeded) :
    checkGscvd P E fmapOffset offset s = commitGscvd P offset h ranges
      ({ s with heap := (verifyChain P E offset h ranges s.heap).2.shmRelease .keyblock }.record
        (.verified offset h ranges)) := by
  rcases e : verifyChain P E offset h ranges s.heap with ⟨_ | _, m⟩
  · rw [e] at hc; cases hc
  · simp only [checkGscvd, hh, hr, e, hv]

/-- **The INFO word is written before the rollback floor.** On every image, a GVD whose
signature chain and ranges verify but whose rollback counter is below the floor, checked while
the INFO word is not zero and reads, is rejected with `ROV_FAILED`, the record page left as it
was and the INFO word, when its write succeeds, set to zero for good. -/
theorem mandate_before_rollback_floor {fmapOffset offset : ℕ} {s : St} {h : GscVerificationData}
    {ranges : List UInt8} (hh : readGscvdHeader E fmapOffset offset = some h)
    (hr : readRanges E offset h = some ranges)
    (hc : (verifyChain P E offset h ranges s.heap).1 = true)
    (hv : validateRangesSha P E (rangesOf ranges h.rangeCount) h.rangesDigest = .succeeded)
    (hroll : h.rollbackCounter < lowestAcceptableGvdRollback) (hinfo : s.info ≠ 0)
    (hread : s.faults.infoRead.headD true = true) (hwrite : s.faults.infoWrite.headD none = none) :
    (checkGscvd P E fmapOffset offset s).1 = .failed ∧
      (checkGscvd P E fmapOffset offset s).2.info = 0 ∧
      (checkGscvd P E fmapOffset offset s).2.page = s.page := by
  rw [checkGscvd_of_verified P E hh hr hc hv]
  generalize ht : { s with heap := (verifyChain P E offset h ranges s.heap).2.shmRelease .keyblock
    }.record (.verified offset h ranges) = t
  have hti : t.info = s.info ∧ t.faults = s.faults ∧ t.page = s.page := by
    subst ht; exact ⟨rfl, rfl, rfl⟩
  have hsave : ∀ u, saveGvdHash P offset h ranges u = (false, u) := fun u => by
    unfold saveGvdHash; rw [if_pos hroll]
  have e : commitGscvd P offset h ranges t = (.failed, (commitInfo t).2) := by
    rcases commitGscvd_cases P offset h ranges t with ⟨-, e⟩ | ⟨-, e⟩ <;> rw [e]
    rw [hsave]; rfl
  rw [e, commitInfo_of_unset (hti.1 ▸ hinfo) (hti.2.1 ▸ hread), St.requireFutureChecks_snd]
  refine ⟨rfl, ?_, hti.2.2⟩
  show ((t.faults.infoWrite.headD none).elim 0 fun k => t.info / 256 ^ k * 256 ^ k) = 0
  rw [hti.2.1, hwrite]; rfl

set_option maxRecDepth 100000 in
theorem mandate_before_rollback_floor_signedImage :
    (initial 0xFFFFFFFF).info ≠ 0 ∧
      (checkGscvd toy (signedEnv true 0 1144 1144) 0 0x100 (initial 0xFFFFFFFF)).1 = .failed ∧
      (checkGscvd toy (signedEnv true 0 1144 1144) 0 0x100 (initial 0xFFFFFFFF)).2.info = 0 ∧
      (checkGscvd toy (signedEnv true 0 1144 1144) 0 0x100 (initial 0xFFFFFFFF)).2.page =
        (initial 0xFFFFFFFF).page :=
  ⟨by decide, mandate_before_rollback_floor toy _
    (show readGscvdHeader _ _ _ = some ⟨gvdBytes 0, rfl⟩ by decide)
    (show readRanges _ _ _ = some [] by decide) (by decide) (by decide) (by decide) (by decide)
    rfl rfl⟩

/-- **Storage faults fail a verified GVD.** On every image, a GVD whose signature chain and
ranges verify fails `check_gscvd`, whatever its rollback counter, when the INFO write it needs
fails, or when the page write of `save_gvd_hash` fails. -/
theorem storage_fault_fails_verified {fmapOffset offset : ℕ} {s : St} {h : GscVerificationData}
    {ranges : List UInt8} (hh : readGscvdHeader E fmapOffset offset = some h)
    (hr : readRanges E offset h = some ranges)
    (hc : (verifyChain P E offset h ranges s.heap).1 = true)
    (hv : validateRangesSha P E (rangesOf ranges h.rangeCount) h.rangesDigest = .succeeded)
    (hfault : (s.info ≠ 0 ∧ s.faults.infoRead.headD true = true ∧
        s.faults.infoWrite.headD none ≠ none) ∨ s.faults.write.headD none ≠ none) :
    (checkGscvd P E fmapOffset offset s).1 = .failed := by
  rw [checkGscvd_of_verified P E hh hr hc hv]
  generalize ht : { s with heap := (verifyChain P E offset h ranges s.heap).2.shmRelease .keyblock
    }.record (.verified offset h ranges) = t
  have hti : t.info = s.info ∧ t.faults = s.faults := by subst ht; exact ⟨rfl, rfl⟩
  rcases commitGscvd_cases P offset h ranges t with ⟨-, e⟩ | ⟨hw, e⟩ <;> rw [e]
  rcases hfault with ⟨hinfo, hread, hiw⟩ | hpw
  · rw [commitInfo_of_unset (hti.1 ▸ hinfo) (hti.2 ▸ hread), St.requireFutureChecks_fst] at hw
    refine absurd (Option.isNone_iff_eq_none.mp hw) ?_
    show ¬t.faults.infoWrite.headD none = none
    rw [hti.2]; exact hiw
  · have hwr : (commitInfo t).2.faults.write = s.faults.write := by
      rw [(commitInfo_fields t).2.2.2, hti.2]
    cases hs : (saveGvdHash P offset h ranges (commitInfo t).2).1
    · rfl
    · have := (saveGvdHash_fst P _ _ _ _ hs).2
      rw [St.pageWrite_fst] at this
      split at this <;> simp only [St.apRoEraseHash_snd, hwr] at this <;>
        exact absurd (Option.isNone_iff_eq_none.mp this) hpw

/-- Past the rollback floor, `save_gvd_hash` succeeds when its page write does, whatever its
erase does. -/
theorem saveGvdHash_fst_of_write {offset : ℕ} {h : GscVerificationData} {ranges : List UInt8}
    {s : St} (hroll : lowestAcceptableGvdRollback ≤ h.rollbackCounter)
    (hw : s.faults.write.headD none = none) : (saveGvdHash P offset h ranges s).1 = true := by
  unfold saveGvdHash
  rw [if_neg (Nat.not_lt.mpr hroll)]
  dsimp only
  rw [St.pageWrite_fst]
  split <;> simp only [St.apRoEraseHash_snd, hw, Option.isNone_none]

/-- **A verified GVD passes exactly when its storage writes do.** On every image, a GVD whose
signature chain and ranges verify, with a rollback counter past the floor, passes `check_gscvd`
if and only if neither the INFO write it needs, while the INFO word is not zero and reads, nor
the page write of `save_gvd_hash` fails. -/
theorem verified_gvd_succeeds_iff {fmapOffset offset : ℕ} {s : St} {h : GscVerificationData}
    {ranges : List UInt8} (hh : readGscvdHeader E fmapOffset offset = some h)
    (hr : readRanges E offset h = some ranges)
    (hc : (verifyChain P E offset h ranges s.heap).1 = true)
    (hv : validateRangesSha P E (rangesOf ranges h.rangeCount) h.rangesDigest = .succeeded)
    (hroll : lowestAcceptableGvdRollback ≤ h.rollbackCounter) :
    (checkGscvd P E fmapOffset offset s).1 = .succeeded ↔
      ¬((s.info ≠ 0 ∧ s.faults.infoRead.headD true = true ∧
          s.faults.infoWrite.headD none ≠ none) ∨ s.faults.write.headD none ≠ none) := by
  refine ⟨fun hs hf => ?_, fun hf => ?_⟩
  · rw [storage_fault_fails_verified P E hh hr hc hv hf] at hs
    cases hs
  simp only [not_or, not_and, not_not] at hf
  rw [checkGscvd_of_verified P E hh hr hc hv]
  generalize ht : { s with heap := (verifyChain P E offset h ranges s.heap).2.shmRelease .keyblock
    }.record (.verified offset h ranges) = t
  have hti : t.info = s.info ∧ t.faults = s.faults := by subst ht; exact ⟨rfl, rfl⟩
  have hinfo : (commitInfo t).1 = true := commitInfo_fst (by rw [hti.1, hti.2]; exact hf.1)
  have hsave : (saveGvdHash P offset h ranges (commitInfo t).2).1 = true :=
    saveGvdHash_fst_of_write P hroll (by rw [(commitInfo_fields t).2.2.2, hti.2]; exact hf.2)
  rcases commitGscvd_cases P offset h ranges t with ⟨hw, -⟩ | ⟨-, e⟩
  · exact absurd hinfo (by rw [hw]; decide)
  · rw [e, if_pos hsave]

end

set_option maxRecDepth 100000 in
/-- On the signed image, with checks not yet required, the verified GVD passes only if the INFO
write succeeds: it fails when that write fails after one byte. -/
theorem verified_gvd_succeeds_iff_signedImage :
    lowestAcceptableGvdRollback ≤ (⟨gvdBytes 1, rfl⟩ : GscVerificationData).rollbackCounter ∧
    ((checkGscvd toy (signedEnv true 1 1144 1144) 0 0x100
        { initial 0xFFFFFFFF with faults := { infoWrite := [some 1] } }).1 = .succeeded ↔
      ¬(((initial 0xFFFFFFFF).info ≠ 0 ∧ ([] : List Bool).headD true = true ∧
          [some 1].headD none ≠ none) ∨ ([] : List (Option ℕ)).headD none ≠ none)) :=
  ⟨by decide, verified_gvd_succeeds_iff toy _
    (show readGscvdHeader _ _ _ = some ⟨gvdBytes 1, rfl⟩ by decide)
    (show readRanges _ _ _ = some [] by decide) (by decide) (by decide) (by decide)⟩

set_option maxRecDepth 100000 in
/-- A run on the signed image whose page write fails: `check_gscvd` fails on the GVD it verified,
and the run latches AP_RO_FAIL and holds the EC in reset. -/
theorem storage_fault_fails_verified_signedImage :
    (checkGscvd toy (signedEnv true 1 1144 1144) 0 0x100 { initial 0 with
        faults := { write := [some 0] }, heap.acquire := (signedEnv true 1 1144 1144).shm }).1 =
        .failed ∧
      (run toy (initial 0)
        [.check (signedEnv true 1 1144 1144) { write := [some 0] }]).aproResult = .fail := by
  have hc : (checkGscvd toy (signedEnv true 1 1144 1144) 0 0x100 { initial 0 with
        faults := { write := [some 0] }, heap.acquire := (signedEnv true 1 1144 1144).shm }).1 =
        .failed :=
    storage_fault_fails_verified toy _
    (show readGscvdHeader _ _ _ = some ⟨gvdBytes 1, rfl⟩ by decide)
    (show readRanges _ _ _ = some [] by decide) (by decide) (by decide) (.inr (by decide))
  refine ⟨hc, ?_⟩
  rw [run_cons, run_nil, step_check, doApRoCheck_of_v2 toy _ (by decide) (by decide)
    (by rw [v2Check_of_none toy _ (by decide), validateAndCache_signedImage, hc]) (by decide)]
  rfl

end ApRoIntegrity
