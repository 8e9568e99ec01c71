import ApRoIntegrity.Hold

/-!
# Mandatory verification

`check_gscvd` calls `require_future_checks` once a GVD verifies, which programs the INFO word
with zero; from then on `check_is_required()` holds and a run that finds no GVD fails instead of
releasing boot unverified. This module says how far that holds.

## What is proved here

* `info_zero_run`: once the INFO word is zero, no operation changes it.
* `judged_of_info_zero`: once the INFO word is zero, every later run on a board that is not
  Board-ID-blocked ends in PASS or FAIL, provided `ap_ro_check_unsupported` does not reject the
  record page as unreadable (`ARCVE_FLASH_READ_FAILED`).
* That proviso is needed, and reachable: `torn_save_unsupported` runs a verification whose
  `save_gvd_hash` write fails after ten bytes. The run fails, with the INFO word already zero and
  the page holding neither a V1 nor a V2 record, and the next run returns early with
  UNSUPPORTED_TRIGGERED without consulting `check_is_required()`.
* `cached_without_mandate`: when the INFO read fails, `check_is_required()` reports checks as
  required, so `check_gscvd` skips `require_future_checks` and still caches the descriptor. The
  INFO word stays non-zero beside a valid V2 descriptor, and a later run on an image the GVD has
  vanished from ends UNSUPPORTED_TRIGGERED.
-/

namespace ApRoIntegrity

/-! ### The INFO word stays zero -/

theorem info_zero_step (P : Platform) (s : St) (op : Op) (h : s.info = 0) :
    (step P s op).info = 0 := by
  cases op with
  | seed brd buf fs => exact (vcSeedApRoCheck_below P brd buf _).info h
  | check E fs =>
    rw [(step_check_fields P s E fs).2.1]
    unfold verdictState
    split
    · exact h
    · exact (v2Check_below P E _).info h
  | deviceReset => simp only [step, apRoDeviceReset]; split <;> exact h
  | fire => simp only [step]; split <;> exact h

theorem info_zero_run (P : Platform) (ops : List Op) :
    ∀ s, s.info = 0 → (run P s ops).info = 0 := by
  induction ops with
  | nil => exact fun _ h => h
  | cons op ops ih => exact fun s h => ih _ (info_zero_step P s op h)

/-! ### Every later run is judged -/

theorem apRoCheckUnsupported_ne_blocked (P : Platform) {brd : Board} (hb : brd.bidBlocked = false)
    (p : ℕ → UInt8) : apRoCheckUnsupported P brd p ≠ .boardIdBlocked := by
  unfold apRoCheckUnsupported
  rw [if_neg (by simp [hb])]
  split_ifs <;> decide

/-- A run from a zero INFO word that gets past `ap_ro_check_unsupported` ends in PASS or
FAIL. -/
theorem doApRoCheck_of_info_zero (P : Platform) (E : Env) {s : St} (h0 : s.info = 0)
    (hs : ¬(apRoCheckUnsupported P E.board s.page = .boardIdBlocked ∨
      apRoCheckUnsupported P E.board s.page = .flashReadFailed)) :
    (doApRoCheck P E s).2.aproResult = .pass ∨ (doApRoCheck P E s).2.aproResult = .fail := by
  rcases (doApRoCheck_cases P E s).1 hs with ⟨-, e⟩ | ⟨rv, e, -⟩ <;> rw [e]
  · exact enforce_of_info_zero _ h0
  · exact enforce_of_info_zero _ ((v2Check_below P E s).info h0)

/-- **Mandatory verification, on a readable page**: from a state whose INFO word is zero, after
any operations the INFO word is still zero, and a run on a board that is not Board-ID-blocked,
on a page `ap_ro_check_unsupported` does not reject as unreadable, ends in PASS or FAIL. -/
theorem judged_of_info_zero (P : Platform) (s : St) (ops : List Op) (E : Env) (fs : Faults)
    (h0 : s.info = 0) (hb : E.board.bidBlocked = false)
    (hp : apRoCheckUnsupported P E.board (run P s ops).page ≠ .flashReadFailed) :
    (run P s ops).info = 0 ∧
      ((step P (run P s ops) (.check E fs)).aproResult = .pass ∨
        (step P (run P s ops) (.check E fs)).aproResult = .fail) :=
  ⟨info_zero_run P ops s h0, doApRoCheck_of_info_zero P E (info_zero_run P ops s h0)
    (not_or.mpr ⟨apRoCheckUnsupported_ne_blocked P hb _, hp⟩)⟩

theorem judged_of_info_zero_deadFlash :
    (initial 0).info = 0 ∧ (deadEnv false).board.bidBlocked = false ∧
      apRoCheckUnsupported toy (deadEnv false).board (run toy (initial 0) []).page ≠
        .flashReadFailed ∧
      (run toy (initial 0) []).info = 0 ∧
      ((step toy (run toy (initial 0) []) (.check (deadEnv false) {})).aproResult = .pass ∨
        (step toy (run toy (initial 0) []) (.check (deadEnv false) {})).aproResult = .fail) :=
  ⟨rfl, rfl, by decide, judged_of_info_zero toy (initial 0) [] (deadEnv false) {} rfl rfl
    (by decide)⟩

/-! ### A torn save leaves checks mandatory and the page unreadable -/

set_option maxRecDepth 100000 in
/-- A verification whose `save_gvd_hash` write fails after ten bytes, with the INFO word not yet
set: the run fails with the INFO word zero, and the next run returns early with
UNSUPPORTED_TRIGGERED on a board that is not Board-ID-blocked. -/
theorem torn_save_unsupported :
    (run toy (initial 0xFFFFFFFF)
      [.check (signedEnv true 1 1144 1144) { write := [some 10] }]).info = 0 ∧
    (signedEnv true 1 1144 1144).board.bidBlocked = false ∧
    (run toy (initial 0xFFFFFFFF)
      [.check (signedEnv true 1 1144 1144) { write := [some 10] },
        .check (signedEnv true 1 1144 1144) {}]).aproResult = .unsupportedTriggered := by
  rw [run_cons, run_nil, run_cons, run_cons, run_nil]
  obtain ⟨hp, hi, -⟩ := step_check_fields toy (initial 0xFFFFFFFF) (signedEnv true 1 1144 1144)
    { write := [some 10] }
  rw [verdictState, if_neg ?_, v2Check_of_none toy _ ?_, validateAndCache_signedImage] at hp hi
  · refine ⟨by rw [hi]; decide, rfl, ?_⟩
    apply step_check_of_unsupported
    rw [hp]
    exact .inr (by decide)
  all_goals decide

/-! ### A cached descriptor without the mandate -/

set_option maxRecDepth 100000 in
/-- A verification in which the INFO read fails caches the descriptor with the INFO word left
non-zero; a later run on an image the GVD has vanished from finds nothing on either V2 path and
ends UNSUPPORTED_TRIGGERED. -/
theorem cached_without_mandate :
    (findV2Entry toy (run toy (initial 0xFFFFFFFF)
      [.check (signedEnv true 1 1144 1144) { infoRead := [false] }]).page).isSome ∧
    (run toy (initial 0xFFFFFFFF)
      [.check (signedEnv true 1 1144 1144) { infoRead := [false] }]).info ≠ 0 ∧
    (run toy (initial 0xFFFFFFFF)
      [.check (signedEnv true 1 1144 1144) { infoRead := [false] },
        .check erasedEnv {}]).aproResult = .unsupportedTriggered := by
  refine ⟨by decide, by decide, ?_⟩
  rw [run_cons, run_cons, run_nil, step_check,
    doApRoCheck_of_notFound toy _ ?_ ?_ (v2Check_erasedImage toy _ rfl _)]
  all_goals decide

end ApRoIntegrity
