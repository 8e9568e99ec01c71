import ApRoIntegrity.Images

/-!
# The reset hold and the reported verdict

`apro_result` and the deferred `keep_ec_in_reset` call are two stores the code keeps in step by
hand. `do_ap_ro_check` writes the verdict; it arms the hold with `keep_ec_in_reset` on a FAIL and
cancels it with `release_ec_reset_override` on a PASS. `ap_ro_device_reset` clears every verdict
but FAIL, and `vc_get_ap_ro_status` reports the verdict.

## What is proved here

* `failHeld_of_reachable`: in every reachable state a FAIL verdict comes with the hold armed.
  Every run that writes FAIL arms the hold, and nothing else writes FAIL or cancels the hold.
* The converse fails, because a run that ends with `AP_RO_UNSUPPORTED_TRIGGERED` writes the
  verdict and leaves the hold as it was. `hold_outlives_fail` runs a check that fails reading AP
  flash and then one on a Board-ID-blocked board: the hold stays armed under an
  UNSUPPORTED_TRIGGERED verdict, and an AP reset then clears the verdict to NOT_RUN with the hold
  still armed.
* `status_hides_fail`: on a page that was never programmed, a run that fails reading AP flash
  latches FAIL and holds the EC in reset, while `vc_get_ap_ro_status` reports
  UNSUPPORTED_NOT_TRIGGERED: it consults the page before the verdict.

The two runs hold on every platform: they never reach a hash or a signature.
-/

namespace ApRoIntegrity

/-! ### FAIL is always held -/

/-- A FAIL verdict comes with the hold armed. -/
def FailHeld (s : St) : Prop := s.aproResult = .fail → s.holdArmed = true

theorem failHeld_step (P : Platform) (s : St) (op : Op) (h : FailHeld s) :
    FailHeld (step P s op) := by
  intro hf
  cases op with
  | seed brd buf fs =>
    have hb := vcSeedApRoCheck_below P brd buf { s with faults := fs }
    simp only [step] at hf ⊢
    rw [hb.holdArmed]
    exact h (hb.aproResult ▸ hf)
  | check E fs =>
    simp only [step] at hf ⊢
    rcases doApRoCheck_verdict P E { s with faults := fs, heap.acquire := E.shm } with
      ⟨-, hr, -⟩ | ⟨-, -, hh⟩ | ⟨-, hr, -⟩
    · rw [hr] at hf; cases hf
    · exact hh
    · rw [hr] at hf; cases hf
  | deviceReset =>
    simp only [step, apRoDeviceReset] at hf ⊢
    split at hf
    · rw [if_pos ‹_›]; exact h hf
    · cases hf
  | fire =>
    simp only [step] at hf ⊢
    split
    · rfl
    · exact h (by simpa [*] using hf)

theorem failHeld_run (P : Platform) (ops : List Op) :
    ∀ s, FailHeld s → FailHeld (run P s ops) := by
  induction ops with
  | nil => exact fun _ h => h
  | cons op ops ih => exact fun s h => ih _ (failHeld_step P s op h)

/-- **FAIL is always held**: in every reachable state, `ec_rst_override()` holds only while the
deferred `keep_ec_in_reset` is armed. -/
theorem failHeld_of_reachable (P : Platform) {s : St} (hs : Reachable P s)
    (hf : ecRstOverride s = true) : s.holdArmed = true := by
  obtain ⟨info, ops, rfl⟩ := hs
  exact failHeld_run P ops (initial info) (fun h => by cases h) (by simpa [ecRstOverride] using hf)

/-! ### The hold outlives the verdict -/

/-- An AP flash every read of which fails. -/
def deadFlash : ApFlash := ⟨erased, fun _ _ => false⟩

/-- A board with a blank Board ID type, blocked or not. -/
def blankBoard (blocked : Bool) : Board := ⟨some ⟨0, true⟩, blocked⟩

/-- A run on `deadFlash`. -/
def deadEnv (blocked : Bool) : Env := ⟨deadFlash, blankBoard blocked, [], fun _ => 0, fun _ _ => 0⟩

theorem failHeld_of_reachable_deadFlash :
    Reachable toy (run toy (initial 0) [.check (deadEnv false) {}]) ∧
      ecRstOverride (run toy (initial 0) [.check (deadEnv false) {}]) = true ∧
      (run toy (initial 0) [.check (deadEnv false) {}]).holdArmed = true :=
  ⟨⟨0, _, rfl⟩, rfl, failHeld_of_reachable toy ⟨0, _, rfl⟩ rfl⟩

/-- A failing run, then a run on a Board-ID-blocked board: the hold stays armed while the verdict
reads UNSUPPORTED_TRIGGERED, and an AP reset then clears the verdict with the hold armed. -/
theorem hold_outlives_fail (P : Platform) :
    let s₁ := run P (initial 0) [.check (deadEnv false) {}]
    let s₂ := step P s₁ (.check (deadEnv true) {})
    let s₃ := step P s₂ .deviceReset
    s₁.aproResult = .fail ∧ s₁.holdArmed = true ∧
      s₂.aproResult = .unsupportedTriggered ∧ s₂.holdArmed = true ∧ ecRstOverride s₂ = false ∧
      s₃.aproResult = .notRun ∧ s₃.holdArmed = true :=
  ⟨rfl, rfl, rfl, rfl, rfl, rfl, rfl⟩

/-- On a page that was never programmed, a run that fails reading AP flash latches FAIL with the
hold armed, and `vc_get_ap_ro_status` reports UNSUPPORTED_NOT_TRIGGERED. -/
theorem status_hides_fail (P : Platform) :
    let s := run P (initial 0) [.check (deadEnv false) {}]
    s.aproResult = .fail ∧ s.holdArmed = true ∧
      vcGetApRoStatus P (blankBoard false) 0 s = (.success, some .unsupportedNotTriggered) := by
  have hr : (run P (initial 0) [.check (deadEnv false) {}]).aproResult = .fail := rfl
  have hp : (run P (initial 0) [.check (deadEnv false) {}]).page = erased := rfl
  have hu : apRoCheckUnsupported P (blankBoard false) erased = .notProgrammed := rfl
  exact ⟨hr, rfl, by simp [vcGetApRoStatus, hr, hp, hu]⟩

end ApRoIntegrity
