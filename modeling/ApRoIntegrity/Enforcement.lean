import ApRoIntegrity.Scan

/-!
# Result and enforcement

`do_ap_ro_check` decides the verdict of a run and drives the AP reset hold: on `AP_RO_FAIL` it
calls `keep_ec_in_reset`, a deferred call that asserts the EC reset and re-arms itself every
100 ms; on `AP_RO_PASS` it calls `release_ec_reset_override`, which cancels the deferred call.
`ap_ro_device_reset` clears the verdict on an AP reset unless it is `AP_RO_FAIL`, and
`vc_get_ap_ro_status` reports it.

The system is a state machine over `St`. Its operations are the commands that reach this
module (`Op`): seeding the V1 record, a verification run, an AP reset event, and a firing of
the deferred `keep_ec_in_reset`. Each operation brings the world it runs in: the board's
answers, the AP flash, and the outcomes of its fallible controller calls. `Reachable` states
are those some sequence of operations leads to from an erased page.
-/

namespace ApRoIntegrity

/-- The `enum ec_error_list` codes `do_ap_ro_check` returns. -/
inductive EcError where
  | success
  | unimplemented
  | crc
  deriving DecidableEq, Repr

/-- `keep_ec_in_reset`: assert the EC reset and arm the deferred call again. -/
def keepEcInReset (s : St) : St := { s with holdArmed := true }

/-- `release_ec_reset_override`: cancel the deferred call and release the EC reset. -/
def releaseEcResetOverride (s : St) : St := { s with holdArmed := false }

/-- `ec_rst_override`. -/
def ecRstOverride (s : St) : Bool := s.aproResult == .fail

/-- `ap_ro_device_reset`: an AP reset clears the verdict, unless it is `AP_RO_FAIL`. -/
def apRoDeviceReset (s : St) : St :=
  if s.aproResult = .notRun ∨ ecRstOverride s then s else { s with aproResult := .notRun }

section

variable (P : Platform) (E : Env)

/-- The V2 part of `do_ap_ro_check`: the cached descriptor first, then the full scan. -/
def v2Check (s : St) : ApRoCheckResult × St :=
  match findV2Entry P s.page with
  | some d =>
    match validateCachedApRoV2 P E d with
    | .succeeded => (.succeeded, s)
    | _ => validateAndCacheApRoV2FromFlash P E s
  | none => validateAndCacheApRoV2FromFlash P E s

/-- The verdict part of `do_ap_ro_check` once `rv` is known. `check_is_required()` is called
only when `rv` is not `ROV_FAILED`. -/
def enforce (rv : ApRoCheckResult) (s : St) : EcError × St :=
  match rv with
  | .succeeded => (.success, releaseEcResetOverride { s with aproResult := .pass })
  | .failed => (.crc, keepEcInReset { s with aproResult := .fail })
  | .notFound =>
    let required := s.checkIsRequired
    if required.1 then (.crc, keepEcInReset { required.2 with aproResult := .fail })
    else (.unimplemented, { required.2 with aproResult := .unsupportedTriggered })

/-- The V1 part of `do_ap_ro_check`: the factory record's ranges against its digest, when the
page holds a supported V1 record. -/
def v1Check (p : ℕ → UInt8) : ApRoCheckResult :=
  if apRoCheckUnsupported P E.board p = .ok ∧ pageType p = apRoHashTypeFactory then
    validateRangesSha P E (pageRanges p (pageNumRanges p)) (pageDigest p)
  else .notFound

/-- `do_ap_ro_check`. -/
def doApRoCheck (s : St) : EcError × St :=
  let support := apRoCheckUnsupported P E.board s.page
  if support = .boardIdBlocked ∨ support = .flashReadFailed then
    (.unimplemented, { s with aproResult := .unsupportedTriggered })
  else
    let rv := v1Check P E s.page
    if rv = .succeeded then enforce .succeeded s
    else
      match v2Check P E s with
      | (.notFound, s) => enforce rv s
      | (rv2, s) => enforce rv2 s

/-- `vc_get_ap_ro_status`: the verdict, reported as `AP_RO_UNSUPPORTED_NOT_TRIGGERED` when
verification is unsupported and the verdict is not `AP_RO_UNSUPPORTED_TRIGGERED`. A
non-empty request is refused. -/
def vcGetApRoStatus (brd : Board) (inputSize : ℕ) (s : St) : VendorCmdRc × Option ApRoStatus :=
  if inputSize ≠ 0 then (.bogusArgs, none)
  else if s.aproResult ≠ .unsupportedTriggered ∧ apRoCheckUnsupported P brd s.page ≠ .ok then
    (.success, some .unsupportedNotTriggered)
  else (.success, some s.aproResult)

/-- `ap_ro_check_callback`, the `VENDOR_CC_AP_RO_VALIDATE` command: refused with an empty
response unless it arrives through the TPM extension of `validate_ap_ro` or the CCD capability
`CCD_CAP_AP_RO_CHECK_VC` is enabled, and otherwise answered with the code `do_ap_ro_check`
returns. -/
def apRoCheckCallback (fromAltIf ccdCapEnabled : Bool) (s : St) :
    VendorCmdRc × Option EcError × St :=
  if !fromAltIf && !ccdCapEnabled then (.notAllowed, none, s)
  else
    let r := doApRoCheck P E s
    (.success, some r.1, r.2)

end

/-! ### The state machine -/

/-- The operations that reach this module, each with the world it runs in. -/
inductive Op where
  /-- `vc_seed_ap_ro_check` with this payload. -/
  | seed (brd : Board) (payload : List UInt8) (faults : Faults)
  /-- `do_ap_ro_check`, from the vendor command, the console or the TPM extension. -/
  | check (E : Env) (faults : Faults)
  /-- `ap_ro_device_reset`. -/
  | deviceReset
  /-- The deferred `keep_ec_in_reset` runs; only a pending call can. -/
  | fire

/-- The state after one operation. -/
def step (P : Platform) (s : St) : Op → St
  | .seed brd buf fs => (vcSeedApRoCheck P brd buf { s with faults := fs }).2
  | .check E fs => (doApRoCheck P E { s with faults := fs, heap.acquire := E.shm }).2
  | .deviceReset => apRoDeviceReset s
  | .fire => if s.holdArmed then keepEcInReset s else s

/-- A verification run is the validate command: an allowed command leaves the state of
`Op.check`, and a refused one leaves the state it was given. -/
theorem apRoCheckCallback_state (P : Platform) (E : Env) (fromAltIf ccdCapEnabled : Bool) (s : St)
    (fs : Faults) :
    (apRoCheckCallback P E fromAltIf ccdCapEnabled { s with faults := fs, heap.acquire := E.shm }).2.2 =
      if !fromAltIf && !ccdCapEnabled then { s with faults := fs, heap.acquire := E.shm }
      else step P s (.check E fs) := by
  unfold apRoCheckCallback
  split <;> rfl

/-- The state after a sequence of operations. -/
def run (P : Platform) (s : St) (ops : List Op) : St := ops.foldl (step P) s

/-- The state the controller starts from: an erased page, nothing run, and the INFO word as
it is. -/
def initial (info : ℕ) : St :=
  ⟨erased, info, .notRun, false, {}, {}, []⟩

/-- The states some sequence of operations reaches from an erased page. -/
def Reachable (P : Platform) (s : St) : Prop := ∃ info ops, run P (initial info) ops = s

@[simp] theorem run_nil (P : Platform) (s : St) : run P s [] = s := rfl

theorem run_append (P : Platform) (s : St) (ops ops' : List Op) :
    run P s (ops ++ ops') = run P (run P s ops) ops' := List.foldl_append _ _ _ _

theorem run_concat (P : Platform) (s : St) (ops : List Op) (op : Op) :
    run P s (ops ++ [op]) = step P (run P s ops) op := by
  simp [run_append, run]

end ApRoIntegrity
