import ApRoIntegrity.Layout

/-!
# Platform

The collaborators `ap_ro_integrity_check.c` calls but does not implement, and the controller
state it changes.

* `Platform`: SHA-256 and RSA verification as uninterpreted functions, with the two build
  constants the source uses but does not define (`root_key_hash[]`, `CONFIG_FLASH_BANK_SIZE`).
* `ApFlash`: the AP flash as the SPI passthrough shows it during one run. Its bytes are
  arbitrary: AP flash is hostile input. A read can fail (`readOk`).
* `Board`: `read_board_id` and `ap_ro_board_id_blocked()`.
* `Faults`: the outcomes of the fallible calls into the controller's own flash (the INFO word,
  the AP RO data page), one stream per call kind, consumed in call order. An exhausted stream
  succeeds, so `{}` is a run in which nothing fails. A failed write may have programmed a
  prefix of its data; a failed erase changes nothing.
* `Heap`: the shared memory allocator, with the outcomes of `shared_mem_acquire` still to come
  and a log of what is done with the scratch buffers (`MemEvent`).
* `Env`: what one verification run sees besides the controller's state.
* `St`: the H1 flash page `p_chk`, the INFO word, `apro_result`, whether the deferred
  `keep_ec_in_reset` is pending, the flash faults still to come, the heap, and a ghost
  history of what the verifier has established: each GVD, with the offset it was read from,
  whose whole trust chain `check_gscvd` has verified (`Event.verified`), and each factory
  record a seed has written (`Event.seeded`).

The buffer log and the history observe the code; no modelled function reads them. The
functions that work on scratch buffers take and return a `Heap` only, so that they cannot
change anything else.

The hardware SHA engine's initialisation (`DCRYPTO_hw_sha256_init`) is taken to succeed, as
the source's own comment in `verify_signature` says it will. Console output, flash event
logging and the SPI hash shortcut have no effect on anything modelled.
-/

namespace ApRoIntegrity

/-- The cryptographic primitives, uninterpreted, and the build constants the source uses but
does not define. -/
structure Platform where
  /-- SHA-256, as `DCRYPTO_SHA256_hash`, the `SHA256_*` context calls and the SPI passthrough's
  streaming hash compute it. -/
  sha256 : List UInt8 → List UInt8
  length_sha256 : ∀ m, (sha256 m).length = 32
  /-- `DCRYPTO_rsa_verify` with exponent 65537, PKCS #1 padding and SHA-256: does `sig` sign
  `digest` under the key whose modulus words are `n`? -/
  rsaVerify : (n : List UInt8) → (digest : List UInt8) → (sig : List UInt8) → Bool
  /-- `root_key_hash[]`, built in by the signer. -/
  rootKeyHash : List UInt8
  length_rootKeyHash : rootKeyHash.length = 32
  /-- `CONFIG_FLASH_BANK_SIZE`. -/
  flashBankSize : ℕ

/-- The AP flash during one run. -/
structure ApFlash where
  /-- The byte at each offset. -/
  byte : ℕ → UInt8
  /-- Whether `usb_spi_read_buffer` of `size` bytes at `offset` succeeds. -/
  readOk : (offset size : ℕ) → Bool

/-- `read_ap_spi`: reads of more than `MAX_SUPPORTED_RANGE_SIZE` bytes are refused. -/
def readApSpi (f : ApFlash) (offset size : ℕ) : Option (List UInt8) :=
  if maxSupportedRangeSize < size then none
  else if f.readOk offset size then some (readMem f.byte offset size) else none

theorem readApSpi_eq_some {f : ApFlash} {offset size : ℕ} {bs : List UInt8} :
    readApSpi f offset size = some bs ↔
      size ≤ maxSupportedRangeSize ∧ f.readOk offset size ∧ bs = readMem f.byte offset size := by
  unfold readApSpi
  by_cases h₁ : maxSupportedRangeSize < size
  · simp [h₁, Nat.not_le.mpr h₁]
  · by_cases h₂ : f.readOk offset size <;> simp [h₁, h₂, Nat.not_lt.mp h₁, eq_comm]

theorem length_of_readApSpi {f : ApFlash} {offset size : ℕ} {bs : List UInt8}
    (h : readApSpi f offset size = some bs) : bs.length = size := by
  rw [(readApSpi_eq_some.mp h).2.2, length_readMem]

/-- The bytes of `f` over the ranges, in order: what `usb_spi_sha256_update` feeds the hash. -/
def ApFlash.rangeBytes (f : ApFlash) (rs : List RoRange) : List UInt8 :=
  rs.flatMap fun r => readMem f.byte r.flashOffset r.rangeSize

/-- `struct board_id`, as far as this module reads it. -/
structure BoardId where
  /-- `type`. -/
  type : ℕ
  /-- `board_id_type_is_blank()`. -/
  typeIsBlank : Bool

/-- The board's answers during one operation. -/
structure Board where
  /-- `read_board_id`: `none` when the read fails. -/
  boardId : Option BoardId
  /-- `ap_ro_board_id_blocked()`. -/
  bidBlocked : Bool

/-- Outcomes of the fallible calls into the controller's own flash, in call order; an
exhausted stream succeeds. -/
structure Faults where
  /-- `flash_physical_info_read_word` succeeds. -/
  infoRead : List Bool := []
  /-- `flash_info_physical_write`: `none` on success, `some k` when it fails after programming
  `k` bytes. -/
  infoWrite : List (Option ℕ) := []
  /-- `flash_physical_erase` of the AP RO data space succeeds. -/
  erase : List Bool := []
  /-- `flash_physical_write` to the AP RO data space: `none` on success, `some k` when it fails
  after programming the first `k` bytes. -/
  write : List (Option ℕ) := []

/-- The scratch buffers obtained from `shared_mem_acquire`. -/
inductive Buf where
  /-- `kbc->kb`, from `read_keyblock`. -/
  | keyblock
  /-- `rootk`, from `read_rootk`. -/
  | rootKey
  /-- `sig_body`, from `verify_gvd_signature`. -/
  | sigBody
  deriving DecidableEq, Repr

/-- What is done with the scratch buffers. -/
inductive MemEvent where
  /-- `shared_mem_acquire(n)` gave buffer `b`. -/
  | acquire (b : Buf) (n : ℕ)
  /-- Bytes `[lo, hi)` of buffer `b`, of `n` bytes, are read or written. -/
  | access (b : Buf) (n lo hi : ℕ)
  /-- `shared_mem_release(b)`. -/
  | release (b : Buf)
  deriving DecidableEq, Repr

/-- The shared memory allocator: the outcomes of `shared_mem_acquire` still to come, in call
order, and the buffer events so far. -/
structure Heap where
  /-- `shared_mem_acquire` succeeds. -/
  acquire : List Bool := []
  /-- The buffer events so far. -/
  log : List MemEvent := []

namespace Heap

/-- Record a buffer event. -/
def emit (m : Heap) (e : MemEvent) : Heap := { m with log := m.log ++ [e] }

/-- `shared_mem_acquire(n)` for buffer `b`: its outcome, and on success the record of it. -/
def shmAcquire (b : Buf) (n : ℕ) (m : Heap) : Bool × Heap :=
  let ok := m.acquire.headD true
  let m := { m with acquire := m.acquire.tail }
  (ok, if ok then m.emit (.acquire b n) else m)

/-- `shared_mem_release(b)`. -/
def shmRelease (b : Buf) (m : Heap) : Heap := m.emit (.release b)

end Heap

/-- What one verification run sees of the world besides the controller's own state. -/
structure Env where
  /-- The AP flash. -/
  flash : ApFlash
  /-- The board's answers. -/
  board : Board
  /-- The outcomes of `shared_mem_acquire` during the run. -/
  shm : List Bool
  /-- The address `shared_mem_acquire` gives each buffer. -/
  bufAddr : Buf → ℕ
  /-- The bytes that follow each buffer in memory: what a read past its end sees. -/
  beyond : Buf → ℕ → UInt8

/-- What a run has established, recorded where the source establishes it. -/
inductive Event where
  /-- `check_gscvd` has verified the whole chain on the GVD header `h` read at `offset` and the
  range bytes `ranges` that followed it. -/
  | verified (offset : ℕ) (h : GscVerificationData) (ranges : List UInt8)
  /-- `vc_seed_ap_ro_check` has programmed this payload and returned `VENDOR_RC_SUCCESS`. -/
  | seeded (payload : List UInt8)

/-- `enum ap_ro_status`, the values this module stores in `apro_result`. -/
inductive ApRoStatus where
  | notRun
  | pass
  | fail
  | unsupportedNotTriggered
  | unsupportedTriggered
  deriving DecidableEq, Repr

/-- The controller state the verifier reads and changes. -/
structure St where
  /-- The H1 flash page holding `struct ap_ro_check`, `p_chk`. -/
  page : ℕ → UInt8
  /-- The INFO word at `INFO_APRV_DATA_OFFSET`; zero means checks are required. -/
  info : ℕ
  /-- `apro_result`. -/
  aproResult : ApRoStatus
  /-- Whether the deferred `keep_ec_in_reset` call is pending. -/
  holdArmed : Bool
  /-- Outcomes of the fallible flash calls still to come. -/
  faults : Faults
  /-- The shared memory allocator. -/
  heap : Heap
  /-- What the runs so far have established, in order. -/
  history : List Event

namespace St

/-- `check_is_required`: a failed read of the INFO word counts as required. -/
def checkIsRequired (s : St) : Bool × St :=
  (s.info == 0 || !s.faults.infoRead.headD true,
    { s with faults := { s.faults with infoRead := s.faults.infoRead.tail } })

/-- `require_future_checks`: program the INFO word with zero. A write that fails after `k`
bytes has cleared the `k` low bytes. -/
def requireFutureChecks (s : St) : Bool × St :=
  let o := s.faults.infoWrite.headD none
  let s := { s with faults := { s.faults with infoWrite := s.faults.infoWrite.tail } }
  match o with
  | none => (true, { s with info := 0 })
  | some k => (false, { s with info := s.info / 256 ^ k * 256 ^ k })

/-- `ap_ro_erase_hash`: erase the AP RO data space. -/
def apRoEraseHash (s : St) : Bool × St :=
  let ok := s.faults.erase.headD true
  let s := { s with faults := { s.faults with erase := s.faults.erase.tail } }
  (ok, if ok then { s with page := erased } else s)

/-- `flash_physical_write` of `data` at offset `off` of the AP RO data space. -/
def pageWrite (off : ℕ) (data : List UInt8) (s : St) : Bool × St :=
  let o := s.faults.write.headD none
  let s := { s with faults := { s.faults with write := s.faults.write.tail } }
  match o with
  | none => (true, { s with page := program s.page off data })
  | some k => (false, { s with page := program s.page off (data.take k) })

/-- Record what a run has established. -/
def record (s : St) (e : Event) : St := { s with history := s.history ++ [e] }

end St

end ApRoIntegrity
