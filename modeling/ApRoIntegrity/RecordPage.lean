import ApRoIntegrity.Platform

/-!
# The AP RO check record

`struct ap_ro_check` in the H1 flash page (`p_chk`), and the functions that write and check
it: the factory seeding command `vc_seed_ap_ro_check`, the V1 integrity check
`verify_ap_ro_check_space`, the V2 lookup `find_v2_entry`, `ap_ro_check_unsupported`, and the
V2 cache writer `save_gvd_hash`.

The record is an 8-byte header `{version, type, num_ranges, checksum}` followed by a union:
the V1 payload (a digest and `num_ranges` ranges) or the V2 descriptor. The checksum is the
first four bytes of the SHA-256 of the payload or of the descriptor. The seeding command is
modelled as a production build (`CR50_DEV` undefined), where it checks the Board ID first.

## What is proved here

* `findV2Entry_of_bytesAt`: a page holding the 52 bytes `save_gvd_hash` writes gives back the
  descriptor they encode (the codec round trip, for every descriptor that fits its fields).

What the two writers leave on the page is proved in `Run` (`vcSeedApRoCheck_cases`,
`saveGvdHash_snd`) and read back in `Soundness`.
-/

namespace ApRoIntegrity

/-! ### Reading `p_chk` -/

/-- `p_chk->header.version`. -/
def pageVersion (p : ℕ → UInt8) : ℕ := (p 0).toNat

/-- `p_chk->header.type`. -/
def pageType (p : ℕ → UInt8) : ℕ := (p 1).toNat

/-- `p_chk->header.num_ranges`. -/
def pageNumRanges (p : ℕ → UInt8) : ℕ := ofLE (readMem p 2 2)

/-- `p_chk->header.checksum`, as its four bytes. -/
def pageChecksum (p : ℕ → UInt8) : List UInt8 := readMem p 4 4

/-- `p_chk->payload`, a digest and `n` ranges: its `8 * n + 32` bytes. -/
def pagePayload (p : ℕ → UInt8) (n : ℕ) : List UInt8 := readMem p 8 (8 * n + 32)

/-- `p_chk->payload.digest`. -/
def pageDigest (p : ℕ → UInt8) : List UInt8 := readMem p 8 32

/-- The first `n` entries of `p_chk->payload.ranges`. -/
def pageRanges (p : ℕ → UInt8) (n : ℕ) : List RoRange := rangesOf (readMem p 40 (8 * n)) n

/-- `p_chk->descriptor`, as its bytes. -/
def pageDescriptor (p : ℕ → UInt8) : List UInt8 := readMem p 8 gvdDescriptorSize

/-! ### Return codes -/

/-- `enum ap_ro_check_vc_errors`. -/
inductive ApRoCheckVcErrors where
  | ok
  | tooShort
  | badPayloadSize
  | tooManyRanges
  | notProgrammed
  | flashReadFailed
  | flashWriteFailed
  | badRangeSize
  | badOffset
  | alreadyProgrammed
  | flashEraseFailed
  | bidProgrammed
  | boardIdBlocked
  deriving DecidableEq, Repr

/-- `enum vendor_cmd_rc`, the codes the modelled commands return. -/
inductive VendorCmdRc where
  | success
  | notAllowed
  | bogusArgs
  | internalError
  | writeFlashFail
  deriving DecidableEq, Repr

/-! ### Seeding the V1 record -/

/-- The range checks of `vc_seed_ap_ro_check`, in order: the first that fails. The offset
bound adds two `uint32_t` values. -/
def seedRangeError : List RoRange → Option ApRoCheckVcErrors
  | [] => none
  | r :: rs =>
    if maxSupportedRangeSize < r.rangeSize then some .badRangeSize
    else if maxSupportedFlashSize < u32 (r.flashOffset + r.rangeSize) then some .badOffset
    else seedRangeError rs

/-- The header `vc_seed_ap_ro_check` writes for a payload of `n` ranges: layout version 1,
type `AP_RO_HASH_TYPE_FACTORY`, and the truncated SHA-256 of the payload. -/
def seedHeader (P : Platform) (buf : List UInt8) (n : ℕ) : List UInt8 :=
  [1, 0] ++ toLE 2 n ++ (P.sha256 buf).take 4

/-- `vc_seed_ap_ro_check` on the payload `buf` (`input_size` is its length): the command's
return code, the error byte it responds with, if any, and the state after it. -/
def vcSeedApRoCheck (P : Platform) (brd : Board) (buf : List UInt8) (s : St) :
    (VendorCmdRc × Option ApRoCheckVcErrors) × St :=
  if brd.boardId.map BoardId.typeIsBlank ≠ some true then
    ((.notAllowed, some .bidProgrammed), s)
  else if buf.length = 0 then
    let erase := s.apRoEraseHash
    (if erase.1 then (.success, none) else (.internalError, some .flashEraseFailed), erase.2)
  else if buf.length < 32 + 8 then ((.bogusArgs, some .tooShort), s)
  else if (buf.length - 32) % 8 ≠ 0 then ((.bogusArgs, some .badPayloadSize), s)
  else
    let n := (buf.length - 32) / 8
    if aproMaxNumRanges < n then ((.bogusArgs, some .tooManyRanges), s)
    else match seedRangeError (rangesOf (buf.drop 32) n) with
    | some e => ((.bogusArgs, some e), s)
    | none =>
      let progSize := apRoCheckHeaderSize + buf.length
      if (readMem s.page 0 (progSize / 4 * 4)).all (· == 0xFF) = false then
        ((.notAllowed, some .alreadyProgrammed), s)
      else
        let header := s.pageWrite 0 (seedHeader P buf n)
        if header.1 then
          let payload := header.2.pageWrite apRoCheckHeaderSize buf
          if payload.1 then ((.success, none), payload.2.record (.seeded buf))
          else ((.writeFlashFail, some .flashWriteFailed), payload.2)
        else ((.writeFlashFail, some .flashWriteFailed), header.2)

/-! ### Checking the record -/

/-- `verify_ap_ro_check_space`: a V1 record whose checksum matches its payload. -/
def verifyApRoCheckSpace (P : Platform) (p : ℕ → UInt8) : Bool :=
  pageType p == apRoHashTypeFactory &&
    decide (8 * pageNumRanges p + 32 ≤ P.flashBankSize) &&
    (P.sha256 (pagePayload p (pageNumRanges p))).take 4 == pageChecksum p

/-- `find_v2_entry`: the V2 descriptor, when the page holds one whose checksum matches. -/
def findV2Entry (P : Platform) (p : ℕ → UInt8) : Option GvdDescriptor :=
  if pageVersion p < apRoHashLayoutVersion1 ∨ pageType p ≠ apRoHashTypeGscvd then none
  else if (P.sha256 (pageDescriptor p)).take 4 = pageChecksum p then
    some (GvdDescriptor.ofBytes (pageDescriptor p))
  else none

/-- `ap_ro_check_unsupported`: why verification cannot run, or `ok`. -/
def apRoCheckUnsupported (P : Platform) (brd : Board) (p : ℕ → UInt8) : ApRoCheckVcErrors :=
  if brd.bidBlocked then .boardIdBlocked
  else if pageNumRanges p = 0xFFFF then .notProgrammed
  else if (findV2Entry P p).isNone ∧ verifyApRoCheckSpace P p = false then .flashReadFailed
  else .ok

/-! ### Saving the V2 descriptor -/

/-- The 52 bytes `save_gvd_hash` writes for a descriptor: layout version 1, type
`AP_RO_HASH_TYPE_GSCVD`, zero ranges, the truncated SHA-256 of the descriptor, and the
descriptor. -/
def gvdRecord (P : Platform) (d : GvdDescriptor) : List UInt8 :=
  [1, 1] ++ toLE 2 0 ++ (P.sha256 d.toBytes).take 4 ++ d.toBytes

/-- The descriptor `save_gvd_hash` builds for the GVD header `h` at `offset` and its range
bytes `ranges`. -/
def gvdDescriptorOf (P : Platform) (offset : ℕ) (h : GscVerificationData)
    (ranges : List UInt8) : GvdDescriptor :=
  ⟨h.fmapLocation, offset, h.rollbackCounter, P.sha256 (h.bytes ++ ranges)⟩

/-- `save_gvd_hash`: refuse a rollback counter below the floor; otherwise erase the page
unless its `num_ranges` reads as erased, ignoring the erase's outcome, and write the record.
`true` is the zero return. -/
def saveGvdHash (P : Platform) (offset : ℕ) (h : GscVerificationData) (ranges : List UInt8)
    (s : St) : Bool × St :=
  if h.rollbackCounter < lowestAcceptableGvdRollback then (false, s)
  else
    let s := if pageNumRanges s.page ≠ 0xFFFF then s.apRoEraseHash.2 else s
    s.pageWrite 0 (gvdRecord P (gvdDescriptorOf P offset h ranges))

/-! ### The descriptor round trip -/

theorem gvdDescriptorOf_fits (P : Platform) {offset : ℕ} (ho : offset < 2 ^ 32)
    (h : GscVerificationData) (ranges : List UInt8) : (gvdDescriptorOf P offset h ranges).Fits :=
  ⟨h.fmapLocation_lt, ho, lt_trans h.rollbackCounter_lt (by decide), P.length_sha256 _⟩

/-- **Round trip**: a page that holds the bytes `save_gvd_hash` writes for a descriptor gives
that descriptor back through `find_v2_entry`. -/
theorem findV2Entry_of_bytesAt (P : Platform) {p : ℕ → UInt8} {d : GvdDescriptor}
    (hd : d.Fits) (h : BytesAt p 0 (gvdRecord P d)) : findV2Entry P p = some d := by
  simp only [gvdRecord, BytesAt.append] at h
  obtain ⟨⟨⟨hvt, -⟩, hck⟩, hdesc⟩ := h
  have e₀ : p 0 = 1 := hvt 0 (by simp)
  have e₁ : p 1 = 1 := hvt 1 (by simp)
  have ed : pageDescriptor p = d.toBytes := by
    have := readMem_of_bytesAt hdesc
    simpa [GvdDescriptor.length_toBytes hd.2.2.2, P.length_sha256] using this
  have ec : pageChecksum p = (P.sha256 d.toBytes).take 4 := by
    have := readMem_of_bytesAt hck
    simpa [P.length_sha256] using this
  simp [findV2Entry, pageVersion, pageType, e₀, e₁, ed, ec, apRoHashLayoutVersion1,
    apRoHashTypeGscvd, GvdDescriptor.ofBytes_toBytes hd]

end ApRoIntegrity
