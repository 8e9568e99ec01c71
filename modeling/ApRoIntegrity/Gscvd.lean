import ApRoIntegrity.RecordPage

/-!
# Verifying the GSC verification data

`check_gscvd` and the functions it calls, which walk the V2 trust chain of one RO_GSCVD area:
the GVD header and its ranges, the keyblock after them, the root key whose hash is pinned at
build time, the keyblock's signature under the root key, the GVD's signature under the
keyblock's data key, and the hash of the AP flash ranges the GVD lists. On success the
INFO word is set so that checks are required from then on, and the GVD's hash is cached in
the H1 flash page.

Pointers into the scratch buffers are kept as offsets from the buffer's start. The functions
that use the buffers work on the `Heap` alone. Each access to a buffer is logged with the
buffer's size (`MemEvent.access`), and a read past the end of a buffer sees the bytes that
follow it in memory (`Env.beyond`). `element_fits` is computed on 32-bit addresses, with the
keyblock buffer at the address the allocator gave it (`Env.bufAddr`).

`check_gscvd` is split in two: `verifyChain` runs the signature chain on the heap, from
`read_keyblock` to `verify_gvd_signature`, and `checkGscvd` reads the GVD, validates the
ranges and commits. The keyblock release at the `exit` label is applied before the commit;
the commit does not touch the heap, so the order of the two does not matter.
-/

namespace ApRoIntegrity

/-- `enum ap_ro_check_result`. -/
inductive ApRoCheckResult where
  | notFound
  | failed
  | succeeded
  deriving DecidableEq, Repr

/-- `expected_size` in `read_gscvd_header`: header, ranges, signature and root key, summed in
`uint32_t`. -/
def GscVerificationData.expectedSize (h : GscVerificationData) : ℕ :=
  u32 (gvdSize + 8 * h.rangeCount + h.sigHeader.sigSize + h.rootKeyHeader.keySize)

/-- `element_fits` on 32-bit addresses: is the data of the element at address `el`, `dataSize`
bytes from `dataOffset` past `el`, inside the keyblock at address `kb` of `size` bytes? -/
def elementFits (kb size el dataOffset dataSize : ℕ) : Bool :=
  let headroom := u32 (kb + size + 2 ^ 32 - el)
  (decide (kb < el) && decide (el < u32 (kb + size))) && decide (dataOffset < headroom) &&
    decide (dataSize ≤ u32 (headroom + 2 ^ 32 - dataOffset))

/-- The three `element_fits` checks of `read_keyblock`, on the keyblock at address `a`. -/
def keyblockFits (a : ℕ) (kb : Vb2Keyblock) : Bool :=
  elementFits a kb.keyblockSize (u32 (a + Vb2Keyblock.keyblockSignatureOffset))
      kb.keyblockSignature.sigOffset kb.keyblockSignature.sigSize &&
    elementFits a kb.keyblockSize (u32 (a + Vb2Keyblock.keyblockHashOffset))
      kb.keyblockHash.sigOffset kb.keyblockHash.sigSize &&
    elementFits a kb.keyblockSize (u32 (a + Vb2Keyblock.dataKeyOffset))
      kb.dataKey.keyOffset kb.dataKey.keySize

/-- `exp_sig_size` of `unpack_pubk` for RSA-4096: the modulus size in bytes. -/
def rsa4096ModulusSize : ℕ := 512

section

variable (P : Platform) (E : Env)

/-- `len` bytes from offset `off` of buffer `b` holding `bs`, past its end included. -/
def Env.peek (b : Buf) (bs : List UInt8) (off len : ℕ) : List UInt8 :=
  readMem (bufMem bs (E.beyond b)) off len

/-! ### Reading the GVD -/

/-- `read_gscvd_header`: the header at `offset`, if its magic and size are consistent, it
names the FMAP at `fmapOffset`, and it is bound to this board's Board ID type. -/
def readGscvdHeader (fmapOffset offset : ℕ) : Option GscVerificationData :=
  match hr : readApSpi E.flash offset gvdSize with
  | none => none
  | some bs =>
    let h : GscVerificationData := ⟨bs, length_of_readApSpi hr⟩
    if h.gvMagic ≠ gscVdMagic ∨ h.size ≠ h.expectedSize ∨ h.fmapLocation ≠ fmapOffset then none
    else if E.board.boardId.map BoardId.type = some h.gscBoardId then some h else none

/-- `read_ranges`: the `range_count` ranges after the header, at most `APRO_MAX_NUM_RANGES`. -/
def readRanges (offset : ℕ) (h : GscVerificationData) : Option (List UInt8) :=
  if aproMaxNumRanges < h.rangeCount then none
  else readApSpi E.flash (u32 (offset + gvdSize)) (8 * h.rangeCount)

/-- The part of `read_keyblock` after the allocation of the buffer for the keyblock whose
header `hdr` was read at `offset`: copy the header in, read the `restSize` bytes after it, and
check the versions and that the signature, the hash and the data key fit. -/
def readKeyblockRest (offset : ℕ) (hdr : List UInt8) (restSize : ℕ) (m : Heap) :
    Option Vb2Keyblock × Heap :=
  let hk : Vb2Keyblock := ⟨hdr⟩
  let ks := hk.keyblockSize
  let m := m.emit (.access .keyblock ks 0 vb2KeyblockSize)
  let m := if restSize ≤ maxSupportedRangeSize then
    m.emit (.access .keyblock ks vb2KeyblockSize (vb2KeyblockSize + restSize)) else m
  match readApSpi E.flash (u32 (offset + vb2KeyblockSize)) restSize with
  | none => (none, m)
  | some rest =>
    if hk.headerVersionMajor ≠ 2 ∨ hk.headerVersionMinor ≠ 1 then (none, m)
    else
      let m := m.emit (.access .keyblock ks 16 vb2KeyblockSize)
      if keyblockFits (E.bufAddr .keyblock) ⟨hdr ++ rest⟩ then (some ⟨hdr ++ rest⟩, m)
      else (none, m)

/-- `read_keyblock`: read the header, check its magic, allocate `keyblock_size` bytes, and read
the rest, whose size is `keyblock_size - sizeof(kb)` in 32 bits (`readKeyblockRest`). After a
failure past the allocation the buffer stays allocated. -/
def readKeyblock (offset : ℕ) (m : Heap) : Option Vb2Keyblock × Heap :=
  match readApSpi E.flash offset vb2KeyblockSize with
  | none => (none, m)
  | some hdr =>
    if (Vb2Keyblock.mk hdr).magic ≠ vb2KeyblockMagic then (none, m)
    else
      match m.shmAcquire .keyblock (Vb2Keyblock.mk hdr).keyblockSize with
      | (false, m) => (none, m)
      | (true, m) => readKeyblockRest E offset hdr
          (u32 ((Vb2Keyblock.mk hdr).keyblockSize + 2 ^ 32 - vb2KeyblockSize)) m

/-- The root key buffer of `read_rootk` once it holds the key: the root key header with
`key_offset` set to `sizeof(*rootk)`, then the key body. -/
def rootkBuffer (h : GscVerificationData) (body : List UInt8) : List UInt8 :=
  toLE 4 32 ++ (h.bytes.drop (rootKeyHeaderOffset + 4)).take 28 ++ body

/-- `read_rootk`: allocate `sizeof(*rootk) + key_size` bytes, computed in the 32-bit `size_t`,
copy the root key header in, read the key body after it, and compare the body's SHA-256 with
`root_key_hash`. Only a successful call hands the buffer to the caller. -/
def readRootk (offset : ℕ) (h : GscVerificationData) (m : Heap) : Option (List UInt8) × Heap :=
  let k := h.rootKeyHeader
  let total := u32 (32 + k.keySize)
  match m.shmAcquire .rootKey total with
  | (false, m) => (none, m)
  | (true, m) =>
    let m := m.emit (.access .rootKey total 0 32)
    let m := if k.keySize ≤ maxSupportedRangeSize then
      m.emit (.access .rootKey total 32 (32 + k.keySize)) else m
    match readApSpi E.flash (u32 (offset + rootKeyHeaderOffset + k.keyOffset)) k.keySize with
    | none => (none, m)
    | some body =>
      let m := (m.emit (.access .rootKey total 8 12)).emit
        (.access .rootKey total 32 (32 + k.keySize))
      if P.sha256 body ≠ P.rootKeyHash then (none, m)
      else (some (rootkBuffer h body), m.emit (.access .rootKey total 0 4))

/-! ### Keys and signatures -/

/-- `unpack_pubk` for the packed key at offset `base` of buffer `b` (`n` bytes holding `bs`):
the offset of the key's modulus words. The algorithm must be `VB2_ALG_RSA4096_SHA256`, the key
size `512 * 2 + 8` and the stored word count `512 / 4`. -/
def unpackPubk (b : Buf) (n : ℕ) (bs : List UInt8) (base : ℕ) (m : Heap) : Option ℕ × Heap :=
  let k := Vb2PackedKey.read bs base
  let m := m.emit (.access b n base (base + 32))
  if k.algorithm ≠ vb2AlgRsa4096Sha256 ∨ k.keySize ≠ rsa4096ModulusSize * 2 + 8 then (none, m)
  else
    let w := base + k.keyOffset
    let m := m.emit (.access b n w (w + 4))
    if ofLE (E.peek b bs w 4) ≠ rsa4096ModulusSize / 4 then (none, m) else (some (w + 8), m)

/-- `verify_signature`: the RSA signature `sig`, on the SHA-256 of `msg`, under the key with
modulus `modulus`. -/
def verifySignature (msg modulus sig : List UInt8) : Bool :=
  P.rsaVerify modulus (P.sha256 msg) sig

/-- `verify_keyblock`: the keyblock's first `data_size` bytes, signed under the root key whose
modulus is at `mo` in the root key buffer `rk` of `rkSize` bytes. -/
def verifyKeyblock (kb : Vb2Keyblock) (rk : List UInt8) (rkSize mo : ℕ) (m : Heap) :
    Bool × Heap :=
  let ks := kb.keyblockSize
  let sig := kb.keyblockSignature
  let lo := Vb2Keyblock.keyblockSignatureOffset + sig.sigOffset
  let m := (((m.emit (.access .keyblock ks 24 48)).emit (.access .keyblock ks 0 sig.dataSize)).emit
    (.access .rootKey rkSize mo (mo + rsa4096ModulusSize))).emit
    (.access .keyblock ks lo (lo + sig.sigSize))
  (verifySignature P (E.peek .keyblock kb.bytes 0 sig.dataSize)
    (E.peek .rootKey rk mo rsa4096ModulusSize) (E.peek .keyblock kb.bytes lo sig.sigSize), m)

/-- `verify_gvd_signature`: the GVD header and its ranges, signed under the keyblock's data
key. The signature body is read from AP flash into a buffer of its own. -/
def verifyGvdSignature (offset : ℕ) (h : GscVerificationData) (ranges : List UInt8)
    (kb : Vb2Keyblock) (m : Heap) : Bool × Heap :=
  let ks := kb.keyblockSize
  match unpackPubk E .keyblock ks kb.bytes Vb2Keyblock.dataKeyOffset m with
  | (none, m) => (false, m)
  | (some mo, m) =>
    let sz := h.sigHeader.sigSize
    match m.shmAcquire .sigBody sz with
    | (false, m) => (false, m)
    | (true, m) =>
      let m := if sz ≤ maxSupportedRangeSize then m.emit (.access .sigBody sz 0 sz) else m
      match readApSpi E.flash (u32 (offset + sigHeaderOffset + h.sigHeader.sigOffset)) sz with
      | none => (false, m.shmRelease .sigBody)
      | some sig =>
        let m := (m.emit (.access .keyblock ks mo (mo + rsa4096ModulusSize))).emit
          (.access .sigBody sz 0 sz)
        (verifySignature P (h.bytes ++ ranges) (E.peek .keyblock kb.bytes mo rsa4096ModulusSize)
          sig, m.shmRelease .sigBody)

/-- `validate_ranges_sha`: the SHA-256 of the AP flash over the ranges, against the first
32 bytes of the expected digest. -/
def validateRangesSha (ranges : List RoRange) (expectedDigest : List UInt8) : ApRoCheckResult :=
  if P.sha256 (E.flash.rangeBytes ranges) = expectedDigest.take 32 then .succeeded else .failed

/-! ### `check_gscvd` -/

/-- The signature chain of `check_gscvd`, from `read_keyblock` to `verify_gvd_signature`, on the
heap: `true` when it holds, in which case the keyblock buffer is still allocated. The releases
on the failure paths are those of the source: none when `read_keyblock` or
`verify_gvd_signature` fails, the keyblock's when `read_rootk` fails, and both buffers, the
keyblock's first, when `unpack_pubk` or `verify_keyblock` fails. -/
def verifyChain (offset : ℕ) (h : GscVerificationData) (ranges : List UInt8) (m : Heap) :
    Bool × Heap :=
  match readKeyblock E (u32 (offset + h.size)) m with
  | (none, m) => (false, m)
  | (some kb, m) =>
    match readRootk P E offset h m with
    | (none, m) => (false, m.shmRelease .keyblock)
    | (some rk, m) =>
      let rkSize := u32 (32 + h.rootKeyHeader.keySize)
      match unpackPubk E .rootKey rkSize rk 0 m with
      | (none, m) => (false, (m.shmRelease .keyblock).shmRelease .rootKey)
      | (some mo, m) =>
        match verifyKeyblock P E kb rk rkSize mo m with
        | (false, m) => (false, (m.shmRelease .keyblock).shmRelease .rootKey)
        | (true, m) => verifyGvdSignature P E offset h ranges kb (m.shmRelease .rootKey)

/-- The `rv == ROV_SUCCEEDED` block of `check_gscvd`: unless checks are already required, set
the INFO word so that they are from now on; then cache the GVD's hash. -/
def commitGscvd (offset : ℕ) (h : GscVerificationData) (ranges : List UInt8) (s : St) :
    ApRoCheckResult × St :=
  let required := s.checkIsRequired
  let written := if required.1 then (true, required.2) else required.2.requireFutureChecks
  if written.1 then
    let saved := saveGvdHash P offset h ranges written.2
    (if saved.1 then .succeeded else .failed, saved.2)
  else (.failed, written.2)

/-- `check_gscvd`: verify the RO_GSCVD area at `gscvdOffset` under the FMAP at `fmapOffset`.
Once the chain and the ranges are verified, the history records it. -/
def checkGscvd (fmapOffset gscvdOffset : ℕ) (s : St) : ApRoCheckResult × St :=
  match readGscvdHeader E fmapOffset gscvdOffset with
  | none => (.notFound, s)
  | some h =>
    match readRanges E gscvdOffset h with
    | none => (.failed, s)
    | some ranges =>
      match verifyChain P E gscvdOffset h ranges s.heap with
      | (false, m) => (.failed, { s with heap := m })
      | (true, m) =>
        let s := { s with heap := m.shmRelease .keyblock }
        match validateRangesSha P E (rangesOf ranges h.rangeCount) h.rangesDigest with
        | .succeeded =>
          commitGscvd P gscvdOffset h ranges (s.record (.verified gscvdOffset h ranges))
        | rv => (rv, s)

end

end ApRoIntegrity
