import ApRoIntegrity.Bytes

/-!
# Layout

The constants and C structures of `ap_ro_integrity_check.c`, as views on their bytes.

A structure read from AP flash is kept as the bytes the code read, and each member is the
little-endian field at the member's offset (`field`), which is what a C structure overlaid on
a buffer reads. Keeping the bytes matters: the GVD header is hashed as raw bytes
(`save_gvd_hash`, `gvd_cache_check`, `verify_gvd_signature`), not as its decoded members.
The offsets follow the declarations at the top of the source file; `fmap_header` and
`fmap_area_header` are packed, the others are naturally aligned.

Members that no modelled function reads are not given accessors: `fmap_base`, `fmap_name`,
`area_size`, `area_flags`, `gsc_flags`, `hash_alg`, `major_version`, `minor_version` of the
GVD, `keyblock_flags`, `key_version`, and every `reserved` word.
-/

namespace ApRoIntegrity

/-! ### Constants -/

/-- `LOWEST_FMAP_ALIGNMENT`: the stride of the FMAP scan. -/
def lowestFmapAlignment : ℕ := 4 * 1024

/-- `MAX_SUPPORTED_FLASH_SIZE`. -/
def maxSupportedFlashSize : ℕ := 32 * 1024 * 1024

/-- `MAX_SUPPORTED_RANGE_SIZE`: also the largest single SPI read `read_ap_spi` accepts. -/
def maxSupportedRangeSize : ℕ := 4 * 1024 * 1024

/-- `APRO_MAX_NUM_RANGES`. -/
def aproMaxNumRanges : ℕ := 32

/-- `LOWEST_ACCEPTABLE_GVD_ROLLBACK`. -/
def lowestAcceptableGvdRollback : ℕ := 1

/-- `GSC_VD_MAGIC`, little endian `5afe`. -/
def gscVdMagic : ℕ := 0x65666135

/-- `AP_RO_HASH_LAYOUT_VERSION_1`. -/
def apRoHashLayoutVersion1 : ℕ := 1

/-- `AP_RO_HASH_TYPE_FACTORY`: the V1 scheme. -/
def apRoHashTypeFactory : ℕ := 0

/-- `AP_RO_HASH_TYPE_GSCVD`: the V2 scheme. -/
def apRoHashTypeGscvd : ℕ := 1

/-- `VB2_ALG_RSA4096_SHA256`, the one algorithm `unpack_pubk` accepts. -/
def vb2AlgRsa4096Sha256 : ℕ := 7

/-- `FMAP_SIGNATURE`, `__FMAP__`. -/
def fmapSignature : List UInt8 := [0x5F, 0x5F, 0x46, 0x4D, 0x41, 0x50, 0x5F, 0x5F]

/-- `GSCVD_AREA_NAME` with its terminating NUL: `memcmp` in `find_gscvd` compares
`sizeof(GSCVD_AREA_NAME)`, nine bytes. -/
def gscvdAreaName : List UInt8 := [0x52, 0x4F, 0x5F, 0x47, 0x53, 0x43, 0x56, 0x44, 0x00]

/-- `VB2_KEYBLOCK_MAGIC`, `CHROMEOS`. -/
def vb2KeyblockMagic : List UInt8 := [0x43, 0x48, 0x52, 0x4F, 0x4D, 0x45, 0x4F, 0x53]

/-! ### Flash ranges -/

/-- `struct ro_range`: one span of AP flash covered by a hash. -/
structure RoRange where
  /-- `flash_offset`. -/
  flashOffset : ℕ
  /-- `range_size`. -/
  rangeSize : ℕ
  deriving DecidableEq, Repr

/-- The first `n` `struct ro_range` entries laid out in `bs`. -/
def rangesOf (bs : List UInt8) (n : ℕ) : List RoRange :=
  (List.range n).map fun i => ⟨field bs (8 * i) 4, field bs (8 * i + 4) 4⟩

@[simp] theorem length_rangesOf (bs : List UInt8) (n : ℕ) : (rangesOf bs n).length = n := by
  simp [rangesOf]

/-! ### vboot structures -/

/-- `struct vb2_signature`, 24 bytes. -/
structure Vb2Signature where
  /-- `sig_offset`: from the start of this structure to the signature body. -/
  sigOffset : ℕ
  /-- `sig_size`. -/
  sigSize : ℕ
  /-- `data_size`: how many bytes the signature covers. -/
  dataSize : ℕ

/-- The `vb2_signature` at offset `b` of `s`. -/
def Vb2Signature.read (s : List UInt8) (b : ℕ) : Vb2Signature :=
  ⟨field s b 4, field s (b + 8) 4, field s (b + 16) 4⟩

/-- `struct vb2_packed_key`, 32 bytes. -/
structure Vb2PackedKey where
  /-- `key_offset`: from the start of this structure to the key body. -/
  keyOffset : ℕ
  /-- `key_size`: the size of the key body in bytes. -/
  keySize : ℕ
  /-- `algorithm`. -/
  algorithm : ℕ

/-- The `vb2_packed_key` at offset `b` of `s`. -/
def Vb2PackedKey.read (s : List UInt8) (b : ℕ) : Vb2PackedKey :=
  ⟨field s b 4, field s (b + 8) 4, field s (b + 16) 4⟩

/-- `sizeof(struct vb2_keyblock)`: the header `read_keyblock` reads first. -/
def vb2KeyblockSize : ℕ := 112

/-- A keyblock in the buffer `read_keyblock` allocates: its bytes, header first. -/
structure Vb2Keyblock where
  /-- The buffer's bytes. -/
  bytes : List UInt8

namespace Vb2Keyblock

/-- `magic`. -/
def magic (kb : Vb2Keyblock) : List UInt8 := kb.bytes.take 8

/-- `header_version_major`. -/
def headerVersionMajor (kb : Vb2Keyblock) : ℕ := field kb.bytes 8 4

/-- `header_version_minor`. -/
def headerVersionMinor (kb : Vb2Keyblock) : ℕ := field kb.bytes 12 4

/-- `keyblock_size`: the length of the whole keyblock. -/
def keyblockSize (kb : Vb2Keyblock) : ℕ := field kb.bytes 16 4

/-- Offset of `keyblock_signature`. -/
def keyblockSignatureOffset : ℕ := 24

/-- Offset of `keyblock_hash`. -/
def keyblockHashOffset : ℕ := 48

/-- Offset of `data_key`. -/
def dataKeyOffset : ℕ := 80

/-- `keyblock_signature`. -/
def keyblockSignature (kb : Vb2Keyblock) : Vb2Signature :=
  Vb2Signature.read kb.bytes keyblockSignatureOffset

/-- `keyblock_hash`. -/
def keyblockHash (kb : Vb2Keyblock) : Vb2Signature :=
  Vb2Signature.read kb.bytes keyblockHashOffset

/-- `data_key`. -/
def dataKey (kb : Vb2Keyblock) : Vb2PackedKey := Vb2PackedKey.read kb.bytes dataKeyOffset

end Vb2Keyblock

/-! ### GSC verification data -/

/-- `sizeof(struct gsc_verification_data)`. -/
def gvdSize : ℕ := 152

/-- `offsetof(struct gsc_verification_data, sig_header)`. -/
def sigHeaderOffset : ℕ := 28

/-- `offsetof(struct gsc_verification_data, root_key_header)`. -/
def rootKeyHeaderOffset : ℕ := 52

/-- `struct gsc_verification_data`: the GVD header, as the bytes read from AP flash. -/
structure GscVerificationData where
  /-- The header's bytes. -/
  bytes : List UInt8
  length_bytes : bytes.length = gvdSize

namespace GscVerificationData

/-- Two headers are equal when their bytes are. -/
instance : DecidableEq GscVerificationData := fun a b =>
  decidable_of_iff (a.bytes = b.bytes) ⟨fun h => by cases a; cases b; cases h; rfl, fun h => h ▸ rfl⟩

/-- `gv_magic`. -/
def gvMagic (h : GscVerificationData) : ℕ := field h.bytes 0 4

/-- `size`, a 16-bit count of header, ranges, signature and root key bytes. -/
def size (h : GscVerificationData) : ℕ := field h.bytes 4 2

/-- `rollback_counter`, 16 bits. -/
def rollbackCounter (h : GscVerificationData) : ℕ := field h.bytes 10 2

/-- `gsc_board_id`. -/
def gscBoardId (h : GscVerificationData) : ℕ := field h.bytes 12 4

/-- `fmap_location`. -/
def fmapLocation (h : GscVerificationData) : ℕ := field h.bytes 20 4

/-- `sig_header`. -/
def sigHeader (h : GscVerificationData) : Vb2Signature := Vb2Signature.read h.bytes sigHeaderOffset

/-- `root_key_header`. -/
def rootKeyHeader (h : GscVerificationData) : Vb2PackedKey :=
  Vb2PackedKey.read h.bytes rootKeyHeaderOffset

/-- `ranges_digest`, 64 bytes of which the SHA-256 comparison reads the first 32. -/
def rangesDigest (h : GscVerificationData) : List UInt8 := (h.bytes.drop 84).take 64

/-- `range_count`. -/
def rangeCount (h : GscVerificationData) : ℕ := field h.bytes 148 4

theorem rollbackCounter_lt (h : GscVerificationData) : h.rollbackCounter < 2 ^ 16 :=
  field_lt _ _ _

theorem fmapLocation_lt (h : GscVerificationData) : h.fmapLocation < 2 ^ 32 := field_lt _ _ _

end GscVerificationData

/-! ### FMAP -/

/-- `sizeof(struct fmap_header)`, packed. -/
def fmapHeaderSize : ℕ := 56

/-- `sizeof(struct fmap_area_header)`, packed. -/
def fmapAreaHeaderSize : ℕ := 42

/-- `struct fmap_header`, as the bytes read from AP flash. -/
structure FmapHeader where
  /-- The header's bytes. -/
  bytes : List UInt8

namespace FmapHeader

/-- `fmap_signature`. -/
def fmapSignature (h : FmapHeader) : List UInt8 := h.bytes.take 8

/-- `fmap_ver_major`. -/
def fmapVerMajor (h : FmapHeader) : ℕ := field h.bytes 8 1

/-- `fmap_ver_minor`. -/
def fmapVerMinor (h : FmapHeader) : ℕ := field h.bytes 9 1

/-- `fmap_size`. -/
def fmapSize (h : FmapHeader) : ℕ := field h.bytes 18 4

/-- `fmap_nareas`. -/
def fmapNareas (h : FmapHeader) : ℕ := field h.bytes 54 2

end FmapHeader

/-- `struct fmap_area_header`, as the bytes read from AP flash. -/
structure FmapAreaHeader where
  /-- The area header's bytes. -/
  bytes : List UInt8

namespace FmapAreaHeader

/-- `area_offset`. -/
def areaOffset (a : FmapAreaHeader) : ℕ := field a.bytes 0 4

/-- `area_name`. -/
def areaName (a : FmapAreaHeader) : List UInt8 := (a.bytes.drop 8).take 32

theorem areaOffset_lt (a : FmapAreaHeader) : a.areaOffset < 2 ^ 32 := field_lt _ _ _

end FmapAreaHeader

/-! ### The AP RO check record -/

/-- `sizeof(struct ap_ro_check_header)`. -/
def apRoCheckHeaderSize : ℕ := 8

/-- `sizeof(struct gvd_descriptor)`. -/
def gvdDescriptorSize : ℕ := 44

/-- `sizeof(struct ap_ro_check)`: the header and the larger member of the payload union. -/
def apRoCheckSize : ℕ := apRoCheckHeaderSize + gvdDescriptorSize

/-- `struct gvd_descriptor`: the V2 cache entry. -/
structure GvdDescriptor where
  /-- `fmap_offset`. -/
  fmapOffset : ℕ
  /-- `gvd_offset`. -/
  gvdOffset : ℕ
  /-- `rollback`. -/
  rollback : ℕ
  /-- `digest`: SHA-256 of the GVD header and its ranges. -/
  digest : List UInt8
  deriving DecidableEq

namespace GvdDescriptor

/-- The descriptor's 44 bytes. -/
def toBytes (d : GvdDescriptor) : List UInt8 :=
  toLE 4 d.fmapOffset ++ toLE 4 d.gvdOffset ++ toLE 4 d.rollback ++ d.digest.take 32

/-- The descriptor laid out in `bs`. -/
def ofBytes (bs : List UInt8) : GvdDescriptor :=
  ⟨field bs 0 4, field bs 4 4, field bs 8 4, (bs.drop 12).take 32⟩

/-- A descriptor whose members fit their widths. -/
def Fits (d : GvdDescriptor) : Prop :=
  d.fmapOffset < 2 ^ 32 ∧ d.gvdOffset < 2 ^ 32 ∧ d.rollback < 2 ^ 32 ∧ d.digest.length = 32

theorem length_toBytes {d : GvdDescriptor} (h : d.digest.length = 32) :
    d.toBytes.length = gvdDescriptorSize := by
  simp [toBytes, h, gvdDescriptorSize]

theorem ofBytes_toBytes {d : GvdDescriptor} (h : d.Fits) : ofBytes d.toBytes = d := by
  obtain ⟨h₁, h₂, h₃, h₄⟩ := h
  have e₁ : field d.toBytes 0 4 = d.fmapOffset := by
    rw [toBytes, List.append_assoc, List.append_assoc, field_toLE_append, Nat.mod_eq_of_lt (by simpa using h₁)]
  have e₂ : field d.toBytes 4 4 = d.gvdOffset := by
    rw [toBytes, List.append_assoc, List.append_assoc, field_append_right (by simp)]
    simp only [length_toLE, Nat.sub_self]
    rw [field_toLE_append, Nat.mod_eq_of_lt (by simpa using h₂)]
  have e₃ : field d.toBytes 8 4 = d.rollback := by
    rw [toBytes, List.append_assoc, field_append_right (by simp)]
    simp only [List.length_append, length_toLE]
    rw [field_toLE_append, Nat.mod_eq_of_lt (by simpa using h₃)]
  have e₄ : (d.toBytes.drop 12).take 32 = d.digest := by
    simp [toBytes, h₄, List.take_of_length_le]
  simp only [ofBytes, e₁, e₂, e₃, e₄]

end GvdDescriptor

end ApRoIntegrity
