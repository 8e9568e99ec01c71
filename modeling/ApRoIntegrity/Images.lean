import ApRoIntegrity.Run

/-!
# AP flash images

A platform and AP flash images to run the verifier on, and what the full scan does on images
with at most one FMAP.

* `toy`: a stand-in for the cryptographic primitives. Its SHA-256 keeps the first 32 bytes of
  its input, padded with zeros, and its RSA verification accepts every signature. It is not a
  model of the real primitives: it exhibits runs in which the code's own checks decide the
  outcome, not the strength of SHA-256 or RSA.
* `signedImage`: an image laid out as the signer lays it out. An FMAP at offset 0 names an
  RO_GSCVD area at `0x100`; the GVD there has no ranges and is followed by its signature, the
  root key and a keyblock whose data key is the keyblock's tail. The FMAP's presence, the GVD's
  rollback counter, the keyblock's size and the size its signature covers are parameters.
* `scanFrom_noFmap`: on an image with no FMAP signature at any probed offset, the scan returns
  `ROV_NOT_FOUND` (or `ROV_FAILED` once an area was found) and changes nothing.
* `scanFrom_single`: on an image whose only FMAP is at the first probe, the scan is one
  `check_gscvd` call.
-/

namespace ApRoIntegrity

/-! ### A platform -/

/-- The stand-in SHA-256: the first 32 bytes of the message, padded with zeros. -/
def toySha (m : List UInt8) : List UInt8 := m.take 32 ++ List.replicate (32 - (m.take 32).length) 0

/-- A platform whose primitives decide nothing: `toySha`, an RSA verification that accepts every
signature, and the root key hash of `signedImage`'s root key. -/
def toy : Platform :=
  ⟨toySha, by intro m; simp [toySha], fun _ _ _ => true, 0x80 :: List.replicate 31 0, by simp,
    2048⟩

/-! ### Images without an FMAP -/

section

variable (P : Platform) (E : Env)

theorem readMem_erased (a n : ℕ) : readMem erased a n = List.replicate n 0xFF := by
  simp [readMem, erased, List.eq_replicate_iff]

/-- None of the `k` offsets the scan probes from `offset` holds the FMAP signature. -/
def NoFmap (f : ApFlash) (offset k : ℕ) : Prop :=
  ∀ i < k, ∃ sig, readApSpi f (offset + i * lowestFmapAlignment) 8 = some sig ∧
    sig ≠ fmapSignature

theorem NoFmap.tail {f : ApFlash} {offset k : ℕ} (h : NoFmap f offset (k + 1)) :
    NoFmap f (offset + lowestFmapAlignment) k := fun i hi => by
  simpa [Nat.add_mul, Nat.add_assoc, Nat.add_comm lowestFmapAlignment] using h (i + 1) (by omega)

/-- On an image with no FMAP at any probed offset, the scan changes nothing. -/
theorem scanFrom_noFmap {k offset : ℕ} (h : NoFmap E.flash offset k) (found : Bool) (s : St) :
    scanFrom P E k offset found s = (if found then .failed else .notFound, s) := by
  induction k generalizing offset with
  | zero => rfl
  | succ k ih =>
    obtain ⟨sig, hr, hne⟩ := h 0 (by omega)
    simp only [Nat.zero_mul, Nat.add_zero] at hr
    simp only [scanFrom, hr, if_pos hne]
    exact ih h.tail

/-- On an image whose only FMAP is at `offset` and names an RO_GSCVD area at `gscvdOffset`,
the scan is one `check_gscvd` call. -/
theorem scanFrom_single {k offset gscvdOffset : ℕ} (hf : FmapNames E offset gscvdOffset)
    (hrest : NoFmap E.flash (offset + lowestFmapAlignment) k) (found : Bool) (s : St) :
    scanFrom P E (k + 1) offset found s =
      (if (checkGscvd P E offset gscvdOffset s).1 = .succeeded then .succeeded else .failed,
        (checkGscvd P E offset gscvdOffset s).2) := by
  obtain ⟨sig, rest, area, hr, rfl, hr', h₁, h₂, h₃, hg, rfl⟩ := hf
  have hv : ¬((FmapHeader.mk (fmapSignature ++ rest)).fmapVerMajor ≠ 1 ∨
      (FmapHeader.mk (fmapSignature ++ rest)).fmapVerMinor ≠ 1 ∨
      maxSupportedFlashSize < (FmapHeader.mk (fmapSignature ++ rest)).fmapSize) := by omega
  simp only [scanFrom, hr, hr', ne_eq, not_true_eq_false, if_false, if_neg hv, hg]
  rcases checkGscvd P E offset area.areaOffset s with ⟨_ | _ | _, t⟩ <;>
    simp [scanFrom_noFmap P E hrest]

/-- An AP flash that is erased, every read of which succeeds. -/
def erasedImage : ApFlash := ⟨erased, fun _ _ => true⟩

/-- A run on `erasedImage`, on the board `signedImage` is bound to. -/
def erasedEnv : Env := ⟨erasedImage, ⟨some ⟨0x1234, true⟩, false⟩, [], fun _ => 0, fun _ _ => 0⟩

theorem noFmap_erasedImage (offset k : ℕ) : NoFmap erasedImage offset k := fun _ _ =>
  ⟨List.replicate 8 0xFF, by rw [readApSpi_eq_some, ← readMem_erased]; exact ⟨by decide, rfl, rfl⟩,
    by decide⟩

/-- On an erased AP flash there is no GVD to find: the cache path and the full scan both find
nothing, and nothing changes. -/
theorem v2Check_erasedImage (hf : E.flash = erasedImage) (s : St) :
    v2Check P E s = (.notFound, s) := by
  have hr : ∀ fmapOffset offset, readGscvdHeader E fmapOffset offset = none := by
    intro fmapOffset offset
    unfold readGscvdHeader
    split
    · rfl
    · rename_i bs hb
      rw [hf, readApSpi_eq_some] at hb
      obtain ⟨-, -, rfl⟩ := hb
      have hm : field (readMem erased offset gvdSize) 0 4 ≠ gscVdMagic := by
        rw [readMem_erased]; decide
      simp [GscVerificationData.gvMagic, erasedImage, hm]
  have hs : validateAndCacheApRoV2FromFlash P E s = (.notFound, s) :=
    scanFrom_noFmap P E (hf ▸ noFmap_erasedImage 0 scanProbes) false s
  unfold v2Check
  split
  · rw [show validateCachedApRoV2 P E _ = .notFound by simp [validateCachedApRoV2, hr]]
    exact hs
  · exact hs

end

/-! ### A signed image -/

/-- The FMAP header of `signedImage`: version 1.1, a 4 KiB flash, one area. -/
def fmapBytes : List UInt8 :=
  fmapSignature ++ [1, 1] ++ toLE 8 0 ++ toLE 4 0x1000 ++ List.replicate 32 0 ++ toLE 2 1

/-- The area header of `signedImage`: RO_GSCVD at `0x100`. -/
def areaBytes : List UInt8 :=
  toLE 4 0x100 ++ toLE 4 0x1000 ++ (gscvdAreaName ++ List.replicate 23 0) ++ toLE 2 0

/-- A `struct vb2_signature`. -/
def sigBytes (sigOffset sigSize dataSize : ℕ) : List UInt8 :=
  toLE 4 sigOffset ++ toLE 4 0 ++ toLE 4 sigSize ++ toLE 4 0 ++ toLE 4 dataSize ++ toLE 4 0

/-- A `struct vb2_packed_key` for an RSA-4096 key. -/
def keyBytes (keyOffset keySize : ℕ) : List UInt8 :=
  toLE 4 keyOffset ++ toLE 4 0 ++ toLE 4 keySize ++ toLE 4 0 ++ toLE 4 vb2AlgRsa4096Sha256 ++
    toLE 4 0 ++ toLE 4 0 ++ toLE 4 0

/-- The GVD header of `signedImage`, at `0x100`: no ranges, a 4-byte signature right after the
header, the root key after that, Board ID type `0x1234`, the FMAP at 0. -/
def gvdBytes (rollback : ℕ) : List UInt8 :=
  toLE 4 gscVdMagic ++ toLE 2 1188 ++ toLE 2 0 ++ toLE 2 0 ++ toLE 2 rollback ++
    toLE 4 0x1234 ++ toLE 4 0 ++ toLE 4 0 ++ toLE 4 0 ++ sigBytes 124 4 152 ++
    keyBytes 104 1032 ++ List.replicate 64 0 ++ toLE 4 0

/-- The keyblock header of `signedImage`, version 2.1, whose data key is the 1032 bytes after
the header. -/
def keyblockBytes (keyblockSize signedSize : ℕ) : List UInt8 :=
  vb2KeyblockMagic ++ toLE 4 2 ++ toLE 4 1 ++ toLE 4 keyblockSize ++ toLE 4 0 ++
    sigBytes 0 0 signedSize ++ sigBytes 0 0 0 ++ toLE 4 0 ++ toLE 4 0 ++ keyBytes 32 1032

/-- The bytes of `signedImage`: the FMAP and its area header at 0 (or erased bytes), the GVD at
`0x100`, its signature at 408, the root key body at 412, the keyblock at 1444 and its data key
body at 1556; erased bytes elsewhere. A key body is `0x80` followed by zeros, so its first word
holds the modulus word count 128. -/
def signedByte (fmap : Bool) (rollback keyblockSize signedSize i : ℕ) : UInt8 :=
  if i < 56 then (if fmap then fmapBytes.getD i 0 else 0xFF)
  else if i < 98 then (if fmap then areaBytes.getD (i - 56) 0 else 0xFF)
  else if i < 256 then 0xFF
  else if i < 408 then (gvdBytes rollback).getD (i - 256) 0
  else if i < 412 then 0
  else if i < 1444 then (if i = 412 then 0x80 else 0)
  else if i < 1556 then (keyblockBytes keyblockSize signedSize).getD (i - 1444) 0
  else if i < 2588 then (if i = 1556 then 0x80 else 0)
  else 0xFF

/-- `signedByte` as an AP flash whose reads all succeed. -/
def signedImage (fmap : Bool) (rollback keyblockSize signedSize : ℕ) : ApFlash :=
  ⟨signedByte fmap rollback keyblockSize signedSize, fun _ _ => true⟩

/-- The board `signedImage` is bound to, with a blank Board ID type so that it can be seeded. -/
def signedBoard : Board := ⟨some ⟨0x1234, true⟩, false⟩

/-- A run on `signedImage` in which the allocator always succeeds. -/
def signedEnv (fmap : Bool) (rollback keyblockSize signedSize : ℕ) : Env :=
  ⟨signedImage fmap rollback keyblockSize signedSize, signedBoard, [], fun _ => 0x10000,
    fun _ _ => 0⟩

theorem signedByte_of_le {fmap : Bool} {rollback keyblockSize signedSize i : ℕ} (h : 2588 ≤ i) :
    signedByte fmap rollback keyblockSize signedSize i = 0xFF := by
  simp (disch := omega) only [signedByte, if_neg]

/-- Past its first 4 KiB, `signedImage` holds no FMAP. -/
theorem noFmap_signedImage (fmap : Bool) (rollback keyblockSize signedSize k : ℕ) :
    NoFmap (signedImage fmap rollback keyblockSize signedSize) lowestFmapAlignment k := by
  intro i _
  refine ⟨List.replicate 8 0xFF, ?_, by decide⟩
  rw [readApSpi_eq_some, ← readMem_erased]
  refine ⟨by decide, rfl, readMem_congr fun j _ => (signedByte_of_le ?_).symm⟩
  unfold lowestFmapAlignment; omega


theorem fmapNames_signedImage (rollback keyblockSize signedSize : ℕ) :
    FmapNames (signedEnv true rollback keyblockSize signedSize) 0 0x100 :=
  ⟨fmapSignature, fmapBytes.drop 8, ⟨areaBytes⟩, rfl, rfl, rfl, by decide, by decide, by decide,
    rfl, rfl⟩

/-- On `signedImage` with its FMAP, the full scan is one `check_gscvd` call on the GVD at
`0x100`. -/
theorem validateAndCache_signedImage (P : Platform) (rollback keyblockSize signedSize : ℕ)
    (s : St) :
    validateAndCacheApRoV2FromFlash P (signedEnv true rollback keyblockSize signedSize) s =
      (if (checkGscvd P (signedEnv true rollback keyblockSize signedSize) 0 0x100 s).1 =
          .succeeded then .succeeded else .failed,
        (checkGscvd P (signedEnv true rollback keyblockSize signedSize) 0 0x100 s).2) :=
  scanFrom_single P _ (k := 8191) (fmapNames_signedImage rollback keyblockSize signedSize)
    (by simpa using noFmap_signedImage true rollback keyblockSize signedSize 8191) false s

end ApRoIntegrity
