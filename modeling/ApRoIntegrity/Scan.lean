import ApRoIntegrity.Gscvd

/-!
# Finding the GVD

The two ways a V2 verdict is reached. The full scan, `validate_and_cache_ap_ro_v2_from_flash`,
probes AP flash every `LOWEST_FMAP_ALIGNMENT` bytes below `MAX_SUPPORTED_FLASH_SIZE` for an
FMAP signature, checks the FMAP header, looks for the RO_GSCVD area among its area headers
(`find_gscvd`), and runs `check_gscvd` on it; it stops at the first success. The fast path,
`validate_cached_ap_ro_v2`, rereads the GVD header and ranges at the offsets of the cached
descriptor, compares their SHA-256 with the cached digest (`gvd_cache_check`), and hashes the
ranges, without the signature chain and without reading the FMAP.

Both loops are structurally recursive on the number of iterations left.
-/

namespace ApRoIntegrity

section

variable (P : Platform) (E : Env)

/-- The loop of `find_gscvd` from the area header at `offset`, `k` headers left. A failed read
ends the search. -/
def findGscvdFrom : ℕ → ℕ → Option FmapAreaHeader
  | 0, _ => none
  | k + 1, offset =>
    match readApSpi E.flash offset fmapAreaHeaderSize with
    | none => none
    | some bs =>
      if (FmapAreaHeader.mk bs).areaName.take 9 = gscvdAreaName then some ⟨bs⟩
      else findGscvdFrom k (offset + fmapAreaHeaderSize)

/-- `find_gscvd`: the first of `nareas` area headers from `offset` named RO_GSCVD; at most 64
areas are searched. -/
def findGscvd (offset nareas : ℕ) : Option FmapAreaHeader :=
  if 64 < nareas then none else findGscvdFrom E nareas offset

/-- The number of offsets the scan probes. -/
def scanProbes : ℕ := maxSupportedFlashSize / lowestFmapAlignment

/-- The loop of `validate_and_cache_ap_ro_v2_from_flash` from `offset`, with `k` probes left;
`found` is `ro_gscvd_found`. A failed read ends the scan with `ROV_FAILED`. -/
def scanFrom : ℕ → ℕ → Bool → St → ApRoCheckResult × St
  | 0, _, found, s => (if found then .failed else .notFound, s)
  | k + 1, offset, found, s =>
    match readApSpi E.flash offset 8 with
    | none => (.failed, s)
    | some sig =>
      if sig ≠ fmapSignature then scanFrom k (offset + lowestFmapAlignment) found s
      else
        match readApSpi E.flash (offset + 8) (fmapHeaderSize - 8) with
        | none => (.failed, s)
        | some rest =>
          let fmh : FmapHeader := ⟨sig ++ rest⟩
          if fmh.fmapVerMajor ≠ 1 ∨ fmh.fmapVerMinor ≠ 1 ∨
              maxSupportedFlashSize < fmh.fmapSize then
            scanFrom k (offset + lowestFmapAlignment) found s
          else
            match findGscvd E (offset + fmapHeaderSize) fmh.fmapNareas with
            | none => scanFrom k (offset + lowestFmapAlignment) found s
            | some area =>
              match checkGscvd P E offset area.areaOffset s with
              | (.succeeded, s) => (.succeeded, s)
              | (_, s) => scanFrom k (offset + lowestFmapAlignment) true s

/-- `validate_and_cache_ap_ro_v2_from_flash`. -/
def validateAndCacheApRoV2FromFlash (s : St) : ApRoCheckResult × St :=
  scanFrom P E scanProbes 0 false s

/-- `gvd_cache_check`: the SHA-256 of the GVD header and its ranges against the cached
digest. `true` is the zero return. -/
def gvdCacheCheck (h : GscVerificationData) (ranges : List UInt8) (d : GvdDescriptor) : Bool :=
  P.sha256 (h.bytes ++ ranges) = d.digest.take 32

/-- `validate_cached_ap_ro_v2`. -/
def validateCachedApRoV2 (d : GvdDescriptor) : ApRoCheckResult :=
  match readGscvdHeader E d.fmapOffset d.gvdOffset with
  | none => .notFound
  | some h =>
    match readRanges E d.gvdOffset h with
    | none => .notFound
    | some ranges =>
      if gvdCacheCheck P h ranges d then
        validateRangesSha P E (rangesOf ranges h.rangeCount) h.rangesDigest
      else .failed

end

end ApRoIntegrity
