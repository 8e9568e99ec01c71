import ApRoIntegrity.Images

/-!
# The verdict of the full scan

`validate_and_cache_ap_ro_v2_from_flash` probes every 4 KiB-aligned offset below 32 MiB for an
FMAP, and looks for the RO_GSCVD area among the areas of each FMAP it accepts. This module says
what the scan computes in terms of the image alone, on an AP flash whose SPI reads all succeed.

A *candidate* (`gscvdCandidate`) is a probed offset that holds an FMAP header with the signature
`__FMAP__`, version 1.1, an `fmap_size` of at most 32 MiB and at most 64 areas, and among its
`fmap_nareas` area headers one named RO_GSCVD; the first such area gives the candidate its area
offset. The candidates are listed in increasing order of offset (`gscvdCandidates`), from the
image's bytes, with no reference to the loop.

`scanVerdict` is the verdict those candidates call for: `ROV_NOT_FOUND` when there are none;
otherwise `check_gscvd` on each candidate in turn, stopping at the first that succeeds, and
`ROV_SUCCEEDED` if one does, `ROV_FAILED` if none does.

## What is proved here

* `scanFrom_succ`: one probe of the scan loop is one step down the candidate list: it skips an
  offset that is not a candidate and calls `check_gscvd` on one that is.
* `scan_verdict`: the scan refines `scanVerdict` on the image's candidates, state included, and
  returns `ROV_NOT_FOUND` exactly when there is no candidate.
-/

namespace ApRoIntegrity

/-! ### Candidates -/

/-- The `n` area headers laid out from `o`. -/
def areaHeadersAt (f : ApFlash) (o n : ℕ) : List FmapAreaHeader :=
  (List.range n).map fun j =>
    ⟨readMem f.byte (o + j * fmapAreaHeaderSize) fmapAreaHeaderSize⟩

/-- An area header named RO_GSCVD, its terminating NUL included. -/
def FmapAreaHeader.isGscvd (a : FmapAreaHeader) : Bool := a.areaName.take 9 = gscvdAreaName

/-- The area offset of the first RO_GSCVD area of the FMAP at `o`, when `o` is a candidate. -/
def gscvdCandidate (f : ApFlash) (o : ℕ) : Option ℕ :=
  let fmh : FmapHeader := ⟨readMem f.byte o fmapHeaderSize⟩
  if fmh.fmapSignature = fmapSignature ∧ fmh.fmapVerMajor = 1 ∧ fmh.fmapVerMinor = 1 ∧
      fmh.fmapSize ≤ maxSupportedFlashSize ∧ fmh.fmapNareas ≤ 64 then
    ((areaHeadersAt f (o + fmapHeaderSize) fmh.fmapNareas).find?
      FmapAreaHeader.isGscvd).map FmapAreaHeader.areaOffset
  else none

/-- The candidates among the `k` offsets probed from `o`, in increasing order, each with its
area offset. -/
def candidatesFrom (f : ApFlash) (o k : ℕ) : List (ℕ × ℕ) :=
  (List.range k).filterMap fun i =>
    (gscvdCandidate f (o + i * lowestFmapAlignment)).map fun a => (o + i * lowestFmapAlignment, a)

/-- The candidates of the scan: every 4 KiB-aligned offset below 32 MiB that is one. -/
def gscvdCandidates (f : ApFlash) : List (ℕ × ℕ) := candidatesFrom f 0 scanProbes

section

variable (P : Platform) (E : Env)

/-- `check_gscvd` on each candidate in turn, up to the first that succeeds: whether one did, and
the state after the last call. -/
def callCandidates : List (ℕ × ℕ) → St → Bool × St
  | [], s => (false, s)
  | (o, a) :: cs, s =>
    match checkGscvd P E o a s with
    | (.succeeded, t) => (true, t)
    | (_, t) => callCandidates cs t

/-- The verdict of a scan over the candidates `cs`: `ROV_NOT_FOUND` when there are none,
otherwise `ROV_SUCCEEDED` if a call of `check_gscvd` on them succeeds and `ROV_FAILED` if none
does. -/
def scanVerdict (cs : List (ℕ × ℕ)) (s : St) : ApRoCheckResult × St :=
  if cs = [] then (.notFound, s)
  else (if (callCandidates P E cs s).1 then .succeeded else .failed, (callCandidates P E cs s).2)

/-! ### One probe -/

variable {E}

theorem readApSpi_of_readOk (hok : ∀ o n, E.flash.readOk o n = true) {o n : ℕ}
    (hn : n ≤ maxSupportedRangeSize) : readApSpi E.flash o n = some (readMem E.flash.byte o n) :=
  readApSpi_eq_some.mpr ⟨hn, hok o n, rfl⟩

theorem findGscvdFrom_eq (hok : ∀ o n, E.flash.readOk o n = true) (k o : ℕ) :
    findGscvdFrom E k o = (areaHeadersAt E.flash o k).find? FmapAreaHeader.isGscvd := by
  induction k generalizing o with
  | zero => rfl
  | succ k ih =>
    have hs : areaHeadersAt E.flash o (k + 1) =
        ⟨readMem E.flash.byte o fmapAreaHeaderSize⟩ ::
          areaHeadersAt E.flash (o + fmapAreaHeaderSize) k := by
      simp only [areaHeadersAt, List.range_succ_eq_map, List.map_cons, List.map_map,
        Nat.zero_mul, Nat.add_zero]
      congr 2
      funext j
      simp only [Function.comp, Nat.succ_mul, Nat.add_assoc, Nat.add_comm (j * _)]
    rw [findGscvdFrom, readApSpi_of_readOk hok (by decide), hs, List.find?_cons, ← ih]
    by_cases h : (FmapAreaHeader.mk (readMem E.flash.byte o fmapAreaHeaderSize)).areaName.take 9 =
      gscvdAreaName <;> simp [FmapAreaHeader.isGscvd, h]

/-- Under readable flash, the header of the FMAP at `o` is its signature and the rest. -/
theorem fmapHeader_split (f : ApFlash) (o : ℕ) :
    readMem f.byte o fmapHeaderSize =
      readMem f.byte o 8 ++ readMem f.byte (o + 8) (fmapHeaderSize - 8) := by
  rw [← readMem_add]; rfl

theorem gscvdCandidate_eq (hok : ∀ o n, E.flash.readOk o n = true) (o : ℕ) :
    gscvdCandidate E.flash o =
      if readMem E.flash.byte o 8 ≠ fmapSignature then none
      else
        let fmh : FmapHeader := ⟨readMem E.flash.byte o 8 ++
          readMem E.flash.byte (o + 8) (fmapHeaderSize - 8)⟩
        if fmh.fmapVerMajor ≠ 1 ∨ fmh.fmapVerMinor ≠ 1 ∨ maxSupportedFlashSize < fmh.fmapSize then
          none
        else (findGscvd E (o + fmapHeaderSize) fmh.fmapNareas).map FmapAreaHeader.areaOffset := by
  have hsig : (FmapHeader.mk (readMem E.flash.byte o 8 ++
      readMem E.flash.byte (o + 8) (fmapHeaderSize - 8))).fmapSignature =
        readMem E.flash.byte o 8 := by
    simp [FmapHeader.fmapSignature]
  unfold gscvdCandidate findGscvd
  dsimp only
  rw [fmapHeader_split, findGscvdFrom_eq hok, hsig]
  by_cases h₁ : readMem E.flash.byte o 8 = fmapSignature <;> simp only [h₁, ne_eq,
    not_true_eq_false, not_false_eq_true, if_true, if_false, true_and, false_and]
  split_ifs <;> first | rfl | omega

/-- **One probe of the scan**: an offset that is not a candidate is skipped; on a candidate the
scan calls `check_gscvd`, stops if it succeeds, and goes on having found an area if not. -/
theorem scanFrom_succ (hok : ∀ o n, E.flash.readOk o n = true) (k o : ℕ) (found : Bool)
    (s : St) :
    scanFrom P E (k + 1) o found s =
      match gscvdCandidate E.flash o with
      | none => scanFrom P E k (o + lowestFmapAlignment) found s
      | some a =>
        match checkGscvd P E o a s with
        | (.succeeded, t) => (.succeeded, t)
        | (_, t) => scanFrom P E k (o + lowestFmapAlignment) true t := by
  rw [scanFrom, readApSpi_of_readOk hok (by decide), gscvdCandidate_eq hok]
  dsimp only
  split_ifs with h₁ h₂
  · rfl
  · rw [readApSpi_of_readOk hok (by decide)]
    dsimp only
    rw [if_pos h₂]
  · rw [readApSpi_of_readOk hok (by decide)]
    dsimp only
    rw [if_neg h₂]
    cases findGscvd E (o + fmapHeaderSize) _ <;> rfl

/-! ### The whole scan -/

theorem candidatesFrom_succ (f : ApFlash) (o k : ℕ) :
    candidatesFrom f o (k + 1) =
      ((gscvdCandidate f o).map fun a => (o, a)).toList ++
        candidatesFrom f (o + lowestFmapAlignment) k := by
  simp only [candidatesFrom, List.range_succ_eq_map, List.filterMap_cons, List.filterMap_map,
    Nat.zero_mul, Nat.add_zero]
  have e : ((fun i => (gscvdCandidate f (o + i * lowestFmapAlignment)).map
      fun a => (o + i * lowestFmapAlignment, a)) ∘ Nat.succ) =
      fun i => (gscvdCandidate f (o + lowestFmapAlignment + i * lowestFmapAlignment)).map
        fun a => (o + lowestFmapAlignment + i * lowestFmapAlignment, a) := by
    funext i
    simp only [Function.comp, Nat.succ_mul, Nat.add_assoc, Nat.add_comm (i * _)]
  rw [e]
  cases gscvdCandidate f o <;> rfl

theorem candidatesFrom_succ_of_none {f : ApFlash} {o : ℕ} (k : ℕ) (h : gscvdCandidate f o = none) :
    candidatesFrom f o (k + 1) = candidatesFrom f (o + lowestFmapAlignment) k := by
  rw [candidatesFrom_succ, h]; rfl

theorem candidatesFrom_succ_of_some {f : ApFlash} {o a : ℕ} (k : ℕ)
    (h : gscvdCandidate f o = some a) :
    candidatesFrom f o (k + 1) = (o, a) :: candidatesFrom f (o + lowestFmapAlignment) k := by
  rw [candidatesFrom_succ, h]; rfl

/-- Once an area has been found, the scan succeeds exactly when a call on the candidates left
does, and fails otherwise. -/
theorem scanFrom_found (hok : ∀ o n, E.flash.readOk o n = true) (k o : ℕ) (s : St) :
    scanFrom P E k o true s =
      (if (callCandidates P E (candidatesFrom E.flash o k) s).1 then .succeeded else .failed,
        (callCandidates P E (candidatesFrom E.flash o k) s).2) := by
  induction k generalizing o s with
  | zero => rfl
  | succ k ih =>
    rw [scanFrom_succ P hok]
    cases hc : gscvdCandidate E.flash o with
    | none => rw [candidatesFrom_succ_of_none k hc]; exact ih _ s
    | some a =>
      simp only [candidatesFrom_succ_of_some k hc, callCandidates]
      rcases checkGscvd P E o a s with ⟨_ | _ | _, t⟩
      · exact ih _ t
      · exact ih _ t
      · rfl

theorem scanFrom_eq_scanVerdict (hok : ∀ o n, E.flash.readOk o n = true) (k o : ℕ) (s : St) :
    scanFrom P E k o false s = scanVerdict P E (candidatesFrom E.flash o k) s := by
  induction k generalizing o with
  | zero => rfl
  | succ k ih =>
    rw [scanFrom_succ P hok]
    cases hc : gscvdCandidate E.flash o with
    | none => rw [candidatesFrom_succ_of_none k hc]; exact ih _
    | some a =>
      simp only [candidatesFrom_succ_of_some k hc, scanVerdict, reduceCtorEq, if_false,
        callCandidates]
      rcases checkGscvd P E o a s with ⟨_ | _ | _, t⟩
      · exact scanFrom_found P hok k _ t
      · exact scanFrom_found P hok k _ t
      · rfl

/-- **The scan's three-way verdict.** On an AP flash whose SPI reads all succeed, the full scan
calls `check_gscvd` on the candidates in increasing order of offset, each at the area offset of
its first RO_GSCVD area, stops at the first call that succeeds, and returns `ROV_SUCCEEDED` if
one does and `ROV_FAILED` if none does; it returns `ROV_NOT_FOUND` exactly when there is no
candidate. -/
theorem scan_verdict (hok : ∀ o n, E.flash.readOk o n = true) (s : St) :
    validateAndCacheApRoV2FromFlash P E s = scanVerdict P E (gscvdCandidates E.flash) s ∧
      ((validateAndCacheApRoV2FromFlash P E s).1 = .notFound ↔ gscvdCandidates E.flash = []) := by
  have e := scanFrom_eq_scanVerdict P hok scanProbes 0 s
  refine ⟨e, ?_⟩
  rw [validateAndCacheApRoV2FromFlash, e, gscvdCandidates, scanVerdict]
  split
  · exact iff_of_true rfl ‹_›
  · exact iff_of_false (by split <;> exact nofun) ‹_›

end

theorem scan_verdict_signedImage :
    (∀ o n, (signedEnv true 1 1144 1144).flash.readOk o n = true) ∧
      (validateAndCacheApRoV2FromFlash toy (signedEnv true 1 1144 1144) (initial 0) =
          scanVerdict toy (signedEnv true 1 1144 1144)
            (gscvdCandidates (signedEnv true 1 1144 1144).flash) (initial 0) ∧
        ((validateAndCacheApRoV2FromFlash toy (signedEnv true 1 1144 1144) (initial 0)).1 =
            .notFound ↔ gscvdCandidates (signedEnv true 1 1144 1144).flash = [])) :=
  ⟨fun _ _ => rfl, scan_verdict toy (fun _ _ => rfl) (initial 0)⟩

end ApRoIntegrity
