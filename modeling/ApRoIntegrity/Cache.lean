import ApRoIntegrity.Soundness

/-!
# The cached descriptor

`save_gvd_hash` caches a descriptor of the GVD the full scan verified: the FMAP offset it was
bound to, the GVD's offset and rollback counter, and the SHA-256 of the GVD header and its
ranges. `validate_cached_ap_ro_v2` later rereads the GVD at the cached offsets, compares its hash
with the cached one and hashes the ranges, without the signature chain and without the FMAP.

## What is proved here

* `cache_round_trip`: when the page's erase and write succeed, on a page that is erased or whose
  `num_ranges` does not read as erased, a successful `check_gscvd` leaves the descriptor of the
  GVD it verified, and while that descriptor stays on the page every V2 check on the same image
  and board passes through the cache, changing nothing.
* `erase_failure_loses_cache`: the erase's outcome is ignored, and programming only clears bits.
  Over a factory record, a failed erase leaves the record under the descriptor's bytes, the type
  byte reads as factory, and `find_v2_entry` finds nothing after a run that reported success.
* `v2_pass_binding`: a V2 PASS through the full scan rests on a `check_gscvd` that succeeded on
  the GVD at the offset an FMAP names; a V2 PASS through the cache rests on the cached FMAP
  offset alone.
  `cache_pass_without_fmap` passes through the cache on an image with no FMAP.
* `rollback_below_cache`: nothing reads the cached rollback counter. After a GVD with rollback
  counter 5 is cached, one with counter 2 passes and replaces it.
-/

namespace ApRoIntegrity

section

variable (P : Platform) (E : Env)

/-! ### The round trip -/

/-- The descriptor of a GVD read at `offset`, whose ranges hash to its digest, passes
`validate_cached_ap_ro_v2`: both sides hash the same header and ranges. -/
theorem validateCachedApRoV2_of_read {fmapOffset offset : ℕ} {h : GscVerificationData}
    {ranges : List UInt8} (hh : readGscvdHeader E fmapOffset offset = some h)
    (hr : readRanges E offset h = some ranges)
    (hv : validateRangesSha P E (rangesOf ranges h.rangeCount) h.rangesDigest = .succeeded) :
    validateCachedApRoV2 P E (gvdDescriptorOf P offset h ranges) = .succeeded := by
  have hfo : h.fmapLocation = fmapOffset := (readGscvdHeader_some E hh).2.2
  simp only [validateCachedApRoV2, gvdDescriptorOf, hfo, hh, hr, gvdCacheCheck,
    List.take_of_length_le (le_of_eq (P.length_sha256 _)), decide_True, if_true, hv]

theorem v2Check_of_cached {s : St} {d : GvdDescriptor} (hd : findV2Entry P s.page = some d)
    (hc : validateCachedApRoV2 P E d = .succeeded) : v2Check P E s = (.succeeded, s) := by
  simp only [v2Check, hd, hc]

/-- **The cache round trip**: a successful `check_gscvd` whose `save_gvd_hash` erase and write
succeed, on a page that is erased unless its `num_ranges` says otherwise, leaves the descriptor
of the GVD it verified, and while that descriptor is on the page the V2 check on the same image
and board passes through `validate_cached_ap_ro_v2` without calling `check_gscvd`. -/
theorem cache_round_trip {fmapOffset offset : ℕ} {s : St} (ho : offset < 2 ^ 32)
    (hf : s.faults.PageOk) (hp : pageNumRanges s.page = 0xFFFF → s.page = erased)
    (hc : (checkGscvd P E fmapOffset offset s).1 = .succeeded) :
    ∃ h ranges, readGscvdHeader E fmapOffset offset = some h ∧
      readRanges E offset h = some ranges ∧
      findV2Entry P (checkGscvd P E fmapOffset offset s).2.page =
        some ⟨h.fmapLocation, offset, h.rollbackCounter, P.sha256 (h.bytes ++ ranges)⟩ ∧
      ∀ t : St, t.page = (checkGscvd P E fmapOffset offset s).2.page →
        v2Check P E t = (.succeeded, t) := by
  obtain ⟨h, ranges, m, hh, hr, -, hv, e⟩ := checkGscvd_succeeded P E hc
  rw [e] at hc ⊢
  obtain ⟨-, hs, e'⟩ := commitGscvd_succeeded P hc
  obtain ⟨h₁, -, h₃, h₄⟩ :=
    commitInfo_fields ({ s with heap := m }.record (.verified offset h ranges))
  have hpage : (saveGvdHash P offset h ranges _).2.page = gvdImage P offset h ranges :=
    (saveGvdHash_fields P (saveGvdHash_fst P _ _ _ _ hs).1
      (by unfold Faults.PageOk; rw [h₃, h₄]; exact hf) (by rw [h₁]; exact hp)).1
  have hd := findV2Entry_gvdImage P ho h ranges
  rw [e', hpage]
  refine ⟨h, ranges, hh, hr, hd, fun t ht => ?_⟩
  rw [← ht] at hd
  exact v2Check_of_cached P E hd (validateCachedApRoV2_of_read P E hh hr hv)

end

set_option maxRecDepth 100000 in
theorem cache_round_trip_signedImage :
    (0x100 : ℕ) < 2 ^ 32 ∧ (initial 0).faults.PageOk ∧
      (pageNumRanges (initial 0).page = 0xFFFF → (initial 0).page = erased) ∧
      (checkGscvd toy (signedEnv true 1 1144 1144) 0 0x100 (initial 0)).1 = .succeeded ∧
      ∃ h ranges, readGscvdHeader (signedEnv true 1 1144 1144) 0 0x100 = some h ∧
        readRanges (signedEnv true 1 1144 1144) 0x100 h = some ranges ∧
        findV2Entry toy (checkGscvd toy (signedEnv true 1 1144 1144) 0 0x100 (initial 0)).2.page =
          some ⟨h.fmapLocation, 0x100, h.rollbackCounter, toy.sha256 (h.bytes ++ ranges)⟩ ∧
        ∀ t : St, t.page =
            (checkGscvd toy (signedEnv true 1 1144 1144) 0 0x100 (initial 0)).2.page →
          v2Check toy (signedEnv true 1 1144 1144) t = (.succeeded, t) := by
  have hf : (initial 0).faults.PageOk := ⟨by simp [initial], by simp [initial]⟩
  have hc : (checkGscvd toy (signedEnv true 1 1144 1144) 0 0x100 (initial 0)).1 = .succeeded := by
    decide
  exact ⟨by decide, hf, fun _ => rfl, hc, cache_round_trip toy _ (by decide) hf (fun _ => rfl) hc⟩

/-! ### A failed erase -/

set_option maxRecDepth 100000 in
/-- A factory record whose V1 check fails on the signed image, then a run whose page erase
fails: `check_gscvd` succeeds and the run returns `EC_SUCCESS`, but the descriptor is programmed
over the factory record and `find_v2_entry` finds nothing. -/
theorem erase_failure_loses_cache :
    (checkGscvd toy (signedEnv true 1 1144 1144) 0 0x100
      { run toy (initial 0) [.seed signedBoard stuckPayload {}] with
        faults := { erase := [false] }, heap.acquire := [] }).1 = .succeeded ∧
    (doApRoCheck toy (signedEnv true 1 1144 1144)
      { run toy (initial 0) [.seed signedBoard stuckPayload {}] with
        faults := { erase := [false] }, heap.acquire := [] }).1 = .success ∧
    findV2Entry toy (run toy (initial 0) [.seed signedBoard stuckPayload {},
      .check (signedEnv true 1 1144 1144) { erase := [false] }]).page = none := by
  decide

/-! ### The FMAP binding -/

section

variable (P : Platform) (E : Env)

/-- **What binds a V2 PASS to an FMAP.** A run that returns `EC_SUCCESS` without passing the V1
check either accepted its GVD by the full scan, through a `check_gscvd` that succeeded on the
GVD read at the offset that an FMAP header at the GVD's `fmap_location` names as its RO_GSCVD
area and that left the state the V2 part ends in, or accepted it through the cached descriptor,
with the GVD's `fmap_location` equal to the cached FMAP offset, which is not reread. -/
theorem v2_pass_binding {s : St} (hpass : (doApRoCheck P E s).1 = .success)
    (hv1 : v1Check P E s.page ≠ .succeeded) :
    (∃ fmapOffset offset h t, FmapNames E fmapOffset offset ∧
      readGscvdHeader E fmapOffset offset = some h ∧ h.fmapLocation = fmapOffset ∧
      checkGscvd P E fmapOffset offset t = (.succeeded, (v2Check P E s).2)) ∨
    (∃ d h, findV2Entry P s.page = some d ∧ validateCachedApRoV2 P E d = .succeeded ∧
      readGscvdHeader E d.fmapOffset d.gvdOffset = some h ∧ h.fmapLocation = d.fmapOffset) := by
  rcases doApRoCheck_success P E hpass with ⟨h, -⟩ | ⟨h, -⟩
  · exact absurd h hv1
  rcases v2Check_succeeded P E s h with ⟨d, hd, hc, -⟩ | ⟨fmapOffset, offset, t, hn, hc⟩
  · obtain ⟨h, -, hh, -⟩ := validateCachedApRoV2_succeeded P E hc
    exact .inr ⟨d, h, hd, hc, hh, (readGscvdHeader_some E hh).2.2⟩
  · obtain ⟨h, -, -, hh, -⟩ := checkGscvd_succeeded P E (by rw [hc])
    exact .inl ⟨fmapOffset, offset, h, t, hn, hh, (readGscvdHeader_some E hh).2.2, hc⟩

end

set_option maxRecDepth 100000 in
theorem v2_pass_binding_signedImage :
    (doApRoCheck toy (signedEnv true 1 1144 1144) (initial 0)).1 = .success ∧
    v1Check toy (signedEnv true 1 1144 1144) (initial 0).page ≠ .succeeded ∧
    ((∃ fmapOffset offset h t, FmapNames (signedEnv true 1 1144 1144) fmapOffset offset ∧
      readGscvdHeader (signedEnv true 1 1144 1144) fmapOffset offset = some h ∧
        h.fmapLocation = fmapOffset ∧
        checkGscvd toy (signedEnv true 1 1144 1144) fmapOffset offset t =
          (.succeeded, (v2Check toy (signedEnv true 1 1144 1144) (initial 0)).2)) ∨
    (∃ d h, findV2Entry toy (initial 0).page = some d ∧
      validateCachedApRoV2 toy (signedEnv true 1 1144 1144) d = .succeeded ∧
      readGscvdHeader (signedEnv true 1 1144 1144) d.fmapOffset d.gvdOffset = some h ∧
        h.fmapLocation = d.fmapOffset)) := by
  have hpass : (doApRoCheck toy (signedEnv true 1 1144 1144) (initial 0)).1 = .success := by
    decide
  have hv1 : v1Check toy (signedEnv true 1 1144 1144) (initial 0).page ≠ .succeeded := by decide
  exact ⟨hpass, hv1, v2_pass_binding toy _ hpass hv1⟩

set_option maxRecDepth 100000 in
/-- A run on the signed image caches its GVD, bound to the FMAP at 0; a run on the same image
with the FMAP erased passes through the cache, though no FMAP header is at the GVD's
`fmap_location`. -/
theorem cache_pass_without_fmap :
    (findV2Entry toy (run toy (initial 0) [.check (signedEnv true 1 1144 1144) {}]).page).map
        (fun d => (d.fmapOffset, d.gvdOffset)) = some (0, 0x100) ∧
    (doApRoCheck toy (signedEnv false 1 1144 1144)
      { run toy (initial 0) [.check (signedEnv true 1 1144 1144) {}] with
        faults := {}, heap.acquire := [] }).1 = .success ∧
    (readGscvdHeader (signedEnv false 1 1144 1144) 0 0x100).map
        GscVerificationData.fmapLocation = some 0 ∧
    ∀ offset, ¬FmapNames (signedEnv false 1 1144 1144) 0 offset := by
  obtain ⟨h₁, h₂, h₃⟩ : (findV2Entry toy (run toy (initial 0)
        [.check (signedEnv true 1 1144 1144) {}]).page).map
          (fun d => (d.fmapOffset, d.gvdOffset)) = some (0, 0x100) ∧
      (doApRoCheck toy (signedEnv false 1 1144 1144)
        { run toy (initial 0) [.check (signedEnv true 1 1144 1144) {}] with
          faults := {}, heap.acquire := [] }).1 = .success ∧
      (readGscvdHeader (signedEnv false 1 1144 1144) 0 0x100).map
        GscVerificationData.fmapLocation = some 0 := by
    decide
  refine ⟨h₁, h₂, h₃, fun _ ⟨sig, _, _, hr, hs, _⟩ => ?_⟩
  rw [hs] at hr
  exact absurd hr (by decide)

/-! ### The cached rollback counter -/

set_option maxRecDepth 100000 in
/-- A GVD with rollback counter 5 is verified and cached; a GVD with counter 2 then passes and
replaces it in the cache. -/
theorem rollback_below_cache :
    (findV2Entry toy (run toy (initial 0) [.check (signedEnv true 5 1144 1144) {}]).page).map
        GvdDescriptor.rollback = some 5 ∧
    (doApRoCheck toy (signedEnv true 2 1144 1144)
      { run toy (initial 0) [.check (signedEnv true 5 1144 1144) {}] with
        faults := {}, heap.acquire := [] }).1 = .success ∧
    (findV2Entry toy (run toy (initial 0) [.check (signedEnv true 5 1144 1144) {},
      .check (signedEnv true 2 1144 1144) {}]).page).map GvdDescriptor.rollback = some 2 := by
  decide

end ApRoIntegrity
