import ApRoIntegrity.Seeding

/-!
# The hash the host reads

`vc_get_ap_ro_hash` answers the host with `p_chk->payload.digest`, the 32 bytes after the
record header, once `ap_ro_check_unsupported` accepts the page. On the factory record those bytes
are the seeded digest. On a page caching a V2 descriptor they are not a digest: the union puts
the descriptor where the payload was, so the command answers with the descriptor's first 32
bytes, its FMAP and GVD offsets, its rollback counter and the first 20 bytes of the GVD's hash.

## What is proved here

* `vcGetApRoHash_success`: a successful answer is the page's digest field on a page
  `ap_ro_check_unsupported` accepts.
* `pageDigest_gvdImage`: what that field holds under a V2 descriptor.
* `seed_hash_round_trip`: right after a successful seed on an erased page, the command answers
  with the seeded digest.
* `apRoHash_sound`: over every run from an erased page whose page erases and writes succeed, a
  successful answer is the digest of a payload an earlier seed wrote, or the first 32 bytes of
  the descriptor of a GVD an earlier run verified, its offset among them.
-/

namespace ApRoIntegrity

section

variable (P : Platform)

/-- `vc_get_ap_ro_hash`: the return code and the response, the error byte of
`ap_ro_check_unsupported` or the 32 bytes of `p_chk->payload.digest`. A non-empty request is
refused with an empty response. -/
def vcGetApRoHash (brd : Board) (inputSize : ℕ) (s : St) :
    VendorCmdRc × Option (ApRoCheckVcErrors ⊕ List UInt8) :=
  if inputSize ≠ 0 then (.bogusArgs, none)
  else
    let rv := apRoCheckUnsupported P brd s.page
    if rv ≠ .ok then (.internalError, some (.inl rv)) else (.success, some (.inr (pageDigest s.page)))

theorem vcGetApRoHash_success {brd : Board} {inputSize : ℕ} {s : St} {rsp : List UInt8}
    (h : vcGetApRoHash P brd inputSize s = (.success, some (.inr rsp))) :
    apRoCheckUnsupported P brd s.page = .ok ∧ rsp = pageDigest s.page := by
  unfold vcGetApRoHash at h
  dsimp only at h
  split_ifs at h with h₁ h₂ <;> cases h
  exact ⟨not_not.mp h₂, rfl⟩

/-- The erased page is never accepted. -/
theorem apRoCheckUnsupported_erased (brd : Board) : apRoCheckUnsupported P brd erased ≠ .ok := by
  have hn : pageNumRanges erased = 0xFFFF := rfl
  rw [apRoCheckUnsupported]
  by_cases hb : brd.bidBlocked <;> simp [hb, hn]

/-- Under a V2 descriptor, the digest field holds the descriptor's offsets, its rollback counter
and the first 20 bytes of its hash. -/
theorem pageDigest_gvdImage (offset : ℕ) (h : GscVerificationData) (ranges : List UInt8) :
    pageDigest (gvdImage P offset h ranges) = toLE 4 h.fmapLocation ++ toLE 4 offset ++
      toLE 4 h.rollbackCounter ++ (P.sha256 (h.bytes ++ ranges)).take 20 := by
  rw [pageDigest, readMem_of_bytesAt_sub (i := 8) (bytesAt_gvdImage P offset h ranges) (by
    simp [gvdRecord, gvdDescriptorOf, GvdDescriptor.toBytes, P.length_sha256])]
  simp [gvdRecord, gvdDescriptorOf, GvdDescriptor.toBytes, P.length_sha256, List.take_take]

/-- A successful seed on an erased page leaves the factory record of its payload. -/
theorem vcSeedApRoCheck_page {brd : Board} {buf : List UInt8} {s : St} (hne : buf ≠ [])
    (hp : s.page = erased) (h : (vcSeedApRoCheck P brd buf s).1.1 = .success) :
    (vcSeedApRoCheck P brd buf s).2.page = seedImage P buf := by
  obtain ⟨-, -, -, -, hh, hq, e⟩ := vcSeedApRoCheck_success P hne h
  rw [St.pageWrite_fst, Option.isNone_iff_eq_none] at hh
  rw [St.pageWrite_fst, St.pageWrite_snd, Option.isNone_iff_eq_none] at hq
  rw [e, seedImage_eq, ← hp]
  simp only [St.record, St.pageWrite_snd, hh, hq]
  rfl

/-- **Seed, then read the hash back.** After a successful seed of a payload on an erased page, on
a flash bank that holds the payload, `vc_get_ap_ro_hash` answers a board that is not
Board-ID-blocked with the payload's digest. -/
theorem seed_hash_round_trip (brd brd' : Board) {buf : List UInt8} {s : St} (hne : buf ≠ [])
    (hp : s.page = erased) (hbank : buf.length ≤ P.flashBankSize)
    (hseed : (vcSeedApRoCheck P brd buf s).1.1 = .success) (hb : brd'.bidBlocked = false) :
    vcGetApRoHash P brd' 0 (vcSeedApRoCheck P brd buf s).2 = (.success, some (.inr (buf.take 32))) := by
  obtain ⟨-, hs, -⟩ := vcSeedApRoCheck_success P hne hseed
  have hu := apRoCheckUnsupported_seedImage P hb hs (by obtain ⟨h₁, h₂, -⟩ := hs; omega)
  rw [vcGetApRoHash, if_neg (not_not.mpr rfl)]
  dsimp only
  rw [vcSeedApRoCheck_page P hne hp hseed, hu, if_neg (not_not.mpr rfl), pageDigest_seedImage P hs]

/-- **What `vc_get_ap_ro_hash` reports.** Over every run from an erased page in which no erase or
write of the page fails, a successful answer is the digest of a payload seeded earlier, or, on a
page caching the descriptor of a GVD verified earlier at offset `o`, the descriptor's first 32
bytes: `fmap_offset`, `gvd_offset` (that is, `o`), `rollback` and the first 20 bytes of SHA-256
of the GVD header and its ranges. -/
theorem apRoHash_sound (info : ℕ) (ops : List Op) (hops : ∀ op ∈ ops, op.PageOk) (brd : Board)
    (inputSize : ℕ) {rsp : List UInt8}
    (h : vcGetApRoHash P brd inputSize (run P (initial info) ops) = (.success, some (.inr rsp))) :
    (∃ buf, .seeded buf ∈ (run P (initial info) ops).history ∧ SeedShape buf ∧
      rsp = buf.take 32) ∨
    (∃ o hdr ranges, .verified o hdr ranges ∈ (run P (initial info) ops).history ∧
      lowestAcceptableGvdRollback ≤ hdr.rollbackCounter ∧ o < 2 ^ 32 ∧
      rsp = toLE 4 hdr.fmapLocation ++ toLE 4 o ++ toLE 4 hdr.rollbackCounter ++
        (P.sha256 (hdr.bytes ++ ranges)).take 20) := by
  obtain ⟨hu, rfl⟩ := vcGetApRoHash_success P h
  have hx : PageExplained P (run P (initial info) ops).history (run P (initial info) ops).page :=
    explained_run P ops hops (initial info) .empty
  generalize (run P (initial info) ops).page = p at hx hu
  cases hx with
  | empty => exact absurd hu (apRoCheckUnsupported_erased P brd)
  | seeded hb hs => exact .inl ⟨_, hb, hs, pageDigest_seedImage P hs⟩
  | verified hv hr ho => exact .inr ⟨_, _, _, hv, hr, ho, pageDigest_gvdImage P _ _ _⟩

end

set_option maxRecDepth 100000 in
theorem seed_hash_round_trip_signedImage :
    seedPayload (List.replicate 32 0) [RoRange.mk 0 8] ≠ [] ∧ (initial 0).page = erased ∧
      (seedPayload (List.replicate 32 0) [RoRange.mk 0 8]).length ≤ toy.flashBankSize ∧
      (vcSeedApRoCheck toy signedBoard (seedPayload (List.replicate 32 0) [RoRange.mk 0 8])
        (initial 0)).1.1 = .success ∧ signedBoard.bidBlocked = false ∧
      vcGetApRoHash toy signedBoard 0 (vcSeedApRoCheck toy signedBoard
          (seedPayload (List.replicate 32 0) [RoRange.mk 0 8]) (initial 0)).2 =
        (.success, some (.inr ((seedPayload (List.replicate 32 0) [RoRange.mk 0 8]).take 32))) := by
  have hne : seedPayload (List.replicate 32 0) [RoRange.mk 0 8] ≠ [] := fun h => by
    simpa [seedPayload, RoRange.toBytes] using congrArg List.length h
  have hseed : (vcSeedApRoCheck toy signedBoard (seedPayload (List.replicate 32 0)
      [RoRange.mk 0 8]) (initial 0)).1.1 = .success := by decide
  exact ⟨hne, rfl, by decide, hseed, rfl,
    seed_hash_round_trip toy signedBoard signedBoard hne rfl (by decide) hseed rfl⟩

set_option maxRecDepth 100000 in
/-- A seed of the zero digest on the erased page, then the command: its answer is the digest. -/
theorem apRoHash_sound_seeded :
    (∀ op ∈ [Op.seed signedBoard (seedPayload (List.replicate 32 0) [RoRange.mk 0 8]) {}],
        op.PageOk) ∧
      vcGetApRoHash toy signedBoard 0
        (run toy (initial 0) [.seed signedBoard (seedPayload (List.replicate 32 0) [RoRange.mk 0 8]) {}]) =
          (.success, some (.inr (List.replicate 32 0))) ∧
      ((∃ buf, .seeded buf ∈ (run toy (initial 0)
          [.seed signedBoard (seedPayload (List.replicate 32 0) [RoRange.mk 0 8]) {}]).history ∧
          SeedShape buf ∧ List.replicate 32 0 = buf.take 32) ∨
        (∃ o hdr ranges, .verified o hdr ranges ∈ (run toy (initial 0)
            [.seed signedBoard (seedPayload (List.replicate 32 0) [RoRange.mk 0 8]) {}]).history ∧
          lowestAcceptableGvdRollback ≤ hdr.rollbackCounter ∧ o < 2 ^ 32 ∧
          List.replicate 32 0 = toLE 4 hdr.fmapLocation ++ toLE 4 o ++ toLE 4 hdr.rollbackCounter ++
            (toy.sha256 (hdr.bytes ++ ranges)).take 20)) := by
  have hops : ∀ op ∈ [Op.seed signedBoard (seedPayload (List.replicate 32 0) [RoRange.mk 0 8]) {}],
      op.PageOk := by
    simp only [List.mem_singleton]
    rintro op rfl
    exact ⟨fun _ h => (nomatch h), fun _ h => (nomatch h)⟩
  have h : vcGetApRoHash toy signedBoard 0 (run toy (initial 0)
      [.seed signedBoard (seedPayload (List.replicate 32 0) [RoRange.mk 0 8]) {}]) =
        (.success, some (.inr (List.replicate 32 0))) := by decide
  exact ⟨hops, h, apRoHash_sound toy 0 _ hops signedBoard 0 h⟩

end ApRoIntegrity
