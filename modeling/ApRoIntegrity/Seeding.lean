import ApRoIntegrity.Soundness

/-!
# Seeding the factory record

`vc_seed_ap_ro_check` stores the V1 record: a payload of a SHA-256 digest and 1 to 32 ranges of
AP flash, behind a header carrying the number of ranges and a 4-byte truncated checksum of the
payload. It refuses a board whose Board ID type is programmed, a malformed payload, a range that
is too large or reaches past the flash, and a page that is not erased where the record goes.

The payload a host sends for a digest `d` and ranges `rs` is `seedPayload d rs`, each range laid
out as its two little-endian `uint32_t` members.

## What is proved here

* `vcSeedApRoCheck_success`: everything a successful seed of a non-empty payload has checked and
  done.
* `seed_success_iff_u32_bound`: on a blank board, an erased page and flash writes that succeed, the
  seed of a digest and 1 to 32 ranges succeeds exactly when every range has `range_size` at most
  `MAX_SUPPORTED_RANGE_SIZE` and `flash_offset + range_size`, summed in `uint32_t`, at most
  `MAX_SUPPORTED_FLASH_SIZE`. A range that wraps past `2 ^ 32` is stored.
* `seed_round_trip`: after a successful seed on an erased page, `ap_ro_check_unsupported` accepts
  the record on a board that `ap_ro_board_id_blocked()` does not block, and the V1 check of
  `do_ap_ro_check` hashes exactly the seeded ranges, in order, against the seeded digest.
* `seed_round_trip_blocked`: the seed checks only that the Board ID type is blank, so it succeeds
  on a blocked board too, and there `ap_ro_check_unsupported` refuses the record it wrote.
-/

namespace ApRoIntegrity

/-! ### The payload -/

/-- The eight bytes of a `struct ro_range`. -/
def RoRange.toBytes (r : RoRange) : List UInt8 := toLE 4 r.flashOffset ++ toLE 4 r.rangeSize

/-- A range whose members fit their `uint32_t`s. -/
def RoRange.Fits (r : RoRange) : Prop := r.flashOffset < 2 ^ 32 ∧ r.rangeSize < 2 ^ 32

/-- `struct ap_ro_check_payload` for the digest `d` and the ranges `rs`. -/
def seedPayload (d : List UInt8) (rs : List RoRange) : List UInt8 := d ++ rs.flatMap RoRange.toBytes

@[simp] theorem length_toBytes (r : RoRange) : r.toBytes.length = 8 := by simp [RoRange.toBytes]

theorem length_flatMap_toBytes (rs : List RoRange) : (rs.flatMap RoRange.toBytes).length = 8 * rs.length := by
  induction rs with
  | nil => rfl
  | cons r rs ih => simp only [List.flatMap_cons, List.length_append, length_toBytes, ih,
      List.length_cons]; ring

theorem rangesOf_toBytes_append {r : RoRange} (hr : r.Fits) (bs : List UInt8) (n : ℕ) :
    rangesOf (r.toBytes ++ bs) (n + 1) = r :: rangesOf bs n := by
  have h₀ : field (r.toBytes ++ bs) 0 4 = r.flashOffset := by
    rw [RoRange.toBytes, List.append_assoc, field_toLE_append, Nat.mod_eq_of_lt (by simpa using hr.1)]
  have h₄ : field (r.toBytes ++ bs) 4 4 = r.rangeSize := by
    rw [RoRange.toBytes, List.append_assoc, field_append_right (by simp)]
    simp only [length_toLE, Nat.sub_self]
    rw [field_toLE_append, Nat.mod_eq_of_lt (by simpa using hr.2)]
  simp only [rangesOf, List.range_succ_eq_map, List.map_cons, List.map_map, Nat.mul_zero,
    Nat.zero_add, h₀, h₄]
  congr 1

/-- The ranges of a payload are read back as they were laid out. -/
theorem rangesOf_toBytes {rs : List RoRange} (h : ∀ r ∈ rs, r.Fits) :
    rangesOf (rs.flatMap RoRange.toBytes) rs.length = rs := by
  induction rs with
  | nil => rfl
  | cons r rs ih =>
    rw [List.flatMap_cons, List.length_cons,
      rangesOf_toBytes_append (h r (List.mem_cons_self _ _)),
      ih fun r' hr' => h r' (List.mem_cons_of_mem _ hr')]

theorem seedPayload_shape {d : List UInt8} {rs : List RoRange} (hd : d.length = 32) :
    (seedPayload d rs).length = 32 + 8 * rs.length ∧
      ((seedPayload d rs).length - 32) / 8 = rs.length ∧
      (seedPayload d rs).drop 32 = rs.flatMap RoRange.toBytes ∧ (seedPayload d rs).take 32 = d := by
  have hl : (seedPayload d rs).length = 32 + 8 * rs.length := by
    rw [seedPayload, List.length_append, hd, length_flatMap_toBytes]
  refine ⟨hl, by omega, ?_, ?_⟩
  · rw [seedPayload, List.drop_left' hd]
  · rw [seedPayload, List.take_left' hd]

/-! ### The range checks -/

/-- The range checks of `vc_seed_ap_ro_check` pass exactly when every range is small enough and
ends, in `uint32_t`, inside the flash. -/
theorem seedRangeError_eq_none_iff (rs : List RoRange) :
    seedRangeError rs = none ↔ ∀ r ∈ rs, r.rangeSize ≤ maxSupportedRangeSize ∧
      u32 (r.flashOffset + r.rangeSize) ≤ maxSupportedFlashSize := by
  induction rs with
  | nil => simp [seedRangeError]
  | cons r rs ih =>
    rw [seedRangeError, List.forall_mem_cons, ← ih]
    split_ifs with h₁ h₂
    · exact iff_of_false nofun fun h => absurd h.1.1 (Nat.not_le.mpr h₁)
    · exact iff_of_false nofun fun h => absurd h.1.2 (Nat.not_le.mpr h₂)
    · simp only [Nat.not_lt.mp h₁, Nat.not_lt.mp h₂, and_self, true_and]

/-! ### A successful seed -/

section

variable (P : Platform)

/-- **Everything a successful seed checked and did**: the Board ID type was blank, the payload is
a digest and 1 to 32 ranges that pass the range checks, the page was erased where the record
goes, both writes succeeded, and the seed is recorded. -/
theorem vcSeedApRoCheck_success {brd : Board} {buf : List UInt8} {s : St} (hne : buf ≠ [])
    (h : (vcSeedApRoCheck P brd buf s).1.1 = .success) :
    brd.boardId.map BoardId.typeIsBlank = some true ∧ SeedShape buf ∧
      seedRangeError (rangesOf (buf.drop 32) ((buf.length - 32) / 8)) = none ∧
      (readMem s.page 0 ((apRoCheckHeaderSize + buf.length) / 4 * 4)).all (· == 0xFF) = true ∧
      (s.pageWrite 0 (seedHeader P buf ((buf.length - 32) / 8))).1 = true ∧
      ((s.pageWrite 0 (seedHeader P buf ((buf.length - 32) / 8))).2.pageWrite
        apRoCheckHeaderSize buf).1 = true ∧
      (vcSeedApRoCheck P brd buf s).2 =
        ((s.pageWrite 0 (seedHeader P buf ((buf.length - 32) / 8))).2.pageWrite
          apRoCheckHeaderSize buf).2.record (.seeded buf) := by
  rcases vcSeedApRoCheck_cases P brd buf s with ⟨hn, -⟩ | ⟨hb, -⟩ |
    ⟨hb, h₁, h₂, h₃, hr, hff, ⟨-, hn, -⟩ | ⟨-, -, hn, -⟩ | ⟨hh, hp, -, e⟩⟩
  · exact absurd h hn
  · exact absurd hb hne
  · exact absurd h hn
  · exact absurd h hn
  · exact ⟨hb, ⟨h₁, h₂, h₃⟩, hr, hff, hh, hp, e⟩

theorem write_headD_none {l : List (Option ℕ)} (h : ∀ w ∈ l, w = none) : l.headD none = none := by
  cases l with
  | nil => rfl
  | cons w ws => exact h w (List.mem_cons_self _ _)

/-- **The seed's offset bound wraps.** On a blank board and an erased page, with flash writes that
succeed, the seed of a digest and 1 to 32 ranges succeeds exactly when every range has a
`range_size` of at most `MAX_SUPPORTED_RANGE_SIZE` and a `flash_offset + range_size`, summed in
`uint32_t`, of at most `MAX_SUPPORTED_FLASH_SIZE`. -/
theorem seed_success_iff_u32_bound (brd : Board) {d : List UInt8} {rs : List RoRange} {s : St}
    (hb : brd.boardId.map BoardId.typeIsBlank = some true) (hd : d.length = 32)
    (hfit : ∀ r ∈ rs, r.Fits) (hn : rs ≠ [] ∧ rs.length ≤ aproMaxNumRanges)
    (hp : s.page = erased) (hw : ∀ w ∈ s.faults.write, w = none) :
    (vcSeedApRoCheck P brd (seedPayload d rs) s).1.1 = .success ↔
      ∀ r ∈ rs, r.rangeSize ≤ maxSupportedRangeSize ∧
        u32 (r.flashOffset + r.rangeSize) ≤ maxSupportedFlashSize := by
  obtain ⟨hl, hk, hdrop, -⟩ := @seedPayload_shape d rs hd
  have hr : seedRangeError (rangesOf ((seedPayload d rs).drop 32)
      (((seedPayload d rs).length - 32) / 8)) = none ↔ ∀ r ∈ rs, r.rangeSize ≤ maxSupportedRangeSize ∧
        u32 (r.flashOffset + r.rangeSize) ≤ maxSupportedFlashSize := by
    rw [hk, hdrop, rangesOf_toBytes hfit, seedRangeError_eq_none_iff]
  have hne : seedPayload d rs ≠ [] := fun h => by rw [h, List.length_nil] at hl; omega
  rw [← hr]
  refine ⟨fun h => (vcSeedApRoCheck_success P hne h).2.2.1, fun he => ?_⟩
  have hrs : 1 ≤ rs.length := List.length_pos.mpr hn.1
  have hw₁ : s.faults.write.headD none = none := write_headD_none hw
  have hw₂ : s.faults.write.tail.headD none = none :=
    write_headD_none fun w h => hw w (List.mem_of_mem_tail h)
  unfold vcSeedApRoCheck
  rw [if_neg (by rw [hb]; exact not_ne_iff.mpr rfl), if_neg (by omega), if_neg (by omega),
    if_neg (by omega), if_neg (by rw [hk]; exact Nat.not_lt.mpr hn.2), he]
  dsimp only
  rw [if_neg (by simp [hp, readMem_erased]), if_pos (by rw [St.pageWrite_fst, hw₁]; rfl),
    if_pos (by rw [St.pageWrite_fst, St.pageWrite_snd]; exact congrArg Option.isNone hw₂)]

theorem seed_success_iff_u32_bound_wrapped :
    signedBoard.boardId.map BoardId.typeIsBlank = some true ∧
      (List.replicate 32 (0 : UInt8)).length = 32 ∧
      (∀ r ∈ [RoRange.mk 0xFFFFFF00 0x100], r.Fits) ∧
      ([RoRange.mk 0xFFFFFF00 0x100] ≠ [] ∧ [RoRange.mk 0xFFFFFF00 0x100].length ≤ aproMaxNumRanges) ∧
      (initial 0).page = erased ∧ (∀ w ∈ (initial 0).faults.write, w = none) ∧
      (vcSeedApRoCheck toy signedBoard
        (seedPayload (List.replicate 32 0) [RoRange.mk 0xFFFFFF00 0x100]) (initial 0)).1.1 =
          .success ∧
      maxSupportedFlashSize < 0xFFFFFF00 + 0x100 := by
  have hfit : ∀ r ∈ [RoRange.mk 0xFFFFFF00 0x100], r.Fits := by simp [RoRange.Fits]
  have hw : ∀ w ∈ (initial 0).faults.write, w = none := by simp [initial]
  exact ⟨rfl, rfl, hfit, ⟨by simp, by decide⟩, rfl, hw,
    (seed_success_iff_u32_bound toy signedBoard rfl
      (show (List.replicate 32 (0 : UInt8)).length = 32 from rfl) hfit ⟨by simp, by decide⟩ rfl hw).mpr
      (by decide), by decide⟩

/-! ### Reading the record back -/

theorem pageChecksum_seedImage (buf : List UInt8) :
    pageChecksum (seedImage P buf) = (P.sha256 buf).take 4 := by
  rw [pageChecksum, readMem_of_bytesAt_sub (i := 4) (bytesAt_seedImage P buf) (by
    simp only [List.length_append, length_seedHeader]; omega), seedHeader]
  simp [P.length_sha256]

theorem pagePayload_seedImage {buf : List UInt8} (hs : SeedShape buf) :
    pagePayload (seedImage P buf) (pageNumRanges (seedImage P buf)) = buf := by
  obtain ⟨h₁, h₂, h₃⟩ := hs
  rw [pageNumRanges_seedImage P ⟨h₁, h₂, h₃⟩, pagePayload,
    show 8 * ((buf.length - 32) / 8) + 32 = buf.length by omega,
    readMem_of_bytesAt_sub (i := 8) (bytesAt_seedImage P buf) (by
      simp only [List.length_append, length_seedHeader]; omega),
    List.drop_left' (length_seedHeader P _ _), List.take_length]

/-- A seeded record passes `verify_ap_ro_check_space` when the flash bank holds its payload. -/
theorem verifyApRoCheckSpace_seedImage {buf : List UInt8} (hs : SeedShape buf)
    (hbank : 8 * ((buf.length - 32) / 8) + 32 ≤ P.flashBankSize) :
    verifyApRoCheckSpace P (seedImage P buf) = true := by
  rw [verifyApRoCheckSpace, pagePayload_seedImage P hs, pageType_seedImage,
    pageChecksum_seedImage, pageNumRanges_seedImage P hs]
  simp [hbank]

theorem apRoCheckUnsupported_seedImage {brd : Board} (hb : brd.bidBlocked = false)
    {buf : List UInt8} (hs : SeedShape buf)
    (hbank : 8 * ((buf.length - 32) / 8) + 32 ≤ P.flashBankSize) :
    apRoCheckUnsupported P brd (seedImage P buf) = .ok := by
  have hn := pageNumRanges_seedImage P hs
  have h32 := hs.2.2
  rw [apRoCheckUnsupported, if_neg (by simp [hb]), if_neg (by omega),
    if_neg (by simp [verifyApRoCheckSpace_seedImage P hs hbank])]

/-- **The factory record round trip.** After a successful seed of a digest `d` and ranges `rs` on
an erased page, on a flash bank that holds the payload, `ap_ro_check_unsupported` accepts the
record on a board that is not Board-ID-blocked, and the V1 check of `do_ap_ro_check` hashes
exactly `rs`, in order, against `d`. -/
theorem seed_round_trip (brd : Board) (E : Env) {d : List UInt8} {rs : List RoRange} {s : St}
    (hd : d.length = 32) (hfit : ∀ r ∈ rs, r.Fits) (hp : s.page = erased)
    (hbank : 8 * rs.length + 32 ≤ P.flashBankSize)
    (hseed : (vcSeedApRoCheck P brd (seedPayload d rs) s).1.1 = .success)
    (hb : E.board.bidBlocked = false) :
    apRoCheckUnsupported P E.board (vcSeedApRoCheck P brd (seedPayload d rs) s).2.page = .ok ∧
      v1Check P E (vcSeedApRoCheck P brd (seedPayload d rs) s).2.page =
        validateRangesSha P E rs d := by
  obtain ⟨hl, hk, hdrop, htake⟩ := @seedPayload_shape d rs hd
  have hne : seedPayload d rs ≠ [] := fun h => by rw [h, List.length_nil] at hl; omega
  obtain ⟨-, hs, -, -, hh, hq, e⟩ := vcSeedApRoCheck_success P hne hseed
  have hpage : (vcSeedApRoCheck P brd (seedPayload d rs) s).2.page =
      seedImage P (seedPayload d rs) := by
    rw [e, seedImage_eq, ← hp]
    simp only [St.record, St.pageWrite_snd]
    rw [St.pageWrite_fst] at hh hq
    rw [Option.isNone_iff_eq_none.mp hh]
    rw [St.pageWrite_snd] at hq
    rw [Option.isNone_iff_eq_none.mp hq]
    rfl
  rw [← hk] at hbank
  have hu := apRoCheckUnsupported_seedImage P hb hs hbank
  refine ⟨hpage ▸ hu, ?_⟩
  rw [hpage, v1Check, if_pos ⟨hu, pageType_seedImage P _⟩, pageRanges_seedImage P hs,
    pageDigest_seedImage P hs, hk, hdrop, htake, rangesOf_toBytes hfit]

theorem seed_round_trip_signedImage :
    (List.replicate 32 (0 : UInt8)).length = 32 ∧ (∀ r ∈ [RoRange.mk 0 8], r.Fits) ∧
      (initial 0).page = erased ∧ 8 * [RoRange.mk 0 8].length + 32 ≤ toy.flashBankSize ∧
      (vcSeedApRoCheck toy signedBoard (seedPayload (List.replicate 32 0) [RoRange.mk 0 8])
        (initial 0)).1.1 = .success ∧
      (signedEnv true 1 1144 1144).board.bidBlocked = false ∧
      (apRoCheckUnsupported toy (signedEnv true 1 1144 1144).board (vcSeedApRoCheck toy signedBoard
          (seedPayload (List.replicate 32 0) [RoRange.mk 0 8]) (initial 0)).2.page = .ok ∧
        v1Check toy (signedEnv true 1 1144 1144) (vcSeedApRoCheck toy signedBoard
          (seedPayload (List.replicate 32 0) [RoRange.mk 0 8]) (initial 0)).2.page =
          validateRangesSha toy (signedEnv true 1 1144 1144) [RoRange.mk 0 8]
            (List.replicate 32 0)) := by
  have hfit : ∀ r ∈ [RoRange.mk 0 8], r.Fits := by simp [RoRange.Fits]
  have hseed : (vcSeedApRoCheck toy signedBoard (seedPayload (List.replicate 32 0)
      [RoRange.mk 0 8]) (initial 0)).1.1 = .success := by decide
  exact ⟨rfl, hfit, rfl, by decide, hseed, rfl,
    seed_round_trip toy signedBoard (signedEnv true 1 1144 1144) rfl hfit rfl (by decide) hseed rfl⟩

end

/-- A board whose Board ID type is blank and which `ap_ro_board_id_blocked()` blocks. -/
def blockedBoard : Board := ⟨some ⟨0x1234, true⟩, true⟩

set_option maxRecDepth 100000 in
/-- On a board with a blank Board ID type that `ap_ro_board_id_blocked()` blocks, the seed of a
digest and one range on an erased page succeeds, but `ap_ro_check_unsupported` then returns
`ARCVE_BOARD_ID_BLOCKED` on the record it wrote, and the next run returns early with
UNSUPPORTED_TRIGGERED instead of taking the V1 branch. -/
theorem seed_round_trip_blocked :
    (vcSeedApRoCheck toy blockedBoard (seedPayload (List.replicate 32 0) [RoRange.mk 0 8])
      (initial 0)).1.1 = .success ∧
    apRoCheckUnsupported toy blockedBoard (vcSeedApRoCheck toy blockedBoard
      (seedPayload (List.replicate 32 0) [RoRange.mk 0 8]) (initial 0)).2.page = .boardIdBlocked ∧
    (run toy (initial 0)
      [.seed blockedBoard (seedPayload (List.replicate 32 0) [RoRange.mk 0 8]) {},
        .check { signedEnv true 1 1144 1144 with board := blockedBoard } {}]).aproResult =
      .unsupportedTriggered := by
  refine ⟨by decide, rfl, ?_⟩
  rw [run_cons, run_cons, run_nil]
  exact step_check_of_unsupported toy _ _ _ (.inl rfl)

end ApRoIntegrity
