import ApRoIntegrity.Seeding

/-!
# The factory record is written once

`vc_seed_ap_ro_check` programs the record only where the page is erased, and refuses a seed
with `ARCVE_ALREADY_PROGRAMMED` otherwise; the one way back to an erased page is the seed with an
empty payload, which erases it. A verification run may replace the factory record with a V2
descriptor through `save_gvd_hash`, which erases the page and writes the descriptor at once, so
the page is never left erased by a run whose page write succeeds.

Every record starts with the layout version 1, and flash programming only clears bits, so the
first byte of a programmed page is never `0xFF` again until the page is erased. That byte is
what this module follows (`St.Programmed`).

## What is proved here

* `vcSeedApRoCheck_of_programmed`: on a programmed page, a seed with a payload is refused and
  changes nothing, since the erased-page check covers the first byte.
* `programmed_step` and `programmed_run`: every operation but the erase request keeps the page
  programmed, provided the verification runs' page writes succeed.
* `seed_write_once`: after a successful seed, along every such sequence of operations, a seed
  with a payload is refused and leaves the state as it was.
-/

namespace ApRoIntegrity

/-- The record page holds something: its first byte, the layout version of every record, is
not erased. -/
def St.Programmed (s : St) : Prop := s.page 0 ≠ 0xFF

/-- An operation that cannot leave the page erased: a seed with a payload, a verification run
whose page writes succeed, an AP reset and a firing of the hold. The erase request, the seed
with an empty payload, is the one operation left out. -/
def Op.KeepsRecord : Op → Prop
  | .seed _ buf _ => buf ≠ []
  | .check _ fs => ∀ w ∈ fs.write, w = none
  | .deviceReset => True
  | .fire => True

/-- Programming a version byte of 1 over any byte leaves a byte that is not erased. -/
theorem and_one_ne_ff (b : UInt8) : b &&& 1 ≠ 0xFF := fun h => by
  have h₁ : b.toNat &&& (1 : UInt8).toNat = (0xFF : UInt8).toNat := by
    rw [← UInt8.and_toNat, h]
  have h₂ : b.toNat &&& (1 : UInt8).toNat ≤ (1 : UInt8).toNat := Nat.and_le_right
  rw [h₁] at h₂
  exact absurd h₂ (by decide)

/-- Programming a record, whose first byte is the version 1, leaves a first byte that is not
erased, whatever the page held before. -/
theorem program_version (m : ℕ → UInt8) (rest : List UInt8) : program m 0 (1 :: rest) 0 ≠ 0xFF := by
  simp only [program]
  rw [if_pos (by simp)]
  exact and_one_ne_ff _

/-- A write of a record that does not fail programs the page. -/
theorem pageWrite_programmed {s : St} (rest : List UInt8) (hw : s.faults.write.headD none = none) :
    (s.pageWrite 0 (1 :: rest)).2.Programmed := by
  rw [St.Programmed, St.pageWrite_snd, hw]
  exact program_version _ _

/-- The erased-page check of a seed reads the first byte. -/
theorem page_zero_of_seedCheck {p : ℕ → UInt8} {len : ℕ}
    (h : (readMem p 0 ((8 + len) / 4 * 4)).all (· == 0xFF) = true) (hl : 40 ≤ len) :
    p 0 = 0xFF := by
  have h₀ := List.all_eq_true.mp h (p 0) (by
    simp only [readMem, List.mem_map, List.mem_range]; exact ⟨0, by omega, rfl⟩)
  simpa using h₀

section

variable (P : Platform)

/-- **A programmed page refuses a seed with a payload**, and the seed changes nothing. -/
theorem vcSeedApRoCheck_of_programmed (brd : Board) {buf : List UInt8} {s : St} (hne : buf ≠ [])
    (hp : s.Programmed) :
    (vcSeedApRoCheck P brd buf s).1.1 ≠ .success ∧ (vcSeedApRoCheck P brd buf s).2 = s := by
  rcases vcSeedApRoCheck_cases P brd buf s with h | ⟨hb, -⟩ | ⟨-, hl, -, -, -, hff, -⟩
  · exact h
  · exact absurd hb hne
  · exact absurd (page_zero_of_seedCheck hff hl) hp

/-- A successful seed leaves the page programmed. -/
theorem vcSeedApRoCheck_programmed {brd : Board} {buf : List UInt8} {s : St} (hne : buf ≠ [])
    (h : (vcSeedApRoCheck P brd buf s).1.1 = .success) : (vcSeedApRoCheck P brd buf s).2.Programmed := by
  obtain ⟨-, -, -, -, hh, -, e⟩ := vcSeedApRoCheck_success P hne h
  rw [St.pageWrite_fst, Option.isNone_iff_eq_none] at hh
  rw [e]
  simp only [St.Programmed, St.record, St.pageWrite_snd, hh]
  rw [program_of_not_mem (.inl (by decide))]
  exact program_version _ _

/-! ### Verification runs -/

/-- The page is programmed and no page write still to come in this operation fails. -/
def St.ProgrammedOk (s : St) : Prop := s.Programmed ∧ ∀ w ∈ s.faults.write, w = none

/-- `save_gvd_hash` erases the page only to write its record over it. -/
theorem saveGvdHash_programmedOk (offset : ℕ) (h : GscVerificationData) (ranges : List UInt8)
    {s : St} (hs : s.ProgrammedOk) : (saveGvdHash P offset h ranges s).2.ProgrammedOk := by
  rw [saveGvdHash_snd]
  split
  · exact hs
  have hw : (if pageNumRanges s.page ≠ 0xFFFF then s.apRoEraseHash.2 else s).faults.write =
      s.faults.write := by
    split
    · rw [St.apRoEraseHash_snd]
    · rfl
  refine ⟨pageWrite_programmed _ (hw ▸ write_headD_none hs.2), ?_⟩
  rw [St.pageWrite_snd, hw]
  exact fun w hm => hs.2 w (List.mem_of_mem_tail hm)

theorem checkGscvd_programmedOk (E : Env) (fmapOffset offset : ℕ) {s : St} (hs : s.ProgrammedOk) :
    (checkGscvd P E fmapOffset offset s).2.ProgrammedOk := by
  rcases checkGscvd_cases P E fmapOffset offset s with ⟨rv, e, -⟩ | ⟨rv, m, e, -⟩ |
    ⟨h, ranges, m, -, -, -, -, e⟩ <;> rw [e]
  · exact hs
  · exact hs
  generalize ht : { s with heap := m }.record (.verified offset h ranges) = t
  have hts : t.page = s.page ∧ t.faults = s.faults := by subst ht; exact ⟨rfl, rfl⟩
  obtain ⟨h₁, -, -, h₄⟩ := commitInfo_fields t
  have hc : (commitInfo t).2.ProgrammedOk :=
    ⟨by rw [St.Programmed, h₁, hts.1]; exact hs.1, by rw [h₄, hts.2]; exact hs.2⟩
  rcases commitGscvd_cases P offset h ranges t with ⟨-, e⟩ | ⟨-, e⟩ <;> rw [e]
  · exact hc
  · exact saveGvdHash_programmedOk P offset h ranges hc

/-! ### Whole runs -/

/-- **One step**: every operation but the erase request keeps the page programmed. -/
theorem programmed_step {s : St} {op : Op} (hop : op.KeepsRecord) (hs : s.Programmed) :
    (step P s op).Programmed := by
  cases op with
  | seed brd buf fs =>
    rw [step, (vcSeedApRoCheck_of_programmed P brd (s := { s with faults := fs }) hop hs).2]
    exact hs
  | check E fs =>
    rw [St.Programmed, (step_check_fields P s E fs).1, verdictState]
    split
    · exact hs
    · exact (v2Check_inv P E (Q := St.ProgrammedOk)
        (fun _ _ _ _ ht => checkGscvd_programmedOk P E _ _ ht)
        { s with faults := fs, heap.acquire := E.shm } ⟨hs, hop⟩).1
  | deviceReset =>
    simp only [step, apRoDeviceReset]
    split <;> exact hs
  | fire =>
    simp only [step]
    split <;> exact hs

theorem programmed_run (ops : List Op) (hops : ∀ op ∈ ops, op.KeepsRecord) :
    ∀ s, St.Programmed s → (run P s ops).Programmed := by
  induction ops with
  | nil => exact fun _ h => h
  | cons op ops ih =>
    exact fun s h => ih (fun o ho => hops o (List.mem_cons_of_mem _ ho)) _
      (programmed_step P (hops op (List.mem_cons_self _ _)) h)

/-- **The factory record is written once.** After a successful seed of a payload, along every
sequence of operations without an erase request whose verification runs write the page without
failure, a seed with a payload is refused and leaves the state as it was. -/
theorem seed_write_once (brd : Board) {buf : List UInt8} {s : St} (hne : buf ≠ [])
    (hseed : (vcSeedApRoCheck P brd buf s).1.1 = .success) (ops : List Op)
    (hops : ∀ op ∈ ops, op.KeepsRecord) (brd' : Board) {buf' : List UInt8} (hne' : buf' ≠ []) :
    (vcSeedApRoCheck P brd' buf' (run P (vcSeedApRoCheck P brd buf s).2 ops)).1.1 ≠ .success ∧
      (vcSeedApRoCheck P brd' buf' (run P (vcSeedApRoCheck P brd buf s).2 ops)).2 =
        run P (vcSeedApRoCheck P brd buf s).2 ops :=
  vcSeedApRoCheck_of_programmed P brd' hne'
    (programmed_run P ops hops _ (vcSeedApRoCheck_programmed P hne hseed))

end

set_option maxRecDepth 100000 in
/-- A seed on the erased page, then a run on the signed image, a reset and a second seed: the
second seed is refused, and so is a third. -/
theorem seed_write_once_signedImage :
    seedPayload (List.replicate 32 0) [RoRange.mk 0 8] ≠ [] ∧
      (vcSeedApRoCheck toy signedBoard (seedPayload (List.replicate 32 0) [RoRange.mk 0 8])
        (initial 0)).1.1 = .success ∧
      (∀ op ∈ [Op.check (signedEnv true 1 1144 1144) {}, .deviceReset,
        .seed signedBoard (seedPayload (List.replicate 32 1) [RoRange.mk 0 8]) {}],
          op.KeepsRecord) ∧
      seedPayload (List.replicate 32 1) [RoRange.mk 0 8] ≠ [] ∧
      ((vcSeedApRoCheck toy signedBoard (seedPayload (List.replicate 32 1) [RoRange.mk 0 8])
          (run toy (vcSeedApRoCheck toy signedBoard
            (seedPayload (List.replicate 32 0) [RoRange.mk 0 8]) (initial 0)).2
            [.check (signedEnv true 1 1144 1144) {}, .deviceReset,
              .seed signedBoard (seedPayload (List.replicate 32 1) [RoRange.mk 0 8]) {}])).1.1 ≠
          .success ∧
        (vcSeedApRoCheck toy signedBoard (seedPayload (List.replicate 32 1) [RoRange.mk 0 8])
          (run toy (vcSeedApRoCheck toy signedBoard
            (seedPayload (List.replicate 32 0) [RoRange.mk 0 8]) (initial 0)).2
            [.check (signedEnv true 1 1144 1144) {}, .deviceReset,
              .seed signedBoard (seedPayload (List.replicate 32 1) [RoRange.mk 0 8]) {}])).2 =
          run toy (vcSeedApRoCheck toy signedBoard
            (seedPayload (List.replicate 32 0) [RoRange.mk 0 8]) (initial 0)).2
            [.check (signedEnv true 1 1144 1144) {}, .deviceReset,
              .seed signedBoard (seedPayload (List.replicate 32 1) [RoRange.mk 0 8]) {}]) := by
  have hne : ∀ d : List UInt8, seedPayload d [RoRange.mk 0 8] ≠ [] := fun d h => by
    simpa [seedPayload, RoRange.toBytes] using congrArg List.length h
  have hops : ∀ op ∈ [Op.check (signedEnv true 1 1144 1144) {}, .deviceReset,
      .seed signedBoard (seedPayload (List.replicate 32 1) [RoRange.mk 0 8]) {}],
        op.KeepsRecord := by
    simp only [List.mem_cons, List.mem_singleton, List.not_mem_nil, or_false]
    rintro op (rfl | rfl | rfl)
    · exact fun w hw => by cases hw
    · trivial
    · exact hne _
  have hseed : (vcSeedApRoCheck toy signedBoard (seedPayload (List.replicate 32 0)
      [RoRange.mk 0 8]) (initial 0)).1.1 = .success := by decide
  exact ⟨hne _, hseed, hops, hne _,
    seed_write_once toy signedBoard (hne _) hseed _ hops signedBoard (hne _)⟩

end ApRoIntegrity
