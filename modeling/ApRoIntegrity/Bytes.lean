import Mathlib.Data.List.GetD
import Mathlib.Tactic.Ring

/-!
# Bytes

The byte-level vocabulary of the AP RO verifier (`common/ap_ro_integrity_check.c`):
little-endian fields, byte-addressed memories, and flash programming.

Two memories are modelled as functions `ℕ → UInt8`: the AP flash, read through the SPI
passthrough, and the H1 flash page that holds the AP RO check record (`p_chk`). Field values
are natural numbers; where the C code computes in `uint32_t`, or in the 32-bit `size_t` of the
H1 chip, the wrap is written out as `% 2 ^ 32`.

Programming NOR flash can only clear bits: a byte programmed with `b` over `a` becomes
`a &&& b`, so a write lands exactly only where the memory was erased to `0xFF`.
-/

namespace ApRoIntegrity

/-! ### Little-endian fields -/

/-- The natural number with the given little-endian bytes. -/
def ofLE : List UInt8 → ℕ
  | [] => 0
  | b :: bs => b.toNat + 256 * ofLE bs

/-- The `w` little-endian bytes of `n`; bits above `8 * w` are dropped. -/
def toLE : ℕ → ℕ → List UInt8
  | 0, _ => []
  | w + 1, n => UInt8.ofNat (n % 256) :: toLE w (n / 256)

@[simp] theorem ofLE_nil : ofLE [] = 0 := rfl

@[simp] theorem ofLE_cons (b : UInt8) (bs : List UInt8) :
    ofLE (b :: bs) = b.toNat + 256 * ofLE bs := rfl

@[simp] theorem toLE_zero (n : ℕ) : toLE 0 n = [] := rfl

@[simp] theorem toLE_succ (w n : ℕ) :
    toLE (w + 1) n = UInt8.ofNat (n % 256) :: toLE w (n / 256) := rfl

@[simp] theorem length_toLE (w n : ℕ) : (toLE w n).length = w := by
  induction w generalizing n with
  | zero => rfl
  | succ w ih => simp [ih]

theorem ofLE_toLE (w n : ℕ) : ofLE (toLE w n) = n % 256 ^ w := by
  induction w generalizing n with
  | zero => simp [Nat.mod_one]
  | succ w ih =>
    have h : (UInt8.ofNat (n % 256)).toNat = n % 256 :=
      UInt8.toNat_ofNat_of_lt (Nat.mod_lt _ (by norm_num))
    rw [toLE_succ, ofLE_cons, ih, h, pow_succ', Nat.mod_mul]

theorem ofLE_toLE_of_lt {w n : ℕ} (h : n < 256 ^ w) : ofLE (toLE w n) = n := by
  rw [ofLE_toLE, Nat.mod_eq_of_lt h]

theorem ofLE_lt (l : List UInt8) : ofLE l < 256 ^ l.length := by
  induction l with
  | nil => simp
  | cons b bs ih =>
    have hb : b.toNat < 256 := b.toNat_lt_size
    rw [ofLE_cons, List.length_cons, pow_succ]
    omega

/-- The `w`-byte little-endian field at byte offset `off` of a structure's bytes `s`: how a C
structure member is read when the structure is overlaid on those bytes. -/
def field (s : List UInt8) (off w : ℕ) : ℕ := ofLE ((s.drop off).take w)

theorem field_lt (s : List UInt8) (off w : ℕ) : field s off w < 256 ^ w :=
  lt_of_lt_of_le (ofLE_lt _) (Nat.pow_le_pow_right (by norm_num) (List.length_take_le _ _))

theorem field_append_left {s t : List UInt8} {off w : ℕ} (h : off + w ≤ s.length) :
    field (s ++ t) off w = field s off w := by
  unfold field
  rw [List.drop_append_of_le_length (by omega), List.take_append_of_le_length (by simp; omega)]

theorem field_append_right {s t : List UInt8} {off w : ℕ} (h : s.length ≤ off) :
    field (s ++ t) off w = field t (off - s.length) w := by
  simp only [field, List.drop_append_eq_append_drop, List.drop_eq_nil_of_le h, List.nil_append]

theorem field_toLE_append (w n : ℕ) (t : List UInt8) :
    field (toLE w n ++ t) 0 w = n % 256 ^ w := by
  rw [field_append_left (by simp), field, List.drop_zero,
    List.take_of_length_le (by simp), ofLE_toLE]

/-- A value kept in a `uint32_t`, or computed in the 32-bit `size_t` and `uintptr_t` of the
H1 chip. -/
def u32 (n : ℕ) : ℕ := n % 2 ^ 32

theorem u32_lt (n : ℕ) : u32 n < 2 ^ 32 := Nat.mod_lt _ (by norm_num)

theorem u32_of_lt {n : ℕ} (h : n < 2 ^ 32) : u32 n = n := Nat.mod_eq_of_lt h

/-! ### Memories -/

/-- `len` bytes of the memory `m` from address `off`. -/
def readMem (m : ℕ → UInt8) (off len : ℕ) : List UInt8 :=
  (List.range len).map fun i => m (off + i)

@[simp] theorem length_readMem (m : ℕ → UInt8) (off len : ℕ) :
    (readMem m off len).length = len := by
  simp [readMem]

theorem getD_readMem {m : ℕ → UInt8} {off len i : ℕ} (d : UInt8) (h : i < len) :
    (readMem m off len).getD i d = m (off + i) := by
  simp [readMem, List.getD_eq_getElem?_getD, h]

theorem readMem_add (m : ℕ → UInt8) (off a b : ℕ) :
    readMem m off (a + b) = readMem m off a ++ readMem m (off + a) b := by
  simp only [readMem, List.range_add, List.map_append, List.map_map]
  congr 1
  refine List.map_congr_left fun i _ => ?_
  simp [Nat.add_assoc]

theorem readMem_congr {m m' : ℕ → UInt8} {off len : ℕ}
    (h : ∀ i < len, m (off + i) = m' (off + i)) : readMem m off len = readMem m' off len :=
  List.map_congr_left fun i hi => h i (List.mem_range.mp hi)

/-- A buffer's bytes, followed in memory by `beyond`: what a read past the buffer's end sees. -/
def bufMem (bs : List UInt8) (beyond : ℕ → UInt8) : ℕ → UInt8 := fun i =>
  if i < bs.length then bs.getD i 0 else beyond i

/-- The bytes `bs` sit in memory `m` from address `a`. -/
def BytesAt (m : ℕ → UInt8) (a : ℕ) (bs : List UInt8) : Prop :=
  ∀ i < bs.length, m (a + i) = bs.getD i 0

theorem readMem_of_bytesAt {m : ℕ → UInt8} {a : ℕ} {bs : List UInt8} (h : BytesAt m a bs) :
    readMem m a bs.length = bs := by
  refine List.ext_getElem (by simp) fun i h₁ h₂ => ?_
  simp only [readMem, List.getElem_map, List.getElem_range]
  rw [h i h₂, List.getD_eq_getElem _ _ h₂]

/-- Any stretch of bytes known to hold part of `bs` reads back as that part. -/
theorem readMem_of_bytesAt_sub {m : ℕ → UInt8} {a i len : ℕ} {bs : List UInt8}
    (h : BytesAt m a bs) (hl : i + len ≤ bs.length) :
    readMem m (a + i) len = (bs.drop i).take len := by
  apply List.ext_getElem
  · simp only [length_readMem, List.length_take, List.length_drop]; omega
  · intro j hj _
    simp only [readMem, List.getElem_map, List.getElem_range, List.getElem_take,
      List.getElem_drop]
    rw [Nat.add_assoc, h (i + j) (by simp at hj; omega), List.getD_eq_getElem]

theorem BytesAt.append {m : ℕ → UInt8} {a : ℕ} {b₁ b₂ : List UInt8} :
    BytesAt m a (b₁ ++ b₂) ↔ BytesAt m a b₁ ∧ BytesAt m (a + b₁.length) b₂ := by
  constructor
  · intro h
    refine ⟨fun i hi => ?_, fun i hi => ?_⟩
    · rw [h i (by simp; omega), List.getD_append _ _ _ _ hi]
    · rw [Nat.add_assoc, h _ (by simp; omega),
        List.getD_append_right _ _ _ _ (by omega), Nat.add_sub_cancel_left]
  · rintro ⟨h₁, h₂⟩ i hi
    by_cases hlt : i < b₁.length
    · rw [h₁ i hlt, List.getD_append _ _ _ _ hlt]
    · have := h₂ (i - b₁.length) (by simp at hi; omega)
      rw [List.getD_append_right _ _ _ _ (by omega), ← this]
      congr 1
      omega

/-! ### Flash programming -/

/-- Erased flash: every byte `0xFF`. -/
def erased : ℕ → UInt8 := fun _ => 0xFF

/-- `len` bytes from `a` are erased. -/
def ErasedAt (m : ℕ → UInt8) (a len : ℕ) : Prop := ∀ i < len, m (a + i) = 0xFF

/-- Program `data` at `off`: each byte of the region becomes the AND of what was there and
the new byte, since programming clears bits and never sets them; the rest is untouched. -/
def program (m : ℕ → UInt8) (off : ℕ) (data : List UInt8) : ℕ → UInt8 := fun i =>
  if off ≤ i ∧ i < off + data.length then m i &&& data.getD (i - off) 0xFF else m i

theorem ff_and (b : UInt8) : (0xFF : UInt8) &&& b = b := by
  apply UInt8.eq_of_toBitVec_eq
  show (0xFF : UInt8).toBitVec &&& b.toBitVec = b.toBitVec
  rw [show (0xFF : UInt8).toBitVec = BitVec.allOnes 8 by decide, BitVec.allOnes_and]

theorem program_of_not_mem {m : ℕ → UInt8} {off i : ℕ} {data : List UInt8}
    (h : i < off ∨ off + data.length ≤ i) : program m off data i = m i := by
  simp only [program]
  rw [if_neg (by omega)]

/-- Programming over erased flash stores exactly the data. -/
theorem bytesAt_program {m : ℕ → UInt8} {off : ℕ} {data : List UInt8}
    (h : ErasedAt m off data.length) : BytesAt (program m off data) off data := by
  intro i hi
  simp only [program]
  rw [if_pos (by omega), Nat.add_sub_cancel_left, h i hi, ff_and,
    List.getD_eq_getElem _ _ hi, List.getD_eq_getElem _ _ hi]

theorem erasedAt_erased (a len : ℕ) : ErasedAt erased a len := fun _ _ => rfl

/-- Programming two adjacent pieces is programming their concatenation. -/
theorem program_append (m : ℕ → UInt8) (off : ℕ) (a b : List UInt8) :
    program (program m off a) (off + a.length) b = program m off (a ++ b) := by
  funext i
  simp only [program, List.length_append]
  by_cases h₁ : off ≤ i ∧ i < off + a.length
  · rw [if_neg (by omega), if_pos h₁, if_pos (by omega), List.getD_append _ _ _ _ (by omega)]
  · by_cases h₂ : off + a.length ≤ i ∧ i < off + a.length + b.length
    · rw [if_pos h₂, if_neg h₁, if_pos (by omega), List.getD_append_right _ _ _ _ (by omega),
        Nat.sub_sub]
    · rw [if_neg h₂, if_neg h₁, if_neg (by omega)]

end ApRoIntegrity
