import ApRoIntegrity.Images

/-!
# The scratch buffers

`check_gscvd` reads the keyblock, the root key and the GVD signature into buffers from
`shared_mem_acquire`, each of the size the code computes. The model logs every access with the
buffer's size (`MemEvent.access`); an access is in bounds when it ends inside the buffer.

## What is proved here

* `readKeyblock_inBounds_iff`: once the keyblock header has the magic and its buffer is
  allocated, `read_keyblock` stays inside the buffer exactly when `keyblock_size` is at least the
  112-byte header.
* `checkGscvd_overruns_short_keyblock`: on every image, a keyblock header whose `keyblock_size`
  is below the 112-byte header is copied whole into a buffer of `keyblock_size` bytes before any
  field is checked, and `check_gscvd` leaves that access in the log.
* `unsigned_data_key`: nothing compares the keyblock signature's `data_size` with the data key's
  extent. On the signed image with a `data_size` of 80, `check_gscvd` succeeds, while the data
  key spans bytes 80 to 1144 of the keyblock and the root key's signature covers bytes 0 to 80.
* `element_fits_sound`: in a keyblock that does not wrap around the 32-bit address space,
  `element_fits` accepts only elements whose data lies inside the keyblock, so the bodies of
  every keyblock `read_keyblock` returns lie inside its buffer.
* `readRootk_inBounds_iff`: once its buffer is allocated, `read_rootk` stays inside it exactly
  when `sizeof(*rootk) + key_size` does not wrap around in 32 bits.
* `verifyChain_inBounds_iff`: once the keyblock, the root key and the root key's modulus are
  read, the rest of the chain (`unpack_pubk`, `verify_keyblock`, `verify_gvd_signature`) stays in
  its buffers exactly when the keyblock signature's `data_size`, which nothing checks, is at most
  `keyblock_size`.
* `gvd_size_wraps`: the size check of `read_gscvd_header` is made in 32 bits. An image whose
  header declares a size 2^32 below the sum of its parts passes it, and `read_rootk` then copies
  its 32-byte header into a buffer of 0 bytes.
-/

namespace ApRoIntegrity

/-- A buffer access that ends inside its buffer. -/
def MemEvent.InBounds : MemEvent → Prop
  | .access _ n _ hi => hi ≤ n
  | _ => True

instance : DecidablePred MemEvent.InBounds := fun e => by
  cases e <;> unfold MemEvent.InBounds <;> infer_instance

namespace Heap

/-- `m'` continues the log of `m` with events whose accesses stay inside their buffers. -/
def StaysIn (m m' : Heap) : Prop := ∃ new, m'.log = m.log ++ new ∧ ∀ e ∈ new, e.InBounds

theorem StaysIn.refl (m : Heap) : m.StaysIn m := ⟨[], (List.append_nil _).symm, nofun⟩

theorem StaysIn.trans {m₁ m₂ m₃ : Heap} (h₁ : m₁.StaysIn m₂) (h₂ : m₂.StaysIn m₃) :
    m₁.StaysIn m₃ := by
  obtain ⟨n₁, e₁, h₁⟩ := h₁
  obtain ⟨n₂, e₂, h₂⟩ := h₂
  exact ⟨n₁ ++ n₂, by rw [e₂, e₁, List.append_assoc],
    fun e he => (List.mem_append.mp he).elim (h₁ e) (h₂ e)⟩

theorem StaysIn.emit {m m' : Heap} (h : m.StaysIn m') {e : MemEvent} (he : e.InBounds) :
    m.StaysIn (m'.emit e) :=
  h.trans ⟨[e], rfl, fun _ h => List.mem_singleton.mp h ▸ he⟩

theorem StaysIn.access {m m' : Heap} (h : m.StaysIn m') {b : Buf} {n lo hi : ℕ} (he : hi ≤ n) :
    m.StaysIn (m'.emit (.access b n lo hi)) := h.emit he

theorem StaysIn.shmRelease {m m' : Heap} (h : m.StaysIn m') (b : Buf) :
    m.StaysIn (m'.shmRelease b) := h.emit trivial

theorem StaysIn.shmAcquire {m m' : Heap} (h : m.StaysIn m') (b : Buf) (n : ℕ) :
    m.StaysIn (m'.shmAcquire b n).2 := by
  unfold Heap.shmAcquire
  dsimp only
  split
  · exact StaysIn.emit (h.trans ⟨[], by simp, nofun⟩) trivial
  · exact h.trans ⟨[], by simp, nofun⟩

end Heap

section

variable (P : Platform) (E : Env)

/-! ### A keyblock shorter than its header -/

/-- A rest too large for one AP flash read is not read: `read_keyblock` fails with the header
copied into the buffer. -/
theorem readKeyblockRest_of_large {offset restSize : ℕ} {m : Heap} {hdr : List UInt8}
    (hr : maxSupportedRangeSize < restSize) :
    readKeyblockRest E offset hdr restSize m =
      (none, m.emit (.access .keyblock (Vb2Keyblock.mk hdr).keyblockSize 0 vb2KeyblockSize)) := by
  unfold readKeyblockRest
  simp only [readApSpi, if_pos hr, if_neg (Nat.not_le.mpr hr)]

/-- With a `keyblock_size` below the header's 112 bytes, `read_keyblock` copies the header into
the buffer it allocates, and then fails reading the rest, whose size wraps around in 32 bits. -/
theorem readKeyblock_of_short {offset : ℕ} {m : Heap} {hdr : List UInt8}
    (hk : readApSpi E.flash offset vb2KeyblockSize = some hdr)
    (hm : (Vb2Keyblock.mk hdr).magic = vb2KeyblockMagic)
    (hs : (Vb2Keyblock.mk hdr).keyblockSize < vb2KeyblockSize)
    (ha : m.acquire.headD true = true) :
    readKeyblock E offset m =
      (none, (m.shmAcquire .keyblock (Vb2Keyblock.mk hdr).keyblockSize).2.emit
        (.access .keyblock (Vb2Keyblock.mk hdr).keyblockSize 0 vb2KeyblockSize)) := by
  have hrest : maxSupportedRangeSize <
      u32 ((Vb2Keyblock.mk hdr).keyblockSize + 2 ^ 32 - vb2KeyblockSize) := by
    unfold u32 maxSupportedRangeSize vb2KeyblockSize at *; omega
  have hacq : m.shmAcquire .keyblock (Vb2Keyblock.mk hdr).keyblockSize =
      (true, (m.shmAcquire .keyblock (Vb2Keyblock.mk hdr).keyblockSize).2) := Prod.ext ha rfl
  rw [readKeyblock, hk]
  dsimp only
  rw [if_neg (not_not.mpr hm), hacq]
  exact readKeyblockRest_of_large E hrest

/-- Everything the part of `read_keyblock` after the allocation logs: the header copy, the read
of the rest when it fits one AP flash read, and, once the rest is read, the checks' reads of the
header. -/
theorem readKeyblockRest_log (offset : ℕ) (hdr : List UInt8) (restSize : ℕ) (m : Heap) :
    ∃ tail ⊆ [MemEvent.access .keyblock (Vb2Keyblock.mk hdr).keyblockSize 16 vb2KeyblockSize],
      (readKeyblockRest E offset hdr restSize m).2.log =
        m.log ++ .access .keyblock (Vb2Keyblock.mk hdr).keyblockSize 0 vb2KeyblockSize ::
          ((if restSize ≤ maxSupportedRangeSize then
            [.access .keyblock (Vb2Keyblock.mk hdr).keyblockSize vb2KeyblockSize
              (vb2KeyblockSize + restSize)] else []) ++ tail) := by
  unfold readKeyblockRest
  by_cases hR : restSize ≤ maxSupportedRangeSize <;> simp only [hR, if_true, if_false]
  all_goals
    split
    · exact ⟨[], List.nil_subset _, by simp [Heap.emit]⟩
    by_cases hv : (Vb2Keyblock.mk hdr).headerVersionMajor ≠ 2 ∨
      (Vb2Keyblock.mk hdr).headerVersionMinor ≠ 1
    · exact ⟨[], List.nil_subset _, by simp only [if_pos hv]; simp [Heap.emit]⟩
    · refine ⟨_, List.Subset.refl _, ?_⟩
      simp only [if_neg hv]
      split <;> simp [Heap.emit]

/-- **`read_keyblock` stays in its buffer exactly when the header fits in it.** Once the header
has the keyblock magic and the allocation succeeds, every access `read_keyblock` makes lies
inside the `keyblock_size`-byte buffer if and only if `keyblock_size` is at least the header's
112 bytes. -/
theorem readKeyblock_inBounds_iff {offset : ℕ} {m : Heap} {hdr : List UInt8}
    (hk : readApSpi E.flash offset vb2KeyblockSize = some hdr)
    (hm : (Vb2Keyblock.mk hdr).magic = vb2KeyblockMagic) (ha : m.acquire.headD true = true) :
    (∀ e ∈ (readKeyblock E offset m).2.log.drop m.log.length, e.InBounds) ↔
      vb2KeyblockSize ≤ (Vb2Keyblock.mk hdr).keyblockSize := by
  have hacq : m.shmAcquire .keyblock (Vb2Keyblock.mk hdr).keyblockSize =
      (true, (m.shmAcquire .keyblock (Vb2Keyblock.mk hdr).keyblockSize).2) := Prod.ext ha rfl
  have hlog : (m.shmAcquire .keyblock (Vb2Keyblock.mk hdr).keyblockSize).2.log =
      m.log ++ [.acquire .keyblock (Vb2Keyblock.mk hdr).keyblockSize] := by
    simp only [Heap.shmAcquire, ha, if_true, Heap.emit]
  obtain ⟨tail, htail, e⟩ := readKeyblockRest_log E offset hdr
    (u32 ((Vb2Keyblock.mk hdr).keyblockSize + 2 ^ 32 - vb2KeyblockSize))
    (m.shmAcquire .keyblock (Vb2Keyblock.mk hdr).keyblockSize).2
  rw [readKeyblock, hk]
  dsimp only
  rw [if_neg (not_not.mpr hm), hacq]
  dsimp only
  rw [e, hlog, List.append_assoc, List.drop_left]
  have hlt : (Vb2Keyblock.mk hdr).keyblockSize < 2 ^ 32 := field_lt _ _ _
  constructor
  · intro h
    exact h (.access .keyblock _ 0 vb2KeyblockSize) (by simp)
  · intro hs e he
    simp only [List.singleton_append, List.mem_cons, List.mem_append] at he
    rcases he with rfl | rfl | he | he
    · trivial
    · exact hs
    · split at he
      · rw [List.mem_singleton.mp he]
        show _ ≤ _
        unfold u32 vb2KeyblockSize at *; omega
      · cases he
    · rw [List.mem_singleton.mp (htail he)]
      exact le_trans (by decide) hs

/-- **A short keyblock overruns its buffer.** On every image and board, once `check_gscvd` has
read a GVD header and its ranges, a keyblock header with the keyblock magic and a
`keyblock_size` below 112 is copied whole into a buffer of `keyblock_size` bytes when the
allocation succeeds. -/
theorem checkGscvd_overruns_short_keyblock {fmapOffset offset : ℕ} {s : St}
    {h : GscVerificationData} {ranges hdr : List UInt8}
    (hh : readGscvdHeader E fmapOffset offset = some h) (hr : readRanges E offset h = some ranges)
    (hk : readApSpi E.flash (u32 (offset + h.size)) vb2KeyblockSize = some hdr)
    (hm : (Vb2Keyblock.mk hdr).magic = vb2KeyblockMagic)
    (hs : (Vb2Keyblock.mk hdr).keyblockSize < vb2KeyblockSize)
    (ha : s.heap.acquire.headD true = true) :
    ∃ e ∈ (checkGscvd P E fmapOffset offset s).2.heap.log, ¬e.InBounds := by
  refine ⟨.access .keyblock (Vb2Keyblock.mk hdr).keyblockSize 0 vb2KeyblockSize, ?_,
    Nat.not_le.mpr hs⟩
  simp only [checkGscvd, hh, hr, verifyChain, readKeyblock_of_short E hk hm hs ha]
  simp [Heap.emit]

/-! ### The elements of the keyblock -/

/-- Inside a keyblock that does not wrap around the address space, an element that
`element_fits` accepts starts after the keyblock's start, and its data ends inside it. -/
theorem elementFits_inside {kb size el dataOffset dataSize : ℕ} (hkb : kb + size < 2 ^ 32)
    (hf : elementFits kb size el dataOffset dataSize = true) :
    kb < el ∧ el + dataOffset + dataSize ≤ kb + size := by
  simp only [elementFits, Bool.and_eq_true, decide_eq_true_eq] at hf
  unfold u32 at hf
  omega

/-- An element at `d` bytes into a keyblock that does not wrap around the address space, which
`element_fits` accepts, has its data inside the keyblock. -/
theorem elementFits_at {a size d dataOffset dataSize : ℕ} (ha : a + size < 2 ^ 32)
    (hd : d < 2 ^ 32) (hf : elementFits a size (u32 (a + d)) dataOffset dataSize = true) :
    d + dataOffset + dataSize ≤ size := by
  have := elementFits_inside ha hf
  unfold u32 at this
  omega

/-- The part of `read_keyblock` after the allocation returns its header followed by the rest,
once the rest fits one AP flash read, and only a keyblock that passed the three `element_fits`
checks at the address of its buffer. -/
theorem readKeyblockRest_some {offset restSize : ℕ} {hdr : List UInt8} {m : Heap}
    {kb : Vb2Keyblock} (h : (readKeyblockRest E offset hdr restSize m).1 = some kb) :
    restSize ≤ maxSupportedRangeSize ∧ (∃ rest, kb = ⟨hdr ++ rest⟩) ∧
      keyblockFits (E.bufAddr .keyblock) kb = true := by
  unfold readKeyblockRest at h
  dsimp only at h
  split at h
  · cases h
  rename_i rest hr
  split_ifs at h <;> cases h <;> exact ⟨(readApSpi_eq_some.mp hr).1, ⟨rest, rfl⟩, ‹_›⟩

/-- A keyblock `read_keyblock` returns came from the part after the allocation, on the header
read at its offset and the rest's size in 32 bits. -/
theorem readKeyblock_some {offset : ℕ} {m : Heap} {kb : Vb2Keyblock}
    (h : (readKeyblock E offset m).1 = some kb) :
    ∃ hdr m', readApSpi E.flash offset vb2KeyblockSize = some hdr ∧
      (readKeyblockRest E offset hdr
        (u32 ((Vb2Keyblock.mk hdr).keyblockSize + 2 ^ 32 - vb2KeyblockSize)) m').1 = some kb := by
  unfold readKeyblock at h
  split at h
  · cases h
  rename_i hdr hk
  split_ifs at h
  split at h
  · cases h
  exact ⟨hdr, _, hk, h⟩

/-- A keyblock `read_keyblock` returns passed the three `element_fits` checks at the address of
its buffer. -/
theorem keyblockFits_of_readKeyblock {offset : ℕ} {m : Heap} {kb : Vb2Keyblock}
    (h : (readKeyblock E offset m).1 = some kb) : keyblockFits (E.bufAddr .keyblock) kb = true := by
  obtain ⟨_, _, -, hr⟩ := readKeyblock_some E h
  exact (readKeyblockRest_some E hr).2.2

/-! ### The root key buffer -/

/-- Everything `read_rootk` logs once its buffer of `sizeof(*rootk) + key_size` bytes, summed in
32 bits, is allocated: the header copy, the read of the body when it fits one AP flash read,
and, once the body is read, the reads of the hash and the update of `key_offset`. -/
theorem readRootk_log {offset : ℕ} {h : GscVerificationData} {m : Heap}
    (ha : m.acquire.headD true = true) :
    ∃ tail ⊆ [MemEvent.access .rootKey (u32 (32 + h.rootKeyHeader.keySize)) 8 12,
        .access .rootKey (u32 (32 + h.rootKeyHeader.keySize)) 32 (32 + h.rootKeyHeader.keySize),
        .access .rootKey (u32 (32 + h.rootKeyHeader.keySize)) 0 4],
      (readRootk P E offset h m).2.log = m.log ++
        .acquire .rootKey (u32 (32 + h.rootKeyHeader.keySize)) ::
          .access .rootKey (u32 (32 + h.rootKeyHeader.keySize)) 0 32 ::
          ((if h.rootKeyHeader.keySize ≤ maxSupportedRangeSize then
            [.access .rootKey (u32 (32 + h.rootKeyHeader.keySize)) 32
              (32 + h.rootKeyHeader.keySize)] else []) ++ tail) := by
  have hacq : m.shmAcquire .rootKey (u32 (32 + h.rootKeyHeader.keySize)) =
      (true, (m.shmAcquire .rootKey (u32 (32 + h.rootKeyHeader.keySize))).2) := Prod.ext ha rfl
  have hlog : (m.shmAcquire .rootKey (u32 (32 + h.rootKeyHeader.keySize))).2.log =
      m.log ++ [.acquire .rootKey (u32 (32 + h.rootKeyHeader.keySize))] := by
    simp only [Heap.shmAcquire, ha, if_true, Heap.emit]
  unfold readRootk
  dsimp only
  rw [hacq]
  dsimp only
  by_cases hR : h.rootKeyHeader.keySize ≤ maxSupportedRangeSize <;>
    simp only [hR, if_true, if_false]
  all_goals
    split
    · exact ⟨[], List.nil_subset _, by simp [Heap.emit, hlog]⟩
    split_ifs
    · exact ⟨[.access .rootKey (u32 (32 + h.rootKeyHeader.keySize)) 8 12,
        .access .rootKey (u32 (32 + h.rootKeyHeader.keySize)) 32 (32 + h.rootKeyHeader.keySize)],
        by simp, by simp [Heap.emit, hlog]⟩
    · exact ⟨_, List.Subset.refl _, by simp [Heap.emit, hlog]⟩

/-- **`read_rootk` stays in its buffer exactly when its size does not wrap.** Once its buffer is
allocated, every access `read_rootk` makes lies inside the buffer of `sizeof(*rootk) + key_size`
bytes, summed in 32 bits, if and only if the sum does not wrap around. -/
theorem readRootk_inBounds_iff {offset : ℕ} {h : GscVerificationData} {m : Heap}
    (ha : m.acquire.headD true = true) :
    (∀ e ∈ (readRootk P E offset h m).2.log.drop m.log.length, e.InBounds) ↔
      32 + h.rootKeyHeader.keySize < 2 ^ 32 := by
  obtain ⟨tail, htail, e⟩ := @readRootk_log P E offset h m ha
  rw [e, List.drop_left]
  have hlt : h.rootKeyHeader.keySize < 2 ^ 32 := field_lt _ _ _
  constructor
  · intro H
    have : 32 ≤ u32 (32 + h.rootKeyHeader.keySize) := H (.access .rootKey _ 0 32) (by simp)
    unfold u32 at this; omega
  · intro hk e he
    have ht : u32 (32 + h.rootKeyHeader.keySize) = 32 + h.rootKeyHeader.keySize :=
      Nat.mod_eq_of_lt hk
    simp only [List.mem_cons, List.mem_append] at he
    rcases he with rfl | rfl | he | he
    · trivial
    · show 32 ≤ _; omega
    · split at he
      · rw [List.mem_singleton.mp he]; show _ ≤ _; omega
      · cases he
    · have := htail he
      simp only [List.mem_cons, List.mem_singleton, List.not_mem_nil, or_false] at this
      rcases this with rfl | rfl | rfl <;> (show _ ≤ _; omega)


/-! ### The rest of the signature chain -/

/-- What `unpack_pubk` reads: the packed key's header, and, once its algorithm and size are those
of an RSA-4096 key, the modulus word count at its key offset. -/
theorem unpackPubk_staysIn (b : Buf) (n : ℕ) (bs : List UInt8) (base : ℕ) (m : Heap)
    (h₁ : base + 32 ≤ n)
    (h₂ : (Vb2PackedKey.read bs base).keySize = rsa4096ModulusSize * 2 + 8 →
      base + (Vb2PackedKey.read bs base).keyOffset + 4 ≤ n) :
    m.StaysIn (unpackPubk E b n bs base m).2 := by
  unfold unpackPubk
  dsimp only
  split_ifs with hk <;> dsimp only
  · exact (Heap.StaysIn.refl m).access h₁
  all_goals exact ((Heap.StaysIn.refl m).access h₁).access (h₂ (not_not.mp (not_or.mp hk).2))

/-- A key `unpack_pubk` accepts is an RSA-4096 key, whose modulus follows its word count and a
second word. -/
theorem unpackPubk_some {b : Buf} {n : ℕ} {bs : List UInt8} {base : ℕ} {m : Heap} {mo : ℕ}
    (h : (unpackPubk E b n bs base m).1 = some mo) :
    (Vb2PackedKey.read bs base).keySize = rsa4096ModulusSize * 2 + 8 ∧
      mo = base + (Vb2PackedKey.read bs base).keyOffset + 8 := by
  unfold unpackPubk at h
  dsimp only at h
  split_ifs at h with hk
  cases h
  exact ⟨not_not.mp (not_or.mp hk).2, rfl⟩

/-- What `verify_keyblock` reads: the keyblock signature's header, the first `data_size` bytes
of the keyblock, the root key's modulus and the signature body. -/
theorem verifyKeyblock_log (kb : Vb2Keyblock) (rk : List UInt8) (rkSize mo : ℕ) (m : Heap) :
    (verifyKeyblock P E kb rk rkSize mo m).2.log = m.log ++
      [.access .keyblock kb.keyblockSize 24 48,
        .access .keyblock kb.keyblockSize 0 kb.keyblockSignature.dataSize,
        .access .rootKey rkSize mo (mo + rsa4096ModulusSize),
        .access .keyblock kb.keyblockSize
          (Vb2Keyblock.keyblockSignatureOffset + kb.keyblockSignature.sigOffset)
          (Vb2Keyblock.keyblockSignatureOffset + kb.keyblockSignature.sigOffset +
            kb.keyblockSignature.sigSize)] := by
  simp [verifyKeyblock, Heap.emit]

/-- `verify_gvd_signature` stays in its buffers on a keyblock at least as long as its header
whose data key lies inside it. -/
theorem verifyGvdSignature_staysIn (offset : ℕ) (h : GscVerificationData) (ranges : List UInt8)
    {kb : Vb2Keyblock} (m : Heap) (hk : vb2KeyblockSize ≤ kb.keyblockSize)
    (hd : Vb2Keyblock.dataKeyOffset + kb.dataKey.keyOffset + kb.dataKey.keySize ≤ kb.keyblockSize) :
    m.StaysIn (verifyGvdSignature P E offset h ranges kb m).2 := by
  have hu := unpackPubk_staysIn E .keyblock kb.keyblockSize kb.bytes Vb2Keyblock.dataKeyOffset m
    (by unfold vb2KeyblockSize at hk; exact le_trans (by decide) hk) (fun hs => by
      change kb.dataKey.keySize = _ at hs
      unfold rsa4096ModulusSize at hs
      change _ + kb.dataKey.keyOffset + 4 ≤ _
      omega)
  unfold verifyGvdSignature
  dsimp only
  rcases e : unpackPubk E .keyblock kb.keyblockSize kb.bytes Vb2Keyblock.dataKeyOffset m with
    ⟨_ | mo, m₁⟩ <;> rw [e] at hu <;> dsimp only
  · exact hu
  obtain ⟨hs, rfl⟩ := unpackPubk_some E (congrArg Prod.fst e)
  change kb.dataKey.keySize = _ at hs
  unfold rsa4096ModulusSize at hs
  have hmo : Vb2Keyblock.dataKeyOffset + kb.dataKey.keyOffset + 8 + rsa4096ModulusSize ≤
      kb.keyblockSize := by unfold rsa4096ModulusSize; omega
  have ha := hu.shmAcquire .sigBody h.sigHeader.sigSize
  generalize m₁.shmAcquire .sigBody h.sigHeader.sigSize = r at ha
  rcases r with ⟨_ | _, m₂⟩
  · exact ha
  dsimp only
  have hb : m.StaysIn (if h.sigHeader.sigSize ≤ maxSupportedRangeSize then
      m₂.emit (.access .sigBody h.sigHeader.sigSize 0 h.sigHeader.sigSize) else m₂) := by
    split
    · exact ha.access (le_refl _)
    · exact ha
  generalize (if h.sigHeader.sigSize ≤ maxSupportedRangeSize then
      m₂.emit (.access .sigBody h.sigHeader.sigSize 0 h.sigHeader.sigSize) else m₂) = m₃ at hb
  split <;> dsimp only
  · exact hb.shmRelease _
  · exact ((hb.access hmo).access (le_refl _)).shmRelease _

/-- A keyblock `read_keyblock` returns is at least as long as its header: below it, the size of
the rest wraps around past what one AP flash read may take. -/
theorem keyblockSize_of_readKeyblock {offset : ℕ} {m : Heap} {kb : Vb2Keyblock}
    (h : (readKeyblock E offset m).1 = some kb) : vb2KeyblockSize ≤ kb.keyblockSize := by
  obtain ⟨hdr, m', hk, h⟩ := readKeyblock_some E h
  obtain ⟨hr, ⟨rest, rfl⟩, -⟩ := readKeyblockRest_some E h
  have hlt : (Vb2Keyblock.mk hdr).keyblockSize < 2 ^ 32 := field_lt _ _ _
  have e : (Vb2Keyblock.mk (hdr ++ rest)).keyblockSize = (Vb2Keyblock.mk hdr).keyblockSize :=
    field_append_left (by rw [length_of_readApSpi hk]; decide)
  rw [e]
  unfold u32 maxSupportedRangeSize vb2KeyblockSize at *
  omega

/-- The root key buffer's packed key points past itself, with the GVD's root key size. -/
theorem rootkBuffer_key (h : GscVerificationData) (body : List UInt8) :
    (Vb2PackedKey.read (rootkBuffer h body) 0).keyOffset = 32 ∧
      (Vb2PackedKey.read (rootkBuffer h body) 0).keySize = h.rootKeyHeader.keySize := by
  have hl : ((h.bytes.drop (rootKeyHeaderOffset + 4)).take 28).length = 28 := by
    simp [h.length_bytes, gvdSize, rootKeyHeaderOffset]
  simp only [Vb2PackedKey.read, rootkBuffer, List.append_assoc]
  refine ⟨by rw [field_toLE_append]; rfl, ?_⟩
  rw [field_append_right (by simp), length_toLE, field_append_left (by rw [hl]; decide)]
  simp [field, GscVerificationData.rootKeyHeader, Vb2PackedKey.read, rootKeyHeaderOffset,
    List.drop_take, List.drop_drop, List.take_take]

/-- **Past the root key, the signature chain stays in its buffers exactly when `data_size` does.**
Once `read_keyblock` has returned a keyblock whose buffer does not wrap around the address
space, `read_rootk` the root key and `unpack_pubk` its modulus, every access the rest of
`check_gscvd`'s chain makes lies inside its buffer if and only if the keyblock signature's
`data_size`, the length `verify_keyblock` hashes from the keyblock's start, is at most
`keyblock_size`. -/
theorem verifyChain_inBounds_iff {offset : ℕ} {h : GscVerificationData} {ranges : List UInt8}
    {m m₁ m₂ m₃ : Heap} {kb : Vb2Keyblock} {rk : List UInt8} {mo : ℕ}
    (e₁ : readKeyblock E (u32 (offset + h.size)) m = (some kb, m₁))
    (hw : E.bufAddr .keyblock + kb.keyblockSize < 2 ^ 32)
    (e₂ : readRootk P E offset h m₁ = (some rk, m₂))
    (e₃ : unpackPubk E .rootKey (u32 (32 + h.rootKeyHeader.keySize)) rk 0 m₂ = (some mo, m₃)) :
    (∀ e ∈ (verifyChain P E offset h ranges m).2.log.drop m₂.log.length, e.InBounds) ↔
      kb.keyblockSignature.dataSize ≤ kb.keyblockSize := by
  -- the root key: a 1032-byte key in a buffer of 1064 bytes, its modulus at 40
  obtain ⟨body, -, rfl⟩ := readRootk_some P E (congrArg Prod.fst e₂)
  obtain ⟨hko, hks⟩ := rootkBuffer_key h body
  obtain ⟨hs, hmo⟩ := unpackPubk_some E (congrArg Prod.fst e₃)
  rw [hks] at hs
  rw [hko] at hmo
  have hrk : u32 (32 + h.rootKeyHeader.keySize) = 1064 := by rw [hs]; rfl
  have hu : m₂.StaysIn m₃ := by
    have := unpackPubk_staysIn E .rootKey (u32 (32 + h.rootKeyHeader.keySize)) (rootkBuffer h body)
      0 m₂ (by rw [hrk]; decide)
      (fun _ => by rw [hrk, hko]; decide)
    rwa [e₃] at this
  -- the keyblock: its header, signature and data key inside it
  have hf := keyblockFits_of_readKeyblock E (congrArg Prod.fst e₁)
  simp only [keyblockFits, Bool.and_eq_true] at hf
  have hsig := elementFits_at hw (by decide) hf.1.1
  have hdk := elementFits_at hw (by decide) hf.2
  have h112 := keyblockSize_of_readKeyblock E (congrArg Prod.fst e₁)
  -- the rest of the chain after `verify_keyblock`
  have hk := verifyKeyblock_log P E kb (rootkBuffer h body) (u32 (32 + h.rootKeyHeader.keySize)) mo m₃
  rcases e₄ : verifyKeyblock P E kb (rootkBuffer h body) (u32 (32 + h.rootKeyHeader.keySize)) mo m₃
    with ⟨b, m₄⟩
  rw [e₄] at hk
  have hT : m₄.StaysIn (verifyChain P E offset h ranges m).2 := by
    cases b <;> simp only [verifyChain, e₁, e₂, e₃, e₄]
    · exact ((Heap.StaysIn.refl m₄).shmRelease _).shmRelease _
    · exact ((Heap.StaysIn.refl m₄).shmRelease _).trans
        (verifyGvdSignature_staysIn P E offset h ranges _ h112 hdk)
  obtain ⟨U, eU, hU⟩ := hu
  obtain ⟨T, eT, hT⟩ := hT
  rw [eT, hk, eU, List.append_assoc, List.append_assoc, List.drop_left]
  simp only [List.mem_append, List.mem_cons, List.mem_singleton, List.not_mem_nil, or_false]
  constructor
  · intro H
    exact H _ (.inr (.inl (.inr (.inl rfl))))
  · rintro hd e (he | (rfl | rfl | rfl | rfl) | he)
    · exact hU e he
    · exact le_trans (by decide) h112
    · exact hd
    · show _ ≤ _
      rw [hmo, hrk]; unfold rsa4096ModulusSize; omega
    · exact hsig
    · exact hT e he

end

/-- **`element_fits` is sound in 32-bit arithmetic.** For a keyblock at `kb` of `size` bytes that
does not wrap around the address space, an element `element_fits` accepts starts after the
keyblock's start and its data ends inside the keyblock, whatever the element's address, data
offset and data size. So the signature, hash and data key bodies of every keyblock
`read_keyblock` returns lie inside its buffer. -/
theorem element_fits_sound :
    (∀ {kb size el dataOffset dataSize : ℕ}, kb + size < 2 ^ 32 →
      elementFits kb size el dataOffset dataSize = true →
        kb < el ∧ el + dataOffset + dataSize ≤ kb + size) ∧
    (∀ {E : Env} {offset : ℕ} {m : Heap} {kb : Vb2Keyblock}, (readKeyblock E offset m).1 = some kb →
      E.bufAddr .keyblock + kb.keyblockSize < 2 ^ 32 →
        Vb2Keyblock.keyblockSignatureOffset + kb.keyblockSignature.sigOffset +
            kb.keyblockSignature.sigSize ≤ kb.keyblockSize ∧
          Vb2Keyblock.keyblockHashOffset + kb.keyblockHash.sigOffset + kb.keyblockHash.sigSize ≤
            kb.keyblockSize ∧
          Vb2Keyblock.dataKeyOffset + kb.dataKey.keyOffset + kb.dataKey.keySize ≤ kb.keyblockSize) := by
  refine ⟨elementFits_inside, fun h ha => ?_⟩
  have hf := keyblockFits_of_readKeyblock _ h
  simp only [keyblockFits, Bool.and_eq_true] at hf
  exact ⟨elementFits_at ha (by decide) hf.1.1, elementFits_at ha (by decide) hf.1.2,
    elementFits_at ha (by decide) hf.2⟩

set_option maxRecDepth 100000 in
theorem element_fits_sound_signedImage :
    (0x10000 + 1144 < 2 ^ 32 ∧ elementFits 0x10000 1144 (0x10000 + 80) 32 1032 = true ∧
        0x10000 + 80 + 32 + 1032 ≤ 0x10000 + 1144) ∧
      ∃ kb, (readKeyblock (signedEnv true 1 1144 1144) 1444 {}).1 = some kb ∧
        (signedEnv true 1 1144 1144).bufAddr .keyblock + kb.keyblockSize < 2 ^ 32 ∧
        Vb2Keyblock.dataKeyOffset + kb.dataKey.keyOffset + kb.dataKey.keySize ≤ kb.keyblockSize := by
  have e : (readKeyblock (signedEnv true 1 1144 1144) 1444 {}).1 = some _ :=
    Option.eq_some_of_isSome (by decide)
  have hb : (signedEnv true 1 1144 1144).bufAddr .keyblock +
      ((readKeyblock (signedEnv true 1 1144 1144) 1444 {}).1.get (by decide)).keyblockSize <
        2 ^ 32 := by decide
  exact ⟨⟨by decide, by decide, (element_fits_sound.1 (by decide) (by decide)).2⟩, _, e, hb,
    (element_fits_sound.2 e hb).2.2⟩

set_option maxRecDepth 100000 in
theorem readKeyblock_inBounds_iff_signedImage :
    ((∀ e ∈ (readKeyblock (signedEnv true 1 1144 1144) 1444 {}).2.log.drop ({} : Heap).log.length,
      e.InBounds) ↔ vb2KeyblockSize ≤ (Vb2Keyblock.mk (keyblockBytes 1144 1144)).keyblockSize) ∧
      vb2KeyblockSize ≤ (Vb2Keyblock.mk (keyblockBytes 1144 1144)).keyblockSize :=
  ⟨readKeyblock_inBounds_iff _ (show readApSpi _ _ _ = some (keyblockBytes 1144 1144) by decide)
    (by decide) rfl, by decide⟩

theorem readRootk_inBounds_iff_signedImage :
    ((∀ e ∈ (readRootk toy (signedEnv true 1 1144 1144) 0x100 ⟨gvdBytes 1, rfl⟩ {}).2.log.drop
        ({} : Heap).log.length, e.InBounds) ↔
      32 + (⟨gvdBytes 1, rfl⟩ : GscVerificationData).rootKeyHeader.keySize < 2 ^ 32) ∧
      32 + (⟨gvdBytes 1, rfl⟩ : GscVerificationData).rootKeyHeader.keySize < 2 ^ 32 :=
  ⟨readRootk_inBounds_iff toy _ rfl, by decide⟩

set_option maxRecDepth 100000 in
/-- The signed image with a `data_size` of 1200 in a keyblock of 1144 bytes. -/
theorem verifyChain_inBounds_iff_signedImage :
    ∃ kb m₁ rk m₂ mo m₃,
      readKeyblock (signedEnv true 1 1144 1200) 1444 {} = (some kb, m₁) ∧
        (signedEnv true 1 1144 1200).bufAddr .keyblock + kb.keyblockSize < 2 ^ 32 ∧
        readRootk toy (signedEnv true 1 1144 1200) 0x100 ⟨gvdBytes 1, rfl⟩ m₁ = (some rk, m₂) ∧
        unpackPubk (signedEnv true 1 1144 1200) .rootKey 1064 rk 0 m₂ = (some mo, m₃) ∧
        ((∀ e ∈ (verifyChain toy (signedEnv true 1 1144 1200) 0x100 ⟨gvdBytes 1, rfl⟩ [] {}).2.log.drop
            m₂.log.length, e.InBounds) ↔ kb.keyblockSignature.dataSize ≤ kb.keyblockSize) := by
  have h₁ : (readKeyblock (signedEnv true 1 1144 1200) 1444 {}).1.isSome := by decide
  have h₂ : (readRootk toy (signedEnv true 1 1144 1200) 0x100 ⟨gvdBytes 1, rfl⟩
      (readKeyblock (signedEnv true 1 1144 1200) 1444 {}).2).1.isSome := by decide
  have h₃ : (unpackPubk (signedEnv true 1 1144 1200) .rootKey 1064
      ((readRootk toy (signedEnv true 1 1144 1200) 0x100 ⟨gvdBytes 1, rfl⟩
        (readKeyblock (signedEnv true 1 1144 1200) 1444 {}).2).1.get (by decide)) 0
      (readRootk toy (signedEnv true 1 1144 1200) 0x100 ⟨gvdBytes 1, rfl⟩
        (readKeyblock (signedEnv true 1 1144 1200) 1444 {}).2).2).1.isSome := by decide
  have hw : (signedEnv true 1 1144 1200).bufAddr .keyblock +
      ((readKeyblock (signedEnv true 1 1144 1200) 1444 {}).1.get (by decide)).keyblockSize <
        2 ^ 32 := by decide
  exact ⟨_, _, _, _, _, _, Prod.ext (Option.eq_some_of_isSome h₁) rfl, hw,
    Prod.ext (Option.eq_some_of_isSome h₂) rfl, Prod.ext (Option.eq_some_of_isSome h₃) rfl,
    verifyChain_inBounds_iff toy _ (Prod.ext (Option.eq_some_of_isSome h₁) rfl) hw
      (Prod.ext (Option.eq_some_of_isSome h₂) rfl) (Prod.ext (Option.eq_some_of_isSome h₃) rfl)⟩

set_option maxRecDepth 100000 in
theorem checkGscvd_overruns_short_keyblock_signedImage :
    ∃ e ∈ (checkGscvd toy (signedEnv true 1 100 1144) 0 0x100 (initial 0)).2.heap.log,
      ¬e.InBounds := by
  exact checkGscvd_overruns_short_keyblock toy _
    (show readGscvdHeader _ _ _ = some ⟨gvdBytes 1, rfl⟩ by decide)
    (show readRanges _ _ _ = some [] by decide)
    (show readApSpi _ _ _ = some (keyblockBytes 100 1144) by decide) (by decide) (by decide) rfl

set_option maxRecDepth 100000 in
/-- A `data_size` past `keyblock_size` is hashed from past the keyblock's buffer, and the check
succeeds. -/
example :
    (checkGscvd toy (signedEnv true 1 1144 1200) 0 0x100 (initial 0)).1 = .succeeded ∧
    MemEvent.access .keyblock 1144 0 1200 ∈
      (checkGscvd toy (signedEnv true 1 1144 1200) 0 0x100 (initial 0)).2.heap.log := by
  decide

/-! ### The signed prefix of the keyblock -/

set_option maxRecDepth 100000 in
/-- The signed image with a keyblock signature over its first 80 bytes: `check_gscvd`
succeeds, and the data key it then verifies the GVD signature with spans bytes 80 to 1144 of the
keyblock, outside the signed prefix. -/
theorem unsigned_data_key :
    (checkGscvd toy (signedEnv true 1 1144 80) 0 0x100 (initial 0)).1 = .succeeded ∧
    ((readKeyblock (signedEnv true 1 1144 80) 1444 {}).1.map fun kb =>
      (kb.keyblockSignature.dataSize,
        Vb2Keyblock.dataKeyOffset + kb.dataKey.keyOffset + kb.dataKey.keySize)) = some (80, 1144) := by
  decide

/-! ### A wrapped GVD size -/

/-- The GVD header of `signedImage` with a root key size of `2^32 - 32` and a signature size
1064 bytes larger than the image's, so that the 32-bit sum of the parts is the same 1188. -/
def wrapGvdBytes : List UInt8 :=
  toLE 4 gscVdMagic ++ toLE 2 1188 ++ toLE 2 0 ++ toLE 2 0 ++ toLE 2 1 ++
    toLE 4 0x1234 ++ toLE 4 0 ++ toLE 4 0 ++ toLE 4 0 ++ sigBytes 124 1068 152 ++
    keyBytes 104 0xFFFFFFE0 ++ List.replicate 64 0 ++ toLE 4 0

/-- `signedImage` with `wrapGvdBytes` as its GVD. -/
def wrapImage : ApFlash :=
  ⟨fun i => if 256 ≤ i ∧ i < 408 then wrapGvdBytes.getD (i - 256) 0 else signedByte true 1 1144 1144 i,
    fun _ _ => true⟩

/-- A run on `wrapImage`, with the board and allocator of `signedEnv`. -/
def wrapEnv : Env := { signedEnv true 1 1144 1144 with flash := wrapImage }

set_option maxRecDepth 100000 in
/-- **The GVD size check wraps.** On `wrapImage`, `read_gscvd_header` and `read_ranges` accept a
header whose declared size is 2^32 less than the sum of its parts, and `check_gscvd` then copies
the 32-byte root key header into the buffer of `u32 (32 + key_size) = 0` bytes that
`read_rootk` allocates. -/
theorem gvd_size_wraps :
    ∃ h, readGscvdHeader wrapEnv 0 0x100 = some h ∧ readRanges wrapEnv 0x100 h = some [] ∧
      gvdSize + 8 * h.rangeCount + h.sigHeader.sigSize + h.rootKeyHeader.keySize =
        h.size + 2 ^ 32 ∧
      ∃ e ∈ (checkGscvd toy wrapEnv 0 0x100 (initial 0)).2.heap.log, ¬e.InBounds :=
  ⟨⟨wrapGvdBytes, rfl⟩, by decide, by decide, by decide, .access .rootKey 0 0 32, by decide,
    by decide⟩

end ApRoIntegrity
