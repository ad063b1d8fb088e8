import AliceHal.MacNvme.NveRead

/-!
# Items in a Partition Image

`nve_read` on a partition with given contents, whose size is a multiple of the mapped size. A mapping
fails exactly at or past the end. What lies behind a mapping is memory of something else.

- `imageDevice`: the answers of the kernel for an image
- `Right`: the item behind the first occurrence of the name is returned, and only mapped bytes are
  copied
- `Whole`, `FirstWhole`: an occurrence within one block, and the one that is found
- `copiesFrom_iff`, `findsNothing_iff`: where the item is copied from, and when nothing is found
- `right_iff`: when the item is found wherever it lies
-/

namespace AliceHal.MacNvme

open Lib

/-! ## The image -/

/-- The bytes of the image. -/
def contents (image : List UInt8) : Memory := fun i => image.getD i 0

/-- A mapping: a block of the image, and behind it other memory. -/
def window (image : List UInt8) (past : ℕ → Memory) (blockSize : ℕ) : Memory :=
  fun i => if i < mapSize then contents image (blockSize + i) else past blockSize i

/-- The kernel's answers for an image. -/
def imageDevice (image : List UInt8) (malloc : Bool) (past : ℕ → Memory) : RawDevice where
  malloc := malloc
  first := if image = [] then .failed else .mapped (window image past 0)
  block := fun _ blockSize =>
    if blockSize < image.length then .mapped (window image past blockSize) else .failed

/-- The start of the scanned area. -/
def start (image : List UInt8) : ℕ := firstBlock (contents image)

/-- The name occurs at `p` in the scanned area. -/
def Occurs (image : List UInt8) (nveName : List UInt8) (p : ℕ) : Prop :=
  start image ≤ p ∧ p + nveName.length ≤ image.length ∧ (contents image).reads p nveName = true

/-- It occurs there first. -/
def FirstOccurrence (image : List UInt8) (nveName : List UInt8) (p : ℕ) : Prop :=
  Occurs image nveName p ∧ ∀ q, Occurs image nveName q → p ≤ q

/-- The item of a name at `p`. -/
def itemAt (image : List UInt8) (p : ℕ) : List UInt8 :=
  Memory.slice (fun j => contents image (p + 20 + j)) nveNvDataSize

/-- The item is copied from behind the place `ptr` of the `n`-th mapping. -/
def CopiesFrom (raw : RawDevice) (nveName : List UInt8) (n ptr : ℕ) : Prop :=
  ∃ data, raw.first = .mapped data ∧ Without raw nveName 0 (firstBlock data) n ∧
    ∃ found, raw.block n (nextBlock^[n] (firstBlock data)) = .mapped found ∧
      memmem found mapSize nveName = some ptr

/-- The function returns, with the item of the first occurrence, or `nullptr` if there is none, and
copies mapped bytes only. -/
structure Right (image : List UInt8) (malloc : Bool) (past : ℕ → Memory) (nveName : List UInt8) :
    Prop where
  returns : ∃ fuel r, nveRead fuel (imageDevice image malloc past) nveName = some r ∧
    (r = none ↔ ¬∃ p, Occurs image nveName p) ∧
    ∀ data, r = some data → ∃ p, FirstOccurrence image nveName p ∧
      p + 20 + nveNvDataSize ≤ image.length ∧ data = itemAt image p
  inside : ∀ n ptr, CopiesFrom (imageDevice image malloc past) nveName n ptr →
    itemOffset ptr + nveNvDataSize ≤ mapSize

/-! ## Occurrences within a block -/

/-- The name occurs at `p`, within one block, and at an offset that the loop can reach. -/
structure Whole (image : List UInt8) (nveName : List UInt8) (p : ℕ) : Prop where
  inBlock : p % mapSize + nveName.length ≤ mapSize
  inImage : p + nveName.length ≤ image.length
  reads : (contents image).reads p nveName = true
  reached : p < 2 ^ 32

/-- The occurrence within one block that is found: the first one in the scanned area. With an image of
4 GiB or more the offset starts again from zero, so that without such an occurrence the block before
the scanned area is searched, too. -/
def FirstWhole (image : List UInt8) (nveName : List UInt8) (p : ℕ) : Prop :=
  Whole image nveName p ∧
    ((start image ≤ p ∧ ∀ q, Whole image nveName q → start image ≤ q → p ≤ q) ∨
      (2 ^ 32 ≤ image.length ∧ (∀ q, Whole image nveName q → q < start image) ∧
        ∀ q, Whole image nveName q → p ≤ q))

variable {image nveName : List UInt8} {malloc : Bool} {past : ℕ → Memory} {b n ptr p q : ℕ}

theorem Whole.occurs (h : Whole image nveName p) (hstart : start image ≤ p) :
    Occurs image nveName p :=
  ⟨hstart, h.inImage, h.reads⟩

/-- Only one occurrence is found. -/
theorem FirstWhole.unique (hp : FirstWhole image nveName p) (hq : FirstWhole image nveName q) :
    p = q := by
  obtain ⟨hp, hp' | hp'⟩ := hp
  · obtain ⟨hq, hq' | hq'⟩ := hq
    · exact le_antisymm (hp'.2 q hq hq'.1) (hq'.2 p hp hp'.1)
    · exact absurd hp'.1 (not_le.2 (hq'.2.1 p hp))
  · obtain ⟨hq, hq' | hq'⟩ := hq
    · exact absurd hq'.1 (not_le.2 (hp'.2.1 q hq))
    · exact le_antisymm (hp'.2.2 q hq) (hq'.2.2 p hp)

/-! ## Blocks by number -/

/-- The block with which the search begins. -/
def firstNumber (image : List UInt8) : ℕ :=
  if contents image 0 = 0 ∨ contents image 0 = 85 then 1 else 0

theorem start_eq (image : List UInt8) : start image = firstNumber image * mapSize := by
  unfold start firstBlock firstNumber
  split <;> simp

theorem firstNumber_le (image : List UInt8) : firstNumber image ≤ 1 := by
  unfold firstNumber
  split <;> simp

/-- The number of the block that is mapped `n`-th. -/
def number (image : List UInt8) (n : ℕ) : ℕ := (firstNumber image + n) % 2 ^ 15

theorem number_lt (image : List UInt8) (n : ℕ) : number image n < 2 ^ 15 :=
  Nat.mod_lt _ (by decide)

theorem iterate_nextBlock (image : List UInt8) (n : ℕ) :
    nextBlock^[n] (start image) = number image n * mapSize := by
  induction n with
  | zero =>
    have hle := firstNumber_le image
    have hsmall : firstNumber image % 2 ^ 15 = firstNumber image := Nat.mod_eq_of_lt (by omega)
    rw [Function.iterate_zero_apply, start_eq, number, Nat.add_zero, hsmall]
  | succ n ih =>
    rw [Function.iterate_succ_apply', ih]
    have hwrap : 2 ^ 32 = 2 ^ 15 * mapSize := by decide
    calc nextBlock (number image n * mapSize)
        = ((number image n + 1) * mapSize) % (2 ^ 15 * mapSize) := by
          rw [nextBlock, hwrap, Nat.add_mul, Nat.one_mul]
      _ = (number image n + 1) % 2 ^ 15 * mapSize := Nat.mul_mod_mul_right ..
      _ = number image (n + 1) * mapSize := by rw [number, number, Nat.mod_add_mod, Nat.add_assoc]

theorem firstBlock_window (image : List UInt8) (past : ℕ → Memory) :
    firstBlock (window image past 0) = start image := by
  have hzero : window image past 0 0 = contents image 0 := if_pos (by decide)
  unfold start firstBlock
  rw [hzero]

/-- A comparison within a mapping is one within the image. -/
theorem reads_window (h : ptr + nveName.length ≤ mapSize) :
    (window image past (b * mapSize)).reads ptr nveName =
      (contents image).reads (b * mapSize + ptr) nveName := by
  rw [Bool.eq_iff_iff, Memory.reads_eq_true, Memory.reads_eq_true]
  apply forall₂_congr
  intro k hk
  have hin : ptr + k < mapSize := by omega
  rw [window, if_pos hin, Nat.add_assoc]

/-- A block that begins in the image lies in it. -/
theorem block_le (hsize : mapSize ∣ image.length) (hend : b * mapSize < image.length) :
    b * mapSize + mapSize ≤ image.length := by
  obtain ⟨k, hk⟩ := hsize
  rw [hk, Nat.mul_comm mapSize k] at hend ⊢
  have hlt : b < k := Nat.lt_of_mul_lt_mul_right hend
  calc b * mapSize + mapSize = (b + 1) * mapSize := (Nat.succ_mul b mapSize).symm
    _ ≤ k * mapSize := Nat.mul_le_mul_right mapSize hlt

theorem block_le_reached (hb : b < 2 ^ 15) : b * mapSize + mapSize ≤ 2 ^ 32 := by
  calc b * mapSize + mapSize = (b + 1) * mapSize := (Nat.succ_mul b mapSize).symm
    _ ≤ 2 ^ 15 * mapSize := Nat.mul_le_mul_right mapSize hb
    _ = 2 ^ 32 := by decide

theorem number_add (hptr : ptr < mapSize) :
    (b * mapSize + ptr) / mapSize = b ∧ (b * mapSize + ptr) % mapSize = ptr := by
  have hpos : 0 < mapSize := by decide
  rw [Nat.add_comm, Nat.add_mul_div_right _ _ hpos, Nat.div_eq_of_lt hptr, Nat.add_mul_mod_self_right]
  exact ⟨Nat.zero_add b, Nat.mod_eq_of_lt hptr⟩

section

variable (hsize : mapSize ∣ image.length) (hname : nveName ≠ [])
include hsize hname

/-- In a block of the image every place where the bytes agree is an occurrence. -/
theorem whole_of_reads (hb : b < 2 ^ 15) (hend : b * mapSize < image.length)
    (hptr : ptr + nveName.length ≤ mapSize)
    (hreads : (contents image).reads (b * mapSize + ptr) nveName = true) :
    Whole image nveName (b * mapSize + ptr) := by
  have hpos := List.length_pos_of_ne_nil hname
  have hlt : ptr < mapSize := by omega
  have hle := block_le hsize hend
  have hreached := block_le_reached hb
  refine ⟨?_, by omega, hreads, by omega⟩
  rw [(number_add hlt).2]
  exact hptr

/-- A block without the name. -/
theorem memmem_window_none (hb : b < 2 ^ 15) (hend : b * mapSize < image.length) :
    memmem (window image past (b * mapSize)) mapSize nveName = none ↔
      ∀ w, Whole image nveName w → w / mapSize ≠ b := by
  have hpos := List.length_pos_of_ne_nil hname
  rw [memmem, List.find?_range_eq_none]
  constructor
  · rintro h w hw rfl
    -- the occurrence is at the offset of its block
    have hlt : w % mapSize < mapSize + 1 - nveName.length := by
      have hin := hw.inBlock
      omega
    have hnot := h (w % mapSize) hlt
    rw [reads_window hw.inBlock, Nat.div_add_mod', hw.reads] at hnot
    cases hnot
  · intro h i hi
    have hin : i + nveName.length ≤ mapSize := by omega
    rw [reads_window hin, Bool.not_eq_true', Bool.eq_false_iff]
    intro hreads
    have hlt : i < mapSize := by omega
    exact h _ (whole_of_reads hsize hname hb hend hin hreads) (number_add hlt).1

/-- A block with the name: the place found is the first occurrence in it. -/
theorem memmem_window_some (hb : b < 2 ^ 15) (hend : b * mapSize < image.length) :
    memmem (window image past (b * mapSize)) mapSize nveName = some ptr ↔
      ptr < mapSize ∧ Whole image nveName (b * mapSize + ptr) ∧
        ∀ w, Whole image nveName w → w / mapSize = b → b * mapSize + ptr ≤ w := by
  have hpos := List.length_pos_of_ne_nil hname
  rw [memmem, List.find?_range_eq_some]
  constructor
  · rintro ⟨hreads, hmem, hfirst⟩
    rw [List.mem_range] at hmem
    have hin : ptr + nveName.length ≤ mapSize := by omega
    rw [reads_window hin] at hreads
    refine ⟨by omega, whole_of_reads hsize hname hb hend hin hreads, ?_⟩
    rintro w hw rfl
    by_contra hlt
    have hdiv := Nat.div_add_mod' w mapSize
    have hnot := hfirst (w % mapSize) (by omega)
    rw [reads_window hw.inBlock, hdiv, hw.reads] at hnot
    cases hnot
  · rintro ⟨hlt, hw, hfirst⟩
    have hin := hw.inBlock
    rw [(number_add hlt).2] at hin
    refine ⟨?_, List.mem_range.2 (by omega), fun j hj => ?_⟩
    · rw [reads_window hin]
      exact hw.reads
    · have hjin : j + nveName.length ≤ mapSize := by omega
      have hjlt : j < mapSize := by omega
      rw [reads_window hjin, Bool.not_eq_true', Bool.eq_false_iff]
      intro hreads
      have hle := hfirst _ (whole_of_reads hsize hname hb hend hjin hreads) (number_add hjlt).1
      omega

/-! ## What the loop finds -/

/-- The first `n` blocks are in the image and lack the name. -/
theorem without_iff : Without (imageDevice image malloc past) nveName 0 (start image) n ↔
    ∀ j < n, number image j * mapSize < image.length ∧
      ∀ w, Whole image nveName w → w / mapSize ≠ number image j := by
  apply forall₂_congr
  intro j _
  rw [iterate_nextBlock]
  by_cases hend : number image j * mapSize < image.length
  · simp only [imageDevice, hend, if_true, Mapping.mapped.injEq, exists_eq_left', true_and]
    exact memmem_window_none hsize hname (number_lt image j) hend
  · simp [imageDevice, hend]

/-- Where the item is copied from. -/
theorem copiesFrom_iff_number : CopiesFrom (imageDevice image malloc past) nveName n ptr ↔
    (∀ j < n, number image j * mapSize < image.length ∧
      ∀ w, Whole image nveName w → w / mapSize ≠ number image j) ∧
    ptr < mapSize ∧ Whole image nveName (number image n * mapSize + ptr) ∧
      ∀ w, Whole image nveName w → w / mapSize = number image n →
        number image n * mapSize + ptr ≤ w := by
  have hpos := List.length_pos_of_ne_nil hname
  by_cases hempty : image = []
  · -- an empty image cannot be mapped, and has no occurrence
    constructor
    · rintro ⟨data, hfirst, -⟩
      simp [imageDevice, hempty] at hfirst
    · rintro ⟨-, -, hw, -⟩
      have hin := hw.inImage
      rw [hempty, List.length_nil] at hin
      omega
  · have hfirst : (imageDevice image malloc past).first = .mapped (window image past 0) :=
      if_neg hempty
    unfold CopiesFrom
    simp only [hfirst, Mapping.mapped.injEq, exists_eq_left', firstBlock_window,
      without_iff hsize hname, iterate_nextBlock]
    apply and_congr_right
    intro _
    by_cases hend : number image n * mapSize < image.length
    · simp only [imageDevice, if_pos hend, Mapping.mapped.injEq, exists_eq_left']
      exact memmem_window_some hsize hname (number_lt image n) hend
    · constructor
      · rintro ⟨found, hfound, -⟩
        simp [imageDevice, hend] at hfound
      · rintro ⟨-, hw, -⟩
        have hin := hw.inImage
        omega

omit hsize hname in
/-- Occurrences in the scanned area are in blocks from the first number on. -/
theorem firstNumber_le_iff {w : ℕ} : start image ≤ w ↔ firstNumber image ≤ w / mapSize := by
  rw [start_eq, Nat.le_div_iff_mul_le (by decide)]

omit hsize hname in
theorem div_lt_of_whole {w : ℕ} (hw : Whole image nveName w) : w / mapSize < 2 ^ 15 := by
  rw [Nat.div_lt_iff_lt_mul (by decide)]
  exact hw.reached

/-- The item is copied from behind the first whole occurrence. -/
theorem copiesFrom_iff : (∃ n ptr, CopiesFrom (imageDevice image malloc past) nveName n ptr ∧
    number image n * mapSize + ptr = q) ↔ FirstWhole image nveName q := by
  have hone := firstNumber_le image
  constructor
  · rintro ⟨n, ptr, hcopies, rfl⟩
    obtain ⟨hearlier, hptr, hw, hfirst⟩ := (copiesFrom_iff_number hsize hname).1 hcopies
    refine ⟨hw, ?_⟩
    by_cases hn : firstNumber image + n < 2 ^ 15
    · -- the offset has not started again
      have hnumber : number image n = firstNumber image + n := Nat.mod_eq_of_lt hn
      left
      constructor
      · rw [firstNumber_le_iff, (number_add hptr).1, hnumber]
        exact Nat.le_add_right _ _
      · intro w hw' hstart
        by_contra hlt
        have hle : w / mapSize ≤ number image n := by
          rw [← (number_add (b := number image n) hptr).1]
          exact Nat.div_le_div_right (not_le.1 hlt).le
        rw [firstNumber_le_iff] at hstart
        rcases Nat.lt_or_eq_of_le hle with hless | heq
        · have hsmall : firstNumber image + (w / mapSize - firstNumber image) < 2 ^ 15 := by omega
          refine (hearlier (w / mapSize - firstNumber image) (by omega)).2 w hw' ?_
          rw [number, Nat.mod_eq_of_lt hsmall]
          omega
        · exact hlt (hfirst w hw' heq)
    · -- all blocks from the first number on were searched before
      have hbefore : ∀ w, Whole image nveName w → w < start image := by
        intro w hw'
        by_contra hstart
        rw [not_lt, firstNumber_le_iff] at hstart
        have hlt := div_lt_of_whole hw'
        have hsmall : firstNumber image + (w / mapSize - firstNumber image) < 2 ^ 15 := by omega
        refine (hearlier (w / mapSize - firstNumber image) (by omega)).2 w hw' ?_
        rw [number, Nat.mod_eq_of_lt hsmall]
        omega
      have hlast : number image (2 ^ 15 - 1 - firstNumber image) = 2 ^ 15 - 1 := by
        rw [number, Nat.mod_eq_of_lt (by omega)]
        omega
      have hend := (hearlier (2 ^ 15 - 1 - firstNumber image) (by omega)).1
      rw [hlast] at hend
      have hlarge := block_le hsize hend
      have hzero : ∀ w, Whole image nveName w → w / mapSize = 0 := by
        intro w hw'
        have hlt := hbefore w hw'
        rw [← not_le, firstNumber_le_iff, not_le] at hlt
        exact Nat.lt_one_iff.1 (hlt.trans_le hone)
      refine .inr ⟨hlarge, hbefore, fun w hw' => hfirst w hw' ?_⟩
      rw [hzero w hw', ← hzero _ hw, (number_add hptr).1]
  · rintro ⟨hw, hor⟩
    have hmod : q % mapSize < mapSize := Nat.mod_lt q (by decide)
    rcases hor with ⟨hstart, hfirst⟩ | ⟨hlarge, hbefore, hfirst⟩
    · rw [firstNumber_le_iff] at hstart
      have hlt := div_lt_of_whole hw
      have hnumber : ∀ j ≤ q / mapSize - firstNumber image,
          number image j = firstNumber image + j := by
        intro j hj
        exact Nat.mod_eq_of_lt (by omega)
      have hlast : number image (q / mapSize - firstNumber image) = q / mapSize := by
        rw [hnumber _ le_rfl]
        omega
      refine ⟨q / mapSize - firstNumber image, q % mapSize, ?_, ?_⟩
      · apply (copiesFrom_iff_number hsize hname).2
        rw [hlast, Nat.div_add_mod']
        refine ⟨fun j hj => ?_, hmod, hw, fun w hw' hsame => ?_⟩
        · rw [hnumber j hj.le]
          have hless : firstNumber image + j < q / mapSize := by omega
          constructor
          · have hin := hw.inImage
            calc (firstNumber image + j) * mapSize
                ≤ q / mapSize * mapSize := Nat.mul_le_mul_right mapSize hless.le
              _ ≤ q := Nat.div_mul_le_self q mapSize
              _ < image.length := by
                have hpos := List.length_pos_of_ne_nil hname
                omega
          · intro w hw' heq
            have hle := hfirst w hw' (by rw [firstNumber_le_iff, heq]; omega)
            have hdiv := Nat.div_le_div_right (c := mapSize) hle
            omega
        · apply hfirst w hw'
          rw [firstNumber_le_iff, hsame]
          exact hstart
      · rw [hlast, Nat.div_add_mod']
    · -- the block before the scanned area is the last one to be mapped
      have hlow := hbefore q hw
      rw [← not_le, firstNumber_le_iff, not_le] at hlow
      have hfirstNumber : firstNumber image = 1 :=
        le_antisymm hone (Nat.one_le_iff_ne_zero.2 (Nat.ne_zero_of_lt hlow))
      have hzero : q / mapSize = 0 := Nat.lt_one_iff.1 (hlow.trans_le hone)
      have hlast : number image (2 ^ 15 - 1) = 0 := by
        rw [number, hfirstNumber]
        decide
      have hqmod : q % mapSize = q := by
        have hdiv := Nat.div_add_mod' q mapSize
        rw [hzero, Nat.zero_mul, Nat.zero_add] at hdiv
        exact hdiv
      refine ⟨2 ^ 15 - 1, q % mapSize, ?_, ?_⟩
      · apply (copiesFrom_iff_number hsize hname).2
        rw [hlast, Nat.zero_mul, Nat.zero_add, hqmod]
        refine ⟨fun j hj => ?_, by omega, hw, fun w hw' _ => hfirst w hw'⟩
        have hnumber : number image j = 1 + j := by
          rw [number, hfirstNumber]
          exact Nat.mod_eq_of_lt (by omega)
        constructor
        · have hreached := block_le_reached (number_lt image j)
          have hpos : 0 < mapSize := by decide
          omega
        · intro w hw' heq
          have hlt := hbefore w hw'
          rw [← not_le, firstNumber_le_iff, heq, hnumber, hfirstNumber] at hlt
          omega
      · rw [hlast, Nat.zero_mul, Nat.zero_add, hqmod]

/-- Nothing is found where there is no whole occurrence in the scanned area and the offset comes to the
end of the image. -/
theorem findsNothing_iff : FindsNothing (imageDevice image malloc past) nveName ↔
    (∀ w, Whole image nveName w → w < start image) ∧ image.length < 2 ^ 32 := by
  have hpos := List.length_pos_of_ne_nil hname
  have hone := firstNumber_le image
  by_cases hempty : image = []
  · have hfirst : (imageDevice image malloc past).first = .failed := if_pos hempty
    refine ⟨fun _ => ⟨fun w hw => ?_, by simp [hempty]⟩, fun _ => .inl hfirst⟩
    have hin := hw.inImage
    rw [hempty, List.length_nil] at hin
    omega
  · have hfirst : (imageDevice image malloc past).first = .mapped (window image past 0) :=
      if_neg hempty
    have hfailed : ∀ n, (imageDevice image malloc past).block n (number image n * mapSize) =
        .failed ↔ image.length ≤ number image n * mapSize := by
      intro n
      simp only [imageDevice, ite_eq_right_iff, reduceCtorEq, imp_false, not_lt]
    unfold FindsNothing
    simp only [hfirst, reduceCtorEq, false_or, Mapping.mapped.injEq, exists_and_left, exists_eq_left',
      firstBlock_window, without_iff hsize hname, iterate_nextBlock, hfailed]
    constructor
    · rintro ⟨n, hearlier, hend⟩
      have hreached := block_le_reached (number_lt image n)
      have hsizePos : 0 < mapSize := by decide
      refine ⟨fun w hw => ?_, by omega⟩
      by_contra hstart
      rw [not_lt, firstNumber_le_iff] at hstart
      have hlt := div_lt_of_whole hw
      have hin := hw.inImage
      -- its block comes before the one past the end
      have hless : w / mapSize < number image n := by
        rw [Nat.div_lt_iff_lt_mul hsizePos]
        omega
      have hsmall : firstNumber image + (w / mapSize - firstNumber image) < 2 ^ 15 := by omega
      have hle : number image n ≤ firstNumber image + n := Nat.mod_le _ _
      refine (hearlier (w / mapSize - firstNumber image) (by omega)).2 w hw ?_
      rw [number, Nat.mod_eq_of_lt hsmall]
      omega
    · rintro ⟨hbefore, hsmall⟩
      obtain ⟨k, hk⟩ := hsize
      have hlength : 0 < image.length := List.length_pos_of_ne_nil hempty
      have hkpos : 0 < k := by
        rcases Nat.eq_zero_or_pos k with rfl | hkpos
        · rw [hk, Nat.mul_zero] at hlength
          exact absurd hlength (lt_irrefl 0)
        · exact hkpos
      have hklt : k < 2 ^ 15 := by
        have hwrap : 2 ^ 32 = mapSize * 2 ^ 15 := by decide
        rw [hk, hwrap] at hsmall
        exact Nat.lt_of_mul_lt_mul_left hsmall
      have hnumber : ∀ j ≤ k - firstNumber image, number image j = firstNumber image + j := by
        intro j hj
        exact Nat.mod_eq_of_lt (by omega)
      refine ⟨k - firstNumber image, fun j hj => ?_, ?_⟩
      · rw [hnumber j hj.le]
        constructor
        · rw [hk, Nat.mul_comm mapSize k]
          exact Nat.mul_lt_mul_of_pos_right (by omega) (by decide)
        · intro w hw heq
          have hlt := hbefore w hw
          rw [← not_le, firstNumber_le_iff, heq] at hlt
          omega
      · rw [hnumber _ le_rfl, hk, Nat.mul_comm mapSize k]
        exact Nat.mul_le_mul_right mapSize (by omega)

/-! ## The item of the first occurrence -/

omit hsize hname in
/-- The copy of an item that ends within the mapping is the item in the image. -/
theorem copyItem_window (hin : ptr + 20 + nveNvDataSize ≤ mapSize) :
    copyItem (window image past (b * mapSize)) (itemOffset ptr) =
      itemAt image (b * mapSize + ptr) := by
  have hoffset : itemOffset ptr = ptr + 20 := by
    simp only [itemOffset, nvNameLength, mapSize, nveNvDataSize] at hin ⊢
    omega
  apply Memory.slice_congr
  intro j hj
  -- every byte of it is one of the block
  have hmapped : ptr + 20 + j < mapSize := by omega
  have hplace : b * mapSize + (ptr + 20 + j) = b * mapSize + ptr + 20 + j := by omega
  simp only [hoffset, window, if_pos hmapped, hplace]

/-- The item of the first whole occurrence is returned when it ends within the mapping. -/
theorem nveRead_of_firstWhole (hmalloc : malloc = true) (hq : FirstWhole image nveName q)
    (hin : q % mapSize + 20 + nveNvDataSize ≤ mapSize) :
    ∃ fuel, nveRead fuel (imageDevice image malloc past) nveName = some (some (itemAt image q)) := by
  have hcopied : ∃ n ptr, CopiesFrom (imageDevice image malloc past) nveName n ptr ∧
      number image n * mapSize + ptr = q := (copiesFrom_iff hsize hname).2 hq
  obtain ⟨n, ptr, hcopies, rfl⟩ := hcopied
  obtain ⟨data, hfirst, hn, found, hblock, hptr⟩ := id hcopies
  have hlt := ((copiesFrom_iff_number hsize hname).1 hcopies).2.1
  rw [(number_add hlt).2] at hin
  have hdata : firstBlock data = start image := by
    by_cases hempty : image = []
    · simp [imageDevice, hempty] at hfirst
    · rw [imageDevice, if_neg hempty, Mapping.mapped.injEq] at hfirst
      rw [← hfirst, firstBlock_window]
  have hfound : found = window image past (number image n * mapSize) := by
    rw [hdata, iterate_nextBlock] at hblock
    by_cases hend : number image n * mapSize < image.length
    · simp only [imageDevice, if_pos hend, Mapping.mapped.injEq] at hblock
      exact hblock.symm
    · simp [imageDevice, hend] at hblock
  obtain ⟨fuel, h⟩ := searchBlocks_of_without (k := 0) hmalloc hn (by rwa [Nat.zero_add]) hptr
  refine ⟨fuel, ?_⟩
  rw [nveRead, hfirst]
  dsimp only
  rw [h, hfound, copyItem_window hin]

/-- There is no occurrence and the offset comes to the end of the image, or the first occurrence has
the item of the one that is found, which ends within its block. -/
def ItemInBlock (image : List UInt8) (malloc : Bool) (nveName : List UInt8) : Prop :=
  ((¬∃ p, Occurs image nveName p) ∧ image.length < 2 ^ 32) ∨
    (malloc = true ∧ ∃ p q, FirstOccurrence image nveName p ∧
      p + 20 + nveNvDataSize ≤ image.length ∧ FirstWhole image nveName q ∧
      q % mapSize + 20 + nveNvDataSize ≤ mapSize ∧ itemAt image q = itemAt image p)

/-- The item is found wherever it lies exactly when it and its name lie within one block. -/
theorem right_iff : Right image malloc past nveName ↔ ItemInBlock image malloc nveName := by
  constructor
  · rintro ⟨⟨fuel, r, hr, hnone, hsome⟩, hinside⟩
    cases r with
    | none =>
      left
      have hnothing := nveRead_nothing_iff.1 ⟨fuel, hr⟩
      exact ⟨hnone.1 rfl, ((findsNothing_iff hsize hname).1 hnothing).2⟩
    | some data =>
      right
      obtain ⟨hmalloc, first, n, hfirst, hn, found, ptr, hblock, hptr⟩ :=
        nveRead_found_iff.1 ⟨fuel, data, hr⟩
      have hcopies : CopiesFrom (imageDevice image malloc past) nveName n ptr :=
        ⟨first, hfirst, hn, found, hblock, hptr⟩
      have hq := (copiesFrom_iff hsize hname).1 ⟨n, ptr, hcopies, rfl⟩
      have hlt := ((copiesFrom_iff_number hsize hname).1 hcopies).2.1
      have hend := hinside n ptr hcopies
      have hin : (number image n * mapSize + ptr) % mapSize + 20 + nveNvDataSize ≤ mapSize := by
        rw [(number_add hlt).2]
        simp only [itemOffset, nvNameLength, nveNvDataSize, mapSize] at hend hlt ⊢
        omega
      obtain ⟨fuel', h'⟩ := nveRead_of_firstWhole hsize hname hmalloc hq hin
      obtain ⟨p, hp, hlast, hitem⟩ := hsome data rfl
      refine ⟨hmalloc, p, _, hp, hlast, hq, hin, ?_⟩
      rw [← hitem]
      exact Option.some.inj (nveRead_unique h' hr)
  · rintro (⟨hnone, hsmall⟩ | ⟨hmalloc, p, q, hp, hlast, hq, hin, hitem⟩)
    · have hbefore : ∀ w, Whole image nveName w → w < start image := by
        intro w hw
        by_contra hstart
        exact hnone ⟨w, hw.occurs (not_lt.1 hstart)⟩
      constructor
      · obtain ⟨fuel, h⟩ :=
          nveRead_nothing_iff.2 ((findsNothing_iff hsize hname).2 ⟨hbefore, hsmall⟩)
        exact ⟨fuel, none, h, ⟨fun _ => hnone, fun _ => rfl⟩, fun data hdata => by cases hdata⟩
      · -- no item is copied
        intro n ptr hcopies
        obtain ⟨hw, ⟨hstart, -⟩ | ⟨hlarge, -⟩⟩ :=
          (copiesFrom_iff hsize hname).1 ⟨n, ptr, hcopies, rfl⟩
        · exact absurd ⟨_, hw.occurs hstart⟩ hnone
        · exact absurd hsmall (not_lt.2 hlarge)
    · constructor
      · obtain ⟨fuel, h⟩ := nveRead_of_firstWhole hsize hname hmalloc hq hin
        refine ⟨fuel, some (itemAt image q), h, ?_, ?_⟩
        · exact ⟨fun h => (by cases h), fun hnot => absurd ⟨p, hp.1⟩ hnot⟩
        · intro data hdata
          exact ⟨p, hp, hlast, by rw [← Option.some.inj hdata, hitem]⟩
      · intro n ptr hcopies
        have hlt := ((copiesFrom_iff_number hsize hname).1 hcopies).2.1
        have hsame := ((copiesFrom_iff hsize hname).1 ⟨n, ptr, hcopies, rfl⟩).unique hq
        rw [← hsame, (number_add hlt).2] at hin
        simp only [itemOffset, nvNameLength, nveNvDataSize, mapSize] at hin hlt ⊢
        omega

end

/-! A name that stands in one place of an image of other bytes. -/

def macBt : List UInt8 := [77, 65, 67, 66, 84]

def imageWith (before behind : ℕ) : List UInt8 :=
  List.replicate before 1 ++ (macBt ++ List.replicate behind 1)

section

variable {before behind k : ℕ}

theorem imageWith_length : (imageWith before behind).length = before + 5 + behind := by
  simp only [imageWith, macBt, List.length_append, List.length_replicate, List.length_cons,
    List.length_nil]
  omega

theorem contents_before (h : p < before) : contents (imageWith before behind) p = 1 := by
  have hin : p < (List.replicate before (1 : UInt8)).length := by rwa [List.length_replicate]
  rw [contents, imageWith, List.getD_append _ _ _ _ hin, List.getD_replicate _ h]

theorem contents_name (h : k < 5) :
    contents (imageWith before behind) (before + k) = macBt.getD k 0 := by
  have hle : (List.replicate before (1 : UInt8)).length ≤ before + k := by
    rw [List.length_replicate]
    exact Nat.le_add_right before k
  rw [contents, imageWith, List.getD_append_right _ _ _ _ hle, List.length_replicate,
    Nat.add_sub_cancel_left, List.getD_append _ _ _ _ h]

/-- The first byte of the name stands in one place only. -/
theorem eq_of_contents (h : contents (imageWith before behind) p = 77) : p = before := by
  rcases Nat.lt_trichotomy p before with hlt | heq | hgt
  · rw [contents_before hlt] at h
    cases h
  · exact heq
  · obtain ⟨k, rfl⟩ := Nat.exists_eq_add_of_lt hgt
    by_cases hname : k + 1 < 5
    · rw [Nat.add_assoc, contents_name hname] at h
      have hk : k < 4 := Nat.lt_of_succ_lt_succ hname
      interval_cases k <;> cases h
    · -- bytes behind the name
      have hle : (List.replicate before (1 : UInt8)).length ≤ before + k + 1 := by
        rw [List.length_replicate]
        omega
      have hbehind : macBt.length ≤ before + k + 1 - before := by
        simp only [macBt, List.length_cons, List.length_nil]
        omega
      rw [contents, imageWith, List.getD_append_right _ _ _ _ hle, List.length_replicate,
        List.getD_append_right _ _ _ _ hbehind,
        List.getD_eq_getElem?_getD, List.getElem?_replicate] at h
      split at h <;> cases h

theorem start_imageWith : start (imageWith before behind) = 0 := by
  have hbyte : contents (imageWith before behind) 0 = 1 ∨
      contents (imageWith before behind) 0 = 77 := by
    rcases Nat.eq_zero_or_pos before with rfl | hpos
    · exact .inr (contents_name (Nat.succ_pos 4))
    · exact .inl (contents_before hpos)
  unfold start firstBlock
  rcases hbyte with h | h <;> rw [h] <;> rfl

theorem firstOccurrence_imageWith : FirstOccurrence (imageWith before behind) macBt before := by
  refine ⟨⟨?_, ?_, ?_⟩, fun q hq => ?_⟩
  · rw [start_imageWith]
    exact Nat.zero_le before
  · rw [imageWith_length]
    exact Nat.le_add_right (before + 5) behind
  · rw [Memory.reads_eq_true]
    intro k hk
    rw [contents_name hk]
    exact List.getD_eq_getElem _ _ hk
  · exact (eq_of_contents (Memory.reads_eq_true.1 hq.2.2 0 (by decide))).ge

end

theorem right_iff_atStart : Right (imageWith 0 (mapSize - 5)) true (fun _ _ => 0) macBt := by
  apply (right_iff (by rw [imageWith_length]; decide) (by decide)).2
  have hfirst : FirstOccurrence (imageWith 0 (mapSize - 5)) macBt 0 :=
    firstOccurrence_imageWith
  have hwhole : Whole (imageWith 0 (mapSize - 5)) macBt 0 :=
    ⟨by decide, hfirst.1.2.1, hfirst.1.2.2, by decide⟩
  exact .inr ⟨rfl, 0, 0, hfirst, by rw [imageWith_length]; decide,
    ⟨hwhole, .inl ⟨hfirst.1.1, fun q _ _ => Nat.zero_le q⟩⟩, by decide, rfl⟩

/-- A name across the end of a block is not found. -/
theorem not_right_across :
    ¬Right (imageWith (mapSize - 2) (mapSize - 3)) true (fun _ _ => 0) macBt := by
  have hsize : mapSize ∣ (imageWith (mapSize - 2) (mapSize - 3)).length := by
    rw [imageWith_length]
    decide
  have hbefore : ∀ w, Whole (imageWith (mapSize - 2) (mapSize - 3)) macBt w →
      w < start (imageWith (mapSize - 2) (mapSize - 3)) := by
    intro w hw
    obtain rfl := eq_of_contents (Memory.reads_eq_true.1 hw.reads 0 (by decide))
    exact absurd hw.inBlock (by decide)
  rintro ⟨⟨fuel, r, hr, hnone, -⟩, -⟩
  obtain ⟨fuel', h'⟩ := nveRead_nothing_iff.2
    ((findsNothing_iff hsize (by decide)).2
      ⟨hbefore, by rw [imageWith_length]; decide⟩)
  obtain rfl := nveRead_unique h' hr
  exact hnone.1 rfl ⟨_, firstOccurrence_imageWith.1⟩

end AliceHal.MacNvme
