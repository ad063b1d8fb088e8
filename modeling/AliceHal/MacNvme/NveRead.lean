import AliceHal.Lib.Memory

/-!
# Reading an Item from the NVE Partition

`nve_read` of `nvme.h`: the partition is mapped block by block until a block contains the name of
the item. The loop is left when an item is found or a mapping fails; its condition compares an
unsigned offset with zero and always holds, so a partition without the item is left only by a
mapping that fails.

- `Mapping`, `RawDevice`: what the kernel answers
- `searchBlocks`, `nveRead`: the loop and the function
- `Finds`, `FindsNothing`: the two ways in which it returns
- `nveRead_found_iff`, `nveRead_nothing_iff`: they are those of the code
-/

namespace AliceHal.MacNvme

open Lib

/-! ## The kernel's answers -/

/-- `NV_NAME_LENGTH` -/
def nvNameLength : ℕ := 8

/-- `NVE_NV_DATA_SIZE` -/
def nveNvDataSize : ℕ := 104

/-- The bytes that are mapped at a time. -/
def mapSize : ℕ := 0x00020000

/-- What a call of `mmap` comes to. Past the end of the device there may be a mapping whose pages
cannot be read: the process is killed. -/
inductive Mapping where
  | failed
  | mapped (data : Memory)
  | faults

/-- The answers to the calls of `nve_read` on a descriptor of the partition. The partition is
shared, so every mapping has contents of its own; `block` is given the number of the mapping and
its offset. -/
structure RawDevice where
  malloc : Bool
  first : Mapping
  block : ℕ → ℕ → Mapping

/-! ## The function -/

/-- `memmem`: the first place among the first `n` bytes where `needle` starts. -/
def memmem (m : Memory) (n : ℕ) (needle : List UInt8) : Option ℕ :=
  (List.range (n + 1 - needle.length)).find? fun i => m.reads i needle

/-- The next offset, a `uint32_t`. -/
def nextBlock (blockSize : ℕ) : ℕ := (blockSize + mapSize) % 2 ^ 32

/-- The copy of an item, which may start near the end of the mapping and is made all the same. -/
def copyItem (dataBuffer : Memory) (offset : ℕ) : List UInt8 :=
  Memory.slice (fun j => dataBuffer (offset + j)) nveNvDataSize

/-- The offset of an item behind the place of its name. -/
def itemOffset (ptr : ℕ) : ℕ := (ptr + nvNameLength + 12) % 2 ^ 32

/-- The loop of `nve_read` from its `k`-th mapping on: `none` when it has not returned. -/
def searchBlocks (raw : RawDevice) (nveName : List UInt8) :
    ℕ → ℕ → ℕ → Option (Option (List UInt8))
  | 0, _, _ => none
  | fuel + 1, k, blockSize =>
    match raw.block k blockSize with
    | .failed => some none
    | .faults => none
    | .mapped dataBuffer =>
      match memmem dataBuffer mapSize nveName with
      | some ptr =>
        if itemOffset ptr ≠ 0 then
          -- without memory for the copy the process is killed
          if raw.malloc then some (some (copyItem dataBuffer (itemOffset ptr))) else none
        else searchBlocks raw nveName fuel (k + 1) blockSize
      | none => searchBlocks raw nveName fuel (k + 1) (nextBlock blockSize)

/-- Where the search starts: a legacy image has junk in front. -/
def firstBlock (data : Memory) : ℕ := if data 0 = 0 ∨ data 0 = 85 then mapSize else 0

/-- `nve_read`: `some none` is `nullptr`. -/
def nveRead (fuel : ℕ) (raw : RawDevice) (nveName : List UInt8) : Option (Option (List UInt8)) :=
  match raw.first with
  | .failed => some none
  | .faults => none
  | .mapped dataBuffer => searchBlocks raw nveName fuel 0 (firstBlock dataBuffer)

/-! ## How it returns -/

/-- The first `n` blocks, from the `k`-th mapping on, do not contain the name. -/
def Without (raw : RawDevice) (nveName : List UInt8) (k blockSize n : ℕ) : Prop :=
  ∀ j < n, ∃ data, raw.block (k + j) (nextBlock^[j] blockSize) = .mapped data ∧
    memmem data mapSize nveName = none

/-- A mapping fails before a block contains the name. -/
def FindsNothing (raw : RawDevice) (nveName : List UInt8) : Prop :=
  raw.first = .failed ∨ ∃ data n, raw.first = .mapped data ∧
    Without raw nveName 0 (firstBlock data) n ∧
    raw.block n (nextBlock^[n] (firstBlock data)) = .failed

/-- A block contains the name before a mapping fails. -/
def Finds (raw : RawDevice) (nveName : List UInt8) : Prop :=
  raw.malloc = true ∧ ∃ data n, raw.first = .mapped data ∧
    Without raw nveName 0 (firstBlock data) n ∧
    ∃ found ptr, raw.block n (nextBlock^[n] (firstBlock data)) = .mapped found ∧
      memmem found mapSize nveName = some ptr

section

variable {raw : RawDevice} {nveName : List UInt8} {k blockSize n fuel : ℕ}

/-- The first block lacks the name, and so do those behind it. -/
theorem without_succ : Without raw nveName k blockSize (n + 1) ↔
    (∃ data, raw.block k blockSize = .mapped data ∧ memmem data mapSize nveName = none) ∧
      Without raw nveName (k + 1) (nextBlock blockSize) n := by
  constructor
  · intro h
    refine ⟨h 0 (Nat.succ_pos n), fun j hj => ?_⟩
    have hj' := h (j + 1) (Nat.succ_lt_succ hj)
    rwa [Function.iterate_succ_apply, Nat.add_comm j, ← Nat.add_assoc] at hj'
  · rintro ⟨h0, hrest⟩ j hj
    cases j with
    | zero => exact h0
    | succ j =>
      rw [Function.iterate_succ_apply, Nat.add_comm j, ← Nat.add_assoc]
      exact hrest j (Nat.lt_of_succ_lt_succ hj)

/-- A place in a mapping is followed by the item, never by offset zero. -/
theorem offset_ne_zero {data : Memory} {ptr : ℕ} (h : memmem data mapSize nveName = some ptr) :
    itemOffset ptr ≠ 0 := by
  have hmem := List.mem_of_find?_eq_some h
  rw [List.mem_range] at hmem
  simp only [itemOffset, mapSize, nvNameLength] at hmem ⊢
  omega

/-! What one round of the loop does, for each answer to its mapping. -/

theorem searchBlocks_failed (h : raw.block k blockSize = .failed) :
    searchBlocks raw nveName (fuel + 1) k blockSize = some none := by
  rw [searchBlocks, h]

theorem searchBlocks_faults (h : raw.block k blockSize = .faults) :
    searchBlocks raw nveName (fuel + 1) k blockSize = none := by
  rw [searchBlocks, h]

theorem searchBlocks_without {data : Memory} (h : raw.block k blockSize = .mapped data)
    (hfind : memmem data mapSize nveName = none) :
    searchBlocks raw nveName (fuel + 1) k blockSize =
      searchBlocks raw nveName fuel (k + 1) (nextBlock blockSize) := by
  rw [searchBlocks, h]
  dsimp only
  rw [hfind]

theorem searchBlocks_found {data : Memory} {ptr : ℕ} (h : raw.block k blockSize = .mapped data)
    (hfind : memmem data mapSize nveName = some ptr) :
    searchBlocks raw nveName (fuel + 1) k blockSize =
      if raw.malloc then some (some (copyItem data (itemOffset ptr))) else none := by
  rw [searchBlocks, h]
  dsimp only
  rw [hfind]
  dsimp only
  rw [if_pos (offset_ne_zero hfind)]

/-- The loop returns without an item when a mapping fails behind blocks that lack the name. -/
theorem searchBlocks_nothing_iff : (∃ fuel, searchBlocks raw nveName fuel k blockSize = some none) ↔
    ∃ n, Without raw nveName k blockSize n ∧
      raw.block (k + n) (nextBlock^[n] blockSize) = .failed := by
  constructor
  · rintro ⟨fuel, h⟩
    induction fuel generalizing k blockSize with
    | zero => cases h
    | succ fuel ih =>
      cases hblock : raw.block k blockSize with
      | failed => exact ⟨0, fun j hj => absurd hj (Nat.not_lt_zero j), hblock⟩
      | faults =>
        rw [searchBlocks_faults hblock] at h
        cases h
      | mapped data =>
        cases hfind : memmem data mapSize nveName with
        | some ptr =>
          rw [searchBlocks_found hblock hfind] at h
          split at h <;> cases h
        | none =>
          rw [searchBlocks_without hblock hfind] at h
          obtain ⟨n, hn, hfail⟩ := ih h
          refine ⟨n + 1, without_succ.2 ⟨⟨data, hblock, hfind⟩, hn⟩, ?_⟩
          rw [Function.iterate_succ_apply, Nat.add_comm n, ← Nat.add_assoc]
          exact hfail
  · rintro ⟨n, hn, hfail⟩
    induction n generalizing k blockSize with
    | zero => exact ⟨1, searchBlocks_failed hfail⟩
    | succ n ih =>
      obtain ⟨⟨data, hblock, hfind⟩, hrest⟩ := without_succ.1 hn
      rw [Function.iterate_succ_apply, Nat.add_comm n, ← Nat.add_assoc] at hfail
      obtain ⟨fuel, h⟩ := ih hrest hfail
      exact ⟨fuel + 1, (searchBlocks_without hblock hfind).trans h⟩

/-- The item that the loop returns is copied from the first block with the name. -/
theorem searchBlocks_of_without (hmalloc : raw.malloc = true) {found : Memory} {ptr : ℕ}
    (hn : Without raw nveName k blockSize n)
    (hfound : raw.block (k + n) (nextBlock^[n] blockSize) = .mapped found)
    (hptr : memmem found mapSize nveName = some ptr) :
    ∃ fuel, searchBlocks raw nveName fuel k blockSize =
      some (some (copyItem found (itemOffset ptr))) := by
  induction n generalizing k blockSize with
  | zero => exact ⟨1, (searchBlocks_found hfound hptr).trans (if_pos hmalloc)⟩
  | succ n ih =>
    obtain ⟨⟨data, hblock, hfind⟩, hrest⟩ := without_succ.1 hn
    rw [Function.iterate_succ_apply, Nat.add_comm n, ← Nat.add_assoc] at hfound
    obtain ⟨fuel, h⟩ := ih hrest hfound
    exact ⟨fuel + 1, (searchBlocks_without hblock hfind).trans h⟩

/-- The loop returns an item when a block contains the name behind blocks that lack it. -/
theorem searchBlocks_found_iff :
    (∃ fuel data, searchBlocks raw nveName fuel k blockSize = some (some data)) ↔
      raw.malloc = true ∧ ∃ n, Without raw nveName k blockSize n ∧
        ∃ found ptr, raw.block (k + n) (nextBlock^[n] blockSize) = .mapped found ∧
          memmem found mapSize nveName = some ptr := by
  constructor
  · rintro ⟨fuel, item, h⟩
    induction fuel generalizing k blockSize with
    | zero => cases h
    | succ fuel ih =>
      cases hblock : raw.block k blockSize with
      | failed =>
        rw [searchBlocks_failed hblock] at h
        cases h
      | faults =>
        rw [searchBlocks_faults hblock] at h
        cases h
      | mapped data =>
        cases hfind : memmem data mapSize nveName with
        | some ptr =>
          rw [searchBlocks_found hblock hfind] at h
          split at h
          · rename_i hmalloc
            exact ⟨hmalloc, 0, fun j hj => absurd hj (Nat.not_lt_zero j), data, ptr, hblock, hfind⟩
          · cases h
        | none =>
          rw [searchBlocks_without hblock hfind] at h
          obtain ⟨hmalloc, n, hn, found, ptr, hfound, hptr⟩ := ih h
          refine ⟨hmalloc, n + 1, without_succ.2 ⟨⟨data, hblock, hfind⟩, hn⟩, found, ptr, ?_, hptr⟩
          rw [Function.iterate_succ_apply, Nat.add_comm n, ← Nat.add_assoc]
          exact hfound
  · rintro ⟨hmalloc, n, hn, found, ptr, hfound, hptr⟩
    obtain ⟨fuel, h⟩ := searchBlocks_of_without hmalloc hn hfound hptr
    exact ⟨fuel, _, h⟩

/-- More steps do not change what has been returned. -/
theorem searchBlocks_mono {fuel' : ℕ} {r : Option (List UInt8)} (hle : fuel ≤ fuel')
    (h : searchBlocks raw nveName fuel k blockSize = some r) :
    searchBlocks raw nveName fuel' k blockSize = some r := by
  induction fuel generalizing fuel' k blockSize with
  | zero => cases h
  | succ fuel ih =>
    obtain ⟨fuel', rfl⟩ := Nat.exists_eq_add_of_le' (Nat.lt_of_lt_of_le (Nat.succ_pos fuel) hle)
    have hle' : fuel ≤ fuel' := Nat.le_of_succ_le_succ hle
    cases hblock : raw.block k blockSize with
    | failed =>
      rw [searchBlocks_failed hblock] at h ⊢
      exact h
    | faults =>
      rw [searchBlocks_faults hblock] at h
      cases h
    | mapped data =>
      cases hfind : memmem data mapSize nveName with
      | some ptr =>
        rw [searchBlocks_found hblock hfind] at h ⊢
        exact h
      | none =>
        rw [searchBlocks_without hblock hfind] at h ⊢
        exact ih hle' h

theorem nveRead_mono {fuel' : ℕ} {r : Option (List UInt8)} (hle : fuel ≤ fuel')
    (h : nveRead fuel raw nveName = some r) : nveRead fuel' raw nveName = some r := by
  unfold nveRead at h ⊢
  split at h
  · exact h
  · cases h
  · exact searchBlocks_mono hle h

/-- The function returns one thing only. -/
theorem nveRead_unique {fuel' : ℕ} {r r' : Option (List UInt8)}
    (h : nveRead fuel raw nveName = some r) (h' : nveRead fuel' raw nveName = some r') : r = r' := by
  rcases Nat.le_total fuel fuel' with hle | hle
  · exact Option.some.inj ((nveRead_mono hle h).symm.trans h')
  · exact Option.some.inj (h.symm.trans (nveRead_mono hle h'))

theorem nveRead_nothing_iff :
    (∃ fuel, nveRead fuel raw nveName = some none) ↔ FindsNothing raw nveName := by
  cases hfirst : raw.first with
  | failed => simp [nveRead, FindsNothing, hfirst]
  | faults => simp [nveRead, FindsNothing, hfirst]
  | mapped data =>
    simp only [nveRead, FindsNothing, hfirst, searchBlocks_nothing_iff, Nat.zero_add,
      Mapping.mapped.injEq, reduceCtorEq, false_or]
    constructor
    · rintro ⟨n, hn, hfail⟩
      exact ⟨data, n, rfl, hn, hfail⟩
    · rintro ⟨_, n, rfl, hn, hfail⟩
      exact ⟨n, hn, hfail⟩

theorem nveRead_found_iff :
    (∃ fuel data, nveRead fuel raw nveName = some (some data)) ↔ Finds raw nveName := by
  cases hfirst : raw.first with
  | failed => simp [nveRead, Finds, hfirst]
  | faults => simp [nveRead, Finds, hfirst]
  | mapped data =>
    simp only [nveRead, Finds, hfirst, searchBlocks_found_iff, Nat.zero_add,
      Mapping.mapped.injEq]
    constructor
    · rintro ⟨hmalloc, n, hn, hfound⟩
      exact ⟨hmalloc, data, n, rfl, hn, hfound⟩
    · rintro ⟨hmalloc, _, n, rfl, hn, hfound⟩
      exact ⟨hmalloc, n, hn, hfound⟩

end

end AliceHal.MacNvme
