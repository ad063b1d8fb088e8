import Mathlib

/-!
# Linked Lists in Memory

Nodes live at addresses, and a node names the next one by its address; zero is the null pointer. The
nodes on the way from one pointer to another form a segment, with the values they have there.

- `Segment`: the nodes from a pointer up to another one
- `Segment.unique`, `Segment.nodup`: a list that ends visits every node once
- `Segment.insert_of_notMem`, `Segment.erase_of_notMem`: changes elsewhere leave a segment alone
- `lastNode`: the walk to the last node
- `IsList`: a list that is all there is in memory, and what keeps it one
-/

namespace Lib

variable {ν : Type*}

/-- Memory for nodes. An address that is not allocated holds nothing. -/
abbrev Heap (ν : Type*) := AList fun _ : ℕ => ν

namespace Heap

variable {next : ν → ℕ} {h : Heap ν} {p q a : ℕ} {l l₁ l₂ : List (ℕ × ν)} {e x : ℕ × ν} {n : ν}

/-- The nodes from `p` on, with their addresses, until the pointer is `q`. -/
def Segment (next : ν → ℕ) (h : Heap ν) : ℕ → List (ℕ × ν) → ℕ → Prop
  | p, [], q => p = q
  | p, e :: l, q => p = e.1 ∧ e.1 ≠ 0 ∧ h.lookup e.1 = some e.2 ∧ Segment next h (next e.2) l q

/-! ## Segments -/

theorem segment_append :
    Segment next h p (l₁ ++ l₂) q ↔ ∃ m, Segment next h p l₁ m ∧ Segment next h m l₂ q := by
  induction l₁ generalizing p with
  | nil => simp [Segment]
  | cons e l ih =>
    simp only [List.cons_append, Segment, ih]
    constructor
    · rintro ⟨hp, hne, hget, m, hl, hrest⟩
      exact ⟨m, ⟨hp, hne, hget, hl⟩, hrest⟩
    · rintro ⟨m, ⟨hp, hne, hget, hl⟩, hrest⟩
      exact ⟨hp, hne, hget, m, hl, hrest⟩

/-- A segment with a node in the middle. -/
theorem segment_middle :
    Segment next h p (l₁ ++ e :: l₂) q ↔ Segment next h p l₁ e.1 ∧ e.1 ≠ 0 ∧
      h.lookup e.1 = some e.2 ∧ Segment next h (next e.2) l₂ q := by
  rw [segment_append]
  constructor
  · rintro ⟨m, hl, rfl, hne, hget, hrest⟩
    exact ⟨hl, hne, hget, hrest⟩
  · rintro ⟨hl, hne, hget, hrest⟩
    exact ⟨e.1, hl, rfl, hne, hget, hrest⟩

theorem Segment.mem (hs : Segment next h p l q) (he : e ∈ l) :
    e.1 ≠ 0 ∧ h.lookup e.1 = some e.2 := by
  obtain ⟨l₁, l₂, rfl⟩ := List.append_of_mem he
  obtain ⟨-, hne, hget, -⟩ := segment_middle.1 hs
  exact ⟨hne, hget⟩

/-- From one pointer there is one way to the end of the list. -/
theorem Segment.unique (hs : Segment next h p l 0) (hs' : Segment next h p l₁ 0) : l = l₁ := by
  induction l generalizing p l₁ with
  | nil =>
    cases l₁ with
    | nil => rfl
    | cons e l₁ => exact absurd (hs'.1.symm.trans hs) hs'.2.1
  | cons e l ih =>
    obtain ⟨rfl, hne, hget, hrest⟩ := hs
    cases l₁ with
    | nil => exact absurd hs' hne
    | cons e' l₁ =>
      obtain ⟨heq, -, hget', hrest'⟩ := hs'
      have hnode : e = e' := by
        rw [← heq, hget] at hget'
        exact Prod.ext heq (Option.some.inj hget')
      subst hnode
      rw [ih hrest hrest']

/-- A list that ends has no node twice: from the second visit it would go on as from the first. -/
theorem Segment.nodup (hs : Segment next h p l 0) : (l.map Prod.fst).Nodup := by
  induction l generalizing p with
  | nil => exact List.nodup_nil
  | cons e l ih =>
    rw [List.map_cons, List.nodup_cons]
    refine ⟨fun hmem => ?_, ih hs.2.2.2⟩
    obtain ⟨x, hx, hxe⟩ := List.mem_map.1 hmem
    obtain ⟨l₁, l₂, rfl⟩ := List.append_of_mem hx
    obtain ⟨-, hne, hget, hrest⟩ := segment_middle.1 hs.2.2.2
    have hagain : Segment next h p (x :: l₂) 0 := ⟨hs.1.trans hxe.symm, hne, hget, hrest⟩
    have hlength := congrArg List.length (hs.unique hagain)
    simp only [List.length_cons, List.length_append] at hlength
    omega

/-- Memory that agrees on the nodes of a segment. -/
theorem Segment.congr {h' : Heap ν} (hs : Segment next h p l q)
    (hagree : ∀ e ∈ l, h'.lookup e.1 = h.lookup e.1) : Segment next h' p l q := by
  induction l generalizing p with
  | nil => exact hs
  | cons e l ih =>
    obtain ⟨hp, hne, hget, hrest⟩ := hs
    refine ⟨hp, hne, ?_, ih hrest fun x hx => hagree x (List.mem_cons_of_mem e hx)⟩
    rw [hagree e List.mem_cons_self, hget]

theorem Segment.insert_of_notMem (hs : Segment next h p l q) (ha : a ∉ l.map Prod.fst) :
    Segment next (h.insert a n) p l q := by
  apply hs.congr
  intro e he
  apply AList.lookup_insert_ne
  rintro rfl
  exact ha (List.mem_map_of_mem he)

theorem Segment.erase_of_notMem (hs : Segment next h p l q) (ha : a ∉ l.map Prod.fst) :
    Segment next (h.erase a) p l q := by
  apply hs.congr
  intro e he
  apply AList.lookup_erase_ne
  rintro rfl
  exact ha (List.mem_map_of_mem he)

/-! ## The walk to the end -/

/-- The last node of a list, with its address. The walk fails at an address that is not allocated, and
ends without a result where it takes more steps than allowed. -/
def lastNode (next : ν → ℕ) (h : Heap ν) : ℕ → ℕ → Option (ℕ × ν)
  | 0, _ => none
  | fuel + 1, p =>
    (h.lookup p).bind fun n => if next n = 0 then some (p, n) else lastNode next h fuel (next n)

theorem lastNode_of_segment (hs : Segment next h p (l ++ [e]) 0) {fuel : ℕ}
    (hfuel : l.length < fuel) : lastNode next h fuel p = some e := by
  induction l generalizing p fuel with
  | nil =>
    obtain ⟨fuel, rfl⟩ := Nat.exists_eq_add_of_lt hfuel
    obtain ⟨rfl, -, hget, hend⟩ := hs
    have hzero : next e.2 = 0 := hend
    simp [lastNode, hget, hzero]
  | cons x l ih =>
    obtain ⟨fuel, rfl⟩ := Nat.exists_eq_add_of_lt hfuel
    obtain ⟨rfl, -, hget, hrest⟩ := hs
    -- the next node is one of the list, so its address is not zero
    have hnext : next x.2 ≠ 0 := by
      intro hzero
      rw [hzero] at hrest
      have hend : Segment next h 0 [] 0 := rfl
      exact absurd (hrest.unique hend) (by simp)
    have hlt : l.length < (x :: l).length + fuel := by
      rw [List.length_cons]
      omega
    have hlast := ih hrest hlt
    simpa [lastNode, hget, hnext] using hlast

/-! ## A list that is all there is -/

/-- The list from `first` on, and no other node is allocated. -/
structure IsList (next : ν → ℕ) (h : Heap ν) (first : ℕ) (l : List (ℕ × ν)) : Prop where
  segment : Segment next h first l 0
  mem_iff : ∀ a, a ∈ h ↔ a ∈ l.map Prod.fst

namespace IsList

variable {first : ℕ} {n' : ν}

theorem nodup (hl : IsList next h first l) : (l.map Prod.fst).Nodup :=
  hl.segment.nodup

theorem keys_perm (hl : IsList next h first l) : h.keys.Perm (l.map Prod.fst) := by
  apply (List.perm_ext_iff_of_nodup h.keys_nodup hl.nodup).2
  intro a
  rw [← AList.mem_keys, hl.mem_iff]

theorem length_keys (hl : IsList next h first l) : h.keys.length = l.length := by
  rw [hl.keys_perm.length_eq, List.length_map]

theorem empty (next : ν → ℕ) : IsList next (∅ : Heap ν) 0 [] :=
  ⟨rfl, by simp⟩

theorem first_eq_zero (hl : IsList next h first l) : first = 0 ↔ l = [] := by
  cases l with
  | nil => exact ⟨fun _ => rfl, fun _ => hl.segment⟩
  | cons e l =>
    obtain ⟨rfl, hne, -, -⟩ := hl.segment
    exact ⟨fun h => absurd h hne, fun h => absurd h (List.cons_ne_nil e l)⟩

/-- A list with a node in the middle: the parts, and that the node is in none of them. -/
theorem middle (hl : IsList next h first (l₁ ++ e :: l₂)) :
    Segment next h first l₁ e.1 ∧ e.1 ≠ 0 ∧ h.lookup e.1 = some e.2 ∧
      Segment next h (next e.2) l₂ 0 ∧ e.1 ∉ l₁.map Prod.fst ∧ e.1 ∉ l₂.map Prod.fst := by
  obtain ⟨hseg, hne, hget, hrest⟩ := segment_middle.1 hl.segment
  have hnodup := hl.nodup
  rw [List.map_append, List.map_cons, List.nodup_append] at hnodup
  obtain ⟨-, htail, hdisjoint⟩ := hnodup
  refine ⟨hseg, hne, hget, hrest, fun hmem => ?_, (List.nodup_cons.1 htail).1⟩
  exact hdisjoint e.1 hmem e.1 List.mem_cons_self rfl

/-- The walk finds the last node. -/
theorem lastNode (hl : IsList next h first (l ++ [e])) :
    Heap.lastNode next h h.keys.length first = some e := by
  apply lastNode_of_segment hl.segment
  rw [hl.length_keys]
  simp

/-- A first node. -/
theorem singleton (hl : IsList next h first []) (ha : a ≠ 0) (hn : next n = 0) :
    IsList next (h.insert a n) a [(a, n)] := by
  refine ⟨⟨rfl, ha, AList.lookup_insert h, hn⟩, fun b => ?_⟩
  have hb := hl.mem_iff b
  simp only [List.map_nil, List.not_mem_nil, iff_false] at hb
  simp [AList.mem_insert, hb]

/-- A new node behind the last one, whose pointer is set. -/
theorem append (hl : IsList next h first (l ++ [e])) (ha : a ≠ 0) (hfree : a ∉ h)
    (hn : next n = 0) (hn' : next n' = a) :
    IsList next ((h.insert e.1 n').insert a n) first (l ++ [(e.1, n'), (a, n)]) := by
  obtain ⟨hseg, hne, -, -, hel, -⟩ := hl.middle
  have hout : a ∉ (l ++ [e]).map Prod.fst := fun hin => hfree ((hl.mem_iff a).2 hin)
  have hal : a ∉ l.map Prod.fst := by
    intro hin
    exact hout (by rw [List.map_append]; exact List.mem_append_left _ hin)
  have hea : e.1 ≠ a := by
    rintro rfl
    exact hout (by simp)
  refine ⟨segment_middle.2 ⟨?_, hne, ?_, ?_⟩, fun b => ?_⟩
  · exact (hseg.insert_of_notMem hel).insert_of_notMem hal
  · rw [AList.lookup_insert_ne hea, AList.lookup_insert]
  · exact ⟨hn', ha, AList.lookup_insert _, hn⟩
  · have hb := hl.mem_iff b
    simp only [AList.mem_insert, hb, List.map_append, List.map_cons, List.map_nil, List.mem_append,
      List.mem_cons, List.not_mem_nil]
    tauto

/-- The first node is taken off. -/
theorem tail (hl : IsList next h first (e :: l)) : IsList next (h.erase e.1) (next e.2) l := by
  have hl' : IsList next h first ([] ++ e :: l) := hl
  obtain ⟨-, -, -, hrest, -, hel⟩ := hl'.middle
  refine ⟨hrest.erase_of_notMem hel, fun b => ?_⟩
  rw [AList.mem_erase, hl.mem_iff, List.map_cons, List.mem_cons]
  constructor
  · rintro ⟨hne, hor⟩
    exact hor.resolve_left hne
  · intro hb
    refine ⟨?_, Or.inr hb⟩
    rintro rfl
    exact hel hb

/-- The node behind `e` is taken off, and `e` points behind it. -/
theorem removeNext (hl : IsList next h first (l₁ ++ e :: x :: l₂)) (hn' : next n' = next x.2) :
    IsList next ((h.insert e.1 n').erase x.1) first (l₁ ++ (e.1, n') :: l₂) := by
  obtain ⟨hseg, hne, -, -, hel₁, hel₂⟩ := hl.middle
  have hl' : IsList next h first ((l₁ ++ [e]) ++ x :: l₂) := by
    rwa [List.append_assoc]
  obtain ⟨-, -, -, hrest, hxl₁, hxl₂⟩ := hl'.middle
  simp only [List.map_append, List.map_cons, List.map_nil, List.mem_append, List.mem_singleton,
    not_or] at hxl₁
  simp only [List.map_cons, List.mem_cons, not_or] at hel₂
  refine ⟨segment_middle.2 ⟨?_, hne, ?_, ?_⟩, fun b => ?_⟩
  · exact (hseg.insert_of_notMem hel₁).erase_of_notMem hxl₁.1
  · rw [AList.lookup_erase_ne hel₂.1, AList.lookup_insert]
  · rw [hn']
    exact (hrest.insert_of_notMem hel₂.2).erase_of_notMem hxl₂
  · have hb := hl.mem_iff b
    simp only [AList.mem_erase, AList.mem_insert, hb, List.map_append, List.map_cons,
      List.mem_append, List.mem_cons]
    constructor
    · rintro ⟨hbx, hor⟩
      tauto
    · intro hor
      refine ⟨?_, by tauto⟩
      rintro rfl
      rcases hor with hor | heq | hor
      · exact hxl₁.1 hor
      · exact hxl₁.2 heq
      · exact hxl₂ hor

end IsList

/-- Writing one node and freeing another one, in either order. -/
theorem insert_erase_of_ne (h : Heap ν) {a b : ℕ} (hab : a ≠ b) (n : ν) :
    (h.erase b).insert a n = (h.insert a n).erase b := by
  apply AList.ext
  simp only [AList.entries_insert, AList.erase]
  rw [List.kerase_cons_ne (by exact hab.symm), List.kerase_comm]

end Heap

end Lib
