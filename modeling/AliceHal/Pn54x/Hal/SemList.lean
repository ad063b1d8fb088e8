import AliceHal.Lib.LinkedList
import AliceHal.Lib.Machine
import AliceHal.Pn54x.Status

/-!
# The List of Active Semaphores

`phNxpNciHal_utils.c` keeps the callback objects that somebody may wait for in a linked list, so that
closing the HAL can wake all of them. An object is added when it is initialised and removed when it is
cleaned up; releasing all takes the objects off the list one by one, marks them failed and posts their
semaphores.

- `SemList`: the list with the memory of its nodes, and its three operations
- `IsList.listAdd`, `IsList.listRemove`: what they do to the objects in the list
- `Exact`: the list holds the objects that are active
- `semList_exact`: it does after every run, and releasing all wakes exactly these
-/

namespace AliceHal.Pn54x.Hal

open Lib

/-- `struct listNode`. Pointers are addresses, zero is the null pointer. -/
structure ListNode where
  pData : ℕ
  pNext : ℕ
  deriving DecidableEq, Repr

/-- `struct listHead` with the memory of the nodes. -/
structure SemList where
  pFirst : ℕ
  nodes : Heap ListNode

namespace SemList

/-- `listInit`. -/
def listInit : SemList := ⟨0, ∅⟩

/-- `listAdd`, with the address that `malloc` returns. It is `none` where it uses memory that is not
allocated. -/
def listAdd (s : SemList) (pNode pData : ℕ) : Option (SemList × ℕ) :=
  if pNode = 0 then some (s, 0)
  else if s.pFirst = 0 then some (⟨pNode, s.nodes.insert pNode ⟨pData, 0⟩⟩, 1)
  else
    (Heap.lastNode ListNode.pNext s.nodes s.nodes.keys.length s.pFirst).map fun pLastNode =>
      let linked := s.nodes.insert pLastNode.1 { pLastNode.2 with pNext := pNode }
      (⟨s.pFirst, linked.insert pNode ⟨pData, 0⟩⟩, 1)

/-- The loop of `listRemove`: the first node whose next one holds the data, or the last node. -/
def seekBefore (nodes : Heap ListNode) (pData : ℕ) : ℕ → ℕ → Option (ℕ × ListNode)
  | 0, _ => none
  | fuel + 1, pNode =>
    (nodes.lookup pNode).bind fun node =>
      if node.pNext = 0 then some (pNode, node)
      else
        (nodes.lookup node.pNext).bind fun following =>
          if following.pData = pData then some (pNode, node)
          else seekBefore nodes pData fuel node.pNext

/-- `listRemove`. -/
def listRemove (s : SemList) (pData : ℕ) : Option (SemList × ℕ) :=
  if s.pFirst = 0 then some (s, 0)
  else
    (s.nodes.lookup s.pFirst).bind fun first =>
      if first.pData = pData then some (⟨first.pNext, s.nodes.erase s.pFirst⟩, 1)
      else
        (seekBefore s.nodes pData s.nodes.keys.length s.pFirst).bind fun pNode =>
          if pNode.2.pNext = 0 then some (s, 0)
          else
            (s.nodes.lookup pNode.2.pNext).map fun removed =>
              let unlinked := s.nodes.insert pNode.1 { pNode.2 with pNext := removed.pNext }
              (⟨s.pFirst, unlinked.erase pNode.2.pNext⟩, 1)

/-- `listGetAndRemoveNext`: the data of the first node, `none` where it returns 0. -/
def listGetAndRemoveNext (s : SemList) : Option (SemList × Option ℕ) :=
  if s.pFirst = 0 then some (s, none)
  else
    (s.nodes.lookup s.pFirst).map fun pNode =>
      (⟨pNode.pNext, s.nodes.erase s.pFirst⟩, some pNode.pData)

end SemList

/-! ## Callback objects -/

/-- `phNxpNciHal_Sem_t`: how often its semaphore was posted since it was initialised, the status, and
the context. -/
structure Sem where
  posted : ℕ
  status : NFCSTATUS
  pContext : ℕ
  deriving DecidableEq, Repr

/-- An object is marked as failed, and its semaphore is posted. -/
def Sem.release (sem : Sem) : Sem := { sem with status := .failed, posted := sem.posted + 1 }

/-- The list of the monitor, and the callback objects by their addresses. -/
structure SemState where
  semList : SemList
  sems : ℕ → Sem

namespace SemState

/-- `phNxpNciHal_init_cb_data`, with what `sem_init` and `malloc` return. -/
def initCbData (s : SemState) (pCallbackData pContext : ℕ) (created : Bool) (pNode : ℕ) :
    Option (SemState × NFCSTATUS) :=
  if created then
    -- a failed `listAdd` is only logged
    (s.semList.listAdd pNode pCallbackData).map fun r =>
      (⟨r.1, Function.update s.sems pCallbackData ⟨0, .failed, pContext⟩⟩, .success)
  else some (s, .failed)

/-- `phNxpNciHal_cleanup_cb_data`. -/
def cleanupCbData (s : SemState) (pCallbackData : ℕ) : Option SemState :=
  (s.semList.listRemove pCallbackData).map fun r => { s with semList := r.1 }

/-- The loop of `phNxpNciHal_releaseall_cb_data`. -/
def releaseLoop : ℕ → SemState → Option SemState
  | 0, _ => none
  | fuel + 1, s =>
    s.semList.listGetAndRemoveNext.bind fun r =>
      match r.2 with
      | none => some { s with semList := r.1 }
      | some pCallbackData =>
        releaseLoop fuel
          ⟨r.1, Function.update s.sems pCallbackData (s.sems pCallbackData).release⟩

/-- `phNxpNciHal_releaseall_cb_data`. It takes a node off the list each time, so it ends after as many
rounds as there are nodes, or not at all. -/
def releaseallCbData (s : SemState) : Option SemState :=
  releaseLoop (s.semList.nodes.keys.length + 1) s

end SemState

/-- The calls, with what `sem_init` and `malloc` return. -/
inductive SemCall where
  | init (pCallbackData pContext : ℕ) (created : Bool) (pNode : ℕ)
  | cleanup (pCallbackData : ℕ)
  | releaseall
  /-- a callback sets the status of an object and posts its semaphore -/
  | complete (pCallbackData : ℕ) (status : NFCSTATUS)
  deriving DecidableEq

namespace SemState

/-- After `phNxpNciHal_init_monitor`. -/
def initMonitor (sems : ℕ → Sem) : SemState := ⟨.listInit, sems⟩

/-- One call. Allocation succeeds, with an address that is not in use. -/
def step (s : SemState) : SemCall → Option (SemState × NFCSTATUS)
  | .init pCallbackData pContext created pNode =>
    if pNode = 0 ∨ pNode ∈ s.semList.nodes then none
    else s.initCbData pCallbackData pContext created pNode
  | .cleanup pCallbackData => (s.cleanupCbData pCallbackData).map fun s' => (s', .success)
  | .releaseall => s.releaseallCbData.map fun s' => (s', .success)
  | .complete pCallbackData status =>
    let sem := s.sems pCallbackData
    let completed := { sem with status := status, posted := sem.posted + 1 }
    some ({ s with sems := Function.update s.sems pCallbackData completed }, .success)

end SemState

/-! ## What the list holds -/

/-- The data of the nodes. -/
def datas (l : List (ℕ × ListNode)) : List ℕ := l.map fun e => e.2.pData

theorem datas_cons (e : ℕ × ListNode) (l : List (ℕ × ListNode)) :
    datas (e :: l) = e.2.pData :: datas l :=
  rfl

namespace SemList

/-- The list holds these objects in this order, and there are no other nodes. -/
def Holds (s : SemList) (os : List ℕ) : Prop :=
  ∃ l, s.nodes.IsList ListNode.pNext s.pFirst l ∧ datas l = os

variable {s : SemList} {os : List ℕ} {o pNode : ℕ}

theorem holds_listInit : Holds listInit [] :=
  ⟨[], Heap.IsList.empty ListNode.pNext, rfl⟩

/-- An added object is the last one. -/
theorem Holds.listAdd (h : s.Holds os) (hnew : pNode ≠ 0) (hfree : pNode ∉ s.nodes) (o : ℕ) :
    ∃ s', s.listAdd pNode o = some (s', 1) ∧ s'.Holds (os ++ [o]) := by
  obtain ⟨l, hlist, rfl⟩ := h
  unfold SemList.listAdd
  rw [if_neg hnew]
  rcases List.eq_nil_or_concat' l with rfl | ⟨l, e, rfl⟩
  · rw [if_pos (hlist.first_eq_zero.2 rfl)]
    exact ⟨_, rfl, [(pNode, ⟨o, 0⟩)], hlist.singleton hnew rfl, rfl⟩
  · have hfirst : s.pFirst ≠ 0 := by
      intro hzero
      exact absurd (hlist.first_eq_zero.1 hzero) (by simp)
    rw [if_neg hfirst, hlist.lastNode]
    refine ⟨_, rfl, _, hlist.append hnew hfree rfl rfl, ?_⟩
    simp [datas]

/-- The nodes up to one of them begin with the first. -/
theorem concat_eq_cons {e y : ℕ × ListNode} {l l₁ r : List (ℕ × ListNode)}
    (h : e :: l = l₁ ++ y :: r) : l₁ ++ [y] = e :: (l₁ ++ [y]).tail := by
  cases l₁ with
  | nil =>
    obtain ⟨rfl, -⟩ := List.cons.inj h
    rfl
  | cons z l₁ =>
    obtain ⟨rfl, -⟩ := List.cons.inj h
    rfl

/-- From a node on, the loop stops before the first of the following nodes with the data, or at the last
node. -/
theorem seekBefore_of_segment {nodes : Heap ListNode} {p fuel : ℕ} {e : ℕ × ListNode}
    {l : List (ℕ × ListNode)} (hs : Heap.Segment ListNode.pNext nodes p (e :: l) 0)
    (hfuel : l.length < fuel) :
    ∃ y, seekBefore nodes o fuel p = some y ∧
      ((o ∉ datas l ∧ y.2.pNext = 0) ∨
        ∃ l₁ x l₂, e :: l = l₁ ++ y :: x :: l₂ ∧ x.2.pData = o ∧ o ∉ datas (l₁ ++ [y]).tail) := by
  induction l generalizing p e fuel with
  | nil =>
    obtain ⟨fuel, rfl⟩ := Nat.exists_eq_add_of_lt hfuel
    obtain ⟨rfl, -, hget, hend⟩ := hs
    have hzero : e.2.pNext = 0 := hend
    refine ⟨e, ?_, .inl ⟨List.not_mem_nil, hzero⟩⟩
    simp [seekBefore, hget, hzero]
  | cons x l ih =>
    obtain ⟨fuel, rfl⟩ := Nat.exists_eq_add_of_lt hfuel
    obtain ⟨rfl, -, hget, hrest⟩ := hs
    have hfollowing := hrest
    obtain ⟨hx, hne, hgetx, -⟩ := hfollowing
    have hnext : e.2.pNext ≠ 0 := by
      rw [hx]
      exact hne
    have hstep : seekBefore nodes o ((x :: l).length + fuel + 1) e.1 =
        if x.2.pData = o then some e
        else seekBefore nodes o ((x :: l).length + fuel) x.1 := by
      rw [seekBefore, hget, Option.bind_some, if_neg hnext, hx, hgetx, Option.bind_some]
    by_cases hdata : x.2.pData = o
    · -- the next node is the first with the data
      rw [if_pos hdata] at hstep
      exact ⟨e, hstep, .inr ⟨[], x, l, rfl, hdata, List.not_mem_nil⟩⟩
    · rw [if_neg hdata] at hstep
      rw [hx] at hrest
      have hlt : l.length < (x :: l).length + fuel := by
        rw [List.length_cons]
        omega
      obtain ⟨y, hy, hfound⟩ := ih hrest hlt
      refine ⟨y, hstep.trans hy, ?_⟩
      rcases hfound with ⟨hnot, hzero⟩ | ⟨l₁, x', l₂, heq, hx', hnot⟩
      · left
        rw [datas_cons, List.mem_cons, not_or]
        exact ⟨⟨Ne.symm hdata, hnot⟩, hzero⟩
      · right
        refine ⟨e :: l₁, x', l₂, by rw [heq, List.cons_append], hx', ?_⟩
        -- the node looked at is the first of those before the one found
        rw [List.cons_append, List.tail_cons, concat_eq_cons heq, datas_cons, List.mem_cons, not_or]
        exact ⟨Ne.symm hdata, hnot⟩

/-- Removing takes the first node with the data off the list, and does nothing where there is none. -/
theorem Holds.listRemove (h : s.Holds os) (o : ℕ) :
    (o ∉ os → s.listRemove o = some (s, 0)) ∧
      (o ∈ os → ∃ s', s.listRemove o = some (s', 1) ∧ s'.Holds (os.erase o)) := by
  obtain ⟨l, hlist, rfl⟩ := h
  cases l with
  | nil =>
    refine ⟨fun _ => ?_, fun hmem => absurd hmem List.not_mem_nil⟩
    rw [SemList.listRemove, if_pos (hlist.first_eq_zero.2 rfl)]
  | cons e l =>
    have hseg := hlist.segment
    obtain ⟨hfirst, hne, hget, -⟩ := hseg
    have hremove : s.listRemove o =
        if e.2.pData = o then some (⟨e.2.pNext, s.nodes.erase e.1⟩, 1)
        else
          (seekBefore s.nodes o s.nodes.keys.length e.1).bind fun pNode =>
            if pNode.2.pNext = 0 then some (s, 0)
            else
              (s.nodes.lookup pNode.2.pNext).map fun removed =>
                let unlinked := s.nodes.insert pNode.1 { pNode.2 with pNext := removed.pNext }
                (⟨s.pFirst, unlinked.erase pNode.2.pNext⟩, 1) := by
      rw [SemList.listRemove, hfirst, if_neg hne, hget, Option.bind_some]
    rw [hremove]
    by_cases hdata : e.2.pData = o
    · rw [if_pos hdata, datas_cons, hdata]
      refine ⟨fun hnot => absurd List.mem_cons_self hnot, fun _ => ⟨_, rfl, l, hlist.tail, ?_⟩⟩
      rw [List.erase_cons_head]
    · rw [if_neg hdata]
      have hfuel : l.length < s.nodes.keys.length := by
        rw [hlist.length_keys]
        simp
      rw [hfirst] at hlist
      obtain ⟨y, hy, hfound⟩ := seekBefore_of_segment (o := o) hlist.segment hfuel
      rw [hy, Option.bind_some]
      rcases hfound with ⟨hnot, hzero⟩ | ⟨l₁, x, l₂, heq, hx, hnot⟩
      · rw [if_pos hzero]
        have habsent : o ∉ datas (e :: l) := by
          rw [datas_cons, List.mem_cons, not_or]
          exact ⟨Ne.symm hdata, hnot⟩
        exact ⟨fun _ => rfl, fun hmem => absurd hmem habsent⟩
      · -- the nodes before the one removed do not hold the data
        rw [heq] at hlist
        obtain ⟨-, -, -, hrest, -, -⟩ := hlist.middle
        obtain ⟨hnext, hxne, hgetx, -⟩ := hrest
        have hbefore : o ∉ datas (l₁ ++ [y]) := by
          rw [concat_eq_cons heq, datas_cons, List.mem_cons, not_or]
          exact ⟨Ne.symm hdata, hnot⟩
        rw [hnext, if_neg hxne, hgetx, Option.map_some]
        constructor
        · intro habsent
          exact absurd (by rw [heq]; simp [datas, hx]) habsent
        · intro _
          have hkept : ListNode.pNext { y.2 with pNext := x.2.pNext } = ListNode.pNext x.2 := rfl
          have hlist' := hlist.removeNext hkept
          rw [← hfirst] at hlist'
          refine ⟨_, rfl, _, hlist', ?_⟩
          have hsplit : datas (l₁ ++ y :: x :: l₂) = datas (l₁ ++ [y]) ++ o :: datas l₂ := by
              simp [datas, hx]
          rw [heq, hsplit, List.erase_append_right _ hbefore, List.erase_cons_head]
          simp [datas]

/-- The first object is taken off the list. -/
theorem Holds.getAndRemoveNext (h : s.Holds (o :: os)) :
    ∃ s', s.listGetAndRemoveNext = some (s', some o) ∧ s'.Holds os := by
  obtain ⟨l, hlist, hdatas⟩ := h
  cases l with
  | nil => cases hdatas
  | cons e l =>
    rw [datas_cons] at hdatas
    obtain ⟨rfl, rfl⟩ := List.cons.inj hdatas
    obtain ⟨hfirst, hne, hget, -⟩ := hlist.segment
    unfold listGetAndRemoveNext
    rw [hfirst, if_neg hne, hget]
    exact ⟨_, rfl, l, hlist.tail, rfl⟩

theorem Holds.pFirst_eq_zero (h : s.Holds []) : s.pFirst = 0 := by
  obtain ⟨l, hlist, hdatas⟩ := h
  exact hlist.first_eq_zero.2 (List.map_eq_nil_iff.1 hdatas)

end SemList

/-! ## Runs -/

/-- The objects that are active after these calls, in the order in which they were initialised. -/
def active (es : List (SemCall × NFCSTATUS)) : List ℕ :=
  es.foldl (fun os e =>
    match e.1 with
    | .init pCallbackData _ created _ => if created then os ++ [pCallbackData] else os
    | .cleanup pCallbackData => os.erase pCallbackData
    | .releaseall => []
    | .complete _ _ => os) []

/-- No object is initialised while it is active. -/
def Distinct (es : List (SemCall × NFCSTATUS)) : Prop :=
  ∀ es₁ pCallbackData pContext pNode o es₂,
    es = es₁ ++ (.init pCallbackData pContext true pNode, o) :: es₂ → pCallbackData ∉ active es₁

namespace SemState

variable {s s' : SemState} {i : SemCall} {status : NFCSTATUS} {es : List (SemCall × NFCSTATUS)}
  {os : List ℕ}

/-- Releasing all ends, leaves the list empty, and wakes exactly these objects: the status of each is
`NFCSTATUS_FAILED` and its semaphore is posted once more; the other objects are as they were. -/
def Releases (s : SemState) (os : List ℕ) : Prop :=
  ∃ s', s.releaseallCbData = some s' ∧ s'.semList.Holds [] ∧
    (∀ o ∈ os, (s'.sems o).status = .failed ∧ (s'.sems o).posted = (s.sems o).posted + 1 ∧
      (s'.sems o).pContext = (s.sems o).pContext) ∧
    ∀ o ∉ os, s'.sems o = s.sems o

/-- The list holds the active objects, without duplicates; an object that is not in it is not removed;
and releasing all wakes the objects in it. -/
structure Exact (s : SemState) (os : List ℕ) : Prop where
  holds : s.semList.Holds os
  nodup : os.Nodup
  absent : ∀ o ∉ os, s.semList.listRemove o = some (s.semList, 0)
  releases : s.Releases os

theorem releaseLoop_of_holds {fuel : ℕ} (h : s.semList.Holds os) (hnodup : os.Nodup)
    (hfuel : os.length < fuel) :
    ∃ s', releaseLoop fuel s = some s' ∧ s'.semList.Holds [] ∧
      ∀ o, s'.sems o = if o ∈ os then (s.sems o).release else s.sems o := by
  induction os generalizing s fuel with
  | nil =>
    obtain ⟨fuel, rfl⟩ := Nat.exists_eq_add_of_lt hfuel
    refine ⟨s, ?_, h, fun o => ?_⟩
    · simp [releaseLoop, SemList.listGetAndRemoveNext, h.pFirst_eq_zero]
    · simp
  | cons x os ih =>
    obtain ⟨fuel, rfl⟩ := Nat.exists_eq_add_of_lt hfuel
    obtain ⟨hx, hnodup⟩ := List.nodup_cons.1 hnodup
    obtain ⟨sl, hnext, hholds⟩ := h.getAndRemoveNext
    have hlt : os.length < (x :: os).length + fuel := by
      rw [List.length_cons]
      omega
    obtain ⟨s', hloop, hempty, hsems⟩ :=
      ih (s := ⟨sl, Function.update s.sems x (s.sems x).release⟩) hholds hnodup hlt
    refine ⟨s', ?_, hempty, fun o => ?_⟩
    · rw [releaseLoop, hnext, Option.bind_some]
      exact hloop
    · rw [hsems]
      by_cases hox : o = x
      · -- the first object is not met again
        subst hox
        simp [hx]
      · simp [hox]

theorem SemList.Holds.releases (h : s.semList.Holds os) (hnodup : os.Nodup) : s.Releases os := by
  have hlength : s.semList.nodes.keys.length = os.length := by
    obtain ⟨l, hlist, rfl⟩ := h
    rw [hlist.length_keys, datas, List.length_map]
  have hfuel : os.length < s.semList.nodes.keys.length + 1 := by
    rw [hlength]
    omega
  obtain ⟨s', hloop, hempty, hsems⟩ := releaseLoop_of_holds h hnodup hfuel
  refine ⟨s', hloop, hempty, fun o ho => ?_, fun o ho => ?_⟩
  · rw [hsems, if_pos ho]
    exact ⟨rfl, rfl, rfl⟩
  · rw [hsems, if_neg ho]

theorem exact_of_holds (h : s.semList.Holds os) (hnodup : os.Nodup) : Exact s os where
  holds := h
  nodup := hnodup
  absent := fun o => (h.listRemove o).1
  releases := SemList.Holds.releases h hnodup

/-- Every call returns, where allocation succeeds with an address that is not in use. -/
def Proceeds (s : SemState) : Prop :=
  ∀ i, (∀ o c created pNode, i = .init o c created pNode → pNode ≠ 0 ∧ pNode ∉ s.semList.nodes) →
    (s.step i).isSome

theorem active_concat (es : List (SemCall × NFCSTATUS)) (i : SemCall) (status : NFCSTATUS) :
    active (es ++ [(i, status)]) =
      match i with
      | .init pCallbackData _ created _ => if created then active es ++ [pCallbackData] else active es
      | .cleanup pCallbackData => (active es).erase pCallbackData
      | .releaseall => []
      | .complete _ _ => active es := by
  simp [active]

theorem SemList.Holds.proceeds (h : s.semList.Holds os) (hnodup : os.Nodup) : s.Proceeds := by
  intro i hfresh
  cases i with
  | init o c created pNode =>
    obtain ⟨hnew, hfree⟩ := hfresh o c created pNode rfl
    obtain ⟨sl, hadd, -⟩ := h.listAdd hnew hfree o
    cases created <;> simp [SemState.step, initCbData, hnew, hfree, hadd]
  | cleanup o =>
    by_cases ho : o ∈ os
    · obtain ⟨sl, hremove, -⟩ := (h.listRemove o).2 ho
      simp [SemState.step, cleanupCbData, hremove]
    · simp [SemState.step, cleanupCbData, (h.listRemove o).1 ho]
  | releaseall =>
    obtain ⟨s', hrelease, -⟩ := SemList.Holds.releases h hnodup
    simp [SemState.step, hrelease]
  | complete o status => rfl

/-- Every call keeps the list as it should be. -/
theorem holds_step (h : s.semList.Holds (active es)) (hnodup : (active es).Nodup)
    (hdistinct : ∀ o c pNode, i = .init o c true pNode → o ∉ active es)
    (hstep : s.step i = some (s', status)) :
    s'.semList.Holds (active (es ++ [(i, status)])) ∧ (active (es ++ [(i, status)])).Nodup := by
  rw [active_concat]
  cases i with
  | init o c created pNode =>
    simp only [SemState.step] at hstep
    split at hstep
    · cases hstep
    · rename_i hfresh
      obtain ⟨hnew, hfree⟩ := not_or.1 hfresh
      cases created with
      | false =>
        simp only [initCbData, Bool.false_eq_true, if_false] at hstep
        cases hstep
        exact ⟨h, hnodup⟩
      | true =>
        obtain ⟨sl, hadd, hholds⟩ := h.listAdd hnew hfree o
        simp only [initCbData, if_true, hadd, Option.map_some] at hstep
        cases hstep
        have hnew' : (active es ++ [o]).Nodup := by
          rw [← List.concat_eq_append]
          exact hnodup.concat (hdistinct o c pNode rfl)
        exact ⟨hholds, hnew'⟩
  | cleanup o =>
    simp only [SemState.step] at hstep
    by_cases ho : o ∈ active es
    · obtain ⟨sl, hremove, hholds⟩ := (h.listRemove o).2 ho
      simp only [cleanupCbData, hremove, Option.map_some] at hstep
      cases hstep
      exact ⟨hholds, hnodup.erase o⟩
    · simp only [cleanupCbData, (h.listRemove o).1 ho, Option.map_some] at hstep
      cases hstep
      dsimp only
      rw [List.erase_of_not_mem ho]
      exact ⟨h, hnodup⟩
  | releaseall =>
    obtain ⟨s₁, hrelease, hempty, -⟩ := SemList.Holds.releases h hnodup
    simp only [SemState.step, hrelease, Option.map_some] at hstep
    cases hstep
    exact ⟨hempty, List.nodup_nil⟩
  | complete o status =>
    cases hstep
    exact ⟨h, hnodup⟩

theorem distinct_concat : Distinct (es ++ [(i, status)]) ↔
    Distinct es ∧ ∀ o c pNode, i = .init o c true pNode → o ∉ active es := by
  constructor
  · intro h
    refine ⟨fun es₁ o c pNode status' es₂ hes => ?_, ?_⟩
    · apply h es₁ o c pNode status' (es₂ ++ [(i, status)])
      rw [hes, List.append_assoc, List.cons_append]
    · rintro o c pNode rfl
      exact h es o c pNode status [] rfl
  · rintro ⟨hes, hi⟩ es₁ o c pNode status' es₂ heq
    rcases List.eq_nil_or_concat' es₂ with rfl | ⟨es₂, e, rfl⟩
    · obtain ⟨rfl, hlast⟩ := List.append_inj' heq rfl
      cases hlast
      exact hi o c pNode rfl
    · rw [← List.cons_append, ← List.append_assoc] at heq
      obtain ⟨heq, -⟩ := List.append_inj' heq rfl
      exact hes es₁ o c pNode status' es₂ heq

theorem holds_of_run {sems : ℕ → Sem} (hrun : Run step (initMonitor sems) es s)
    (hdistinct : Distinct es) : s.semList.Holds (active es) ∧ (active es).Nodup := by
  induction hrun with
  | nil => exact ⟨SemList.holds_listInit, List.nodup_nil⟩
  | snoc _ hs ih =>
    obtain ⟨hearlier, hlast⟩ := distinct_concat.1 hdistinct
    obtain ⟨hholds, hnodup⟩ := ih hearlier
    exact holds_step hholds hnodup hlast hs

/-- After every run in which no active object is initialised again, the list holds exactly the active
objects; an absent object is not removed; releasing all wakes exactly the active ones; and every further
call returns. -/
theorem semList_exact {sems : ℕ → Sem} (hrun : Run step (initMonitor sems) es s)
    (hdistinct : Distinct es) : s.Exact (active es) ∧ s.Proceeds := by
  obtain ⟨hholds, hnodup⟩ := holds_of_run hrun hdistinct
  exact ⟨exact_of_holds hholds hnodup, SemList.Holds.proceeds hholds hnodup⟩

/-- Three objects are initialised, and the second one is cleaned up. -/
def threeObjects : List SemCall :=
  [.init 100 0 true 16, .init 200 0 true 48, .init 300 0 true 80, .cleanup 200]

/-- Nothing was posted. -/
def noSems : ℕ → Sem := fun _ => ⟨0, .success, 0⟩

theorem threeObjects_exact : ∃ es s,
    exec step (initMonitor noSems) threeObjects = some (es, s) ∧ active es = [100, 300] ∧
      s.Exact (active es) ∧ s.Proceeds := by
  have hexec : ∃ st₁ st₂ st₃ st₄ s, exec step (initMonitor noSems) threeObjects =
      some ([(.init 100 0 true 16, st₁), (.init 200 0 true 48, st₂), (.init 300 0 true 80, st₃),
        (.cleanup 200, st₄)], s) := ⟨_, _, _, _, _, rfl⟩
  obtain ⟨st₁, st₂, st₃, st₄, s, hexec⟩ := hexec
  refine ⟨_, s, hexec, rfl, semList_exact (run_of_exec hexec) ?_⟩
  have hnil : Distinct [] := by
    intro es₁ o c pNode status es₂ hes
    exact absurd hes (by simp)
  show Distinct (((([] ++ [_]) ++ [_]) ++ [_]) ++ [_])
  refine distinct_concat.2 ⟨distinct_concat.2 ⟨distinct_concat.2 ⟨distinct_concat.2 ⟨hnil, ?_⟩, ?_⟩,
    ?_⟩, nofun⟩ <;>
  · intro o c pNode hcall
    cases hcall
    simp [active]

end SemState

end AliceHal.Pn54x.Hal
