import AliceHal.Lib.LinkedList
import AliceHal.Pn54x.Tml.MessageQueue

/-!
# The Links of the Message Queue

The items of the queue of `phDal4Nfc_messageQueueLib.c` in memory: `phDal4Nfc_msgsnd` links a new item
behind the last one in both directions, `phDal4Nfc_msgrcv` frees the first item, and
`phDal4Nfc_msgctl` goes to the last item and frees them all on the way back.

- `LinkedQueue`: the queue with the memory of its items
- `QueueShape`: the list from `pItems` on, with the back links behind the first item
- `QueueShape.msgsnd`, `QueueShape.msgrcv`: the calls do to the messages what they should
- `allLinked_iff`: the first item has no back link, and the queue can be destroyed, exactly while
  every receive finds at most one message
-/

namespace AliceHal.Pn54x.Tml

open Lib

/-- `phDal4Nfc_message_queue_item`. -/
structure QueueItem (α : Type*) where
  nMsg : α
  pPrev : ℕ
  pNext : ℕ
  deriving DecidableEq, Repr

/-- `phDal4Nfc_message_queue` with the memory of its items. -/
structure LinkedQueue (α : Type*) where
  pItems : ℕ
  nProcessSemaphore : ℕ
  items : Heap (QueueItem α)

/-- The calls. A send comes with the address that `malloc` returns. -/
inductive LinkedCall (α : Type*) where
  | send (pNew : ℕ) (msg : α)
  | receive
  deriving DecidableEq

/-- What a call returns, and the message copied to the caller. -/
structure LinkedAnswer (α : Type*) where
  returned : ℤ
  msg : Option α
  deriving DecidableEq

/-- The message that a call puts in the queue. -/
def LinkedCall.sent? {α : Type*} : LinkedCall α → Option α
  | .send pNew msg => if pNew = 0 then none else some msg
  | .receive => none

namespace LinkedQueue

variable {α : Type*}

/-- After `phDal4Nfc_msgget`. -/
def msgget : LinkedQueue α := ⟨0, 0, ∅⟩

/-- The walk to the last item. It passes every item once, or does not end. -/
def lastItem (q : LinkedQueue α) : Option (ℕ × QueueItem α) :=
  Heap.lastNode QueueItem.pNext q.items q.items.keys.length q.pItems

/-- `phDal4Nfc_msgsnd`. It is `none` where it uses memory that is not allocated. -/
def msgsnd (q : LinkedQueue α) (pNew : ℕ) (msg : α) : Option (LinkedQueue α × LinkedAnswer α) :=
  if pNew = 0 then some (q, ⟨-1, none⟩)
  else if q.pItems = 0 then
    some (⟨pNew, q.nProcessSemaphore + 1, q.items.insert pNew ⟨msg, 0, 0⟩⟩, ⟨0, none⟩)
  else
    q.lastItem.map fun p =>
      let linked := q.items.insert p.1 { p.2 with pNext := pNew }
      (⟨q.pItems, q.nProcessSemaphore + 1, linked.insert pNew ⟨msg, p.1, 0⟩⟩, ⟨0, none⟩)

/-- `phDal4Nfc_msgrcv` once the semaphore was waited for. The item that is the first one afterwards is
not written. -/
def msgrcv (q : LinkedQueue α) : Option (LinkedQueue α × LinkedAnswer α) :=
  if q.pItems = 0 then
    some ({ q with nProcessSemaphore := q.nProcessSemaphore - 1 }, ⟨0, none⟩)
  else
    (q.items.lookup q.pItems).map fun first =>
      (⟨first.pNext, q.nProcessSemaphore - 1, q.items.erase q.pItems⟩, ⟨0, some first.nMsg⟩)

/-- The calls one after the other. `malloc` returns an address that is not in use, and a receive waits
for the semaphore. -/
def step (q : LinkedQueue α) : LinkedCall α → Option (LinkedQueue α × LinkedAnswer α)
  | .send pNew msg => if pNew ∈ q.items then none else q.msgsnd pNew msg
  | .receive => if q.nProcessSemaphore = 0 then none else q.msgrcv

/-! ## Destroying the queue -/

/-- `free`, which takes the null pointer, and no address that is not allocated. The addresses freed are
kept. -/
def free (m : Heap (QueueItem α) × List ℕ) (p : ℕ) : Option (Heap (QueueItem α) × List ℕ) :=
  if p = 0 then some m
  else if p ∈ m.1 then some (m.1.erase p, m.2 ++ [p])
  else none

/-- The way back from the item `p`: the item before it frees what it points to, and forgets it. -/
def freeBack : ℕ → Heap (QueueItem α) × List ℕ → ℕ → Option (Heap (QueueItem α) × List ℕ)
  | 0, _, _ => none
  | fuel + 1, m, p =>
    (m.1.lookup p).bind fun item =>
      if item.pPrev = 0 then free m p
      else
        (m.1.lookup item.pPrev).bind fun prev =>
          (free m prev.pNext).bind fun m' =>
            (m'.1.lookup item.pPrev).bind fun prev' =>
              freeBack fuel (m'.1.insert item.pPrev { prev' with pNext := 0 }, m'.2) item.pPrev

/-- `phDal4Nfc_msgctl`: the memory left, and the items freed. It is `none` where it uses memory that is
not allocated, or does not return. -/
def msgctl (q : LinkedQueue α) : Option (Heap (QueueItem α) × List ℕ) :=
  if q.pItems = 0 then some (q.items, [])
  else q.lastItem.bind fun p => freeBack q.items.keys.length (q.items, []) p.1

/-! ## The links -/

/-- The first item has no back link, and the next item of each item links back to it. -/
structure Linked (q : LinkedQueue α) : Prop where
  head : ∀ item, q.items.lookup q.pItems = some item → item.pPrev = 0
  back : ∀ p item, q.items.lookup p = some item → item.pNext ≠ 0 →
    ∃ item', q.items.lookup item.pNext = some item' ∧ item'.pPrev = p

/-- Destroying the queue frees every item once, and uses no item that is freed. -/
def Destroyable (q : LinkedQueue α) : Prop :=
  ∃ items freed, q.msgctl = some (items, freed) ∧ freed.Perm q.items.keys ∧ freed.Nodup ∧
    items.keys = []

/-- Where the items are, and where they link back to. -/
def backLinks (l : List (ℕ × QueueItem α)) : List (ℕ × ℕ) := l.map fun e => (e.1, e.2.pPrev)

/-- The items from `pItems` on are all there are, the semaphore counts them, and all but the first one
link back. -/
structure QueueShape (q : LinkedQueue α) (l : List (ℕ × QueueItem α)) : Prop where
  list : q.items.IsList QueueItem.pNext q.pItems l
  back : (backLinks l).IsChain fun x y => y.2 = x.1
  count : q.nProcessSemaphore = l.length

/-- The messages of the items. -/
def messages (l : List (ℕ × QueueItem α)) : List α := l.map fun e => e.2.nMsg

variable {q q' : LinkedQueue α} {l : List (ℕ × QueueItem α)} {e : ℕ × QueueItem α} {pNew : ℕ}
  {msg : α}

theorem queueShape_msgget : QueueShape (msgget : LinkedQueue α) [] :=
  ⟨Heap.IsList.empty QueueItem.pNext, .nil, rfl⟩

/-- The first item does not link back. -/
def HeadFree (l : List (ℕ × QueueItem α)) : Prop := ∀ b ∈ (backLinks l).head?, b.2 = 0

theorem backLinks_append (l₁ l₂ : List (ℕ × QueueItem α)) :
    backLinks (l₁ ++ l₂) = backLinks l₁ ++ backLinks l₂ :=
  List.map_append

/-! ## Sends and receives -/

/-- A send puts its message behind the others, and leaves the back links there are. -/
theorem QueueShape.msgsnd (h : QueueShape q l) (hnew : pNew ≠ 0) (hfree : pNew ∉ q.items) (msg : α) :
    ∃ q' l', q.msgsnd pNew msg = some (q', ⟨0, none⟩) ∧ QueueShape q' l' ∧
      messages l' = QueueState.append msg (messages l) ∧ (HeadFree l → HeadFree l') := by
  obtain ⟨hlist, hback, hcount⟩ := h
  unfold LinkedQueue.msgsnd
  rw [if_neg hnew]
  rcases List.eq_nil_or_concat' l with rfl | ⟨l, e, rfl⟩
  · have hfirst : q.pItems = 0 := hlist.first_eq_zero.2 rfl
    rw [if_pos hfirst]
    refine ⟨_, [(pNew, ⟨msg, 0, 0⟩)], rfl, ⟨hlist.singleton hnew rfl, ?_, ?_⟩, rfl, ?_⟩
    · exact .singleton _
    · simp [hcount]
    · intro _ b hb
      cases hb
      rfl
  · have hfirst : q.pItems ≠ 0 := by
      intro hzero
      exact absurd (hlist.first_eq_zero.1 hzero) (by simp)
    rw [if_neg hfirst, lastItem, hlist.lastNode]
    -- only the forward link of the last item is written
    have hlinks : backLinks (l ++ [(e.1, { e.2 with pNext := pNew }), (pNew, ⟨msg, e.1, 0⟩)]) =
        backLinks (l ++ [e]) ++ [(pNew, e.1)] := by
      simp [backLinks]
    refine ⟨_, _, rfl, ⟨hlist.append hnew hfree rfl rfl, ?_, ?_⟩, ?_, ?_⟩
    · rw [hlinks]
      rw [backLinks_append] at hback ⊢
      rw [List.append_assoc]
      exact List.isChain_append_cons_cons.2 ⟨hback, rfl, .singleton _⟩
    · simp [hcount]
    · simp [messages, append_eq]
    · intro hhead b hb
      rw [hlinks] at hb
      apply hhead b
      cases l <;> simpa [backLinks] using hb

/-- A receive takes the first message. -/
theorem QueueShape.msgrcv (h : QueueShape q (e :: l)) :
    ∃ q', q.msgrcv = some (q', ⟨0, some e.2.nMsg⟩) ∧ QueueShape q' l := by
  obtain ⟨hlist, hback, hcount⟩ := h
  obtain ⟨hfirst, hne, hget, -⟩ := hlist.segment
  unfold LinkedQueue.msgrcv
  rw [hfirst, if_neg hne, hget]
  refine ⟨_, rfl, hlist.tail, ?_, ?_⟩
  · exact hback.tail
  · simp [hcount]

/-! ## When the links are right -/

theorem QueueShape.mem_of_lookup (h : QueueShape q l) {p : ℕ} {item : QueueItem α}
    (hget : q.items.lookup p = some item) : (p, item) ∈ l := by
  have hmem : p ∈ q.items := AList.lookup_isSome.1 (by rw [hget]; rfl)
  obtain ⟨x, hx, rfl⟩ := List.mem_map.1 ((h.list.mem_iff p).1 hmem)
  obtain ⟨-, hget'⟩ := h.list.segment.mem hx
  obtain rfl := Option.some.inj (hget.symm.trans hget')
  exact hx

/-- The links are right exactly when the first item does not link back. -/
theorem QueueShape.linked_iff (h : QueueShape q l) : Linked q ↔ HeadFree l := by
  constructor
  · intro hlinked b hb
    cases l with
    | nil => cases hb
    | cons e l =>
      cases hb
      obtain ⟨hfirst, -, hget, -⟩ := h.list.segment
      exact hlinked.head e.2 (by rw [hfirst, hget])
  · intro hhead
    refine ⟨fun item hget => ?_, fun p item hget hnext => ?_⟩
    · have hmem := h.mem_of_lookup hget
      cases l with
      | nil => exact absurd hmem List.not_mem_nil
      | cons e l =>
        obtain ⟨hfirst, -, hget', -⟩ := h.list.segment
        rw [hfirst, hget'] at hget
        obtain rfl := Option.some.inj hget
        exact hhead _ rfl
    · -- behind an item with a next one there is that item
      obtain ⟨l₁, l₂, rfl⟩ := List.append_of_mem (h.mem_of_lookup hget)
      obtain ⟨-, -, -, hrest, -, -⟩ := h.list.middle
      cases l₂ with
      | nil => exact absurd hrest hnext
      | cons x l₂ =>
        obtain ⟨hx, -, hgetx, -⟩ := hrest
        refine ⟨x.2, by rw [hx, hgetx], ?_⟩
        have hback := h.back
        rw [backLinks_append] at hback
        exact (List.isChain_append_cons_cons.1 hback).2.1

theorem free_of_mem {m : Heap (QueueItem α)} {freed : List ℕ} {p : ℕ} (hp : p ≠ 0) (hmem : p ∈ m) :
    free (m, freed) p = some (m.erase p, freed ++ [p]) := by
  simp [free, hp, hmem]

/-- The way back from the last item frees all of them. -/
theorem freeBack_of_list {m : Heap (QueueItem α)} {first : ℕ} {fuel : ℕ} (freed : List ℕ)
    (hlist : m.IsList QueueItem.pNext first (l ++ [e]))
    (hback : (backLinks (l ++ [e])).IsChain fun x y => y.2 = x.1) (hhead : HeadFree (l ++ [e]))
    (hfuel : l.length < fuel) :
    ∃ m', freeBack fuel (m, freed) e.1 = some (m', freed ++ ((l ++ [e]).map Prod.fst).reverse) ∧
      m'.keys = [] := by
  induction l using List.reverseRecOn generalizing m e freed fuel with
  | nil =>
    obtain ⟨fuel, rfl⟩ := Nat.exists_eq_add_of_lt hfuel
    obtain ⟨-, hne, hget, -⟩ := hlist.middle
    have hmem : e.1 ∈ m := (hlist.mem_iff e.1).2 (by simp)
    have hprev : e.2.pPrev = 0 := hhead _ rfl
    refine ⟨m.erase e.1, ?_, ?_⟩
    · simp [freeBack, hget, hprev, free_of_mem hne hmem]
    · exact List.perm_nil.1 (Heap.IsList.tail hlist).keys_perm
  | append_singleton l x ih =>
    obtain ⟨fuel, rfl⟩ := Nat.exists_eq_add_of_lt hfuel
    have hassoc : l ++ [x] ++ [e] = l ++ x :: [e] := List.append_assoc l [x] [e]
    rw [hassoc] at hlist hback hhead
    obtain ⟨-, hxne, hgetx, hnext, -, hxe⟩ := hlist.middle
    obtain ⟨hxnext, hne, hget, hend⟩ := hnext
    have hxe' : x.1 ≠ e.1 := fun heq => hxe (by simp [heq])
    have hmem : e.1 ∈ m := (hlist.mem_iff e.1).2 (by simp)
    rw [backLinks_append] at hback
    obtain ⟨hback, hprev, -⟩ := List.isChain_append_cons_cons.1 hback
    have hprev : e.2.pPrev = x.1 := hprev
    -- the last item is freed, and the one before it is the last one then
    have hcut : QueueItem.pNext { x.2 with pNext := 0 } = QueueItem.pNext e.2 := hend.symm
    have hlist' := hlist.removeNext hcut
    have hlinks : backLinks (l ++ [(x.1, { x.2 with pNext := 0 })]) = backLinks (l ++ [x]) := by
      simp [backLinks]
    have hhead' : HeadFree (l ++ [(x.1, { x.2 with pNext := 0 })]) := by
      intro b hb
      rw [hlinks] at hb
      apply hhead b
      cases l <;> simpa [backLinks] using hb
    have hback' : (backLinks (l ++ [(x.1, { x.2 with pNext := 0 })])).IsChain
        fun x y => y.2 = x.1 := by
      rw [hlinks, backLinks_append]
      exact hback
    have hlt : l.length < l.length + 1 + fuel := by omega
    obtain ⟨m', hrest, hempty⟩ := ih (freed ++ [e.1]) hlist' hback' hhead' hlt
    refine ⟨m', ?_, hempty⟩
    have hgetx' : (m.erase e.1).lookup x.1 = some x.2 := by
      rw [AList.lookup_erase_ne hxe', hgetx]
    have hstep : freeBack ((l ++ [x]).length + fuel + 1) (m, freed) e.1 =
        freeBack (l.length + 1 + fuel)
          ((m.insert x.1 { x.2 with pNext := 0 }).erase e.1, freed ++ [e.1]) x.1 := by
      rw [← Heap.insert_erase_of_ne m hxe', List.length_append, List.length_singleton]
      rw [freeBack, hget, Option.bind_some, hprev, if_neg hxne, hgetx, Option.bind_some, hxnext,
        free_of_mem hne hmem, Option.bind_some, hgetx', Option.bind_some]
    rw [hstep, hrest]
    simp

/-- While the first item does not link back, the queue can be destroyed. -/
theorem QueueShape.destroyable (h : QueueShape q l) (hhead : HeadFree l) : Destroyable q := by
  unfold Destroyable LinkedQueue.msgctl
  rcases List.eq_nil_or_concat' l with rfl | ⟨l, e, rfl⟩
  · have hfirst : q.pItems = 0 := h.list.first_eq_zero.2 rfl
    have hkeys : q.items.keys = [] := List.perm_nil.1 h.list.keys_perm
    rw [if_pos hfirst, hkeys]
    exact ⟨_, _, rfl, List.Perm.nil, List.nodup_nil, hkeys⟩
  · have hfirst : q.pItems ≠ 0 := by
      intro hzero
      exact absurd (h.list.first_eq_zero.1 hzero) (by simp)
    rw [if_neg hfirst, lastItem, h.list.lastNode]
    have hfuel : l.length < q.items.keys.length := by
      rw [h.list.length_keys]
      simp
    obtain ⟨m', hrest, hempty⟩ := freeBack_of_list [] h.list h.back hhead hfuel
    refine ⟨m', _, hrest, ?_, ?_, hempty⟩
    · rw [List.nil_append]
      exact (List.reverse_perm _).trans h.list.keys_perm.symm
    · rw [List.nil_append, List.nodup_reverse]
      exact h.list.nodup

/-- Behind a first item the next one links back to it. -/
theorem QueueShape.headFree_tail_iff (h : QueueShape q (e :: l)) : HeadFree l ↔ l = [] := by
  constructor
  · intro hhead
    cases l with
    | nil => rfl
    | cons x l =>
      obtain ⟨-, hne, -, -⟩ := h.list.segment
      have hprev : x.2.pPrev = e.1 := (List.isChain_cons_cons.1 h.back).1
      exact absurd (hprev.symm.trans (hhead _ rfl)) hne
  · rintro rfl b hb
    cases hb

/-! ## Runs -/

/-- The messages sent. -/
def sent (es : List (LinkedCall α × LinkedAnswer α)) : List α := es.filterMap fun e => e.1.sent?

/-- The messages received. -/
def received (es : List (LinkedCall α × LinkedAnswer α)) : List α := es.filterMap fun e => e.2.msg

/-- The number of receives. -/
def receives (es : List (LinkedCall α × LinkedAnswer α)) : ℕ :=
  es.countP fun e =>
    match e.1 with
    | .receive => true
    | .send _ _ => false

/-- In every state of a run the links are right, and the queue can be destroyed. -/
def AllLinked (es : List (LinkedCall α × LinkedAnswer α)) : Prop :=
  ∀ es₁ es₂ q, es = es₁ ++ es₂ → Run step msgget es₁ q → Linked q ∧ Destroyable q

/-- Every receive finds at most one message. -/
def ShortReceives (es : List (LinkedCall α × LinkedAnswer α)) : Prop :=
  ∀ es₁ o es₂, es = es₁ ++ (.receive, o) :: es₂ → (sent es₁).length ≤ receives es₁ + 1

variable {i : LinkedCall α} {o : LinkedAnswer α} {es : List (LinkedCall α × LinkedAnswer α)}

theorem shortReceives_concat :
    ShortReceives (es ++ [(i, o)]) ↔
      ShortReceives es ∧ (i = .receive → (sent es).length ≤ receives es + 1) := by
  constructor
  · intro h
    refine ⟨fun es₁ o' es₂ hes => ?_, fun hi => ?_⟩
    · exact h es₁ o' (es₂ ++ [(i, o)]) (by rw [hes, List.append_assoc, List.cons_append])
    · exact h es o [] (by rw [hi])
  · rintro ⟨hes, hi⟩ es₁ o' es₂ heq
    rcases List.eq_nil_or_concat' es₂ with rfl | ⟨es₂, e, rfl⟩
    · obtain ⟨rfl, hlast⟩ := List.append_inj' heq rfl
      cases hlast
      exact hi rfl
    · rw [← List.cons_append, ← List.append_assoc] at heq
      obtain ⟨heq, -⟩ := List.append_inj' heq rfl
      exact hes es₁ o' es₂ heq

/-- What a call does to the items: it fails, puts one behind the others, or takes the first one. -/
theorem QueueShape.step (h : QueueShape q l) (hstep : q.step i = some (q', o)) :
    (i.sent? = none ∧ i ≠ .receive ∧ o.msg = none ∧ q' = q) ∨
      (∃ msg l', i.sent? = some msg ∧ i ≠ .receive ∧ o.msg = none ∧ QueueShape q' l' ∧
        messages l' = messages l ++ [msg] ∧ (HeadFree l → HeadFree l')) ∨
      ∃ e l', i = .receive ∧ l = e :: l' ∧ o.msg = some e.2.nMsg ∧ QueueShape q' l' := by
  cases i with
  | send pNew msg =>
    simp only [LinkedQueue.step] at hstep
    split at hstep
    · cases hstep
    · rename_i hfree
      by_cases hnew : pNew = 0
      · simp only [LinkedQueue.msgsnd, hnew, if_true] at hstep
        cases hstep
        exact .inl ⟨by simp [LinkedCall.sent?, hnew], nofun, rfl, rfl⟩
      · obtain ⟨q₁, l', hsnd, hshape, hmessages, hhead⟩ := h.msgsnd hnew hfree msg
        rw [hsnd] at hstep
        cases hstep
        rw [append_eq] at hmessages
        exact .inr (.inl ⟨msg, l', by simp [LinkedCall.sent?, hnew], nofun, rfl, hshape, hmessages,
          hhead⟩)
  | receive =>
    simp only [LinkedQueue.step] at hstep
    split at hstep
    · cases hstep
    · rename_i hcount
      -- the semaphore counts the items, so there is one
      cases l with
      | nil => exact absurd h.count hcount
      | cons e l =>
        obtain ⟨q₁, hrcv, hshape⟩ := h.msgrcv
        rw [hrcv] at hstep
        cases hstep
        exact .inr (.inr ⟨e, l, rfl, rfl, rfl, hshape⟩)

/-- The items after a run: the messages sent and not received, without a back link of the first item
if every receive found at most one. -/
theorem queueShape_of_run (hrun : Run step msgget es q) :
    ∃ l, QueueShape q l ∧ sent es = received es ++ messages l ∧
      (sent es).length = receives es + l.length ∧ (ShortReceives es → HeadFree l) := by
  induction hrun with
  | nil => exact ⟨[], queueShape_msgget, rfl, rfl, fun _ b hb => nomatch hb⟩
  | @snoc es q q' i o _ hs ih =>
    obtain ⟨l, hshape, hsent, hlength, hhead⟩ := ih
    rcases hshape.step hs with ⟨hi, hne, ho, rfl⟩ | ⟨msg, l', hi, hne, ho, hshape', hmsgs, hfree⟩ |
        ⟨e, l', rfl, rfl, ho, hshape'⟩
    · have hreceives : receives (es ++ [(i, o)]) = receives es := by
        cases i <;> simp_all [receives]
      refine ⟨l, hshape, ?_, ?_, fun hshort => hhead (shortReceives_concat.1 hshort).1⟩
      · simpa [sent, received, hi, ho] using hsent
      · rw [hreceives]
        simpa [sent, hi] using hlength
    · have hreceives : receives (es ++ [(i, o)]) = receives es := by
        cases i <;> simp_all [receives]
      have hone : l'.length = l.length + 1 := by
        simpa [messages] using congrArg List.length hmsgs
      have hsent' : sent (es ++ [(i, o)]) = sent es ++ [msg] := by
        simp [sent, hi]
      have hreceived : received (es ++ [(i, o)]) = received es := by
        simp [received, ho]
      refine ⟨l', hshape', ?_, ?_, fun hshort => hfree (hhead (shortReceives_concat.1 hshort).1)⟩
      · rw [hsent', hreceived, hsent, hmsgs, List.append_assoc]
      · rw [hreceives, hsent', hone, List.length_append, hlength, List.length_singleton]
        omega
    · have hreceives : receives (es ++ [(.receive, o)]) = receives es + 1 := by
        simp [receives]
      have hsent' : sent (es ++ [(.receive, o)]) = sent es := by
        simp [sent, LinkedCall.sent?]
      refine ⟨l', hshape', ?_, ?_, fun hshort => ?_⟩
      · rw [hsent', hsent]
        simp [received, ho, messages]
      · rw [hreceives, hsent', hlength, List.length_cons]
        omega
      · obtain ⟨-, hfound⟩ := shortReceives_concat.1 hshort
        have hle := hfound rfl
        rw [hlength, List.length_cons] at hle
        apply hshape.headFree_tail_iff.2
        apply List.eq_nil_of_length_eq_zero
        omega

/-- In all states of a run the links are right and the queue can be destroyed exactly when every receive
finds at most one message. -/
theorem allLinked_iff (hrun : Run step msgget es q) : AllLinked es ↔ ShortReceives es := by
  constructor
  · rintro h es₁ o es₂ rfl
    obtain ⟨q₁, hq₁, hrest⟩ := hrun.split
    obtain ⟨q₂, hq₂, -⟩ := hrest.first
    obtain ⟨l, hshape, -, hlength, -⟩ := queueShape_of_run hq₁
    rcases hshape.step hq₂ with ⟨-, hne, -⟩ | ⟨_, _, -, hne, -⟩ | ⟨e, l', -, rfl, -, hshape'⟩
    · exact absurd rfl hne
    · exact absurd rfl hne
    · -- after the receive the first item must not link back, so it is not there
      obtain ⟨hlinked, -⟩ := h (es₁ ++ [(.receive, o)]) es₂ q₂ (by simp) (hq₁.snoc hq₂)
      have hnil := hshape.headFree_tail_iff.1 (hshape'.linked_iff.1 hlinked)
      rw [hlength, hnil, List.length_singleton]
  · rintro h es₁ es₂ q₁ rfl hq₁
    have hshort : ShortReceives es₁ := by
      intro es₃ o es₄ hes
      exact h es₃ o (es₄ ++ es₂) (by rw [hes, List.append_assoc, List.cons_append])
    obtain ⟨l, hshape, -, -, hhead⟩ := queueShape_of_run hq₁
    exact ⟨hshape.linked_iff.2 (hhead hshort), hshape.destroyable (hhead hshort)⟩

/-- A message is received before the next one is sent, and the address of its item is used again. -/
def oneAtATime : List (LinkedCall ℕ) := [.send 16 7, .receive, .send 16 8]

/-- Two messages are sent before one is received. -/
def twoAtATime : List (LinkedCall ℕ) := [.send 16 7, .send 48 8, .receive]

theorem oneAtATime_allLinked : ∃ es q,
    exec step (msgget : LinkedQueue ℕ) oneAtATime = some (es, q) ∧ AllLinked es := by
  have hexec : ∃ o₁ o₂ o₃ q, exec step (msgget : LinkedQueue ℕ) oneAtATime =
      some ([(.send 16 7, o₁), (.receive, o₂), (.send 16 8, o₃)], q) := ⟨_, _, _, _, rfl⟩
  obtain ⟨o₁, o₂, o₃, q, hexec⟩ := hexec
  refine ⟨_, q, hexec, (allLinked_iff (run_of_exec hexec)).2 ?_⟩
  have hnil : ShortReceives ([] : List (LinkedCall ℕ × LinkedAnswer ℕ)) := by
    intro es₁ o es₂ hes
    exact absurd hes (by simp)
  have hfirst := (shortReceives_concat (i := .send 16 7) (o := o₁)).2 ⟨hnil, nofun⟩
  have hsecond := (shortReceives_concat (i := .receive) (o := o₂)).2 ⟨hfirst, fun _ => le_rfl⟩
  exact (shortReceives_concat (i := .send 16 8) (o := o₃)).2 ⟨hsecond, nofun⟩

/-- The second item links back to the first one, which is freed. -/
theorem twoAtATime_notLinked : ∃ es q, Run step (msgget : LinkedQueue ℕ) es q ∧ ¬AllLinked es := by
  refine ⟨_, _, run_of_exec (l := twoAtATime) rfl, fun h => ?_⟩
  obtain ⟨hlinked, -⟩ := h _ [] _ (List.append_nil _).symm (run_of_exec (l := twoAtATime) rfl)
  exact absurd (hlinked.head ⟨8, 16, 0⟩ rfl) (by decide)

end LinkedQueue

end AliceHal.Pn54x.Tml
