import AliceHal.Lib.Machine
import AliceHal.Lib.Since
import AliceHal.Camera.Status

/-!
# The Preview Window

`CameraPreviewWindow` of `CameraDevice.cpp`. The HAL dequeues buffers from the window of a client,
fills them and enqueues them. The client names a buffer by a number, the HAL by the address of a
handle: the window keeps a handle for each number in `mCirculatingBuffers`, and the number for each
address in `mBufferIdMap`. A handle is imported when its buffer is first dequeued and freed when the
window is cleaned up.

A call of the HAL is one step, with what the client, the importer and the allocator do. A step is
not taken where the importer returns a handle that is in use, or the allocator an address.

- `CameraPreviewWindow`, `WindowCall`, `CameraPreviewWindow.step`: the window and its calls
- `Given`: an address that the HAL has got for a buffer since the last clean-up
- `WindowInv`: what the two maps hold, by the history
- `buffers_freed_once`: each imported buffer is freed once
- `enqueued_iff`: which buffer the client gets back
-/

namespace AliceHal.Camera

open Lib

/-! ## The window -/

/-- An entry of `mCirculatingBuffers`: the handle of a buffer, and the place where it is kept. -/
structure Circulating where
  bufferId : UInt64
  buffer : ℕ
  address : ℕ
  deriving DecidableEq, Repr

/-- The window. -/
structure CameraPreviewWindow where
  mPreviewCallback : Option ℕ
  mCirculatingBuffers : List Circulating
  mBufferIdMap : ℕ → Option UInt64
  /-- an exception has ended the process -/
  terminated : Bool

/-- What the client answers to `dequeueBuffer`, with the handle that importing its buffer gives and
the place that a new entry gets. -/
structure DequeueReply where
  status : Status
  bufferId : UInt64
  stride : UInt32
  imported : Option ℕ
  address : ℕ
  deriving DecidableEq, Repr

/-- A call, with the status that the client answers. -/
inductive WindowCall where
  /-- `setPreviewWindow` of an open device -/
  | setPreviewWindow (window : Option ℕ)
  /-- `sDequeueBuffer`, with pointers for the results or with a null pointer -/
  | dequeueBuffer (pointers : Bool) (reply : DequeueReply)
  | enqueueBuffer (buffer : ℕ) (status : Status)
  | cancelBuffer (buffer : ℕ) (status : Status)
  | setBufferCount (status : Status)
  | setBuffersGeometry (status : Status)
  | setUsage (status : Status)
  /-- `sSetCrop`, `sSetTimestamp` and `sSetSwapInterval` -/
  | forward (status : Status)
  /-- `sGetMinUndequeuedBufferCount`, with a pointer for the result or a null pointer -/
  | getMinUndequeuedBufferCount (pointer : Bool) (status : Status)
  /-- the destructor of the device -/
  | destroy
  deriving DecidableEq, Repr

/-- What is seen of a call. -/
inductive WindowEvent where
  | imported (buffer : ℕ)
  | freed (buffer : ℕ)
  /-- the window was cleaned up -/
  | cleanedUp
  /-- the HAL gets the address for a buffer of the client, at which it finds a handle -/
  | returned (address : ℕ) (bufferId : UInt64) (buffer : ℕ) (stride : UInt32)
  | enqueued (window : ℕ) (bufferId : UInt64)
  | cancelled (window : ℕ) (bufferId : UInt64)
  /-- the address is not in `mBufferIdMap` -/
  | outOfRange
  deriving DecidableEq, Repr

/-- What a call does, and what it returns to the HAL. -/
structure WindowOutput where
  events : List WindowEvent
  result : ℤ
  deriving DecidableEq, Repr

namespace CameraPreviewWindow

/-- No window is set. -/
def init : CameraPreviewWindow := ⟨none, [], fun _ => none, false⟩

/-- The handles in use. -/
def buffers (w : CameraPreviewWindow) : List ℕ := w.mCirculatingBuffers.map Circulating.buffer

/-- `cleanUpCirculatingBuffers` -/
def cleanUpCirculatingBuffers (w : CameraPreviewWindow) : CameraPreviewWindow × List WindowEvent :=
  ({ w with mCirculatingBuffers := [], mBufferIdMap := fun _ => none },
    .cleanedUp :: w.buffers.map .freed)

/-- A call for which there has to be a window. -/
def withWindow (w : CameraPreviewWindow)
    (body : ℕ → Option (CameraPreviewWindow × WindowOutput)) :
    Option (CameraPreviewWindow × WindowOutput) :=
  match w.mPreviewCallback with
  | none => some (w, ⟨[], invalidOperation⟩)
  | some window => body window

/-- `sDequeueBuffer` -/
def sDequeueBuffer (w : CameraPreviewWindow) (pointers : Bool) (reply : DequeueReply) :
    Option (CameraPreviewWindow × WindowOutput) :=
  w.withWindow fun _ =>
    if !pointers then some (w, ⟨[], badValue⟩)
    else if reply.status ≠ .ok then some (w, ⟨[], getStatusT reply.status⟩)
    else
      match w.mCirculatingBuffers.find? fun c => c.bufferId = reply.bufferId with
      | some c => some (w, ⟨[.returned c.address c.bufferId c.buffer reply.stride], getStatusT .ok⟩)
      | none =>
        match reply.imported with
        | none => some (w, ⟨[], getStatusT .internalError⟩)
        | some buffer =>
          if buffer ∈ w.buffers ∨ ∃ c ∈ w.mCirculatingBuffers, c.address = reply.address then none
          else
            some ({ w with
              mCirculatingBuffers :=
                w.mCirculatingBuffers ++ [⟨reply.bufferId, buffer, reply.address⟩]
              mBufferIdMap := Function.update w.mBufferIdMap reply.address (some reply.bufferId) },
              ⟨[.imported buffer, .returned reply.address reply.bufferId buffer reply.stride],
                getStatusT .ok⟩)

/-- The number of the buffer at an address; `at` throws where there is none. -/
def withBufferId (w : CameraPreviewWindow) (buffer : ℕ) (status : Status)
    (event : UInt64 → WindowEvent) : Option (CameraPreviewWindow × WindowOutput) :=
  match w.mBufferIdMap buffer with
  | none => some ({ w with terminated := true }, ⟨[.outOfRange], 0⟩)
  | some bufferId => some (w, ⟨[event bufferId], getStatusT status⟩)

/-- `sEnqueueBuffer` -/
def sEnqueueBuffer (w : CameraPreviewWindow) (buffer : ℕ) (status : Status) :
    Option (CameraPreviewWindow × WindowOutput) :=
  w.withWindow fun window => w.withBufferId buffer status (.enqueued window)

/-- `sCancelBuffer` -/
def sCancelBuffer (w : CameraPreviewWindow) (buffer : ℕ) (status : Status) :
    Option (CameraPreviewWindow × WindowOutput) :=
  w.withWindow fun window => w.withBufferId buffer status (.cancelled window)

/-- A call that cleans up before it is passed on. -/
def cleaning (w : CameraPreviewWindow) (status : Status) :
    Option (CameraPreviewWindow × WindowOutput) :=
  w.withWindow fun _ =>
    some (w.cleanUpCirculatingBuffers.1, ⟨w.cleanUpCirculatingBuffers.2, getStatusT status⟩)

/-- `sSetBufferCount` -/
def sSetBufferCount (w : CameraPreviewWindow) (status : Status) := w.cleaning status

/-- `sSetBuffersGeometry` -/
def sSetBuffersGeometry (w : CameraPreviewWindow) (status : Status) := w.cleaning status

/-- `sSetUsage` -/
def sSetUsage (w : CameraPreviewWindow) (status : Status) := w.cleaning status

/-- `sGetMinUndequeuedBufferCount` -/
def sGetMinUndequeuedBufferCount (w : CameraPreviewWindow) (pointer : Bool) (status : Status) :
    Option (CameraPreviewWindow × WindowOutput) :=
  w.withWindow fun _ =>
    if pointer then some (w, ⟨[], getStatusT status⟩) else some (w, ⟨[], badValue⟩)

/-- One call. -/
def step (w : CameraPreviewWindow) (call : WindowCall) :
    Option (CameraPreviewWindow × WindowOutput) :=
  if w.terminated then none
  else
    match call with
    | .setPreviewWindow window => some ({ w with mPreviewCallback := window }, ⟨[], 0⟩)
    | .dequeueBuffer pointers reply => w.sDequeueBuffer pointers reply
    | .enqueueBuffer buffer status => w.sEnqueueBuffer buffer status
    | .cancelBuffer buffer status => w.sCancelBuffer buffer status
    | .setBufferCount status => w.sSetBufferCount status
    | .setBuffersGeometry status => w.sSetBuffersGeometry status
    | .setUsage status => w.sSetUsage status
    | .forward status => w.withWindow fun _ => some (w, ⟨[], getStatusT status⟩)
    | .getMinUndequeuedBufferCount pointer status => w.sGetMinUndequeuedBufferCount pointer status
    | .destroy =>
      some ({ w.cleanUpCirculatingBuffers.1 with terminated := true },
        ⟨w.cleanUpCirculatingBuffers.2, 0⟩)

end CameraPreviewWindow

/-! ## Histories -/

/-- A call with what was seen of it. -/
abbrev WindowStep := WindowCall × WindowOutput

/-- The HAL gets an address for a buffer. -/
def Returns (address : ℕ) (bufferId : UInt64) (buffer : ℕ) (e : WindowStep) : Prop :=
  ∃ stride, .returned address bufferId buffer stride ∈ e.2.events

/-- The window is cleaned up. -/
def CleansUp (e : WindowStep) : Prop := .cleanedUp ∈ e.2.events

/-- An address that the HAL has got for a buffer since the last clean-up. -/
def Given (es : List WindowStep) (address : ℕ) (bufferId : UInt64) (buffer : ℕ) : Prop :=
  Since (Returns address bufferId buffer) CleansUp es

/-- The handle that an event imports. -/
def WindowEvent.importedBuffer : WindowEvent → Option ℕ
  | .imported buffer => some buffer
  | _ => none

/-- The handle that an event frees. -/
def WindowEvent.freedBuffer : WindowEvent → Option ℕ
  | .freed buffer => some buffer
  | _ => none

/-- The handles imported in a history. -/
def importedBuffers (es : List WindowStep) : List ℕ :=
  es.flatMap fun e => e.2.events.filterMap WindowEvent.importedBuffer

/-- The handles freed in a history. -/
def freedBuffers (es : List WindowStep) : List ℕ :=
  es.flatMap fun e => e.2.events.filterMap WindowEvent.freedBuffer

/-! ## What a call does to the entries -/

/-- The three ways in which a call changes the entries. -/
inductive Effect (w w' : CameraPreviewWindow) (events : List WindowEvent) : Prop where
  /-- the maps stay, and nothing that concerns them is seen, or the entry of a buffer is returned -/
  | kept (hentries : w'.mCirculatingBuffers = w.mCirculatingBuffers)
      (hids : w'.mBufferIdMap = w.mBufferIdMap)
      (himported : events.filterMap WindowEvent.importedBuffer = [])
      (hfreed : events.filterMap WindowEvent.freedBuffer = [])
      (hclean : .cleanedUp ∉ events)
      (hreturned : ∀ address bufferId buffer stride,
        .returned address bufferId buffer stride ∈ events →
          ⟨bufferId, buffer, address⟩ ∈ w.mCirculatingBuffers)
  /-- a buffer is imported -/
  | added (c : Circulating) (stride : UInt32)
      (hid : ∀ d ∈ w.mCirculatingBuffers, d.bufferId ≠ c.bufferId)
      (hbuffer : c.buffer ∉ w.buffers)
      (haddress : ∀ d ∈ w.mCirculatingBuffers, d.address ≠ c.address)
      (hentries : w'.mCirculatingBuffers = w.mCirculatingBuffers ++ [c])
      (hids : w'.mBufferIdMap = Function.update w.mBufferIdMap c.address (some c.bufferId))
      (hevents : events = [.imported c.buffer, .returned c.address c.bufferId c.buffer stride])
  /-- the window is cleaned up -/
  | cleaned (hentries : w'.mCirculatingBuffers = []) (hids : w'.mBufferIdMap = fun _ => none)
      (hevents : events = .cleanedUp :: w.buffers.map .freed)

namespace CameraPreviewWindow

variable {w w' : CameraPreviewWindow} {call : WindowCall} {o : WindowOutput}

/-- Nothing happens. -/
theorem effect_quiet (hentries : w'.mCirculatingBuffers = w.mCirculatingBuffers)
    (hids : w'.mBufferIdMap = w.mBufferIdMap) : Effect w w' [] :=
  .kept hentries hids rfl rfl List.not_mem_nil fun _ _ _ _ h => absurd h List.not_mem_nil

/-- Calls for which there has to be a window. -/
theorem effect_withWindow {body : ℕ → Option (CameraPreviewWindow × WindowOutput)}
    (h : w.withWindow body = some (w', o))
    (hbody : ∀ window, w.mPreviewCallback = some window → body window = some (w', o) →
      Effect w w' o.events) : Effect w w' o.events := by
  rw [withWindow] at h
  split at h
  · obtain ⟨rfl, rfl⟩ := Prod.mk.inj (Option.some.inj h)
    exact effect_quiet rfl rfl
  · rename_i window hwindow
    exact hbody window hwindow h

theorem effect_dequeue {pointers : Bool} {reply : DequeueReply}
    (h : w.sDequeueBuffer pointers reply = some (w', o)) : Effect w w' o.events := by
  refine effect_withWindow h fun window _ h => ?_
  split at h
  · obtain ⟨rfl, rfl⟩ := Prod.mk.inj (Option.some.inj h)
    exact effect_quiet rfl rfl
  · split at h
    · obtain ⟨rfl, rfl⟩ := Prod.mk.inj (Option.some.inj h)
      exact effect_quiet rfl rfl
    · split at h
      · -- the buffer was dequeued before
        rename_i c hfind
        obtain ⟨rfl, rfl⟩ := Prod.mk.inj (Option.some.inj h)
        refine .kept rfl rfl rfl rfl (by simp) fun address bufferId buffer stride hmem => ?_
        simp only [List.mem_singleton, WindowEvent.returned.injEq] at hmem
        obtain ⟨rfl, rfl, rfl, -⟩ := hmem
        exact List.mem_of_find?_eq_some hfind
      · rename_i hfind
        split at h
        · obtain ⟨rfl, rfl⟩ := Prod.mk.inj (Option.some.inj h)
          exact effect_quiet rfl rfl
        · rename_i buffer _
          split at h
          · cases h
          · rename_i hfree
            obtain ⟨rfl, rfl⟩ := Prod.mk.inj (Option.some.inj h)
            rw [not_or] at hfree
            refine .added ⟨reply.bufferId, buffer, reply.address⟩ reply.stride (fun d hd => ?_)
              hfree.1 (fun d hd heq => hfree.2 ⟨d, hd, heq⟩) rfl rfl rfl
            simpa using List.find?_eq_none.1 hfind d hd

theorem effect_withBufferId {buffer : ℕ} {status : Status} {event : UInt64 → WindowEvent}
    (hevent : ∀ bufferId, (event bufferId).importedBuffer = none ∧
      (event bufferId).freedBuffer = none ∧ event bufferId ≠ .cleanedUp ∧
      ∀ address id buffer stride, event bufferId ≠ .returned address id buffer stride)
    (h : w.withBufferId buffer status event = some (w', o)) : Effect w w' o.events := by
  rw [withBufferId] at h
  split at h
  · obtain ⟨rfl, rfl⟩ := Prod.mk.inj (Option.some.inj h)
    refine .kept rfl rfl rfl rfl (by simp) fun _ _ _ _ hmem => ?_
    simp at hmem
  · rename_i bufferId _
    obtain ⟨rfl, rfl⟩ := Prod.mk.inj (Option.some.inj h)
    obtain ⟨himported, hfreed, hclean, hreturned⟩ := hevent bufferId
    refine .kept rfl rfl (by simp [himported]) (by simp [hfreed]) (by simp [Ne.symm hclean])
      fun address id buffer stride hmem => ?_
    exact absurd (List.mem_singleton.1 hmem).symm (hreturned address id buffer stride)

theorem effect_cleaning {status : Status} (h : w.cleaning status = some (w', o)) :
    Effect w w' o.events := by
  refine effect_withWindow h fun window _ h => ?_
  obtain ⟨rfl, rfl⟩ := Prod.mk.inj (Option.some.inj h)
  exact .cleaned rfl rfl rfl

/-- What a call does to the entries. -/
theorem effect_step (h : w.step call = some (w', o)) : Effect w w' o.events := by
  rw [step.eq_def] at h
  split at h
  · cases h
  · cases call with
    | setPreviewWindow window =>
      obtain ⟨rfl, rfl⟩ := Prod.mk.inj (Option.some.inj h)
      exact effect_quiet rfl rfl
    | dequeueBuffer pointers reply => exact effect_dequeue h
    | enqueueBuffer buffer status =>
      refine effect_withWindow h fun window _ h => ?_
      exact effect_withBufferId (fun _ => ⟨rfl, rfl, by simp, by simp⟩) h
    | cancelBuffer buffer status =>
      refine effect_withWindow h fun window _ h => ?_
      exact effect_withBufferId (fun _ => ⟨rfl, rfl, by simp, by simp⟩) h
    | setBufferCount status => exact effect_cleaning h
    | setBuffersGeometry status => exact effect_cleaning h
    | setUsage status => exact effect_cleaning h
    | forward status =>
      refine effect_withWindow h fun window _ h => ?_
      obtain ⟨rfl, rfl⟩ := Prod.mk.inj (Option.some.inj h)
      exact effect_quiet rfl rfl
    | getMinUndequeuedBufferCount pointer status =>
      refine effect_withWindow h fun window _ h => ?_
      split at h <;> obtain ⟨rfl, rfl⟩ := Prod.mk.inj (Option.some.inj h) <;>
        exact effect_quiet rfl rfl
    | destroy =>
      obtain ⟨rfl, rfl⟩ := Prod.mk.inj (Option.some.inj h)
      exact .cleaned rfl rfl rfl

end CameraPreviewWindow

/-! ## The invariant -/

/-- What the two maps hold after a history. -/
structure WindowInv (es : List WindowStep) (w : CameraPreviewWindow) : Prop where
  /-- one entry for a number -/
  ids : (w.mCirculatingBuffers.map Circulating.bufferId).Nodup
  /-- one entry for a handle -/
  buffers : w.buffers.Nodup
  /-- one entry for an address -/
  addresses : (w.mCirculatingBuffers.map Circulating.address).Nodup
  /-- the second map inverts the first -/
  inverse : ∀ address bufferId, w.mBufferIdMap address = some bufferId ↔
    ∃ c ∈ w.mCirculatingBuffers, c.address = address ∧ c.bufferId = bufferId
  /-- the entries are those that the HAL was given since the last clean-up -/
  given : ∀ address bufferId buffer, Given es address bufferId buffer ↔
    ⟨bufferId, buffer, address⟩ ∈ w.mCirculatingBuffers
  /-- what was imported was freed or is in use -/
  balance : ∀ buffer, (freedBuffers es).count buffer + w.buffers.count buffer =
    (importedBuffers es).count buffer

theorem windowInv_init : WindowInv [] .init where
  ids := List.nodup_nil
  buffers := List.nodup_nil
  addresses := List.nodup_nil
  inverse := by simp [CameraPreviewWindow.init]
  given := by simp [CameraPreviewWindow.init, Given, not_since_nil]
  balance := by simp [CameraPreviewWindow.init, CameraPreviewWindow.buffers, freedBuffers,
    importedBuffers]

theorem given_concat {es : List WindowStep} {e : WindowStep} {address : ℕ} {bufferId : UInt64}
    {buffer : ℕ} : Given (es ++ [e]) address bufferId buffer ↔
      Returns address bufferId buffer e ∨ Given es address bufferId buffer ∧ ¬ CleansUp e :=
  since_concat

/-- Every call keeps the invariant. -/
theorem WindowInv.step {es : List WindowStep} {w w' : CameraPreviewWindow} {call : WindowCall}
    {o : WindowOutput} (h : WindowInv es w) (hstep : w.step call = some (w', o)) :
    WindowInv (es ++ [(call, o)]) w' := by
  have hfreedCount : ∀ buffer, (freedBuffers (es ++ [(call, o)])).count buffer =
      (freedBuffers es).count buffer + (o.events.filterMap WindowEvent.freedBuffer).count buffer :=
    fun buffer => count_flatMap_concat _ buffer es (call, o)
  have himportedCount : ∀ buffer, (importedBuffers (es ++ [(call, o)])).count buffer =
      (importedBuffers es).count buffer +
        (o.events.filterMap WindowEvent.importedBuffer).count buffer :=
    fun buffer => count_flatMap_concat _ buffer es (call, o)
  cases CameraPreviewWindow.effect_step hstep with
  | kept hentries hids himported hfreed hclean hreturned =>
    have hbuffers : w'.buffers = w.buffers := congrArg (List.map Circulating.buffer) hentries
    refine ⟨hentries ▸ h.ids, hbuffers ▸ h.buffers, hentries ▸ h.addresses, ?_, ?_, ?_⟩
    · rw [hentries, hids]
      exact h.inverse
    · intro address bufferId buffer
      rw [given_concat, h.given, hentries]
      constructor
      · rintro (⟨stride, hmem⟩ | ⟨hmem, -⟩)
        · exact hreturned address bufferId buffer stride hmem
        · exact hmem
      · exact fun hmem => Or.inr ⟨hmem, hclean⟩
    · intro buffer
      rw [hfreedCount, himportedCount, himported, hfreed, hbuffers]
      simpa using h.balance buffer
  | added c stride hid hbuffer haddress hentries hids hevents =>
    have hbuffers : w'.buffers = w.buffers ++ [c.buffer] := by
      rw [CameraPreviewWindow.buffers, hentries, List.map_append]
      rfl
    refine ⟨?_, ?_, ?_, ?_, ?_, ?_⟩
    · rw [hentries, List.map_append]
      refine List.nodup_append.2 ⟨h.ids, List.nodup_singleton _, fun a ha b hb heq => ?_⟩
      obtain ⟨d, hd, rfl⟩ := List.mem_map.1 ha
      exact hid d hd (heq.trans (List.mem_singleton.1 hb))
    · rw [hbuffers]
      refine List.nodup_append.2 ⟨h.buffers, List.nodup_singleton _, fun a ha b hb heq => ?_⟩
      exact hbuffer (List.mem_singleton.1 hb ▸ heq ▸ ha)
    · rw [hentries, List.map_append]
      refine List.nodup_append.2 ⟨h.addresses, List.nodup_singleton _, fun a ha b hb heq => ?_⟩
      obtain ⟨d, hd, rfl⟩ := List.mem_map.1 ha
      exact haddress d hd (heq.trans (List.mem_singleton.1 hb))
    · intro address bufferId
      rw [hentries, hids]
      simp only [List.mem_append, List.mem_singleton, or_and_right, exists_or, exists_eq_left]
      by_cases heq : address = c.address
      · subst heq
        -- no other entry is at the new address
        have hnone : ¬ ∃ d ∈ w.mCirculatingBuffers, d.address = c.address ∧ d.bufferId = bufferId :=
          fun ⟨d, hd, hda, _⟩ => haddress d hd hda
        simp [hnone]
      · rw [Function.update_of_ne heq, h.inverse]
        simp [Ne.symm heq]
    · intro address bufferId buffer
      have hclean : ¬ CleansUp (call, o) := by simp [CleansUp, hevents]
      have hreturns : Returns address bufferId buffer (call, o) ↔
          (⟨bufferId, buffer, address⟩ : Circulating) = c := by
        obtain ⟨cid, cbuffer, caddress⟩ := c
        simp only [Returns, hevents, List.mem_cons, List.not_mem_nil, or_false, reduceCtorEq,
          false_or, WindowEvent.returned.injEq, Circulating.mk.injEq]
        constructor
        · rintro ⟨_, rfl, rfl, rfl, -⟩
          exact ⟨rfl, rfl, rfl⟩
        · rintro ⟨rfl, rfl, rfl⟩
          exact ⟨stride, rfl, rfl, rfl, rfl⟩
      rw [given_concat, h.given, hentries, List.mem_append, List.mem_singleton, hreturns, or_comm]
      simp [hclean]
    · intro buffer
      have hbalance := h.balance buffer
      rw [hfreedCount, himportedCount, hbuffers, hevents, List.count_append]
      simp only [List.filterMap_cons, WindowEvent.freedBuffer, WindowEvent.importedBuffer,
        List.filterMap_nil, List.count_nil]
      omega
  | cleaned hentries hids hevents =>
    have hbuffers : w'.buffers = [] := congrArg (List.map Circulating.buffer) hentries
    refine ⟨?_, ?_, ?_, ?_, ?_, ?_⟩
    · rw [hentries]
      exact List.nodup_nil
    · rw [hbuffers]
      exact List.nodup_nil
    · rw [hentries]
      exact List.nodup_nil
    · intro address bufferId
      rw [hentries, hids]
      simp
    · intro address bufferId buffer
      have hclean : CleansUp (call, o) := by simp [CleansUp, hevents]
      have hreturns : ¬ Returns address bufferId buffer (call, o) := by simp [Returns, hevents]
      rw [given_concat, hentries]
      simp [hclean, hreturns]
    · intro buffer
      have hbalance := h.balance buffer
      have hall : (w.buffers.map WindowEvent.freed).filterMap WindowEvent.freedBuffer =
          w.buffers := by
        rw [List.filterMap_map]
        exact List.filterMap_some
      have hnone : (w.buffers.map WindowEvent.freed).filterMap WindowEvent.importedBuffer = [] := by
        rw [List.filterMap_map]
        exact List.filterMap_eq_nil_iff.2 fun _ _ => rfl
      rw [hfreedCount, himportedCount, hbuffers, hevents]
      simp only [List.filterMap_cons, WindowEvent.freedBuffer, WindowEvent.importedBuffer, hall,
        hnone, List.count_nil]
      omega

/-- The invariant holds in every run. -/
theorem windowInv_of_run {es : List WindowStep} {w : CameraPreviewWindow}
    (h : Run CameraPreviewWindow.step .init es w) : WindowInv es w := by
  induction h with
  | nil => exact windowInv_init
  | snoc _ hstep ih => exact ih.step hstep

/-! ## Buffers and their names -/

/-- In every run a handle has been freed as often as it was imported, or once less where it is in
use; when the device is destroyed all handles have been freed. -/
theorem buffers_freed_once {es : List WindowStep} {w : CameraPreviewWindow}
    (hrun : Run CameraPreviewWindow.step .init es w) :
    (∀ buffer, (freedBuffers es).count buffer + w.buffers.count buffer =
        (importedBuffers es).count buffer ∧ w.buffers.count buffer ≤ 1) ∧
      ∀ w' o, w.step .destroy = some (w', o) →
        (freedBuffers (es ++ [(.destroy, o)])).Perm (importedBuffers (es ++ [(.destroy, o)])) := by
  have hinv := windowInv_of_run hrun
  refine ⟨fun buffer => ⟨hinv.balance buffer, List.nodup_iff_count_le_one.1 hinv.buffers buffer⟩,
    fun w' o hstep => ?_⟩
  have hlast := hinv.step hstep
  have hempty : w'.buffers = [] := by
    rw [CameraPreviewWindow.step.eq_def] at hstep
    split at hstep
    · cases hstep
    · obtain ⟨rfl, rfl⟩ := Prod.mk.inj (Option.some.inj hstep)
      rfl
  apply List.perm_iff_count.2
  intro buffer
  have hbalance := hlast.balance buffer
  rw [hempty] at hbalance
  simpa using hbalance

/-- Two buffers are imported, one of them is dequeued twice, and the window is cleaned up. -/
def twoBuffers : List WindowCall :=
  [.setPreviewWindow (some 1), .dequeueBuffer true ⟨.ok, 7, 640, some 21, 100⟩,
    .dequeueBuffer true ⟨.ok, 8, 640, some 22, 101⟩, .dequeueBuffer true ⟨.ok, 7, 640, some 23, 102⟩,
    .setUsage .ok, .dequeueBuffer true ⟨.ok, 8, 640, some 21, 101⟩]

theorem twoBuffers_freed : ∃ es w, exec CameraPreviewWindow.step .init twoBuffers = some (es, w) ∧
    (freedBuffers es).count 21 + w.buffers.count 21 = (importedBuffers es).count 21 := by
  refine ⟨_, _, rfl, ?_⟩
  exact ((buffers_freed_once (run_of_exec (l := twoBuffers) rfl)).1 21).1

theorem WindowInv.eq_of_mem {es : List WindowStep} {w : CameraPreviewWindow} (h : WindowInv es w)
    {c d : Circulating} (hc : c ∈ w.mCirculatingBuffers) (hd : d ∈ w.mCirculatingBuffers)
    (heq : c.bufferId = d.bufferId ∨ c.address = d.address ∨ c.buffer = d.buffer) : c = d := by
  rcases heq with heq | heq | heq
  · exact List.inj_on_of_nodup_map h.ids hc hd heq
  · exact List.inj_on_of_nodup_map h.addresses hc hd heq
  · exact List.inj_on_of_nodup_map h.buffers hc hd heq

/-- The number that is found for an address. -/
theorem WindowInv.mBufferIdMap_iff {es : List WindowStep} {w : CameraPreviewWindow}
    (h : WindowInv es w) (address : ℕ) (bufferId : UInt64) :
    w.mBufferIdMap address = some bufferId ↔ ∃ buffer, Given es address bufferId buffer := by
  rw [h.inverse]
  constructor
  · rintro ⟨c, hc, rfl, rfl⟩
    exact ⟨c.buffer, (h.given c.address c.bufferId c.buffer).2 hc⟩
  · rintro ⟨buffer, hgiven⟩
    exact ⟨_, (h.given address bufferId buffer).1 hgiven, rfl, rfl⟩

/-- What is seen of a call with an address. -/
theorem withBufferId_events {es : List WindowStep} {w w' : CameraPreviewWindow} {o : WindowOutput}
    (h : WindowInv es w) {address : ℕ} {status : Status} {event : UInt64 → WindowEvent}
    (hevent : ∀ bufferId, event bufferId ≠ .outOfRange) (hinj : Function.Injective event)
    (hcall : w.withBufferId address status event = some (w', o)) :
    (∀ bufferId, event bufferId ∈ o.events ↔ ∃ buffer, Given es address bufferId buffer) ∧
      (.outOfRange ∈ o.events ↔ ∀ bufferId buffer, ¬ Given es address bufferId buffer) := by
  have hiff := h.mBufferIdMap_iff address
  rw [CameraPreviewWindow.withBufferId] at hcall
  split at hcall
  · rename_i hnone
    obtain ⟨rfl, rfl⟩ := Prod.mk.inj (Option.some.inj hcall)
    have hnot : ∀ bufferId buffer, ¬ Given es address bufferId buffer := fun bufferId buffer hgiven => by
      have hsome := (hiff bufferId).2 ⟨buffer, hgiven⟩
      rw [hnone] at hsome
      cases hsome
    refine ⟨fun bufferId => ?_, ?_⟩
    · simp [hevent bufferId, hnot]
    · simp [hnot]
  · rename_i id hsome
    obtain ⟨rfl, rfl⟩ := Prod.mk.inj (Option.some.inj hcall)
    refine ⟨fun bufferId => ?_, ?_⟩
    · rw [List.mem_singleton, hinj.eq_iff, ← hiff bufferId, hsome, Option.some.injEq, eq_comm]
    · obtain ⟨buffer, hgiven⟩ := (hiff id).1 hsome
      rw [List.mem_singleton]
      exact ⟨fun heq => absurd heq.symm (hevent id), fun hnot => absurd hgiven (hnot id buffer)⟩

/-- Without a window a call is refused. -/
theorem withWindow_none {w w' : CameraPreviewWindow} {o : WindowOutput}
    {body : ℕ → Option (CameraPreviewWindow × WindowOutput)}
    (h : w.withWindow body = some (w', o)) (hnone : w.mPreviewCallback = none) :
    w' = w ∧ o = ⟨[], invalidOperation⟩ := by
  simp only [CameraPreviewWindow.withWindow, hnone] at h
  obtain ⟨rfl, rfl⟩ := Prod.mk.inj (Option.some.inj h)
  exact ⟨rfl, rfl⟩

/-- Between two clean-ups the numbers of the client, the imported handles and the addresses that the
HAL has belong to each other one to one. A buffer that the HAL enqueues or cancels by an address goes
back to the client's window under the number for which the HAL was given the address since the last
clean-up; where a window is set, an address that was not given since then ends the process, and where
none is set, the call is refused and nothing happens. -/
theorem enqueued_iff {es : List WindowStep} {w : CameraPreviewWindow}
    (hrun : Run CameraPreviewWindow.step .init es w) :
    (∀ address address' bufferId bufferId' buffer buffer',
      Given es address bufferId buffer → Given es address' bufferId' buffer' →
      (bufferId = bufferId' ∨ address = address' ∨ buffer = buffer') →
        bufferId = bufferId' ∧ address = address' ∧ buffer = buffer') ∧
    (∀ address status w' o, w.step (.enqueueBuffer address status) = some (w', o) →
      (∀ window, w.mPreviewCallback = some window →
        (∀ bufferId, .enqueued window bufferId ∈ o.events ↔
          ∃ buffer, Given es address bufferId buffer) ∧
        (.outOfRange ∈ o.events ↔ ∀ bufferId buffer, ¬ Given es address bufferId buffer)) ∧
      (w.mPreviewCallback = none → w' = w ∧ o = ⟨[], invalidOperation⟩)) ∧
    ∀ address status w' o, w.step (.cancelBuffer address status) = some (w', o) →
      (∀ window, w.mPreviewCallback = some window →
        (∀ bufferId, .cancelled window bufferId ∈ o.events ↔
          ∃ buffer, Given es address bufferId buffer) ∧
        (.outOfRange ∈ o.events ↔ ∀ bufferId buffer, ¬ Given es address bufferId buffer)) ∧
      (w.mPreviewCallback = none → w' = w ∧ o = ⟨[], invalidOperation⟩) := by
  have hinv := windowInv_of_run hrun
  refine ⟨fun address address' bufferId bufferId' buffer buffer' hgiven hgiven' heq => ?_,
    fun address status w' o hstep => ?_, fun address status w' o hstep => ?_⟩
  · have hc := (hinv.given address bufferId buffer).1 hgiven
    have hd := (hinv.given address' bufferId' buffer').1 hgiven'
    have hsame := hinv.eq_of_mem hc hd heq
    simp only [Circulating.mk.injEq] at hsame
    exact ⟨hsame.1, hsame.2.2, hsame.2.1⟩
  · rw [CameraPreviewWindow.step.eq_def] at hstep
    split at hstep
    · cases hstep
    · simp only [CameraPreviewWindow.sEnqueueBuffer] at hstep
      refine ⟨fun window hwindow => ?_, withWindow_none hstep⟩
      simp only [CameraPreviewWindow.withWindow, hwindow] at hstep
      exact withBufferId_events hinv (by simp) (fun a b h => by simpa using h) hstep
  · rw [CameraPreviewWindow.step.eq_def] at hstep
    split at hstep
    · cases hstep
    · simp only [CameraPreviewWindow.sCancelBuffer] at hstep
      refine ⟨fun window hwindow => ?_, withWindow_none hstep⟩
      simp only [CameraPreviewWindow.withWindow, hwindow] at hstep
      exact withBufferId_events hinv (by simp) (fun a b h => by simpa using h) hstep

/-- After the clean-up the address of the second buffer is the one given again, and the address of
the first one is not known any more. -/
theorem twoBuffers_enqueued : ∃ es w, exec CameraPreviewWindow.step .init twoBuffers = some (es, w) ∧
    (∀ w' o, w.step (.enqueueBuffer 101 .ok) = some (w', o) →
      (.enqueued 1 8 ∈ o.events ↔ ∃ buffer, Given es 101 8 buffer)) ∧
    ∀ w' o, w.step (.enqueueBuffer 100 .ok) = some (w', o) →
      (.outOfRange ∈ o.events ↔ ∀ bufferId buffer, ¬ Given es 100 bufferId buffer) := by
  refine ⟨_, _, rfl, fun w' o hstep => ?_, fun w' o hstep => ?_⟩
  · exact (((enqueued_iff (run_of_exec (l := twoBuffers) rfl)).2.1 101 .ok w' o hstep).1 1 rfl).1 8
  · exact (((enqueued_iff (run_of_exec (l := twoBuffers) rfl)).2.1 100 .ok w' o hstep).1 1 rfl).2

end AliceHal.Camera
