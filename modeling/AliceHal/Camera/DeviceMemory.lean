import AliceHal.Camera.DeviceRuns

/-!
# Memory and Frames

- `HasMemory`: memory that the HAL has got and not put back
- `MemoryInv`: the objects and the map, by the history
- `found_iff`: which memory is looked up for a frame that the client releases
- `frames_in_memory`: the frames that are used, and those the client hears of, lie in memory that the
  HAL has
-/

namespace AliceHal.Camera

open Lib

/-! ## Histories -/

/-- The client registers memory at an address. -/
def Registers (memId : UInt32) (address : ℕ) (e : DeviceStep) : Prop :=
  ∃ bufSize numBufs, Shows (.registered memId address bufSize numBufs) e

/-- The memory at an address is put back. -/
def PutsBack (address : ℕ) (e : DeviceStep) : Prop := ∃ memId, Shows (.unregistered memId address) e

/-- A number is registered, or memory with this number is put back. -/
def Touches (memId : UInt32) (e : DeviceStep) : Prop :=
  ∃ address, Registers memId address e ∨ Shows (.unregistered memId address) e

/-- Memory that the HAL has got and not put back. -/
def HasMemory (es : List DeviceStep) (address : ℕ) (memory : CameraHeapMemory) : Prop :=
  Since (Shows (.registered memory.mId address memory.mBufSize memory.mNumBufs)) (PutsBack address) es

/-- A frame that was looked up in memory that was not put back since. -/
def FoundIn (es : List DeviceStep) (memId : UInt32) (address index : ℕ) : Prop :=
  Since (Shows (.found memId address index)) (PutsBack address) es

/-! ## What a step does to the memory -/

/-- A frame that is used is in range of the memory that is there; one that the client hears of is in
memory with the number it is told. -/
def CameraDevice.AllowsFrame (d : CameraDevice) : DeviceEvent → Prop
  | .used _ address index => ∀ memory, d.memories address = some memory → index < memory.mNumBufs
  | .dataCallback memId index =>
    ∃ address memory, d.memories address = some memory ∧ memory.mId = memId ∧ index < memory.mNumBufs
  | _ => False

/-- The ways in which a step changes the memory. -/
inductive MemoryEffect (d d' : CameraDevice) (events : List DeviceEvent) : Prop where
  | kept (hmemories : d'.memories = d.memories) (hmap : d'.mMemoryMap = d.mMemoryMap)
      (hevents : ∀ event ∈ events, event.aboutMemory = false ∨ d.AllowsFrame event)
  | lookedUp (frame : VideoFrame) (address : ℕ) (hmemories : d'.memories = d.memories)
      (hmap : d'.mMemoryMap = d.mMemoryMap) (hfound : d.mMemoryMap frame.memId = some address)
      (hevents : events = [.found frame.memId address frame.bufferIndex])
  | registered (address : ℕ) (memory : CameraHeapMemory) (hfree : d.memories address = none)
      (hmemories : d'.memories = Function.update d.memories address (some memory))
      (hmap : d'.mMemoryMap = Function.update d.mMemoryMap memory.mId (some address))
      (hevents : events = [.registered memory.mId address memory.mBufSize memory.mNumBufs])
  | putBack (address : ℕ) (memory : CameraHeapMemory) (hmemory : d.memories address = some memory)
      (hmemories : d'.memories = Function.update d.memories address none)
      (hmap : d'.mMemoryMap = Function.update d.mMemoryMap memory.mId none)
      (hevents : events = [.unregistered memory.mId address])

namespace CameraDevice

variable {d d' : CameraDevice} {call : DeviceCall} {o : DeviceOutput}

theorem memory_quiet (hmemories : d'.memories = d.memories) (hmap : d'.mMemoryMap = d.mMemoryMap) :
    MemoryEffect d d' [] := .kept hmemories hmap fun _ h => absurd h List.not_mem_nil

/-- What closes the device, or calls a function of it, is not about the memory. -/
theorem device_closeLocked : ∀ event ∈ d.closeLocked.2, event.aboutMemory = false := by
  rw [closeLocked]
  split <;> simp [DeviceEvent.aboutMemory]

theorem closeLocked_memories : d.closeLocked.1.memories = d.memories ∧
    d.closeLocked.1.mMemoryMap = d.mMemoryMap := by
  rw [closeLocked]
  split <;> exact ⟨rfl, rfl⟩

theorem memory_closeLocked {d'' : CameraDevice} (hmemories : d''.memories = d.closeLocked.1.memories)
    (hmap : d''.mMemoryMap = d.closeLocked.1.mMemoryMap) : MemoryEffect d d'' d.closeLocked.2 :=
  .kept (hmemories.trans closeLocked_memories.1) (hmap.trans closeLocked_memories.2)
    fun event hevent => Or.inl (device_closeLocked event hevent)

theorem device_statusCall (op : HalOp) (missing : Status) (rc : Option ℤ) :
    ∀ event ∈ (d.statusCall op missing rc).events, event.aboutMemory = false := by
  rw [statusCall.eq_def]
  split <;> simp [DeviceEvent.aboutMemory]

theorem device_voidCall (op : HalOp) (rc : Option ℤ) :
    ∀ event ∈ (d.voidCall op rc).events, event.aboutMemory = false := by
  rw [voidCall.eq_def]
  split <;> simp [DeviceEvent.aboutMemory]

theorem device_boolCall (op : HalOp) (rc : Option ℤ) :
    ∀ event ∈ (d.boolCall op rc).events, event.aboutMemory = false := by
  rw [boolCall.eq_def]
  split <;> simp [DeviceEvent.aboutMemory]

theorem device_method (m : Method) (rc : Option ℤ) :
    ∀ event ∈ (d.method m rc).events, event.aboutMemory = false := by
  cases m with
  | enableMsgType => exact device_voidCall _ rc
  | disableMsgType => exact device_voidCall _ rc
  | stopPreview => exact device_voidCall _ rc
  | stopRecording => exact device_voidCall _ rc
  | msgTypeEnabled => exact device_boolCall _ rc
  | previewEnabled => exact device_boolCall _ rc
  | recordingEnabled => exact device_boolCall _ rc
  | _ => exact device_statusCall _ _ rc

theorem memory_open (callback : ℕ) (reply : OpenReply) :
    MemoryEffect d (d.open callback reply).1 (d.open callback reply).2.events := by
  have hreplaced : ∀ event ∈ d.mDevice.toList.map DeviceEvent.replaced,
      event.aboutMemory = false := by
    intro event hevent
    obtain ⟨_, -, rfl⟩ := List.mem_map.1 hevent
    rfl
  rw [CameraDevice.open]
  split
  · exact memory_quiet rfl rfl
  · simp only
    split
    · exact .kept rfl rfl fun event hevent => Or.inl (hreplaced event hevent)
    · refine .kept rfl rfl fun event hevent => Or.inl ?_
      rcases List.mem_append.1 hevent with hevent | hevent
      · exact hreplaced event hevent
      · cases hcallbacks : reply.takesCallbacks <;>
          simp only [hcallbacks, if_true, Bool.false_eq_true, if_false, List.mem_cons,
            List.not_mem_nil, or_false] at hevent
        · rw [hevent]
          rfl
        · rcases hevent with rfl | rfl <;> rfl

theorem memory_lookUp {provided : Bool} (h : d.lookUp provided = some (d', o)) :
    MemoryEffect d d' o.events := by
  rw [lookUp] at h
  split at h
  · simp only at h
    split at h
    · obtain ⟨rfl, rfl⟩ := Prod.mk.inj (Option.some.inj h)
      exact memory_quiet rfl rfl
    · split at h <;> obtain ⟨rfl, rfl⟩ := Prod.mk.inj (Option.some.inj h)
      · exact memory_quiet rfl rfl
      · rename_i hfound
        exact .lookedUp _ _ rfl rfl hfound rfl
  · cases h

theorem memory_use {isHandleSource cloned : Bool} (h : d.use isHandleSource cloned = some (d', o)) :
    MemoryEffect d d' o.events := by
  rw [use] at h
  split at h
  · simp only at h
    split at h
    · rename_i hgone
      obtain ⟨rfl, rfl⟩ := Prod.mk.inj (Option.some.inj h)
      exact .kept (by rfl) (by rfl) (by simp [AllowsFrame, hgone])
    · rename_i hmemory
      split at h
      · obtain ⟨rfl, rfl⟩ := Prod.mk.inj (Option.some.inj h)
        exact memory_quiet rfl rfl
      · rename_i hrange
        split at h <;> obtain ⟨rfl, rfl⟩ := Prod.mk.inj (Option.some.inj h) <;>
          exact .kept (by rfl) (by rfl) (by
            simp [AllowsFrame, DeviceEvent.aboutMemory, hmemory, not_le.1 hrange])
  · cases h

/-- What a step does to the memory. -/
theorem memory_step (h : d.step call = some (d', o)) : MemoryEffect d d' o.events := by
  rw [step.eq_def] at h
  split at h
  · cases h
  · cases call with
    | setConnectionStatus connected =>
      obtain ⟨-, -, hr⟩ := of_locked h
      rw [setConnectionStatus] at hr
      split at hr <;> obtain ⟨rfl, rfl⟩ := Prod.mk.inj hr
      · exact memory_quiet rfl rfl
      · exact memory_closeLocked rfl rfl
    | «open» callback reply =>
      obtain ⟨-, -, hr⟩ := of_locked h
      have heffect := memory_open (d := d) callback reply
      rwa [hr] at heffect
    | close =>
      obtain ⟨-, -, hr⟩ := of_locked h
      obtain ⟨rfl, rfl⟩ := Prod.mk.inj hr
      exact memory_closeLocked rfl rfl
    | method m rc =>
      obtain ⟨-, -, hr⟩ := of_locked h
      obtain ⟨rfl, rfl⟩ := Prod.mk.inj hr
      exact .kept rfl rfl fun event hevent => Or.inl (device_method m rc event hevent)
    | getParameters provided putProvided =>
      obtain ⟨-, -, hr⟩ := of_locked h
      obtain ⟨rfl, rfl⟩ := Prod.mk.inj hr
      refine .kept rfl rfl ?_
      rw [getParameters.eq_def]
      cases d.mDevice <;> cases provided <;> cases putProvided <;> simp [DeviceEvent.aboutMemory]
    | dumpState handle rc =>
      obtain ⟨-, -, hr⟩ := of_locked h
      obtain ⟨rfl, rfl⟩ := Prod.mk.inj hr
      refine .kept rfl rfl ?_
      rw [dumpState.eq_def]
      split
      · simp
      · split <;> simp [DeviceEvent.aboutMemory]
    | releaseRecordingFrames frames =>
      obtain ⟨-, -, hr⟩ := of_locked h
      obtain ⟨rfl, rfl⟩ := Prod.mk.inj hr
      exact memory_quiet rfl rfl
    | lookUp provided => exact memory_lookUp h
    | use isHandleSource cloned => exact memory_use h
    | getMemory bufSize numBufs address memId =>
      simp only [sGetMemory] at h
      split at h
      · obtain ⟨rfl, rfl⟩ := Prod.mk.inj (Option.some.inj h)
        exact memory_quiet rfl rfl
      · split at h
        · cases h
        · rename_i hfree
          obtain ⟨rfl, rfl⟩ := Prod.mk.inj (Option.some.inj h)
          rw [Bool.not_eq_true, Option.isSome_eq_false_iff, Option.isNone_iff_eq_none] at hfree
          exact .registered address ⟨bufSize, numBufs, memId⟩ hfree rfl rfl rfl
    | putMemory address =>
      simp only [sPutMemory] at h
      split at h
      · cases h
      · rename_i memory hmemory
        obtain ⟨rfl, rfl⟩ := Prod.mk.inj (Option.some.inj h)
        exact .putBack address memory hmemory rfl rfl rfl
    | dataCb address index =>
      simp only [sDataCb] at h
      split at h
      · cases h
      · split at h <;> obtain ⟨rfl, rfl⟩ := Prod.mk.inj (Option.some.inj h)
        · exact memory_quiet rfl rfl
        · rename_i memory hmemory hrange
          rw [not_or, not_le] at hrange
          refine .kept rfl rfl fun event hevent => Or.inr ?_
          rw [List.mem_singleton.1 hevent]
          exact ⟨address, memory, hmemory, rfl, hrange.1⟩
    | destroy =>
      obtain ⟨-, -, hr⟩ := of_locked h
      obtain ⟨rfl, rfl⟩ := Prod.mk.inj hr
      exact memory_closeLocked rfl rfl

end CameraDevice

/-! ## The invariant -/

/-- The memory after a history. -/
structure MemoryInv (es : List DeviceStep) (d : CameraDevice) : Prop where
  /-- the objects are the memory that the HAL has -/
  memories : ∀ address memory, HasMemory es address memory ↔ d.memories address = some memory
  /-- the map leads to the memory registered last, unless the number was given up since -/
  map : ∀ memId address, Since (Registers memId address) (Touches memId) es ↔
    d.mMemoryMap memId = some address
  /-- what the map leads to is there -/
  live : ∀ memId address, d.mMemoryMap memId = some address →
    ∃ memory, d.memories address = some memory ∧ memory.mId = memId
  /-- so is what was found and not put back since -/
  found : ∀ memId address index, FoundIn es memId address index →
    ∃ memory, d.memories address = some memory ∧ memory.mId = memId

theorem memoryInv_init : MemoryInv [] .init where
  memories := by simp [CameraDevice.init, HasMemory, not_since_nil]
  map := by simp [CameraDevice.init, not_since_nil]
  live := by simp [CameraDevice.init]
  found := fun _ _ _ h => absurd h not_since_nil

section

variable {es : List DeviceStep} {e : DeviceStep} {memId : UInt32} {address index : ℕ}
  {memory : CameraHeapMemory}

theorem hasMemory_concat : HasMemory (es ++ [e]) address memory ↔
    Shows (.registered memory.mId address memory.mBufSize memory.mNumBufs) e ∨
      HasMemory es address memory ∧ ¬ PutsBack address e := since_concat

theorem foundIn_concat : FoundIn (es ++ [e]) memId address index ↔
    Shows (.found memId address index) e ∨ FoundIn es memId address index ∧ ¬ PutsBack address e :=
  since_concat

end

/-- A step that leaves the memory keeps the invariant. -/
theorem MemoryInv.keep {es : List DeviceStep} {d d' : CameraDevice} {e : DeviceStep}
    (h : MemoryInv es d) (hmemories : d'.memories = d.memories) (hmap : d'.mMemoryMap = d.mMemoryMap)
    (hregistered : ∀ memId address bufSize numBufs,
      ¬ Shows (.registered memId address bufSize numBufs) e)
    (hunregistered : ∀ memId address, ¬ Shows (.unregistered memId address) e)
    (hfound : ∀ memId address index, Shows (.found memId address index) e →
      d.mMemoryMap memId = some address) : MemoryInv (es ++ [e]) d' := by
  have hputs : ∀ address, ¬ PutsBack address e := fun address ⟨memId, hmem⟩ => hunregistered _ _ hmem
  have hregisters : ∀ memId address, ¬ Registers memId address e :=
    fun memId address ⟨_, _, hmem⟩ => hregistered _ _ _ _ hmem
  have htouches : ∀ memId, ¬ Touches memId e := by
    rintro memId ⟨address, hmem | hmem⟩
    · exact hregisters _ _ hmem
    · exact hunregistered _ _ hmem
  refine ⟨fun address memory => ?_, fun memId address => ?_, fun memId address hsome => ?_,
    fun memId address index hin => ?_⟩
  · rw [hasMemory_concat, hmemories, ← h.memories]
    simp [hregistered, hputs]
  · rw [since_concat, hmap, ← h.map]
    simp [hregisters, htouches]
  · rw [hmap] at hsome
    rw [hmemories]
    exact h.live memId address hsome
  · rw [hmemories]
    rcases foundIn_concat.1 hin with hnow | ⟨hbefore, -⟩
    · exact h.live memId address (hfound memId address index hnow)
    · exact h.found memId address index hbefore

/-- Every step keeps the invariant. -/
theorem MemoryInv.step {es : List DeviceStep} {d d' : CameraDevice} {call : DeviceCall}
    {o : DeviceOutput} (h : MemoryInv es d) (hstep : d.step call = some (d', o)) :
    MemoryInv (es ++ [(call, o)]) d' := by
  cases CameraDevice.memory_step hstep with
  | kept hmemories hmap hevents =>
    have hnot : ∀ event : DeviceEvent, event.aboutMemory = true → ¬ d.AllowsFrame event →
        ¬ Shows event (call, o) := by
      intro event habout hallows hshows
      rcases hevents event hshows with hother | hframe
      · rw [habout] at hother
        cases hother
      · exact hallows hframe
    exact h.keep hmemories hmap (fun _ _ _ _ => hnot _ rfl id) (fun _ _ => hnot _ rfl id)
      fun _ _ _ hshows => absurd hshows (hnot _ rfl id)
  | lookedUp frame address hmemories hmap hfound hevents =>
    refine h.keep hmemories hmap (by simp [Shows, hevents]) (by simp [Shows, hevents]) ?_
    intro memId address' index hshows
    simp only [Shows, hevents, List.mem_singleton, DeviceEvent.found.injEq] at hshows
    rw [hshows.1, hshows.2.1]
    exact hfound
  | registered address memory hfree hmemories hmap hevents =>
    have hputs : ∀ address', ¬ PutsBack address' (call, o) := by simp [PutsBack, Shows, hevents]
    have hregisters : ∀ memId address', Registers memId address' (call, o) ↔
        memId = memory.mId ∧ address' = address := by
      intro memId address'
      simp [Registers, Shows, hevents]
    have htouches : ∀ memId, Touches memId (call, o) ↔ memId = memory.mId := by
      intro memId
      simp [Touches, hregisters, Shows, hevents]
    refine ⟨fun address' memory' => ?_, fun memId address' => ?_, fun memId address' hsome => ?_,
      fun memId address' index hin => ?_⟩
    · rw [hasMemory_concat, hmemories, h.memories]
      simp only [Shows, hevents, List.mem_singleton, DeviceEvent.registered.injEq, hputs,
        not_false_eq_true, and_true]
      by_cases haddress : address' = address
      · subst haddress
        rw [Function.update_self, hfree]
        obtain ⟨size, bufs, id⟩ := memory
        obtain ⟨size', bufs', id'⟩ := memory'
        simp only [true_and, reduceCtorEq, or_false, Option.some.injEq, CameraHeapMemory.mk.injEq]
        constructor
        · rintro ⟨rfl, rfl, rfl⟩
          exact ⟨rfl, rfl, rfl⟩
        · rintro ⟨rfl, rfl, rfl⟩
          exact ⟨rfl, rfl, rfl⟩
      · rw [Function.update_of_ne haddress]
        simp [haddress]
    · rw [since_concat, hmap, h.map, hregisters, htouches]
      by_cases hid : memId = memory.mId
      · rw [hid, Function.update_self]
        simp [eq_comm]
      · rw [Function.update_of_ne hid]
        simp [hid]
    · rw [hmap] at hsome
      rw [hmemories]
      by_cases hid : memId = memory.mId
      · subst hid
        rw [Function.update_self, Option.some.injEq] at hsome
        exact ⟨memory, by rw [← hsome, Function.update_self], rfl⟩
      · rw [Function.update_of_ne hid] at hsome
        obtain ⟨memory', hmemory', hid'⟩ := h.live memId address' hsome
        -- the new address was free
        have hne : address' ≠ address := by
          rintro rfl
          rw [hfree] at hmemory'
          cases hmemory'
        exact ⟨memory', by rw [Function.update_of_ne hne]; exact hmemory', hid'⟩
    · rcases foundIn_concat.1 hin with hnow | ⟨hbefore, -⟩
      · simp [Shows, hevents] at hnow
      · obtain ⟨memory', hmemory', hid'⟩ := h.found memId address' index hbefore
        have hne : address' ≠ address := by
          rintro rfl
          rw [hfree] at hmemory'
          cases hmemory'
        rw [hmemories]
        exact ⟨memory', by rw [Function.update_of_ne hne]; exact hmemory', hid'⟩
  | putBack address memory hmemory hmemories hmap hevents =>
    have hputs : ∀ address', PutsBack address' (call, o) ↔ address' = address := by
      intro address'
      simp [PutsBack, Shows, hevents]
    have hregisters : ∀ memId address', ¬ Registers memId address' (call, o) := by
      simp [Registers, Shows, hevents]
    have htouches : ∀ memId, Touches memId (call, o) ↔ memId = memory.mId := by
      intro memId
      simp [Touches, hregisters, Shows, hevents]
    refine ⟨fun address' memory' => ?_, fun memId address' => ?_, fun memId address' hsome => ?_,
      fun memId address' index hin => ?_⟩
    · rw [hasMemory_concat, hmemories, h.memories, hputs]
      by_cases haddress : address' = address
      · subst haddress
        simp [Shows, hevents]
      · rw [Function.update_of_ne haddress]
        simp [Shows, hevents, haddress]
    · rw [since_concat, hmap, h.map, htouches]
      by_cases hid : memId = memory.mId
      · rw [hid, Function.update_self]
        simp [hregisters]
      · rw [Function.update_of_ne hid]
        simp [hregisters, hid]
    · rw [hmap] at hsome
      by_cases hid : memId = memory.mId
      · rw [hid, Function.update_self] at hsome
        cases hsome
      · rw [Function.update_of_ne hid] at hsome
        obtain ⟨memory', hmemory', hid'⟩ := h.live memId address' hsome
        -- the memory put back has another number
        have hne : address' ≠ address := by
          rintro rfl
          rw [hmemory, Option.some.injEq] at hmemory'
          exact hid (by rw [← hid', hmemory'])
        rw [hmemories]
        exact ⟨memory', by rw [Function.update_of_ne hne]; exact hmemory', hid'⟩
    · rcases foundIn_concat.1 hin with hnow | ⟨hbefore, hnot⟩
      · simp [Shows, hevents] at hnow
      · rw [hputs] at hnot
        rw [hmemories, Function.update_of_ne hnot]
        exact h.found memId address' index hbefore

theorem memoryInv_of_run {es : List DeviceStep} {d : CameraDevice}
    (h : Run CameraDevice.step .init es d) : MemoryInv es d := by
  induction h with
  | nil => exact memoryInv_init
  | snoc _ hstep ih => exact ih.step hstep

/-! ## Results -/

/-- The memory in which a frame of an open device is looked up is the one that was registered last
under the number that the client gives, if the number was not given up since. It was not put back. -/
theorem found_iff {es : List DeviceStep} {d d' : CameraDevice} {o : DeviceOutput}
    {frame : VideoFrame} {frames : List VideoFrame} (hrun : Run CameraDevice.step .init es d)
    (hframes : d.releasing = frame :: frames) (hopen : ∃ device, Held es device)
    (hstep : d.step (.lookUp true) = some (d', o)) (memId : UInt32) (address index : ℕ) :
    .found memId address index ∈ o.events ↔ memId = frame.memId ∧ index = frame.bufferIndex ∧
      Since (Registers memId address) (Touches memId) es ∧
      ∃ bufSize numBufs, HasMemory es address ⟨bufSize, numBufs, memId⟩ := by
  have hinv := memoryInv_of_run hrun
  obtain ⟨device, hheld⟩ := hopen
  have hdevice := ((deviceInv_of_run hrun).held device).1 hheld
  have hmap := hinv.map frame.memId
  have hlive := hinv.live frame.memId
  rw [CameraDevice.step.eq_def] at hstep
  split at hstep
  · cases hstep
  · simp only [CameraDevice.lookUp, hframes] at hstep
    split at hstep
    · rename_i frame' frames' _ hsame
      obtain ⟨rfl, rfl⟩ := List.cons.inj hsame
      rw [if_neg (by simp [hdevice])] at hstep
      split at hstep
      · rename_i hnone
        obtain ⟨rfl, rfl⟩ := Prod.mk.inj (Option.some.inj hstep)
        refine ⟨fun h => absurd h List.not_mem_nil, ?_⟩
        rintro ⟨rfl, -, hsince, -⟩
        rw [hmap, hnone] at hsince
        cases hsince
      · rename_i address' hsome
        obtain ⟨rfl, rfl⟩ := Prod.mk.inj (Option.some.inj hstep)
        rw [List.mem_singleton, DeviceEvent.found.injEq]
        constructor
        · rintro ⟨rfl, rfl, rfl⟩
          obtain ⟨memory, hmemory, hid⟩ := hlive _ hsome
          refine ⟨rfl, rfl, (hmap _).2 hsome, memory.mBufSize, memory.mNumBufs, ?_⟩
          apply (hinv.memories _ _).2
          rw [hmemory, ← hid]
        · rintro ⟨rfl, rfl, hsince, -⟩
          rw [hmap, hsome, Option.some.injEq] at hsince
          exact ⟨rfl, hsince.symm, rfl⟩
    · cases hstep

/-- A client opens the camera and gives a frame back. -/
def oneFrame : List DeviceCall :=
  [.open 1 ⟨0, 0, 5, true⟩, .getMemory 16 4 100 9, .getMemory 16 4 200 8,
    .releaseRecordingFrames [⟨9, 2, false⟩]]

theorem oneFrame_found : ∃ es d, exec CameraDevice.step .init oneFrame = some (es, d) ∧
    ∀ d' o, d.step (.lookUp true) = some (d', o) →
      (.found 9 100 2 ∈ o.events ↔ (9 : UInt32) = 9 ∧ 2 = 2 ∧
        Since (Registers 9 100) (Touches 9) es ∧
          ∃ bufSize numBufs, HasMemory es 100 ⟨bufSize, numBufs, 9⟩) := by
  refine ⟨_, _, rfl, fun d' o hstep => ?_⟩
  have hrun : Run CameraDevice.step .init _ _ := run_of_exec (l := oneFrame) rfl
  exact found_iff hrun rfl ⟨5, ((deviceInv_of_run hrun).held 5).2 rfl⟩ hstep 9 100 2

/-- A frame that is used for the client, in memory that the HAL has not put back since the frame was
looked up, lies in the buffers of memory that the HAL has and that the client knows by the number it
gave. So does a frame of which the client is told. -/
theorem frames_in_memory {es : List DeviceStep} {d d' : CameraDevice} {call : DeviceCall}
    {o : DeviceOutput} (hrun : Run CameraDevice.step .init es d)
    (hstep : d.step call = some (d', o)) :
    (∀ memId address index, .used memId address index ∈ o.events →
      FoundIn es memId address index →
        ∃ bufSize numBufs, HasMemory es address ⟨bufSize, numBufs, memId⟩ ∧ index < numBufs) ∧
    ∀ memId index, .dataCallback memId index ∈ o.events →
      ∃ address bufSize numBufs, HasMemory es address ⟨bufSize, numBufs, memId⟩ ∧
        index < numBufs := by
  have hinv := memoryInv_of_run hrun
  have hallowed : ∀ event ∈ o.events, event.aboutMemory = true →
      (∀ memId address, ∀ bufSize numBufs, event ≠ .registered memId address bufSize numBufs) →
      (∀ memId address, event ≠ .unregistered memId address) →
      (∀ memId address index, event ≠ .found memId address index) → d.AllowsFrame event := by
    intro event hevent habout hregistered hunregistered hfound
    cases CameraDevice.memory_step hstep with
    | kept _ _ hevents =>
      rcases hevents event hevent with hother | hframe
      · rw [habout] at hother
        cases hother
      · exact hframe
    | lookedUp _ _ _ _ _ hevents =>
      rw [hevents, List.mem_singleton] at hevent
      exact absurd hevent (hfound _ _ _)
    | registered _ _ _ _ _ hevents =>
      rw [hevents, List.mem_singleton] at hevent
      exact absurd hevent (hregistered _ _ _ _)
    | putBack _ _ _ _ _ hevents =>
      rw [hevents, List.mem_singleton] at hevent
      exact absurd hevent (hunregistered _ _)
  refine ⟨fun memId address index hused hin => ?_, fun memId index hcallback => ?_⟩
  · have hrange : ∀ memory, d.memories address = some memory → index < memory.mNumBufs :=
      hallowed _ hused rfl (by simp) (by simp) (by simp)
    obtain ⟨memory, hmemory, hid⟩ := hinv.found memId address index hin
    refine ⟨memory.mBufSize, memory.mNumBufs, (hinv.memories _ _).2 ?_, hrange memory hmemory⟩
    rw [hmemory, ← hid]
  · have hframe : ∃ address memory, d.memories address = some memory ∧ memory.mId = memId ∧
        index < memory.mNumBufs := hallowed _ hcallback rfl (by simp) (by simp) (by simp)
    obtain ⟨address, memory, hmemory, hid, hrange⟩ := hframe
    refine ⟨address, memory.mBufSize, memory.mNumBufs, (hinv.memories _ _).2 ?_, hrange⟩
    rw [hmemory, ← hid]

theorem oneFrame_used : ∃ es d, exec CameraDevice.step .init (oneFrame ++ [.lookUp true]) =
    some (es, d) ∧ ∀ d' o, d.step (.use false false) = some (d', o) →
      .used 9 100 2 ∈ o.events → FoundIn es 9 100 2 →
        ∃ bufSize numBufs, HasMemory es 100 ⟨bufSize, numBufs, 9⟩ ∧ 2 < numBufs := by
  refine ⟨_, _, rfl, fun d' o hstep => ?_⟩
  exact (frames_in_memory (run_of_exec (l := oneFrame ++ [.lookUp true]) rfl) hstep).1 9 100 2

/-- The HAL may put the memory back between the lookup and the use: the object is gone then. -/
theorem oneFrame_gone : ∃ es d d' o, exec CameraDevice.step .init
    (oneFrame ++ [.lookUp true, .putMemory 100]) = some (es, d) ∧
      d.step (.use false false) = some (d', o) ∧ .used 9 100 2 ∈ o.events ∧
        d.memories 100 = none :=
  ⟨_, _, _, _, rfl, rfl, List.mem_cons_self, rfl⟩

end AliceHal.Camera
