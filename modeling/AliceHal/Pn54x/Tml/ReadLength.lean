import AliceHal.Pn54x.Tml.I2cRead
import AliceHal.Pn54x.Tml.Reader

/-!
# Packets and Requests

How long a packet may be for the buffer it goes to. The reader thread takes what the device sends,
up to its own 260 bytes, and copies all of it to the buffer of the request: the length that
`phTmlNfc_Read` was given is stored, and overwritten with the length of the packet.

- `SizedReader`: the reader with the length that the current request asked for
- `SizedReader.Fits`: the steps that keep packets within requests
- `FitsRequests`: what is stored and reported, against the request it is for
- `fitsRequests_of_fits`: runs of such steps
- `transfer_fits_iff`: one request with its packet
- `read_le`, `downloadFrame_fits`: what the device can send, and the frame buffer of the download
  module
-/

namespace AliceHal.Pn54x.Tml

open Lib

/-! ## The requested length -/

/-- The reader, and the `wLength` of the request whose data `tReadInfo` holds, which the field
itself loses when a packet is posted. -/
structure SizedReader where
  reader : ReaderState
  requested : ℕ

/-- What a step shows, and how many bytes it stores for which request. -/
structure SizedOutput where
  output : ReaderOutput
  stored : Option (ℕ × ℕ)

namespace SizedReader

def init : SizedReader := ⟨.init, 0⟩

/-- The length of the current request after a step that shows `o`. -/
def requestedAfter (requested : ℕ) : ReaderOutput → ℕ
  | .accepted _ args => args.wLength
  | .refused _ | .aborted _ | .silent | .delivered _ => requested

/-- What a step stores: the reader thread copies the whole packet. -/
def stores (s : ReaderState) : ReaderInput → Option (ℕ × ℕ)
  | .copy =>
    match s.stage with
    | .read packet => some (s.current, packet.bytes.length)
    | .waiting | .reading _ | .copied _ => none
  | .read _ | .readAbort | .wake | .i2cRead _ | .post | .deliver => none

/-- The steps of the reader. -/
def step (s : SizedReader) (i : ReaderInput) : Option (SizedReader × SizedOutput) :=
  (s.reader.step i).map fun r =>
    (⟨r.1, requestedAfter s.requested r.2⟩, ⟨r.2, stores s.reader i⟩)

/-- The length of a packet that the reader thread has in its buffer, or has copied. -/
def held : ReaderStage → List ℕ
  | .read packet => [packet.bytes.length]
  | .copied length => [length]
  | .waiting | .reading _ => []

/-- A request of this length has room for the packets under way: the one that the reader thread
has, and the one in the queue. -/
def Room (s : ReaderState) (wLength : ℕ) : Prop :=
  (∀ length ∈ held s.stage, length ≤ wLength) ∧
  (0 < s.messages → s.tTransactionInfo.wLength ≤ wLength)

instance (s : ReaderState) (wLength : ℕ) : Decidable (Room s wLength) :=
  inferInstanceAs (Decidable (_ ∧ _))

/-- A packet that the device sends is at most as long as the current request asks for, and so are
the packets under way when a request is accepted. -/
def Fits (s : SizedReader) : ReaderInput → Prop
  | .read args =>
    (s.reader.phTmlNfcRead args).2 = .accepted s.reader.accepted args → Room s.reader args.wLength
  | .i2cRead (some bytes) => bytes.length ≤ ReaderState.maxPacket → bytes.length ≤ s.requested
  | .i2cRead none | .readAbort | .wake | .copy | .post | .deliver => True

instance (s : SizedReader) (i : ReaderInput) : Decidable (s.Fits i) :=
  match i with
  | .read args =>
    inferInstanceAs (Decidable ((s.reader.phTmlNfcRead args).2 = .accepted s.reader.accepted args →
      Room s.reader args.wLength))
  | .i2cRead (some bytes) =>
    inferInstanceAs (Decidable (bytes.length ≤ ReaderState.maxPacket →
      bytes.length ≤ s.requested))
  | .i2cRead none | .readAbort | .wake | .copy | .post | .deliver => isTrue trivial

end SizedReader

/-- What is stored in a buffer, and the length that is reported to a callback, is at most what the
request asked for. -/
structure FitsRequests (os : List SizedOutput) : Prop where
  stored : ∀ o ∈ os, ∀ r count, o.stored = some (r, count) →
    ∃ args, .accepted r args ∈ os.map SizedOutput.output ∧ count ≤ args.wLength
  reported : ∀ d, .delivered d ∈ os.map SizedOutput.output →
    ∃ args, .accepted d.request args ∈ os.map SizedOutput.output ∧ d.info.wLength ≤ args.wLength

namespace FitsRequests

variable {os : List SizedOutput} {o : SizedOutput}

theorem nil : FitsRequests [] :=
  ⟨fun _ ho => absurd ho List.not_mem_nil, fun _ hd => absurd hd List.not_mem_nil⟩

/-- One more step. -/
theorem snoc (h : FitsRequests os)
    (hstored : ∀ r count, o.stored = some (r, count) →
      ∃ args, .accepted r args ∈ os.map SizedOutput.output ∧ count ≤ args.wLength)
    (hreported : ∀ d, o.output = .delivered d →
      ∃ args, .accepted d.request args ∈ os.map SizedOutput.output ∧
        d.info.wLength ≤ args.wLength) :
    FitsRequests (os ++ [o]) := by
  have hleft : ∀ {r args}, .accepted r args ∈ os.map SizedOutput.output →
      .accepted r args ∈ (os ++ [o]).map SizedOutput.output := fun hmem => by
    rw [List.map_append]
    exact List.mem_append_left _ hmem
  refine ⟨fun o' ho' r count hr => ?_, fun d hd => ?_⟩
  · rcases List.mem_append.1 ho' with ho' | ho'
    · obtain ⟨args, hargs, hle⟩ := h.stored o' ho' r count hr
      exact ⟨args, hleft hargs, hle⟩
    · rw [List.mem_singleton.1 ho'] at hr
      obtain ⟨args, hargs, hle⟩ := hstored r count hr
      exact ⟨args, hleft hargs, hle⟩
  · rw [List.map_append] at hd
    rcases List.mem_append.1 hd with hd | hd
    · obtain ⟨args, hargs, hle⟩ := h.reported d hd
      exact ⟨args, hleft hargs, hle⟩
    · obtain ⟨args, hargs, hle⟩ := hreported d (List.mem_singleton.1 hd).symm
      exact ⟨args, hleft hargs, hle⟩

end FitsRequests

/-! ## Runs -/

/-- The invariant of runs. -/
structure Sized (os : List SizedOutput) (s : SizedReader) : Prop where
  /-- what is under way fits the current request -/
  room : SizedReader.Room s.reader s.requested
  /-- where something may come, a request was accepted -/
  known : (∃ args, .accepted s.reader.current args ∈ os.map SizedOutput.output ∧
      args.wLength = s.requested) ∨
    s.reader.stage = .waiting ∧ s.reader.messages = 0 ∧ s.reader.tReadInfo.bEnable = false
  requests : FitsRequests os

namespace Sized

variable {os : List SizedOutput} {s u : SizedReader} {o : SizedOutput}

theorem init : Sized [] SizedReader.init where
  room := ⟨fun _ hmem => absurd hmem List.not_mem_nil, fun hpos => absurd hpos (Nat.lt_irrefl 0)⟩
  known := .inr ⟨rfl, rfl, rfl⟩
  requests := .nil

/-- A step that keeps the current request, its number and its length. -/
theorem keep (h : Sized os s) (hcurrent : u.reader.current = s.reader.current)
    (hrequested : u.requested = s.requested)
    (hroom : SizedReader.Room u.reader s.requested)
    (hidle : s.reader.stage = .waiting → s.reader.messages = 0 →
      s.reader.tReadInfo.bEnable = false →
      u.reader.stage = .waiting ∧ u.reader.messages = 0 ∧ u.reader.tReadInfo.bEnable = false)
    (hrequests : FitsRequests (os ++ [o])) : Sized (os ++ [o]) u where
  room := by
    rw [hrequested]
    exact hroom
  known := by
    rcases h.known with ⟨args, hargs, hlen⟩ | ⟨hstage, hmessages, henable⟩
    · left
      refine ⟨args, ?_, hlen.trans hrequested.symm⟩
      rw [hcurrent, List.map_append]
      exact List.mem_append_left _ hargs
    · exact .inr (hidle hstage hmessages henable)
  requests := hrequests

/-- A step that neither stores nor reports. -/
theorem quiet (h : Sized os s) (hstored : o.stored = none)
    (hreported : ∀ d, o.output ≠ .delivered d) : FitsRequests (os ++ [o]) :=
  h.requests.snoc (fun r count hr => by rw [hstored] at hr; cases hr)
    (fun d hd => absurd hd (hreported d))

/-- Where a packet is under way, the current request is known. -/
theorem known_of_busy (h : Sized os s) (hbusy : s.reader.stage ≠ .waiting ∨ 0 < s.reader.messages) :
    ∃ args, .accepted s.reader.current args ∈ os.map SizedOutput.output ∧
      args.wLength = s.requested := by
  rcases h.known with hknown | ⟨hstage, hmessages, -⟩
  · exact hknown
  · exfalso
    rcases hbusy with hbusy | hbusy
    · exact hbusy hstage
    · omega

theorem read (h : Sized os s) (args : ReadArgs) (hfits : s.Fits (.read args)) :
    Sized (os ++ [⟨(s.reader.phTmlNfcRead args).2, none⟩])
      ⟨(s.reader.phTmlNfcRead args).1,
        SizedReader.requestedAfter s.requested (s.reader.phTmlNfcRead args).2⟩ := by
  rw [SizedReader.Fits, ReaderState.phTmlNfcRead] at hfits
  rw [ReaderState.phTmlNfcRead]
  split_ifs at hfits ⊢ with hargs hbusy
  · -- the request is accepted: it must fit what is under way
    refine ⟨hfits rfl, .inl ⟨args, ?_, rfl⟩, h.quiet rfl fun d hd => by cases hd⟩
    rw [List.map_append]
    exact List.mem_append_right _ List.mem_cons_self
  · exact h.keep rfl rfl h.room (fun hs hm he => ⟨hs, hm, he⟩)
      (h.quiet rfl fun d hd => by cases hd)
  · exact h.keep rfl rfl h.room (fun hs hm he => ⟨hs, hm, he⟩)
      (h.quiet rfl fun d hd => by cases hd)

theorem wake (h : Sized os s) :
    Sized (os ++ [⟨.silent, none⟩]) ⟨s.reader.wake, s.requested⟩ := by
  apply h.keep
  · rfl
  · rfl
  · -- the thread blocks in the read, or waits again: it holds no packet
    refine ⟨fun length hmem => ?_, h.room.2⟩
    cases henable : s.reader.tReadInfo.bEnable with
    | false => simp [ReaderState.wake, henable, SizedReader.held] at hmem
    | true => simp [ReaderState.wake, henable, SizedReader.held] at hmem
  · intro _ hmessages henable
    exact ⟨by simp [ReaderState.wake, henable], hmessages, henable⟩
  · exact h.quiet rfl fun d hd => by cases hd

theorem i2cRead (h : Sized os s) {r : ℕ} (hstage : s.reader.stage = .reading r)
    (result : Option (List UInt8)) (hfits : s.Fits (.i2cRead result)) :
    Sized (os ++ [⟨.silent, none⟩]) ⟨s.reader.i2cRead r result, s.requested⟩ := by
  have hquiet : FitsRequests (os ++ [⟨.silent, none⟩]) := h.quiet rfl fun d hd => by cases hd
  have hidle : s.reader.stage ≠ .waiting := by
    rw [hstage]
    exact ReaderStage.noConfusion
  cases result with
  | none =>
    exact h.keep rfl rfl ⟨fun _ hmem => absurd hmem List.not_mem_nil, h.room.2⟩
      (fun hwaiting => absurd hwaiting hidle) hquiet
  | some bytes =>
    rw [ReaderState.i2cRead]
    split
    · exact h.keep rfl rfl ⟨fun _ hmem => absurd hmem List.not_mem_nil, h.room.2⟩
        (fun hwaiting => absurd hwaiting hidle) hquiet
    · -- a packet arrives
      rename_i hshort
      refine h.keep rfl rfl ⟨fun length hmem => ?_, h.room.2⟩
        (fun hwaiting => absurd hwaiting hidle) hquiet
      rw [List.mem_singleton.1 hmem]
      exact hfits (Nat.not_lt.1 hshort)

theorem copy (h : Sized os s) {packet : Packet} (hstage : s.reader.stage = .read packet) :
    Sized (os ++ [⟨.silent, some (s.reader.current, packet.bytes.length)⟩])
      ⟨s.reader.copy packet, s.requested⟩ := by
  have hlength : packet.bytes.length ≤ s.requested := by
    apply h.room.1
    rw [hstage]
    exact List.mem_cons_self
  have hbusy : s.reader.stage ≠ .waiting := by
    rw [hstage]
    exact ReaderStage.noConfusion
  apply h.keep
  · rfl
  · rfl
  · refine ⟨fun length hmem => ?_, h.room.2⟩
    rw [List.mem_singleton.1 hmem]
    exact hlength
  · exact fun hwaiting => absurd hwaiting hbusy
  · -- the buffer of the current request takes the packet
    apply h.requests.snoc
    · intro r count hstored
      obtain ⟨args, hargs, hlen⟩ := h.known_of_busy (.inl hbusy)
      cases hstored
      exact ⟨args, hargs, hlen ▸ hlength⟩
    · intro d hd
      cases hd

theorem post (h : Sized os s) {length : ℕ} (hstage : s.reader.stage = .copied length) :
    Sized (os ++ [⟨.silent, none⟩]) ⟨s.reader.post length, s.requested⟩ := by
  have hlength : length ≤ s.requested := by
    apply h.room.1
    rw [hstage]
    exact List.mem_cons_self
  apply h.keep
  · rfl
  · rfl
  · exact ⟨fun _ hmem => absurd hmem List.not_mem_nil, fun _ => hlength⟩
  · intro hwaiting
    rw [hstage] at hwaiting
    cases hwaiting
  · exact h.quiet rfl fun d hd => by cases hd

theorem deliver (h : Sized os s) (hpos : 0 < s.reader.messages) :
    Sized (os ++ [⟨s.reader.readDeferredCb.2, none⟩]) ⟨s.reader.readDeferredCb.1, s.requested⟩ := by
  have hlength := h.room.2 hpos
  apply h.keep
  · rfl
  · rfl
  · exact ⟨h.room.1, fun _ => hlength⟩
  · intro _ hmessages
    omega
  · apply h.requests.snoc
    · intro r count hstored
      cases hstored
    · intro d hd
      obtain ⟨args, hargs, hlen⟩ := h.known_of_busy (.inr hpos)
      cases hd
      exact ⟨args, hargs, hlen ▸ hlength⟩

/-- Every step that fits. -/
theorem step (h : Sized os s) {i : ReaderInput} (hi : s.Fits i) (hs : s.step i = some (u, o)) :
    Sized (os ++ [o]) u := by
  obtain ⟨r, hr, heq⟩ := Option.map_eq_some_iff.1 hs
  cases heq
  cases i with
  | read args =>
    cases hr
    exact h.read args hi
  | readAbort =>
    cases hr
    exact h.keep rfl rfl h.room (fun hstage hm _ => ⟨hstage, hm, rfl⟩)
      (h.quiet rfl fun d hd => by cases hd)
  | wake =>
    rw [ReaderState.step, Option.ite_none_right_eq_some] at hr
    obtain ⟨-, hr⟩ := hr
    cases hr
    exact h.wake
  | i2cRead result =>
    rw [ReaderState.step] at hr
    split at hr
    · rename_i request hstage
      cases hr
      exact h.i2cRead hstage result hi
    · cases hr
  | copy =>
    rw [ReaderState.step] at hr
    split at hr
    · rename_i packet hstage
      cases hr
      simp only [SizedReader.stores, hstage]
      exact h.copy hstage
    · cases hr
  | post =>
    rw [ReaderState.step] at hr
    split at hr
    · rename_i length hstage
      cases hr
      exact h.post hstage
    · cases hr
  | deliver =>
    rw [ReaderState.step, Option.ite_none_right_eq_some] at hr
    obtain ⟨hpos, hr⟩ := hr
    cases hr
    exact h.deliver hpos

end Sized

/-- In every run whose packets fit the requests they meet, nothing is stored past a buffer, and no
callback is told of more than it asked for. -/
theorem fitsRequests_of_fits {es : List (ReaderInput × SizedOutput)} {s : SizedReader}
    (hrun : Run (restrict SizedReader.Fits SizedReader.step) SizedReader.init es s) :
    FitsRequests (es.map Prod.snd) := by
  have hsized : Sized (es.map Prod.snd) s := by
    induction hrun with
    | nil => exact Sized.init
    | snoc _ hs ih =>
      obtain ⟨hfits, hs⟩ := restrict_eq_some.1 hs
      rw [List.map_append]
      exact ih.step hfits hs
  exact hsized.requests

/-- A request of 256 bytes, as the download module makes it, and a frame for it: its length byte counts
neither the header nor the checksum. -/
def frameOf (length : ℕ) : List ReaderInput :=
  [.read ⟨1, 256, 10, 20⟩, .wake,
    .i2cRead (some ([0x00, UInt8.ofNat (length - 4)] ++ List.replicate (length - 2) 0)), .copy, .post,
    .deliver]

theorem shortFrame_fits :
    ∃ es s, exec (restrict SizedReader.Fits SizedReader.step) SizedReader.init (frameOf 8) =
        some (es, s) ∧ FitsRequests (es.map Prod.snd) :=
  ⟨_, _, rfl, fitsRequests_of_fits (run_of_exec (l := frameOf 8) rfl)⟩

set_option maxRecDepth 4000 in
/-- The longest frame, of 259 bytes, does not fit. -/
theorem longFrame_exceeds :
    ∃ es s, exec SizedReader.step SizedReader.init (frameOf 259) = some (es, s) ∧
      ¬ FitsRequests (es.map Prod.snd) := by
  refine ⟨_, _, rfl, fun h => ?_⟩
  obtain ⟨args, hargs, hle⟩ := h.stored ⟨.silent, some (0, 259)⟩
    (.tail _ (.tail _ (.tail _ (.head _)))) 0 259 rfl
  have hlen : args.wLength = 256 := by
    change _ ∈ [ReaderOutput.accepted 0 ⟨1, 256, 10, 20⟩, .silent, .silent, .silent, .silent,
      .delivered _] at hargs
    have heq : args = ⟨1, 256, 10, 20⟩ := by simpa using hargs
    rw [heq]
  omega

/-! ## One packet for one request -/

/-- A request that the device answers. -/
def transfer (args : ReadArgs) (bytes : List UInt8) : List ReaderInput :=
  [.read args, .wake, .i2cRead (some bytes), .copy, .post, .deliver]

/-- What the reader shows of it, when it takes the packet. -/
theorem run_transfer (args : ReadArgs) (bytes : List UInt8)
    (hargs : args.pBuffer ≠ 0 ∧ args.wLength ≠ 0 ∧ args.pTmlReadComplete ≠ 0)
    (hshort : bytes.length ≤ ReaderState.maxPacket) :
    ∃ es s d, Run SizedReader.step SizedReader.init es s ∧
      es.map Prod.fst = transfer args bytes ∧
      es.map Prod.snd = [⟨.accepted 0 args, none⟩, ⟨.silent, none⟩, ⟨.silent, none⟩,
        ⟨.silent, some (0, bytes.length)⟩, ⟨.silent, none⟩, ⟨.delivered d, none⟩] ∧
      d.request = 0 ∧ d.info.wLength = bytes.length := by
  let s₁ : ReaderState :=
    { ReaderState.init with
      tReadInfo := ⟨true, true, args.pBuffer, args.wLength, args.pTmlReadComplete, args.pContext⟩
      rxSemaphore := 1
      accepted := 1 }
  let s₃ : ReaderState := { s₁.wake with stage := .read ⟨bytes, some 0⟩ }
  have hread : SizedReader.init.step (.read args) =
      some (⟨s₁, args.wLength⟩, ⟨.accepted 0 args, none⟩) := by
    have hcall : ReaderState.init.phTmlNfcRead args = (s₁, .accepted 0 args) := by
      rw [ReaderState.phTmlNfcRead, if_pos hargs]
      rfl
    simp only [SizedReader.step, ReaderState.step, SizedReader.init, hcall]
    rfl
  have hwake : SizedReader.step ⟨s₁, args.wLength⟩ .wake =
      some (⟨s₁.wake, args.wLength⟩, ⟨.silent, none⟩) := rfl
  have htaken : SizedReader.step ⟨s₁.wake, args.wLength⟩ (.i2cRead (some bytes)) =
      some (⟨s₃, args.wLength⟩, ⟨.silent, none⟩) := by
    have hcall : s₁.wake.i2cRead 0 (some bytes) = s₃ := by
      rw [ReaderState.i2cRead, if_neg (Nat.not_lt.2 hshort)]
    rw [← hcall]
    rfl
  have hcopy : SizedReader.step ⟨s₃, args.wLength⟩ .copy =
      some (⟨s₃.copy ⟨bytes, some 0⟩, args.wLength⟩, ⟨.silent, some (0, bytes.length)⟩) := rfl
  have hpost : SizedReader.step ⟨s₃.copy ⟨bytes, some 0⟩, args.wLength⟩ .post =
      some (⟨(s₃.copy ⟨bytes, some 0⟩).post bytes.length, args.wLength⟩, ⟨.silent, none⟩) := rfl
  have hdeliver : SizedReader.step ⟨(s₃.copy ⟨bytes, some 0⟩).post bytes.length, args.wLength⟩
      .deliver = some (⟨((s₃.copy ⟨bytes, some 0⟩).post bytes.length).readDeferredCb.1,
        args.wLength⟩,
        ⟨((s₃.copy ⟨bytes, some 0⟩).post bytes.length).readDeferredCb.2, none⟩) := rfl
  exact ⟨_, _, _, (((((Run.nil.snoc hread).snoc hwake).snoc htaken).snoc hcopy).snoc hpost).snoc
    hdeliver, rfl, rfl, rfl, rfl⟩

/-- It fits if and only if it is not longer than what was asked for. -/
theorem transfer_fits_iff (args : ReadArgs) (bytes : List UInt8)
    (hargs : args.pBuffer ≠ 0 ∧ args.wLength ≠ 0 ∧ args.pTmlReadComplete ≠ 0)
    (hshort : bytes.length ≤ ReaderState.maxPacket) :
    ∃ es s, Run SizedReader.step SizedReader.init es s ∧
      es.map Prod.fst = transfer args bytes ∧
      (FitsRequests (es.map Prod.snd) ↔ bytes.length ≤ args.wLength) := by
  obtain ⟨es, s, d, hrun, hinputs, hshown, hrequest, hlength⟩ :=
    run_transfer args bytes hargs hshort
  refine ⟨es, s, hrun, hinputs, ?_⟩
  rw [hshown]
  constructor
  · intro h
    obtain ⟨args', hmem, hle⟩ := h.stored ⟨.silent, some (0, bytes.length)⟩ (by simp) 0 _ rfl
    have heq : args' = args := by simpa using hmem
    rwa [heq] at hle
  · intro hle
    constructor
    · intro o ho r count hstored
      have hcount : r = 0 ∧ count = bytes.length := by
        simp only [List.mem_cons, List.not_mem_nil, or_false] at ho
        rcases ho with rfl | rfl | rfl | rfl | rfl | rfl
        all_goals simp_all
      exact ⟨args, by simp [hcount.1], hcount.2 ▸ hle⟩
    · intro d' hd
      have heq : d' = d := by simpa using hd
      exact ⟨args, by simp [heq, hrequest], by rw [heq, hlength]; exact hle⟩

/-! ## What the device can send -/

/-- The longest packet in each mode. -/
theorem packetLen_le (bFwDnldFlag : Bool) (len : UInt8) : packetLen bFwDnldFlag len ≤ 259 := by
  have hlen := len.toNat_lt
  cases bFwDnldFlag with
  | false => simp only [packetLen, headerLen, Bool.false_eq_true, if_false]; omega
  | true => simp only [packetLen, headerLen, if_true]; omega

/-- Whatever the reads return, no packet is longer than its length byte can say. -/
theorem read_le {w : Wire} {pDevHandle n : ℕ} {bFwDnldFlag : Bool} {c : I2cCall}
    (h : (w.phTmlNfcI2cRead pDevHandle bFwDnldFlag c).1 = some n) : n ≤ 259 := by
  obtain ⟨m, w', hread, hm, -⟩ := Wire.read_of_returns (Wire.returns_of_some h)
  have heq : n = m := by
    rw [hread] at h
    exact (Option.some.inj h).symm
  have hpayload := c.payload.got_le (w.bufferedLen bFwDnldFlag c - headerLen bFwDnldFlag)
  have hheader := headerLen_le_packetLen bFwDnldFlag
    (w.headerByte bFwDnldFlag (c.header.got (headerLen bFwDnldFlag)) (lenOffset bFwDnldFlag))
  have hlen : w.bufferedLen bFwDnldFlag c ≤ 259 := packetLen_le _ _
  unfold Wire.bufferedLen at hm hpayload hlen
  omega

/-- The frame buffer of the download module takes the frames whose length byte is at most 252. -/
theorem downloadFrame_fits (len : UInt8) : packetLen true len ≤ 256 ↔ len.toNat ≤ 252 := by
  simp only [packetLen, headerLen, if_true]
  omega

end AliceHal.Pn54x.Tml
