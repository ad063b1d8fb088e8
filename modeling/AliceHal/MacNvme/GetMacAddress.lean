import AliceHal.Lib.Bytes
import AliceHal.MacNvme.NveRead

/-!
# MAC Addresses from the NVE

`get_mac_address` and `main` of `mac_nvme.cpp`. An address is asked from the NVE driver and, where
that fails, looked up in the partition. The descriptor tells the two apart: it is `-1` when the
driver gave nothing. The formatting at the end is shared by the path on which the driver answered
and the one on which the partition has been searched in vain, and there it formats what
`info.nv_data` holds anyway.

- `Outcomes`, `getMacAddress`: one address
- `RunOutcomes`, `main`: both, written and announced
- `Obtained`: where an address comes from
- `NothingFound`: neither source has one, and the partition could be opened
- `obtained_iff_ready_iff`: addresses are never invented when nothing of that kind happens, and
  always when it does
-/

namespace AliceHal.MacNvme

open Lib

/-! ## One address -/

/-- `struct nve_info_user` -/
structure NveInfoUser where
  nv_operation : ℕ
  nv_number : ℕ
  nv_name : List UInt8
  valid_size : ℕ
  nv_data : Memory

/-- What the kernel answers in the course of one call: descriptors, the driver's reply to the
`ioctl` with its verdict, and the partition. A failed `ioctl` may have written to the data. -/
structure Outcomes where
  openNve : Option ℕ
  ioctl : NveInfoUser → Bool × NveInfoUser
  openRaw : Option ℕ
  raw : RawDevice

/-- `NVE_MACWLAN` -/
def nveMacWlan : ℤ := 0xC1

/-- `NVE_MACBT` -/
def nveMacBt : ℤ := 0xC2

/-- The request to the driver. -/
def nveInfo (type : ℤ) : NveInfoUser :=
  ⟨0x1, (type % 2 ^ 32).toNat, List.replicate nvNameLength 0, 20, fun _ => 0⟩

/-- The name of the item: `"MACWLAN"` or `"MACBT"`. -/
def nveName (type : ℤ) : List UInt8 :=
  if type = 0xC1 then [0x4D, 0x41, 0x43, 0x57, 0x4C, 0x41, 0x4E]
  else if type = 0xC2 then [0x4D, 0x41, 0x43, 0x42, 0x54]
  else []

/-- The `snprintf` of twelve characters in pairs, with colons between them. -/
def formatMac (c : Memory) : List UInt8 :=
  let colon := 0x3A
  [c 0, c 1, colon, c 2, c 3, colon, c 4, c 5, colon, c 6, c 7, colon, c 8, c 9, colon, c 10, c 11]

/-- The first source: the descriptor is kept only if the driver has answered. -/
def accessNve (o : Outcomes) (type : ℤ) : Option ℕ × NveInfoUser :=
  match o.openNve with
  | none => (none, nveInfo type)
  | some fd =>
    let (ok, info) := o.ioctl (nveInfo type)
    (if ok then some fd else none, info)

/-- `get_mac_address`: the value returned and the address, if one is stored; `none` when the call
has not returned. -/
def getMacAddress (fuel : ℕ) (o : Outcomes) (type : ℤ) : Option (ℤ × Option (List UInt8)) :=
  let (fd, info) := accessNve o type
  if fd.isNone then
    if o.openRaw.isNone then some (-1, none)
    else
      match nveRead fuel o.raw (nveName type) with
      | none => none
      | some (some tmpBuffer) => some (0, some (formatMac (byteAt tmpBuffer)))
      -- nothing was found, and the code goes on to the common end
      | some none => some (0, some (formatMac info.nv_data))
  else some (0, some (formatMac info.nv_data))

/-! ## Both addresses -/

/-- `MAC_WIFI_PATH` -/
def macWifiPath : String := "/data/vendor/wifi/macwlan"

/-- `MAC_BLUETOOTH_PATH` -/
def macBluetoothPath : String := "/data/vendor/bluedroid/macbt"

/-- `MACS_ARE_READY_PROP` -/
def macsAreReadyProp : String := "sys.conn_macs.ready"

/-- What `main` leaves behind. -/
inductive Effect where
  | wrote (path : String) (content : List UInt8)
  | setProperty (name value : String)
  deriving DecidableEq

/-- What the system answers in a run: the two path properties, empty when they are not set, the
outcomes of the two reads and of the two writes. -/
structure RunOutcomes where
  macWifiProp : String
  macBluetoothProp : String
  wifi : Outcomes
  bluetooth : Outcomes
  writesWifi : Bool
  writesBluetooth : Bool

/-- The path to write to. -/
def pathOr (prop default : String) : String := if prop = "" then default else prop

def RunOutcomes.wifiPath (r : RunOutcomes) : String := pathOr r.macWifiProp macWifiPath

def RunOutcomes.bluetoothPath (r : RunOutcomes) : String := pathOr r.macBluetoothProp macBluetoothPath

/-- The characters before the first NUL, which is all that a `char *` passes on. -/
def cString (buffer : List UInt8) : List UInt8 := buffer.takeWhile (· ≠ 0)

/-- The caller's buffer after a call that may have stored an address. -/
def bufferAfter (address : Option (List UInt8)) : List UInt8 := address.getD (List.replicate 18 0)

/-- `write_mac_address` -/
def writeMacAddress (ok : Bool) (macPath : String) (macAddress : List UInt8) : ℤ × List Effect :=
  if ok then (0, [.wrote macPath (cString macAddress)]) else (-1, [])

/-- `main` once both addresses have been read. -/
def publish (r : RunOutcomes) (macWifi macBluetooth : List UInt8) : ℤ × List Effect :=
  let (st, written) := writeMacAddress r.writesWifi r.wifiPath macWifi
  if st < 0 then (-1, written)
  else
    let (st, written') := writeMacAddress r.writesBluetooth r.bluetoothPath macBluetooth
    if st < 0 then (-1, written ++ written')
    else (0, written ++ written' ++ [.setProperty macsAreReadyProp "1"])

/-- `main`: the value returned and what was left behind; `none` when it has not returned. -/
def main (fuel : ℕ) (r : RunOutcomes) : Option (ℤ × List Effect) :=
  match getMacAddress fuel r.wifi nveMacWlan with
  | none => none
  | some (st, wifi) =>
    if st ≠ 0 then some (-1, [])
    else
      match getMacAddress fuel r.bluetooth nveMacBt with
      | none => none
      | some (st, bluetooth) =>
        if st ≠ 0 then some (-1, []) else some (publish r (bufferAfter wifi) (bufferAfter bluetooth))

/-! ## Where an address comes from -/

/-- The driver answers. -/
def DriverAnswers (o : Outcomes) (type : ℤ) : Prop :=
  o.openNve ≠ none ∧ (o.ioctl (nveInfo type)).1 = true

/-- The address is what the driver answered, or what the search of the partition returned. -/
def Obtained (o : Outcomes) (type : ℤ) (address : List UInt8) : Prop :=
  DriverAnswers o type ∧ address = formatMac (o.ioctl (nveInfo type)).2.nv_data ∨
    ¬DriverAnswers o type ∧ o.openRaw ≠ none ∧ ∃ fuel data,
      nveRead fuel o.raw (nveName type) = some (some data) ∧ address = formatMac (byteAt data)

/-- The driver does not answer, and the partition can be opened but is searched in vain. -/
def NothingFound (o : Outcomes) (type : ℤ) : Prop :=
  ¬DriverAnswers o type ∧ o.openRaw ≠ none ∧ FindsNothing o.raw (nveName type)

/-- The call returns zero: the driver answers, or the search of the partition ends. -/
def Succeeds (o : Outcomes) (type : ℤ) : Prop :=
  DriverAnswers o type ∨
    o.openRaw ≠ none ∧ (Finds o.raw (nveName type) ∨ FindsNothing o.raw (nveName type))

/-- No call that returns zero has made its address up. -/
def NothingInvented (o : Outcomes) (type : ℤ) : Prop :=
  ∀ fuel address, getMacAddress fuel o type = some (0, address) →
    ∃ mac, address = some mac ∧ Obtained o type mac

/-- The property is set only when both addresses have been obtained and written. -/
def ReadyMeansReady (r : RunOutcomes) : Prop :=
  ∀ fuel ret effects, main fuel r = some (ret, effects) →
    Effect.setProperty macsAreReadyProp "1" ∈ effects →
    ∃ wifi bluetooth, Obtained r.wifi nveMacWlan wifi ∧ Obtained r.bluetooth nveMacBt bluetooth ∧
      Effect.wrote r.wifiPath (cString wifi) ∈ effects ∧
      Effect.wrote r.bluetoothPath (cString bluetooth) ∈ effects

section

variable {o : Outcomes} {type : ℤ} {fuel : ℕ}

/-- The descriptor is left open exactly when the driver has answered. -/
theorem accessNve_isNone : (accessNve o type).1.isNone = true ↔ ¬DriverAnswers o type := by
  unfold accessNve DriverAnswers
  cases o.openNve with
  | none => simp
  | some fd => cases h : (o.ioctl (nveInfo type)).1 <;> simp [h]

theorem getMacAddress_driver (h : DriverAnswers o type) : getMacAddress fuel o type =
    some (0, some (formatMac (o.ioctl (nveInfo type)).2.nv_data)) := by
  have hopen : ¬(accessNve o type).1.isNone = true := fun hnone => accessNve_isNone.1 hnone h
  have hinfo : (accessNve o type).2 = (o.ioctl (nveInfo type)).2 := by
    obtain ⟨hfd, -⟩ := h
    unfold accessNve
    cases hopenNve : o.openNve with
    | none => exact absurd hopenNve hfd
    | some fd => rfl
  rw [getMacAddress]
  dsimp only
  rw [if_neg hopen, hinfo]

theorem getMacAddress_closed (h : ¬DriverAnswers o type) (hraw : o.openRaw = none) :
    getMacAddress fuel o type = some (-1, none) := by
  rw [getMacAddress]
  dsimp only
  rw [if_pos (accessNve_isNone.2 h), hraw]
  rfl

theorem getMacAddress_raw (h : ¬DriverAnswers o type) (hraw : o.openRaw ≠ none) :
    getMacAddress fuel o type = (nveRead fuel o.raw (nveName type)).map fun found =>
      (0, some (match found with
        | some data => formatMac (byteAt data)
        | none => formatMac (accessNve o type).2.nv_data)) := by
  have hopen : ¬o.openRaw.isNone = true := fun hnone => hraw (Option.isNone_iff_eq_none.1 hnone)
  rw [getMacAddress]
  dsimp only
  rw [if_pos (accessNve_isNone.2 h), if_neg hopen]
  rcases nveRead fuel o.raw (nveName type) with _ | _ | data <;> rfl

/-- What the search returns decides whether the address was obtained. -/
theorem not_obtained_of_nothingFound (h : NothingFound o type) (mac : List UInt8) :
    ¬Obtained o type mac := by
  obtain ⟨hdriver, -, hnothing⟩ := h
  obtain ⟨fuel, hnone⟩ := nveRead_nothing_iff.2 hnothing
  rintro (⟨hanswers, -⟩ | ⟨-, -, fuel', data, hsome, -⟩)
  · exact hdriver hanswers
  · cases nveRead_unique hnone hsome

/-- A call that returns zero has obtained the address, or found nothing. -/
theorem obtained_or_nothingFound {address : Option (List UInt8)}
    (h : getMacAddress fuel o type = some (0, address)) :
    (∃ mac, address = some mac ∧ Obtained o type mac) ∨ NothingFound o type := by
  by_cases hdriver : DriverAnswers o type
  · rw [getMacAddress_driver hdriver] at h
    cases h
    exact .inl ⟨_, rfl, .inl ⟨hdriver, rfl⟩⟩
  · by_cases hraw : o.openRaw = none
    · rw [getMacAddress_closed hdriver hraw] at h
      cases h
    · rw [getMacAddress_raw hdriver hraw, Option.map_eq_some_iff] at h
      obtain ⟨found, hread, heq⟩ := h
      cases heq
      cases found with
      | some data => exact .inl ⟨_, rfl, .inr ⟨hdriver, hraw, fuel, data, hread, rfl⟩⟩
      | none => exact .inr ⟨hdriver, hraw, nveRead_nothing_iff.1 ⟨fuel, hread⟩⟩

/-- The calls that return zero. -/
theorem getMacAddress_succeeds_iff :
    (∃ fuel address, getMacAddress fuel o type = some (0, address)) ↔ Succeeds o type := by
  by_cases hdriver : DriverAnswers o type
  · exact ⟨fun _ => .inl hdriver, fun _ => ⟨0, _, getMacAddress_driver hdriver⟩⟩
  · by_cases hraw : o.openRaw = none
    · simp [getMacAddress_closed hdriver hraw, Succeeds, hdriver, hraw]
    · rw [Succeeds, ← nveRead_found_iff, ← nveRead_nothing_iff]
      simp only [getMacAddress_raw hdriver hraw, Option.map_eq_some_iff]
      constructor
      · rintro ⟨fuel, address, found, hread, -⟩
        cases found with
        | some data => exact .inr ⟨hraw, .inl ⟨fuel, data, hread⟩⟩
        | none => exact .inr ⟨hraw, .inr ⟨fuel, hread⟩⟩
      · rintro (h | ⟨-, ⟨fuel, data, hread⟩ | ⟨fuel, hread⟩⟩)
        · exact absurd h hdriver
        · exact ⟨fuel, _, some data, hread, rfl⟩
        · exact ⟨fuel, _, none, hread, rfl⟩

/-- More steps do not change what has been returned. -/
theorem getMacAddress_mono {fuel' : ℕ} {r : ℤ × Option (List UInt8)} (hle : fuel ≤ fuel')
    (h : getMacAddress fuel o type = some r) : getMacAddress fuel' o type = some r := by
  by_cases hdriver : DriverAnswers o type
  · rwa [getMacAddress_driver hdriver] at h ⊢
  · by_cases hraw : o.openRaw = none
    · rwa [getMacAddress_closed hdriver hraw] at h ⊢
    · rw [getMacAddress_raw hdriver hraw, Option.map_eq_some_iff] at h ⊢
      obtain ⟨found, hread, heq⟩ := h
      exact ⟨found, nveRead_mono hle hread, heq⟩

theorem nothingInvented_iff : NothingInvented o type ↔ ¬NothingFound o type := by
  constructor
  · intro h hnothing
    obtain ⟨fuel, address, hget⟩ := getMacAddress_succeeds_iff.2
      (.inr ⟨hnothing.2.1, .inr hnothing.2.2⟩)
    obtain ⟨mac, -, hobtained⟩ := h fuel address hget
    exact not_obtained_of_nothingFound hnothing mac hobtained
  · intro h fuel address hget
    exact (obtained_or_nothingFound hget).resolve_right h

end

/-! ## The run -/

/-- The property is set once both writes have succeeded. -/
theorem setProperty_mem_publish {r : RunOutcomes} {macWifi macBluetooth : List UInt8} :
    Effect.setProperty macsAreReadyProp "1" ∈ (publish r macWifi macBluetooth).2 ↔
      r.writesWifi = true ∧ r.writesBluetooth = true := by
  cases hw : r.writesWifi <;> cases hb : r.writesBluetooth <;>
    simp [publish, writeMacAddress, hw, hb]

/-- The runs that set the property. -/
theorem main_ready_iff {r : RunOutcomes} {fuel : ℕ} {ret : ℤ} {effects : List Effect} :
    main fuel r = some (ret, effects) ∧ Effect.setProperty macsAreReadyProp "1" ∈ effects ↔
      ∃ wifi bluetooth, getMacAddress fuel r.wifi nveMacWlan = some (0, wifi) ∧
        getMacAddress fuel r.bluetooth nveMacBt = some (0, bluetooth) ∧
        r.writesWifi = true ∧ r.writesBluetooth = true ∧
        (ret, effects) = publish r (bufferAfter wifi) (bufferAfter bluetooth) := by
  constructor
  · rintro ⟨hmain, hset⟩
    unfold main at hmain
    split at hmain
    · cases hmain
    · rename_i st wifi hwifi
      split at hmain
      · cases hmain
        cases hset
      · rename_i hst
        split at hmain
        · cases hmain
        · rename_i st' bluetooth hbluetooth
          split at hmain
          · cases hmain
            cases hset
          · rename_i hst'
            obtain rfl := not_not.1 hst
            obtain rfl := not_not.1 hst'
            have heq := Option.some.inj hmain
            have hwrites := hset
            rw [show effects = (ret, effects).2 from rfl, ← heq, setProperty_mem_publish] at hwrites
            exact ⟨wifi, bluetooth, hwifi, hbluetooth, hwrites.1, hwrites.2, heq.symm⟩
  · rintro ⟨wifi, bluetooth, hwifi, hbluetooth, hw, hb, heq⟩
    refine ⟨?_, ?_⟩
    · simp only [main, hwifi, hbluetooth, ne_eq, not_true_eq_false, if_false, heq]
    · rw [show effects = (ret, effects).2 from rfl, heq]
      exact setProperty_mem_publish.2 ⟨hw, hb⟩

/-- What the two writes leave behind. -/
theorem wrote_mem_publish {r : RunOutcomes} {macWifi macBluetooth : List UInt8}
    (hw : r.writesWifi = true) (hb : r.writesBluetooth = true) :
    Effect.wrote r.wifiPath (cString macWifi) ∈ (publish r macWifi macBluetooth).2 ∧
      Effect.wrote r.bluetoothPath (cString macBluetooth) ∈ (publish r macWifi macBluetooth).2 := by
  simp [publish, writeMacAddress, hw, hb]

/-- Both reads return zero and both writes succeed, and one of the reads has found nothing. -/
def ReadyWithoutAddress (r : RunOutcomes) : Prop :=
  Succeeds r.wifi nveMacWlan ∧ Succeeds r.bluetooth nveMacBt ∧ r.writesWifi = true ∧
    r.writesBluetooth = true ∧
    (NothingFound r.wifi nveMacWlan ∨ NothingFound r.bluetooth nveMacBt)

theorem readyMeansReady_iff {r : RunOutcomes} : ReadyMeansReady r ↔ ¬ReadyWithoutAddress r := by
  constructor
  · rintro h ⟨hwifi, hbluetooth, hw, hb, hnothing⟩
    obtain ⟨n, wifi, hn⟩ := getMacAddress_succeeds_iff.2 hwifi
    obtain ⟨m, bluetooth, hm⟩ := getMacAddress_succeeds_iff.2 hbluetooth
    -- enough steps for both reads
    have hn' := getMacAddress_mono (Nat.le_max_left n m) hn
    have hm' := getMacAddress_mono (Nat.le_max_right n m) hm
    obtain ⟨hmain, hset⟩ := main_ready_iff.2 ⟨wifi, bluetooth, hn', hm', hw, hb, rfl⟩
    obtain ⟨mac, mac', hobtained, hobtained', -⟩ := h _ _ _ hmain hset
    rcases hnothing with hnothing | hnothing
    · exact not_obtained_of_nothingFound hnothing mac hobtained
    · exact not_obtained_of_nothingFound hnothing mac' hobtained'
  · intro h fuel ret effects hmain hset
    obtain ⟨wifi, bluetooth, hwifi, hbluetooth, hw, hb, heq⟩ := main_ready_iff.1 ⟨hmain, hset⟩
    have hsucceeds := getMacAddress_succeeds_iff.1 ⟨fuel, wifi, hwifi⟩
    have hsucceeds' := getMacAddress_succeeds_iff.1 ⟨fuel, bluetooth, hbluetooth⟩
    have hfound : ¬NothingFound r.wifi nveMacWlan := fun hnothing =>
      h ⟨hsucceeds, hsucceeds', hw, hb, .inl hnothing⟩
    have hfound' : ¬NothingFound r.bluetooth nveMacBt := fun hnothing =>
      h ⟨hsucceeds, hsucceeds', hw, hb, .inr hnothing⟩
    obtain ⟨mac, rfl, hobtained⟩ := (obtained_or_nothingFound hwifi).resolve_right hfound
    obtain ⟨mac', rfl, hobtained'⟩ := (obtained_or_nothingFound hbluetooth).resolve_right hfound'
    refine ⟨mac, mac', hobtained, hobtained', ?_⟩
    rw [show effects = (ret, effects).2 from rfl, heq]
    exact wrote_mem_publish hw hb

/-- An address is made up exactly when neither source has one and the partition could be opened;
and addresses are announced without having been obtained exactly when that happens to one of two
reads and nothing else fails. -/
theorem obtained_iff_ready_iff (o : Outcomes) (type : ℤ) (r : RunOutcomes) :
    (NothingInvented o type ↔ ¬NothingFound o type) ∧
      (ReadyMeansReady r ↔ ¬ReadyWithoutAddress r) :=
  ⟨nothingInvented_iff, readyMeansReady_iff⟩

/-- No driver, and a partition that can be opened but not be mapped. -/
def unmappable : Outcomes :=
  ⟨none, fun info => (false, info), some 3, ⟨true, .failed, fun _ _ => .failed⟩⟩

/-- Twelve NUL characters are reported as the address, and two empty files as ready. -/
theorem unmappable_invented :
    ¬NothingInvented unmappable nveMacWlan ∧
      ¬ReadyMeansReady ⟨"", "", unmappable, unmappable, true, true⟩ := by
  have hdriver : ∀ type, ¬DriverAnswers unmappable type := fun type h => h.1 rfl
  have hunobtained : ∀ type mac, ¬Obtained unmappable type mac := by
    rintro type mac (⟨h, -⟩ | ⟨-, -, fuel, data, hread, -⟩)
    · exact hdriver type h
    · exact absurd hread (by simp [nveRead, unmappable])
  constructor
  · intro h
    obtain ⟨mac, -, hobtained⟩ := h 0 _ rfl
    exact hunobtained _ mac hobtained
  · intro h
    obtain ⟨mac, -, hobtained, -⟩ := h 0 _ _ rfl (by decide)
    exact hunobtained _ mac hobtained

end AliceHal.MacNvme
