import AliceHal.Pn54x.Config.Definitions

/-!
# How Far a Lookup Writes

`GetNxpByteArrayValue` compares the length of the value with the length of the buffer before it
copies; `GetNxpStrValue` clears as many bytes as the caller asked for and copies the whole value.

- `length_getByteArrayValue_le`: the byte array lookup stays within the buffer
- `getNxpStrValue_within_iff`: when the string lookup does
-/

namespace AliceHal.Pn54x.Config

variable {w : ℕ} {crc : List UInt8 → UInt32} {self : CNfcConfig w}

/-- The byte array lookup stores at most the length passed, and says how much it read. -/
theorem length_getByteArrayValue_le {name stored : List UInt8} {len : BitVec w} {readlen : ℤ}
    (h : self.getByteArrayValue name len = some (stored, readlen)) :
    stored.length ≤ len.toNat := by
  obtain ⟨param, -, hvalue⟩ := Option.bind_eq_some_iff.1 h
  split_ifs at hvalue with hpos hfits
  · obtain ⟨rfl, -⟩ := Prod.mk.inj (Option.some.inj hvalue)
    simp only [Lib.store, List.take_zero, List.nil_append, List.length_append, List.length_drop,
      List.length_replicate]
    omega
  · obtain ⟨rfl, -⟩ := Prod.mk.inj (Option.some.inj hvalue)
    exact Nat.zero_le _

/-- The string lookup stores the whole value, and clears the rest of the length passed. -/
theorem length_getStrValue {name stored : List UInt8} {len : ℕ}
    (h : self.getStrValue name len = some stored) :
    ∃ param, self.find name = some param ∧ 0 < param.strValue.length ∧
      stored.length = max len param.strValue.length := by
  obtain ⟨param, hfind, hvalue⟩ := Option.bind_eq_some_iff.1 h
  split_ifs at hvalue with hpos
  obtain rfl := Option.some.inj hvalue
  refine ⟨param, hfind, hpos, ?_⟩
  simp only [Lib.store, List.take_zero, List.nil_append, List.length_append, List.length_drop,
    List.length_replicate]
  omega

/-- The string lookup keeps to the length passed exactly when the value defined last has no more
bytes than that; the terminating zero of a quoted string counts. -/
theorem getNxpStrValue_within_iff (crc : List UInt8 → UInt32) (ops : List ConfigOp)
    (main : Option (List UInt8)) (name : List UInt8) (len : ℕ) :
    (∀ stored, (runOps crc ops : CNfcConfig w).getNxpStrValue crc main name len = some stored →
        stored.length ≤ len) ↔
      ∀ param, ((recordOps ops : Definitions w).getInstance main).find name = some param →
        param.strValue.length ≤ len := by
  have hrun : Refines (runOps crc ops : CNfcConfig w) (recordOps ops) := Refines.run ops
  have hrefines : Refines ((runOps crc ops : CNfcConfig w).getInstance crc main)
    ((recordOps ops).getInstance main) := hrun.getInstance main
  rw [← hrefines.find name]
  constructor
  · intro hwithin param hfind
    by_cases hpos : 0 < param.strValue.length
    · have hstored : (runOps crc ops : CNfcConfig w).getNxpStrValue crc main name len =
          some (Lib.store (List.replicate len 0) 0 param.strValue) := by
        rw [CNfcConfig.getNxpStrValue, CNfcConfig.getStrValue, hfind, Option.bind_some, if_pos hpos]
      obtain ⟨param', hfind', -, hlen⟩ := length_getStrValue hstored
      obtain rfl : param' = param := Option.some.inj (hfind'.symm.trans hfind)
      have hle := hwithin _ hstored
      omega
    · omega
  · intro hfits stored hstored
    obtain ⟨param, hfind, -, hlen⟩ := length_getStrValue hstored
    have hle := hfits param hfind
    omega

/-- The device node of the configuration file, looked up with the size of a pointer. -/
theorem getNxpStrValue_writes_beyond_pointer_size :
    (CNfcConfig.init : CNfcConfig 64).getNxpStrValue (fun _ => 0)
        (some (ascii "NXP_NFC_DEV_NODE=\"/dev/pn544\"\n")) (ascii "NXP_NFC_DEV_NODE") 8 =
      some (ascii "/dev/pn544" ++ [0]) ∧ 8 < (ascii "/dev/pn544" ++ [0]).length := by
  decide +kernel

end AliceHal.Pn54x.Config
