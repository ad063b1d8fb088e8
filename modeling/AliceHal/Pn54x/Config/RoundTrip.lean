import AliceHal.Pn54x.Config.Definitions
import AliceHal.Pn54x.Config.Printing

/-!
# The Configuration Round Trip

A printed configuration that is loaded into an empty store and then looked up gives back every
value under its name, and nothing under any other name.

- `Value.ReturnedBy`: the lookup that returns a value of each kind
- `Holds`: the store after the load, kept by every later `GetInstance`
- `lookup_of_printed`: the round trip
-/

namespace AliceHal.Pn54x.Config

variable {w : ℕ} {crc : List UInt8 → UInt32} {main : Option (List UInt8)} {self : CNfcConfig w}

/-! ## Lookups -/

/-- The lookup for the kind of the value, with a buffer that is large enough, returns it. -/
def Value.ReturnedBy (crc : List UInt8 → UInt32) (main : Option (List UInt8)) (self : CNfcConfig w)
    (name : List UInt8) : Value → Prop
  | .number v => self.getNxpNumValue crc main name (w / 8) = some v
  | .bytes bs => ∀ bufflen : BitVec w, bs.length ≤ bufflen.toNat →
      self.getNxpByteArrayValue crc main name bufflen =
        some (bs ++ List.replicate (bufflen.toNat - bs.length) 0, (bs.length : ℤ))
  | .string s => ∀ len : ℕ, s.length < len →
      self.getNxpStrValue crc main name len = some (s ++ List.replicate (len - s.length) 0)

/-- No lookup finds the name. -/
def NotFound (crc : List UInt8 → UInt32) (main : Option (List UInt8)) (self : CNfcConfig w)
    (name : List UInt8) : Prop :=
  (∀ len, self.getNxpNumValue crc main name len = none) ∧
    (∀ bufflen, self.getNxpByteArrayValue crc main name bufflen = none) ∧
    ∀ len, self.getNxpStrValue crc main name len = none

theorem Value.returnedBy_of_find {name vtext : List UInt8} {v : Value} (hv : ValueText w v vtext)
    (hne : ∀ bs, v = .bytes bs → bs ≠ [])
    (h : (self.getInstance crc main).find name = some (v.param w name)) :
    v.ReturnedBy crc main self name := by
  cases v with
  | number v =>
    have hlt : v < 2 ^ w := by
      cases hv with
      | decimal h _ => exact h
      | hex h _ _ => exact h
    simp [ReturnedBy, CNfcConfig.getNxpNumValue, CNfcConfig.getNumValue, h, param,
      Nat.mod_eq_of_lt hlt]
  | bytes bs =>
    intro bufflen hlen
    have hpos : 0 < bs.length := List.length_pos_iff.2 (hne bs rfl)
    simp [CNfcConfig.getNxpByteArrayValue, CNfcConfig.getByteArrayValue, h, param, hpos, hlen,
      Lib.store]
  | string s =>
    intro len hlen
    have hsplit : len - s.length = len - (s.length + 1) + 1 := by omega
    simp [CNfcConfig.getNxpStrValue, CNfcConfig.getStrValue, h, param, Lib.store, hsplit,
      List.replicate_succ]

theorem notFound_of_find {name : List UInt8} (h : (self.getInstance crc main).find name = none) :
    NotFound crc main self name := by
  refine ⟨fun len => ?_, fun bufflen => ?_, fun len => ?_⟩
  · simp [CNfcConfig.getNxpNumValue, CNfcConfig.getNumValue, h]
  · simp [CNfcConfig.getNxpByteArrayValue, CNfcConfig.getByteArrayValue, h]
  · simp [CNfcConfig.getNxpStrValue, CNfcConfig.getStrValue, h]

/-! ## The store after the load -/

/-- The store holds the parameters of `text`, and the list is empty. -/
structure Holds (text : List UInt8) (config : CNfcConfig w) : Prop where
  mList : config.mList = []
  params : config.params = Lib.insertAll CNfcParam.name (parse w text) []

/-- A load into an empty store. An empty text is not readable, and adds nothing either. -/
theorem holds_readConfig (text : List UInt8) (hparams : self.params = []) (hlist : self.mList = [])
    (b : Bool) : Holds text (self.readConfig crc (some text) b).1 := by
  cases text with
  | nil =>
    cases b with
    | true => exact ⟨hlist, hparams⟩
    | false => exact ⟨hlist, hparams⟩
  | cons c text =>
    have hread : CNfcConfig.readConfigFile (some (c :: text)) = some (c :: text) := rfl
    rw [Refines.readConfig_eq hlist hread, hparams]
    exact ⟨rfl, by simp⟩

theorem Holds.getInstance {text : List UInt8} (h : Holds text self) :
    Holds text (self.getInstance crc (some text)) := by
  rw [CNfcConfig.getInstance]
  split
  · rename_i hcond
    rw [Bool.and_eq_true, beq_iff_eq, List.length_eq_zero_iff] at hcond
    exact holds_readConfig text hcond.1 h.mList true
  · exact h

theorem Holds.iterate {text : List UInt8} (h : Holds text self) (n : ℕ) :
    Holds text ((CNfcConfig.getInstance crc (some text))^[n] self) := by
  induction n generalizing self with
  | zero => exact h
  | succ n ih => exact ih h.getInstance

theorem Holds.find_eq {text : List UInt8} (h : Holds text self) (name : List UInt8) :
    self.find name = (parse w text).reverse.find? fun param => param.name = name := by
  rw [CNfcConfig.find, findIn_eq_lookup, h.params, Lib.lookup_insertAll List.Pairwise.nil]
  rw [show Lib.lookup CNfcParam.name name ([] : List (CNfcParam w)) = none from rfl, Option.or_none]
  congr!

/-! ## The round trip -/

theorem Value.param_name (name : List UInt8) (v : Value) : (v.param w name).name = name := by
  cases v with
  | number => rfl
  | bytes => rfl
  | string => rfl

/-- With distinct names there is one definition of each. -/
theorem find_printed {assignments : List (List UInt8 × Value)}
    (hnodup : (assignments.map Prod.fst).Nodup) {name : List UInt8} {v : Value}
    (hmem : (name, v) ∈ assignments) :
    ((assignments.map fun a => a.2.param w a.1).reverse.find? fun param => param.name = name) =
      some (v.param w name) := by
  have hmap : v.param w name ∈ (assignments.map fun a => a.2.param w a.1).reverse :=
    List.mem_reverse.2 (List.mem_map.2 ⟨(name, v), hmem, rfl⟩)
  cases hfind : (assignments.map fun a => a.2.param w a.1).reverse.find?
      fun param => param.name = name with
  | none =>
    have hnone := List.find?_eq_none.1 hfind _ hmap
    exact absurd (decide_eq_true (Value.param_name name v)) hnone
  | some param =>
    have hname : param.name = name := by simpa using List.find?_some hfind
    obtain ⟨a, ha, rfl⟩ := List.mem_map.1 (List.mem_reverse.1 (List.mem_of_find?_eq_some hfind))
    rw [Value.param_name] at hname
    have hsame : a = (name, v) := List.inj_on_of_nodup_map hnodup ha hmem hname
    rw [hsame]

theorem find_not_printed {assignments : List (List UInt8 × Value)} {name : List UInt8}
    (hname : name ∉ assignments.map Prod.fst) :
    ((assignments.map fun a => a.2.param w a.1).reverse.find? fun param => param.name = name) =
      none := by
  refine List.find?_eq_none.2 fun param hparam => ?_
  obtain ⟨a, ha, rfl⟩ := List.mem_map.1 (List.mem_reverse.1 hparam)
  rw [Value.param_name, decide_eq_true_eq]
  exact fun heq => hname (List.mem_map.2 ⟨a, ha, heq⟩)

/-- What a printed configuration says of each of its values. -/
theorem Prints.valueText {assignments : List (List UInt8 × Value)} {text : List UInt8}
    (h : Prints w assignments text) {name : List UInt8} {v : Value}
    (hmem : (name, v) ∈ assignments) : ∃ vtext, ValueText w v vtext := by
  induction h with
  | nil => exact absurd hmem List.not_mem_nil
  | blank _ _ ih => exact ih hmem
  | comment _ _ ih => exact ih hmem
  | assign _ _ hv _ ih =>
    rcases List.mem_cons.1 hmem with heq | hmem
    · obtain ⟨rfl, rfl⟩ := Prod.mk.inj heq
      exact ⟨_, hv⟩
    · exact ih hmem

/-- A configuration printed with distinct names, loaded into an empty store: after any number of
calls, every lookup returns the value printed for its name, and finds no other name. -/
theorem lookup_of_printed (hw : 8 ≤ w) (crc : List UInt8 → UInt32)
    {assignments : List (List UInt8 × Value)} {text : List UInt8}
    (hprint : Prints w assignments text) (hnodup : (assignments.map Prod.fst).Nodup)
    {self : CNfcConfig w} (hparams : self.params = []) (hlist : self.mList = []) (b : Bool)
    (n : ℕ) :
    (∀ name v, (name, v) ∈ assignments →
        v.ReturnedBy crc (some text)
          ((CNfcConfig.getInstance crc (some text))^[n] (self.readConfig crc (some text) b).1)
          name) ∧
      ∀ name, name ∉ assignments.map Prod.fst →
        NotFound crc (some text)
          ((CNfcConfig.getInstance crc (some text))^[n] (self.readConfig crc (some text) b).1)
          name := by
  have hread : Holds text (self.readConfig crc (some text) b).1 :=
    holds_readConfig text hparams hlist b
  have hcalls : Holds text
      ((CNfcConfig.getInstance crc (some text))^[n] (self.readConfig crc (some text) b).1) :=
    hread.iterate n
  have hholds : Holds text (((CNfcConfig.getInstance crc (some text))^[n]
      (self.readConfig crc (some text) b).1).getInstance crc (some text)) := hcalls.getInstance
  have hfind := hholds.find_eq
  rw [hprint.parse_eq hw] at hfind
  refine ⟨fun name v hmem => ?_, fun name hname => ?_⟩
  · obtain ⟨vtext, hv⟩ := hprint.valueText hmem
    refine Value.returnedBy_of_find hv ?_ ((hfind name).trans (find_printed hnodup hmem))
    rintro bs rfl
    cases hv with
    | bytes hgroups => exact Parser.groupsText_ne_nil hgroups
  · exact notFound_of_find ((hfind name).trans (find_not_printed hname))

/-- A configuration with a value of each kind. -/
theorem prints_of_each_kind :
    Prints 64
      [(ascii "A", .number 31), (ascii "B", .bytes [32, 10]), (ascii "C", .string (ascii "ab"))]
      (ascii "# NXP\nA=0x1f\n\nB=\x7b20, 0A\n\x7d\nC=\"ab\"\n") := by
  have hnumeral : Numeral 16 31 (ascii "1f") := ⟨[1, 15], by decide, by decide, by decide +kernel⟩
  have hA : ValueText 64 (.number 31) (ascii "0x1f") :=
    .hex (by decide +kernel) (List.mem_cons_self : 'x'.toUInt8 ∈ _) hnumeral
  have hnone : ∀ c ∈ ([] : List UInt8), isBlank c := by simp
  have hspace : ∀ c ∈ ascii " ", isBlank c := by decide +kernel
  have hnewline : ∀ c ∈ ascii "\n", isBlank c := by decide +kernel
  have hfirst : HexByte 32 (ascii "20") := ⟨2, 0, by decide, by decide +kernel⟩
  have hsecond : HexByte 10 (ascii "0A") := ⟨0, 10, by decide, by decide +kernel⟩
  have hgroups : GroupsText [32, 10] (ascii "20, 0A\n") :=
    .cons hnone hfirst hnone (.one hspace hsecond hnewline)
  have hB : ValueText 64 (.bytes [32, 10]) (ascii "\x7b20, 0A\n\x7d") :=
    .bytes hgroups
  have hC : ValueText 64 (.string (ascii "ab")) (ascii "\"ab\"") := .string (by decide +kernel)
  have hlast : Prints 64 [(ascii "C", .string (ascii "ab"))] (ascii "C=\"ab\"\n") :=
    .assign (by decide +kernel : ascii "C" ≠ []) (by decide +kernel) hC .nil
  have hbytes : Prints 64 [(ascii "B", .bytes [32, 10]), (ascii "C", .string (ascii "ab"))]
      (ascii "B=\x7b20, 0A\n\x7d\nC=\"ab\"\n") :=
    .assign (by decide +kernel : ascii "B" ≠ []) (by decide +kernel) hB hlast
  have hblank : Prints 64 [(ascii "B", .bytes [32, 10]), (ascii "C", .string (ascii "ab"))]
      (ascii "\nB=\x7b20, 0A\n\x7d\nC=\"ab\"\n") :=
    .blank (by simp : ∀ c ∈ ([] : List UInt8), _) hbytes
  have hnote : ∀ c ∈ ascii " NXP", ¬ isNewline c := by decide +kernel
  exact .comment hnote (.assign (by decide +kernel : ascii "A" ≠ []) (by decide +kernel) hA hblank)

theorem lookup_of_printed_each_kind :
    (Value.bytes [32, 10]).ReturnedBy (fun _ => 0)
      (some (ascii "# NXP\nA=0x1f\n\nB=\x7b20, 0A\n\x7d\nC=\"ab\"\n"))
      ((CNfcConfig.init : CNfcConfig 64).readConfig (fun _ => 0)
        (some (ascii "# NXP\nA=0x1f\n\nB=\x7b20, 0A\n\x7d\nC=\"ab\"\n")) true).1 (ascii "B") :=
  (lookup_of_printed (by decide) (fun _ => 0) prints_of_each_kind (by decide +kernel)
    (rfl : (CNfcConfig.init : CNfcConfig 64).params = []) rfl true 0).1 (ascii "B") (.bytes [32, 10]) (by simp)

end AliceHal.Pn54x.Config
