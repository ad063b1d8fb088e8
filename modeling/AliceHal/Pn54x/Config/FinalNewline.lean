import AliceHal.Pn54x.Config.Definitions
import AliceHal.Pn54x.Config.HexGroups

/-!
# A Text without Its Last Newline

A quoted string is registered at its closing quote, every other value only at a character behind
it. There is no such character where the text ends with the value, and `readConfig` does nothing
about a value that is still open after the last character: the setting is lost.

- `OpenValue`: the texts of numbers and byte arrays
- `LastValue`: the end of a text, and whether its value has been registered
- `final_newline_iff`: when a newline behind the text changes nothing
-/

namespace AliceHal.Pn54x.Config

variable {w : ℕ}

/-! ## Texts -/

/-- What goes on with a number or a byte array. -/
def continues (base : ℕ) (braces : Bool) (c : UInt8) : Bool :=
  isDigit c base || (braces && isBlank c) || (base == 16 && isSeparator c && c != '\x7d'.toUInt8)

/-- The texts of numbers and byte arrays; `more` are the characters that still belong to the value
when they follow. -/
inductive OpenValue : (UInt8 → Bool) → List UInt8 → Prop where
  | zero :
      OpenValue (fun c => isDigit c 10 || c == 'x'.toUInt8 || c == 'X'.toUInt8) ['0'.toUInt8]
  | decimal {digits : List UInt8} :
      digits ≠ [] → digits ≠ ['0'.toUInt8] → (∀ c ∈ digits, isDigit c 10 = true) →
      OpenValue (continues 10 false) digits
  | hex {x : UInt8} {text : List UInt8} :
      x ∈ ['x'.toUInt8, 'X'.toUInt8] → text ≠ [] → (∀ c ∈ text, continues 16 false c = true) →
      OpenValue (fun c => continues 16 false c || c == '\x7d'.toUInt8) ('0'.toUInt8 :: x :: text)
  | braces {inner : List UInt8} (n : ℕ) :
      (∀ c ∈ inner, continues 16 true c = true) →
      OpenValue (fun c => continues 16 false c || c == '\x7d'.toUInt8)
        ('\x7b'.toUInt8 :: (inner ++ '\x7d'.toUInt8 :: List.replicate n ' '.toUInt8))

/-- A text from its last value on: whether something on the line has ended the value. -/
inductive LastValue : Bool → List UInt8 → Prop where
  | number {more : UInt8 → Bool} {text : List UInt8} : OpenValue more text → LastValue false text
  | followed {more : UInt8 → Bool} {text rest : List UInt8} {c : UInt8} :
      OpenValue more text → more c = false → (∀ d ∈ c :: rest, ¬isNewline d) →
      LastValue true (text ++ c :: rest)
  | string {s rest : List UInt8} :
      '"'.toUInt8 ∉ s → (∀ d ∈ rest, ¬isNewline d) →
      LastValue true ('"'.toUInt8 :: (s ++ '"'.toUInt8 :: rest))

/-! ## Values that are still open -/

namespace Parser

/-- A number or a byte array is being read. -/
structure InValue (base : ℕ) (braces : Bool) (p : Parser w) : Prop where
  phase : p.phase = .numValue
  base : p.base = base
  bflag : p.bflag = braces

/-- What goes on with a value registers nothing. -/
theorem InValue.step_continues {base : ℕ} {braces : Bool} {p : Parser w}
    (h : p.InValue base braces) {c : UInt8} (hc : continues base braces c = true) :
    ∃ q, p.step c = (q, none) ∧ q.InValue base braces := by
  obtain ⟨hphase, rfl, rfl⟩ := h
  simp only [step, hphase, numStep]
  by_cases hdigit : isDigit c p.base = true
  · rw [if_pos hdigit]
    exact ⟨_, rfl, rfl, rfl, rfl⟩
  · by_cases hblank : (p.bflag && isBlank c) = true
    · rw [if_neg hdigit, if_pos hblank]
      exact ⟨_, rfl, hphase, rfl, rfl⟩
    · -- a separator other than the brace
      simp only [continues, hdigit, hblank, Bool.false_or, Bool.and_eq_true] at hc
      obtain ⟨hsep, hbrace⟩ := hc
      rw [if_neg hdigit, if_neg hblank, if_pos (by rw [Bool.and_eq_true]; exact hsep)]
      exact ⟨_, rfl, rfl, rfl, by rw [hbrace, Bool.and_true]⟩

theorem InValue.reads_continues {base : ℕ} {braces : Bool} {text : List UInt8}
    (hall : ∀ c ∈ text, continues base braces c = true) {p : Parser w}
    (h : p.InValue base braces) : ∃ q, p.Reads text q [] ∧ q.InValue base braces := by
  induction text generalizing p with
  | nil => exact ⟨p, Reads.nil p, h⟩
  | cons c text ih =>
    obtain ⟨q, hstep, hq⟩ := h.step_continues (hall c List.mem_cons_self)
    obtain ⟨r, hread, hr⟩ := ih (fun d hd => hall d (List.mem_cons_of_mem c hd)) hq
    exact ⟨r, Reads.cons hstep hread, hr⟩

/-- The closing brace. -/
theorem InValue.step_brace {p : Parser w} (h : p.InValue 16 true) :
    ∃ q, p.step '\x7d'.toUInt8 = (q, none) ∧ q.InValue 16 false := by
  obtain ⟨hphase, hbase, hflag⟩ := h
  have hdigit : isDigit '\x7d'.toUInt8 16 = false := by decide
  have hblank : isBlank '\x7d'.toUInt8 = false := by decide
  have hsep : isSeparator '\x7d'.toUInt8 = true := by decide
  simp only [step, hphase, numStep, hbase, hdigit, hflag, hblank, hsep, Bool.and_false,
    Bool.false_eq_true, if_false, beq_self_eq_true, Bool.and_self, if_true]
  exact ⟨_, rfl, rfl, rfl, by simp⟩

/-- A value is registered at the next character that does not go on with it. -/
structure Awaits (more : UInt8 → Bool) (p : Parser w) : Prop where
  phase : p.phase = .numValue ∨ p.phase = .beginHex
  bflag : p.bflag = false
  ends : ∀ c, more c = false → ¬isNewline c → (p.step c).1.phase = .endLine

/-- Outside braces any other character leads to the end of the line. -/
theorem InValue.ends {base : ℕ} {p : Parser w} (h : p.InValue base false) {c : UInt8}
    (hdigit : isDigit c base = false) (hsep : (base == 16 && isSeparator c) = false)
    (hline : ¬isNewline c) : (p.step c).1.phase = .endLine := by
  obtain ⟨hphase, rfl, hflag⟩ := h
  simp [step, hphase, numStep, hdigit, hflag, hsep, hline, goto]

theorem InValue.awaits_decimal {p : Parser w} (h : p.InValue 10 false) :
    p.Awaits (continues 10 false) where
  phase := .inl h.phase
  bflag := h.bflag
  ends c hmore hline := by
    have hdigit : isDigit c 10 = false := by simpa [continues] using hmore
    exact h.ends hdigit rfl hline

theorem InValue.awaits_hex {p : Parser w} (h : p.InValue 16 false) :
    p.Awaits (fun c => continues 16 false c || c == '\x7d'.toUInt8) where
  phase := .inl h.phase
  bflag := h.bflag
  ends c hmore hline := by
    simp only [continues, Bool.false_and, Bool.or_false, beq_self_eq_true, Bool.true_and,
      Bool.or_eq_false_iff, Bool.and_eq_false_iff] at hmore
    obtain ⟨⟨hdigit, hsep⟩, hbrace⟩ := hmore
    have hnone : isSeparator c = false := hsep.resolve_right (by simpa using hbrace)
    exact h.ends hdigit (by rw [hnone, Bool.and_false]) hline

/-! ## The end of the text -/

/-- What one more character registers. -/
theorem Reads.snoc {p q : Parser w} {text : List UInt8} {added : List (CNfcParam w)}
    (h : p.Reads text q added) (c : UInt8) :
    (p.feed (text ++ [c])).2 = added ++ (q.step c).2.toList := by
  have hlast : q.Reads [c] (q.step c).1 ((q.step c).2.toList ++ []) :=
    Reads.cons rfl (Reads.nil _)
  have hall := h.append hlast
  rw [List.append_nil] at hall
  rw [hall]

theorem step_endLine {p : Parser w} (h : p.phase = .endLine) (c : UInt8) : (p.step c).2 = none := by
  simp [step, h]

/-- A value that waits for the character behind it is registered at a newline. -/
theorem Awaits.step_newline {more : UInt8 → Bool} {p : Parser w} (h : p.Awaits more) :
    ∃ param, (p.step '\n'.toUInt8).2 = some param := by
  obtain ⟨q, -, hread⟩ := reads_newline h.phase h.bflag
  have hfeed := (Reads.nil p).snoc '\n'.toUInt8
  rw [List.nil_append, hread, List.nil_append] at hfeed
  cases hstep : (p.step '\n'.toUInt8).2 with
  | none =>
    rw [hstep] at hfeed
    exact absurd hfeed (List.cons_ne_nil _ _)
  | some param => exact ⟨param, rfl⟩

/-- The first digit or the first two digits of a decimal number. -/
theorem reads_decimalText {digits : List UInt8} (hne : digits ≠ []) (hzero : digits ≠ ['0'.toUInt8])
    (hall : ∀ c ∈ digits, isDigit c 10 = true) (name : List UInt8) (base : ℕ) :
    ∃ q : Parser w, (atValue name base : Parser w).Reads digits q [] ∧ q.InValue 10 false := by
  have hcontinues : ∀ c ∈ digits, continues 10 false c = true := by
    intro c hc
    rw [continues, hall c hc, Bool.true_or, Bool.true_or]
  obtain ⟨c, rest, rfl⟩ := List.exists_cons_of_ne_nil hne
  have hdigit := hall c List.mem_cons_self
  by_cases hc : c = '0'.toUInt8
  · -- the digit behind a zero decides that the number is decimal
    subst hc
    have hmany : rest ≠ [] := fun hnil => hzero (by rw [hnil])
    obtain ⟨d, rest, rfl⟩ := List.exists_cons_of_ne_nil hmany
    have hd := hall d (List.mem_cons_of_mem _ List.mem_cons_self)
    have hx : d ≠ 'x'.toUInt8 := fun heq => absurd (heq ▸ hd) (by decide)
    have hX : d ≠ 'X'.toUInt8 := fun heq => absurd (heq ▸ hd) (by decide)
    have hstep : ∃ q, ((atValue name base : Parser w).goto .beginHex).step d = (q, none) ∧
        q.InValue 10 false := by
      simp only [step, goto, beginHexStep, beq_iff_eq, hx, hX, hd, Bool.or_eq_true, or_self,
        if_false, if_true]
      exact ⟨_, rfl, rfl, rfl, rfl⟩
    obtain ⟨q, hstep, hq⟩ := hstep
    obtain ⟨r, hread, hr⟩ := hq.reads_continues fun e he =>
      hcontinues e (List.mem_cons_of_mem _ (List.mem_cons_of_mem d he))
    exact ⟨r, Reads.cons (atValue_step_zero name base) (Reads.cons hstep hread), hr⟩
  · have hquote : c ≠ '"'.toUInt8 := fun heq => absurd (heq ▸ hdigit) (by decide)
    have hstep : ∃ q, (atValue name base : Parser w).step c = (q, none) ∧ q.InValue 10 false := by
      simp only [step, atValue, beginQuoteStep, beq_iff_eq, hquote, hc, hdigit, if_false, if_true]
      exact ⟨_, rfl, rfl, rfl, rfl⟩
    obtain ⟨q, hstep, hq⟩ := hstep
    obtain ⟨r, hread, hr⟩ := hq.reads_continues fun e he =>
      hcontinues e (List.mem_cons_of_mem c he)
    exact ⟨r, Reads.cons hstep hread, hr⟩

/-- An open value is read without being registered. -/
theorem reads_openValue {more : UInt8 → Bool} {text : List UInt8} (h : OpenValue more text)
    (name : List UInt8) (base : ℕ) :
    ∃ q : Parser w, (atValue name base : Parser w).Reads text q [] ∧ q.Awaits more := by
  cases h with
  | zero =>
    refine ⟨_, Reads.cons (atValue_step_zero name base) (Reads.nil _), .inr rfl, rfl, ?_⟩
    intro c hmore hline
    simp only [Bool.or_eq_false_iff] at hmore
    obtain ⟨⟨hdigit, hx⟩, hX⟩ := hmore
    simp [step, goto, beginHexStep, hdigit, hx, hX, hline]
  | @decimal digits hne hzero hall =>
    obtain ⟨q, hread, hq⟩ := reads_decimalText (w := w) hne hzero hall name base
    exact ⟨q, hread, hq.awaits_decimal⟩
  | @hex x text hx hne hall =>
    have hin : (inNumber (name ++ [0]) [] false 16 0 0 false : Parser w).InValue 16 false :=
      ⟨rfl, rfl, rfl⟩
    obtain ⟨q, hread, hq⟩ := hin.reads_continues hall
    have hfirst := Reads.cons (beginHex_step_x (w := w) hx name base) hread
    exact ⟨q, Reads.cons (atValue_step_zero name base) hfirst, hq.awaits_hex⟩
  | @braces inner n hall =>
    have hin : (inBraces name [] true : Parser w).InValue 16 true := ⟨rfl, rfl, rfl⟩
    obtain ⟨q, hread, hq⟩ := hin.reads_continues hall
    obtain ⟨r, hbrace, hr⟩ := hq.step_brace
    -- spaces behind the brace still belong to the value
    have hspaces : ∀ c ∈ List.replicate n ' '.toUInt8, continues 16 false c = true := by
      intro c hc
      rw [List.eq_of_mem_replicate hc]
      decide
    obtain ⟨last, hrest, hlast⟩ := hr.reads_continues hspaces
    have hvalue := hread.append (Reads.cons hbrace hrest)
    exact ⟨last, Reads.cons (atValue_step_brace name base) hvalue, hlast.awaits_hex⟩

theorem reads_quoted {s : List UInt8} (h : '"'.toUInt8 ∉ s) {p : Parser w}
    (hphase : p.phase = .strValue) :
    ∃ q, p.Reads s q [] ∧ q.phase = .strValue := by
  induction s generalizing p with
  | nil => exact ⟨p, Reads.nil p, hphase⟩
  | cons c s ih =>
    have hc : c ≠ '"'.toUInt8 := fun heq => h (heq ▸ List.mem_cons_self)
    have hstep : ∃ q, p.step c = (q, none) ∧ q.phase = .strValue := by
      simp only [step, hphase, strValueStep, beq_iff_eq, if_neg hc]
      split
      · exact ⟨_, rfl, rfl⟩
      · exact ⟨_, rfl, hphase⟩
    obtain ⟨q, hstep, hq⟩ := hstep
    obtain ⟨r, hread, hr⟩ := ih (fun hmem => h (List.mem_cons_of_mem c hmem)) hq
    exact ⟨r, Reads.cons hstep hread, hr⟩

/-- A newline behind a text registers a setting exactly when its last value is still open. -/
theorem reads_lastValue {ended : Bool} {text : List UInt8} (h : LastValue ended text)
    (name : List UInt8) (base : ℕ) :
    ∃ (q : Parser w) (added : List (CNfcParam w)),
      (atValue name base : Parser w).Reads text q added ∧
        ((q.step '\n'.toUInt8).2 = none ↔ ended = true) := by
  cases h with
  | number h =>
    obtain ⟨q, hread, hq⟩ := reads_openValue (w := w) h name base
    obtain ⟨param, hparam⟩ := hq.step_newline
    refine ⟨q, [], hread, ?_⟩
    rw [hparam]
    simp
  | @followed more text rest c h hmore hline =>
    obtain ⟨q, hread, hq⟩ := reads_openValue (w := w) h name base
    have hend := hq.ends c hmore (hline c List.mem_cons_self)
    have hrest := reads_rest hend fun d hd => hline d (List.mem_cons_of_mem c hd)
    refine ⟨_, _, hread.append (Reads.cons rfl hrest), ?_⟩
    rw [step_endLine hend]
    simp
  | @string s rest hs hline =>
    have hopen : (atValue name base : Parser w).step '"'.toUInt8 =
        ({ (atValue name base : Parser w).goto .strValue with base := 0 }, none) := by
      simp [step, atValue, beginQuoteStep]
    obtain ⟨q, hread, hq⟩ := reads_quoted (w := w) hs
      (rfl : ({ (atValue name base : Parser w).goto .strValue with base := 0 }).phase = .strValue)
    have hend : (q.step '"'.toUInt8).1.phase = .endLine := by
      simp [step, hq, strValueStep, goto]
    have hvalue := hread.append (Reads.cons rfl (reads_rest hend hline))
    refine ⟨_, _, Reads.cons hopen hvalue, ?_⟩
    rw [step_endLine hend]
    simp

end Parser

/-! ## The array -/

/-- The array after a text ending with an assignment is the same with a newline behind it exactly
when something on the line has already ended the value, as the closing quote of a string does. -/
theorem final_newline_iff (crc : List UInt8 → UInt32) (ops : List ConfigOp) (b : Bool)
    {before name vtext : List UInt8} {ended : Bool}
    (hbefore : ((Parser.init : Parser w).feed before).1.phase = .beginLine) (hname : name ≠ [])
    (hprint : ∀ c ∈ name, isPrintable c = true) (h : LastValue ended vtext) :
    ((runOps crc ops : CNfcConfig w).readConfig crc
        (some (before ++ (name ++ '='.toUInt8 :: vtext))) b).1.params =
      ((runOps crc ops : CNfcConfig w).readConfig crc
        (some (before ++ (name ++ '='.toUInt8 :: vtext) ++ ['\n'.toUInt8])) b).1.params ↔
    ended = true := by
  obtain ⟨base, hfirst⟩ := reads_assignment hbefore hname hprint
  obtain ⟨q, added, hvalue, hlast⟩ := Parser.reads_lastValue h name base
  have hread := hfirst.append hvalue
  rw [List.append_assoc, List.append_assoc, List.singleton_append] at hread
  have hparse : parse w (before ++ (name ++ '='.toUInt8 :: vtext)) = parse w before ++ added := by
    rw [parse, hread]
  have hnewline : parse w (before ++ (name ++ '='.toUInt8 :: vtext) ++ ['\n'.toUInt8]) =
      parse w before ++ added ++ (q.step '\n'.toUInt8).2.toList := hread.snoc '\n'.toUInt8
  have hself := (Refines.run ops : Refines (runOps crc ops : CNfcConfig w) _).mList
  have hfile : ∀ text : List UInt8, text ≠ [] → CNfcConfig.readConfigFile (some text) = some text := by
    intro text hne
    obtain ⟨c, rest, rfl⟩ := List.exists_cons_of_ne_nil hne
    rfl
  rw [Refines.readConfig_eq hself (hfile _ (by simp)) b,
    Refines.readConfig_eq hself (hfile _ (by simp)) b, ← hlast, hnewline, hparse]
  cases hstep : (q.step '\n'.toUInt8).2 with
  | none => simp
  | some param =>
    -- one more setting in the file is one more in the array
    constructor
    · intro heq
      have hlen := congrArg List.length heq
      simp only [Lib.length_insertAll, List.length_append, Option.toList_some,
        List.length_singleton] at hlen
      omega
    · intro hnone
      cases hnone

/-- The setting of `A=1` is lost without the newline, and so is that of a byte array. -/
theorem openValue_lost :
    ((runOps (fun _ => 0) [] : CNfcConfig 64).readConfig (fun _ => 0) (some (ascii "A=1"))
        true).1.params ≠
      ((runOps (fun _ => 0) [] : CNfcConfig 64).readConfig (fun _ => 0) (some (ascii "A=1\n"))
        true).1.params ∧
    ((runOps (fun _ => 0) [] : CNfcConfig 64).readConfig (fun _ => 0)
        (some (ascii "A=\x7b01\x7d")) true).1.params ≠
      ((runOps (fun _ => 0) [] : CNfcConfig 64).readConfig (fun _ => 0)
        (some (ascii "A=\x7b01\x7d\n")) true).1.params := by
  decide +kernel

/-- The string of `A="b"` is stored either way. -/
theorem string_kept :
    ((runOps (fun _ => 0) [] : CNfcConfig 64).readConfig (fun _ => 0)
        (some ([] ++ (ascii "A" ++ '='.toUInt8 :: ascii "\"b\""))) true).1.params =
      ((runOps (fun _ => 0) [] : CNfcConfig 64).readConfig (fun _ => 0)
        (some ([] ++ (ascii "A" ++ '='.toUInt8 :: ascii "\"b\"") ++ ['\n'.toUInt8]))
        true).1.params := by
  have hvalue : LastValue true ('"'.toUInt8 :: (ascii "b" ++ ['"'.toUInt8])) :=
    .string (by decide) (by simp)
  exact (final_newline_iff (fun _ => 0) [] true rfl (by decide) (by decide +kernel) hvalue).2 rfl

end AliceHal.Pn54x.Config
