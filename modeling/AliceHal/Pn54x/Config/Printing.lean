import AliceHal.Pn54x.Config.Parser

/-!
# Printed Configurations

The texts that a configuration is written as, and how the automaton reads them. A line leaves
nothing behind that the next one could notice: `Ready` is the invariant between lines.

- `Value`, `ValueText`, `Prints`: assignments and the texts that print them
- `Parser.Reads`: a text read from one state to another
- `Prints.reads`: a printed configuration adds exactly its assignments, in order
-/

namespace AliceHal.Pn54x.Config

variable {w : ℕ}

/-! ## Texts -/

/-- The value of a setting. -/
inductive Value where
  | number (v : ℕ)
  | bytes (bs : List UInt8)
  | string (s : List UInt8)
  deriving DecidableEq, Repr

/-- `c` is the digit `d`, in either case. -/
def DigitChar (base d : ℕ) (c : UInt8) : Prop :=
  d < base ∧ c ∈ [(Nat.digitChar d).toUInt8, (Nat.digitChar d).toUpper.toUInt8]

instance (base d : ℕ) (c : UInt8) : Decidable (DigitChar base d c) :=
  inferInstanceAs (Decidable (_ ∧ _))

/-- `text` is a numeral of `v`; leading zeros are allowed. -/
def Numeral (base v : ℕ) (text : List UInt8) : Prop :=
  ∃ ds : List ℕ, ds ≠ [] ∧ Nat.ofDigits base ds.reverse = v ∧ List.Forall₂ (DigitChar base) ds text

/-- `text` is `b` in two hexadecimal digits. -/
def HexByte (b : UInt8) (text : List UInt8) : Prop :=
  ∃ hi lo : ℕ, 16 * hi + lo = b.toNat ∧ List.Forall₂ (DigitChar 16) [hi, lo] text

/-- Two-digit groups between commas, with blanks around each. -/
inductive GroupsText : List UInt8 → List UInt8 → Prop where
  | one {b : UInt8} {before group after : List UInt8} :
      (∀ c ∈ before, isBlank c) → HexByte b group → (∀ c ∈ after, isBlank c) →
      GroupsText [b] (before ++ (group ++ after))
  | cons {b : UInt8} {bs before group after text : List UInt8} :
      (∀ c ∈ before, isBlank c) → HexByte b group → (∀ c ∈ after, isBlank c) →
      GroupsText bs text →
      GroupsText (b :: bs) (before ++ (group ++ (after ++ ','.toUInt8 :: text)))

/-- The texts of a value. -/
inductive ValueText (w : ℕ) : Value → List UInt8 → Prop where
  | decimal {v : ℕ} {text : List UInt8} :
      v < 2 ^ w → Numeral 10 v text → ValueText w (.number v) text
  | hex {v : ℕ} {x : UInt8} {text : List UInt8} :
      v < 2 ^ w → x ∈ ['x'.toUInt8, 'X'.toUInt8] → Numeral 16 v text →
      ValueText w (.number v) ('0'.toUInt8 :: x :: text)
  | bytes {bs text : List UInt8} :
      GroupsText bs text → ValueText w (.bytes bs) ('\x7b'.toUInt8 :: (text ++ ['\x7d'.toUInt8]))
  | string {s : List UInt8} :
      (∀ c ∈ s, isPrintable c) → ValueText w (.string s) ('"'.toUInt8 :: (s ++ ['"'.toUInt8]))

/-- A list of assignments printed in lines, among blank lines and comment lines. -/
inductive Prints (w : ℕ) : List (List UInt8 × Value) → List UInt8 → Prop where
  | nil : Prints w [] []
  | blank {assignments : List (List UInt8 × Value)} {blanks text : List UInt8} :
      (∀ c ∈ blanks, c ∈ [' '.toUInt8, '\t'.toUInt8, '\r'.toUInt8]) → Prints w assignments text →
      Prints w assignments (blanks ++ '\n'.toUInt8 :: text)
  | comment {assignments : List (List UInt8 × Value)} {note text : List UInt8} :
      (∀ c ∈ note, ¬ isNewline c) → Prints w assignments text →
      Prints w assignments ('#'.toUInt8 :: (note ++ '\n'.toUInt8 :: text))
  | assign {assignments : List (List UInt8 × Value)} {name vtext text : List UInt8} {v : Value} :
      name ≠ [] → (∀ c ∈ name, isPrintable c) → ValueText w v vtext → Prints w assignments text →
      Prints w ((name, v) :: assignments)
        (name ++ '='.toUInt8 :: (vtext ++ '\n'.toUInt8 :: text))

/-- The parameter that an assignment stands for. A string keeps its terminating zero. -/
def Value.param (w : ℕ) (name : List UInt8) : Value → CNfcParam w
  | .number v => ⟨name, [], BitVec.ofNat w v⟩
  | .bytes bs => ⟨name, bs, 0⟩
  | .string s => ⟨name, s ++ [0], 0⟩

/-! ## Characters -/

theorem DigitChar.isDigit {base d : ℕ} {c : UInt8} (hbase : base ∈ [10, 16])
    (h : DigitChar base d c) : Config.isDigit c base = true ∧ getDigitValue c base = d := by
  have hall : ∀ base ∈ [10, 16], ∀ d < base,
      ∀ c ∈ [(Nat.digitChar d).toUInt8, (Nat.digitChar d).toUpper.toUInt8],
        Config.isDigit c base = true ∧ getDigitValue c base = d := by
    decide +kernel
  exact hall base hbase d h.1 c h.2

/-- No letter, digit or mark of a name is one of the characters the automaton looks for. -/
theorem ne_of_isPrintable {c d : UInt8} (hc : isPrintable c = true) (hd : isPrintable d = false) :
    c ≠ d := by
  rintro rfl
  rw [hc] at hd
  cases hd

theorem isDigit_of_isBlank {c : UInt8} (h : isBlank c = true) : Config.isDigit c 16 = false := by
  simp only [isBlank, isNewline, Bool.or_eq_true, beq_iff_eq] at h
  rcases h with (rfl | rfl | rfl) | rfl <;> decide

/-- A name ends at the zero that `TOKEN` pushes. -/
theorem cStr_of_isPrintable {name : List UInt8} (h : ∀ c ∈ name, isPrintable c = true) :
    cStr (name ++ [0]) = name := by
  rw [cStr, List.takeWhile_append_of_pos]
  · simp
  · intro c hc
    simpa using ne_of_isPrintable (h c hc) (by decide : isPrintable 0 = false)

/-! ## Reading -/

namespace Parser

/-- Reading `text` leads from `p` to `q` and adds `added`. -/
def Reads (p : Parser w) (text : List UInt8) (q : Parser w) (added : List (CNfcParam w)) : Prop :=
  p.feed text = (q, added)

theorem Reads.nil (p : Parser w) : p.Reads [] p [] := rfl

theorem Reads.cons {p q r : Parser w} {c : UInt8} {text : List UInt8} {o : Option (CNfcParam w)}
    {added : List (CNfcParam w)} (hstep : p.step c = (q, o)) (h : q.Reads text r added) :
    p.Reads (c :: text) r (o.toList ++ added) := by
  rw [Reads] at h
  rw [Reads, feed, hstep]
  simp only [h]

theorem Reads.append {p q r : Parser w} {s t : List UInt8} {added more : List (CNfcParam w)}
    (h : p.Reads s q added) (h' : q.Reads t r more) : p.Reads (s ++ t) r (added ++ more) := by
  induction s generalizing p added with
  | nil =>
    obtain ⟨rfl, rfl⟩ := Prod.mk.inj h
    exact h'
  | cons c s ih =>
    obtain ⟨rfl, rfl⟩ := Prod.mk.inj h
    rw [List.cons_append, List.append_assoc]
    exact Reads.cons rfl (ih rfl)

/-- Characters that change nothing. -/
theorem Reads.skip {p : Parser w} {text : List UInt8} (h : ∀ c ∈ text, p.step c = (p, none)) :
    p.Reads text p [] := by
  induction text with
  | nil => exact Reads.nil p
  | cons c text ih =>
    have hrest := ih fun d hd => h d (List.mem_cons_of_mem c hd)
    exact Reads.cons (h c List.mem_cons_self) hrest

/-- Between two lines nothing of the line before is left that matters. -/
structure Ready (p : Parser w) : Prop where
  phase : p.phase = .beginLine
  numValue : p.numValue = 0
  bflag : p.bflag = false

theorem ready_init : (init : Parser w).Ready := ⟨rfl, rfl, rfl⟩

/-! ## Blank lines and comments -/

theorem Ready.reads_blank {p : Parser w} (hp : p.Ready) {text : List UInt8}
    (h : ∀ c ∈ text, c ∈ [' '.toUInt8, '\t'.toUInt8, '\r'.toUInt8, '\n'.toUInt8]) :
    p.Reads text p [] := by
  refine Reads.skip fun c hc => ?_
  have hplain : ∀ c ∈ [' '.toUInt8, '\t'.toUInt8, '\r'.toUInt8, '\n'.toUInt8],
      (c == '#'.toUInt8) = false ∧ isPrintable c = false := by decide +kernel
  obtain ⟨hhash, hprint⟩ := hplain c (h c hc)
  simp [step, hp.phase, beginLineStep, hhash, hprint]

/-- The rest of a line. -/
theorem reads_rest {p : Parser w} (hphase : p.phase = .endLine) {rest : List UInt8}
    (h : ∀ c ∈ rest, ¬ isNewline c) : p.Reads rest p [] := by
  apply Reads.skip
  intro c hc
  simp [step, hphase, endLineStep, h c hc]

theorem reads_to_endOfLine {p : Parser w} (hphase : p.phase = .endLine) {note : List UInt8}
    (h : ∀ c ∈ note, ¬ isNewline c) :
    p.Reads (note ++ ['\n'.toUInt8]) (p.goto .beginLine) [] := by
  have hstep : p.step '\n'.toUInt8 = (p.goto .beginLine, none) := by
    simp [step, hphase, endLineStep, isNewline]
  exact (reads_rest hphase h).append (Reads.cons hstep (Reads.nil _))

theorem Ready.reads_comment {p : Parser w} (hp : p.Ready) {note : List UInt8}
    (h : ∀ c ∈ note, ¬ isNewline c) :
    ∃ q, q.Ready ∧ p.Reads ('#'.toUInt8 :: (note ++ ['\n'.toUInt8])) q [] := by
  have hhash : p.step '#'.toUInt8 = (p.goto .endLine, none) := by
    simp [step, hp.phase, beginLineStep]
  refine ⟨(p.goto .endLine).goto .beginLine, ⟨rfl, hp.numValue, hp.bflag⟩, ?_⟩
  exact Reads.cons hhash (reads_to_endOfLine rfl h)

/-! ## Names -/

/-- The state in which a value is read, for the assignment of `name`. -/
def atValue (name : List UInt8) (base : ℕ) : Parser w :=
  ⟨.beginQuote, false, name ++ [0], [], 0, 0, base, false⟩

theorem reads_token {name : List UInt8} (h : ∀ c ∈ name, isPrintable c = true) (p : Parser w)
    (hphase : p.phase = .token) :
    p.Reads name { p with token := p.token ++ name } [] := by
  induction name generalizing p with
  | nil =>
    rw [List.append_nil]
    exact Reads.nil p
  | cons c name ih =>
    have hc := h c List.mem_cons_self
    have heq := ne_of_isPrintable hc (by decide : isPrintable '='.toUInt8 = false)
    have hstep : p.step c = ({ p with token := p.token ++ [c] }, none) := by
      simp [step, hphase, tokenStep, heq, hc]
    have hrest := ih (fun d hd => h d (List.mem_cons_of_mem c hd))
      { p with token := p.token ++ [c] } hphase
    rw [List.append_assoc, List.singleton_append] at hrest
    exact Reads.cons hstep hrest

theorem Ready.reads_name {p : Parser w} (hp : p.Ready) {name : List UInt8} (hname : name ≠ [])
    (h : ∀ c ∈ name, isPrintable c = true) :
    p.Reads (name ++ ['='.toUInt8]) (atValue name p.base) [] := by
  obtain ⟨c, rest, rfl⟩ := List.exists_cons_of_ne_nil hname
  have hc := h c List.mem_cons_self
  have hhash := ne_of_isPrintable hc (by decide : isPrintable '#'.toUInt8 = false)
  have hfirst : p.step c = ({ p.goto .token with i := 0, token := [c], strValue := [] }, none) := by
    simp [step, hp.phase, beginLineStep, hhash, hc]
  have hrest := reads_token (fun d hd => h d (List.mem_cons_of_mem c hd))
    { p.goto .token with i := 0, token := [c], strValue := [] } rfl
  refine Reads.cons hfirst (Reads.append hrest (Reads.cons (o := none) ?_ (Reads.nil _)))
  simp [step, tokenStep, goto, atValue, hp.numValue, hp.bflag]

/-! ## Numbers -/

/-- A number that is being read: its value so far and the digits counted. -/
def inNumber (token strValue : List UInt8) (f : Bool) (base n i : ℕ) (bflag : Bool) : Parser w :=
  ⟨.numValue, f, token, strValue, BitVec.ofNat w n, i, base, bflag⟩

/-- The value of digits, first digit highest, after `n`. -/
def horner (base n : ℕ) (ds : List ℕ) : ℕ := ds.foldl (fun n d => n * base + d) n

theorem horner_zero (base : ℕ) (ds : List ℕ) : horner base 0 ds = Nat.ofDigits base ds.reverse := by
  rw [horner, Nat.ofDigits_eq_foldr, List.foldr_reverse]
  congr 1
  funext n d
  push_cast
  ring

theorem reads_digits {base : ℕ} (hbase : base ∈ [10, 16]) {ds : List ℕ} {text : List UInt8}
    (h : List.Forall₂ (DigitChar base) ds text) (token strValue : List UInt8) (f bflag : Bool)
    (n i : ℕ) :
    (inNumber token strValue f base n i bflag : Parser w).Reads text
      (inNumber token strValue f base (horner base n ds) (i + ds.length) bflag) [] := by
  induction h generalizing n i with
  | nil => exact Reads.nil _
  | @cons d c ds text hd _ ih =>
    obtain ⟨hdigit, hvalue⟩ := hd.isDigit hbase
    have hstep : (inNumber token strValue f base n i bflag : Parser w).step c =
        (inNumber token strValue f base (n * base + d) (i + 1) bflag, none) := by
      simp only [step, inNumber, numStep, hdigit, hvalue, if_true]
      rw [BitVec.ofNat_add, BitVec.ofNat_mul]
    have hlen : i + (d :: ds).length = i + 1 + ds.length := by
      rw [List.length_cons]
      omega
    rw [hlen]
    exact Reads.cons hstep (ih (n * base + d) (i + 1))

theorem isDigit_of_isNewline {c : UInt8} (h : isNewline c = true) (base : ℕ) :
    isDigit c base = false := by
  simp only [isNewline, Bool.or_eq_true, beq_iff_eq] at h
  rcases h with rfl | rfl
  · have hdec : ('0'.toUInt8 ≤ '\n'.toUInt8) = False := by decide
    have hupper : ('A'.toUInt8 ≤ '\n'.toUInt8) = False := by decide
    have hlower : ('a'.toUInt8 ≤ '\n'.toUInt8) = False := by decide
    simp [isDigit, hdec, hupper, hlower]
  · have hdec : ('0'.toUInt8 ≤ '\r'.toUInt8) = False := by decide
    have hupper : ('A'.toUInt8 ≤ '\r'.toUInt8) = False := by decide
    have hlower : ('a'.toUInt8 ≤ '\r'.toUInt8) = False := by decide
    simp [isDigit, hdec, hupper, hlower]

/-- Outside braces the end of a line closes a value. -/
theorem numStep_newline {p : Parser w} (hflag : p.bflag = false) {c : UInt8}
    (hline : isNewline c = true) :
    p.numStep c = ({ p.goto .beginLine with strValue := [], numValue := 0 },
      some (if 0 < p.strValue.length then .ofString p.token p.strValue
        else .ofNumber p.token p.numValue)) := by
  have hsep : isSeparator c = false := by
    have hplain : ∀ c ∈ ['\n'.toUInt8, '\r'.toUInt8], isSeparator c = false := by decide +kernel
    exact hplain c (by simpa [isNewline] using hline)
  simp [numStep, isDigit_of_isNewline hline, hflag, hsep, hline, goto]

/-- What reading a value and the end of its line has to give. -/
def ReadsValue (p : Parser w) (text name : List UInt8) (v : Value) : Prop :=
  ∃ q : Parser w, q.Ready ∧ p.Reads (text ++ ['\n'.toUInt8]) q [v.param w name]

/-- The end of the line closes a value outside braces, also after a single zero. -/
theorem reads_newline {p : Parser w} (hphase : p.phase = .numValue ∨ p.phase = .beginHex)
    (hflag : p.bflag = false) :
    ∃ q : Parser w, q.Ready ∧ p.Reads ['\n'.toUInt8] q
      [if 0 < p.strValue.length then .ofString p.token p.strValue
        else .ofNumber p.token p.numValue] := by
  have hline : isNewline '\n'.toUInt8 = true := by decide
  have hnum := numStep_newline hflag hline
  have hstep : p.step '\n'.toUInt8 = p.numStep '\n'.toUInt8 := by
    rcases hphase with h | h
    · simp [step, h]
    · have hx : ('\n'.toUInt8 == 'x'.toUInt8) = false := by decide
      have hX : ('\n'.toUInt8 == 'X'.toUInt8) = false := by decide
      simp [step, h, beginHexStep, hx, hX, isDigit_of_isNewline hline, hline]
  exact ⟨{ p.goto .beginLine with strValue := [], numValue := 0 }, ⟨rfl, rfl, hflag⟩,
    Reads.cons (hstep.trans hnum) (Reads.nil _)⟩

/-- The end of a number. -/
theorem readsValue_number {p : Parser w} (hphase : p.phase = .numValue ∨ p.phase = .beginHex)
    (hflag : p.bflag = false) (hstr : p.strValue = []) {name : List UInt8}
    (hname : ∀ c ∈ name, isPrintable c = true) (htoken : p.token = name ++ [0]) {v : ℕ}
    (hv : p.numValue = BitVec.ofNat w v) : ReadsValue p [] name (.number v) := by
  obtain ⟨q, hq, hread⟩ := reads_newline hphase hflag
  refine ⟨q, hq, ?_⟩
  rw [hstr, htoken, hv, CNfcParam.ofNumber, cStr_of_isPrintable hname] at hread
  exact hread

/-- The end of a byte list. -/
theorem readsValue_bytes {p : Parser w} (hphase : p.phase = .numValue) (hflag : p.bflag = false)
    {bs name : List UInt8} (hstr : p.strValue = bs) (hne : bs ≠ [])
    (hname : ∀ c ∈ name, isPrintable c = true) (htoken : p.token = name ++ [0]) :
    ReadsValue p [] name (.bytes bs) := by
  obtain ⟨q, hq, hread⟩ := reads_newline (Or.inl hphase) hflag
  refine ⟨q, hq, ?_⟩
  rw [hstr, htoken, if_pos (List.length_pos_iff.2 hne), CNfcParam.ofString,
    cStr_of_isPrintable hname] at hread
  exact hread

theorem ReadsValue.of_reads {p q : Parser w} {text rest name : List UInt8} {v : Value}
    (h : p.Reads text q []) (h' : ReadsValue q rest name v) : ReadsValue p (text ++ rest) name v := by
  obtain ⟨r, hr, hrest⟩ := h'
  refine ⟨r, hr, ?_⟩
  rw [List.append_assoc]
  exact Reads.append h hrest

/-- Digits up to the end of the line. -/
theorem reads_numeral {base : ℕ} (hbase : base ∈ [10, 16]) {ds : List ℕ} {text name : List UInt8}
    (h : List.Forall₂ (DigitChar base) ds text) (hname : ∀ c ∈ name, isPrintable c = true)
    (n i : ℕ) :
    ReadsValue (inNumber (name ++ [0]) [] false base n i false : Parser w) text name
      (.number (horner base n ds)) := by
  have hdigits := reads_digits (w := w) hbase h (name ++ [0]) [] false false n i
  have hall := ReadsValue.of_reads hdigits (readsValue_number (Or.inl rfl) rfl rfl hname rfl rfl)
  rwa [List.append_nil] at hall

theorem horner_cons (base d : ℕ) (ds : List ℕ) :
    horner base 0 (d :: ds) = horner base d ds := by
  rw [horner, List.foldl_cons, Nat.zero_mul, Nat.zero_add, horner]

/-- A first digit other than zero. -/
theorem atValue_step_digit {d : ℕ} {c : UInt8} (hd : DigitChar 10 d c) (hzero : c ≠ '0'.toUInt8)
    (name : List UInt8) (base : ℕ) :
    (atValue name base : Parser w).step c =
      (inNumber (name ++ [0]) [] false 10 d 0 false, none) := by
  obtain ⟨hdigit, hvalue⟩ := hd.isDigit (by simp)
  have hquote : c ≠ '"'.toUInt8 := by
    rintro rfl
    exact absurd hdigit (by decide)
  simp [step, atValue, beginQuoteStep, hquote, hzero, hdigit, hvalue, goto, inNumber]

/-- A digit after a leading zero. -/
theorem beginHex_step_digit {d : ℕ} {c : UInt8} (hd : DigitChar 10 d c) (name : List UInt8)
    (base : ℕ) :
    ((atValue name base : Parser w).goto .beginHex).step c =
      (inNumber (name ++ [0]) [] false 10 d 0 false, none) := by
  obtain ⟨hdigit, hvalue⟩ := hd.isDigit (by simp)
  have hx : c ≠ 'x'.toUInt8 ∧ c ≠ 'X'.toUInt8 := by
    constructor <;> rintro rfl <;> exact absurd hdigit (by decide)
  simp [step, atValue, beginHexStep, hx.1, hx.2, hdigit, hvalue, goto, inNumber]

theorem atValue_step_zero (name : List UInt8) (base : ℕ) :
    (atValue name base : Parser w).step '0'.toUInt8 =
      ((atValue name base : Parser w).goto .beginHex, none) := by
  have hquote : ('0'.toUInt8 == '"'.toUInt8) = false := by decide
  simp [step, atValue, beginQuoteStep, hquote]

/-- Decimal numbers. -/
theorem reads_decimal {v : ℕ} {text name : List UInt8} (h : Numeral 10 v text)
    (hname : ∀ c ∈ name, isPrintable c = true) (base : ℕ) :
    ReadsValue (atValue name base : Parser w) text name (.number v) := by
  obtain ⟨ds, hne, hv, hdigits⟩ := h
  rw [← horner_zero] at hv
  cases hdigits with
  | nil => exact absurd rfl hne
  | @cons d c ds text hd hrest =>
    rw [horner_cons] at hv
    by_cases hzero : c = '0'.toUInt8
    · -- the number starts in `BEGIN_HEX`
      subst hzero
      have hd0 : d = 0 := (hd.isDigit (by simp)).2.symm
      have hfirst := Reads.cons (atValue_step_zero (w := w) name base) (Reads.nil _)
      refine ReadsValue.of_reads hfirst ?_
      subst hd0
      cases hrest with
      | nil =>
        rw [← hv]
        exact readsValue_number (Or.inr rfl) rfl rfl hname rfl rfl
      | @cons d c ds text hd hrest =>
        rw [horner_cons] at hv
        have hsecond := Reads.cons (beginHex_step_digit (w := w) hd name base) (Reads.nil _)
        refine ReadsValue.of_reads hsecond ?_
        rw [← hv]
        exact reads_numeral (by simp) hrest hname d 0
    · have hfirst := Reads.cons (atValue_step_digit (w := w) hd hzero name base) (Reads.nil _)
      refine ReadsValue.of_reads hfirst ?_
      rw [← hv]
      exact reads_numeral (by simp) hrest hname d 0

theorem beginHex_step_x {x : UInt8} (hx : x ∈ ['x'.toUInt8, 'X'.toUInt8]) (name : List UInt8)
    (base : ℕ) :
    ((atValue name base : Parser w).goto .beginHex).step x =
      (inNumber (name ++ [0]) [] false 16 0 0 false, none) := by
  have hor : (x == 'x'.toUInt8 || x == 'X'.toUInt8) = true := by
    simpa using hx
  simp [step, atValue, beginHexStep, hor, goto, inNumber]

/-- Hexadecimal numbers. -/
theorem reads_hex {v : ℕ} {x : UInt8} {text name : List UInt8}
    (hx : x ∈ ['x'.toUInt8, 'X'.toUInt8]) (h : Numeral 16 v text)
    (hname : ∀ c ∈ name, isPrintable c = true) (base : ℕ) :
    ReadsValue (atValue name base : Parser w) ('0'.toUInt8 :: x :: text) name (.number v) := by
  obtain ⟨ds, -, hv, hdigits⟩ := h
  rw [← horner_zero] at hv
  have hread := Reads.cons (atValue_step_zero (w := w) name base)
    (Reads.cons (beginHex_step_x hx name base) (Reads.nil _))
  refine ReadsValue.of_reads hread ?_
  rw [← hv]
  exact reads_numeral (by simp) hdigits hname 0 0

/-! ## Byte lists -/

/-- Between the braces, at the start of a group. -/
def inBraces (name strValue : List UInt8) (bflag : Bool) : Parser w :=
  inNumber (name ++ [0]) strValue true 16 0 0 bflag

theorem atValue_step_brace (name : List UInt8) (base : ℕ) :
    (atValue name base : Parser w).step '\x7b'.toUInt8 = (inBraces name [] true, none) := by
  have hquote : ('\x7b'.toUInt8 == '"'.toUInt8) = false := by decide
  have hzero : ('\x7b'.toUInt8 == '0'.toUInt8) = false := by decide
  have hdigit : isDigit '\x7b'.toUInt8 10 = false := by decide
  simp [step, atValue, beginQuoteStep, hquote, hzero, hdigit, inBraces, inNumber]

theorem reads_blanks {text : List UInt8} (h : ∀ c ∈ text, isBlank c) (token strValue : List UInt8)
    (n i : ℕ) :
    (inNumber token strValue true 16 n i true : Parser w).Reads text
      (inNumber token strValue true 16 n i true) [] := by
  refine Reads.skip fun c hc => ?_
  have hblank := h c hc
  simp [step, inNumber, numStep, isDigit_of_isBlank hblank, hblank]

/-- The separator after two digits pushes their byte. -/
theorem inNumber_step_separator (hw : 8 ≤ w) {sep : UInt8}
    (hsep : sep ∈ [','.toUInt8, '\x7d'.toUInt8]) (name strValue : List UInt8) (b : UInt8) :
    (inNumber (name ++ [0]) strValue true 16 b.toNat 2 true : Parser w).step sep =
      (inBraces name (strValue ++ [b]) (sep != '\x7d'.toUInt8), none) := by
  have hclass : ∀ sep ∈ [','.toUInt8, '\x7d'.toUInt8],
      isDigit sep 16 = false ∧ isBlank sep = false ∧ isSeparator sep = true := by decide +kernel
  obtain ⟨hdigit, hblank, hclose⟩ := hclass sep hsep
  have hbyte : lowByte (BitVec.ofNat w b.toNat) = b := by
    have hlt : b.toNat < 2 ^ w := b.toNat_lt.trans_le (Nat.pow_le_pow_right (by omega) hw)
    rw [lowByte, BitVec.toNat_ofNat, Nat.mod_eq_of_lt hlt, UInt8.ofNat_toNat]
  simp [step, inNumber, numStep, inBraces, hdigit, hblank, hclose, shiftedBytes, hbyte]

/-- One group with the separator after it. -/
theorem reads_group (hw : 8 ≤ w) {sep b : UInt8} (hsep : sep ∈ [','.toUInt8, '\x7d'.toUInt8])
    {before group after : List UInt8} (hbefore : ∀ c ∈ before, isBlank c) (hb : HexByte b group)
    (hafter : ∀ c ∈ after, isBlank c) (name strValue : List UInt8) :
    (inBraces name strValue true : Parser w).Reads (before ++ (group ++ (after ++ [sep])))
      (inBraces name (strValue ++ [b]) (sep != '\x7d'.toUInt8)) [] := by
  obtain ⟨hi, lo, hvalue, hdigits⟩ := hb
  have hread := reads_digits (w := w) (by simp) hdigits (name ++ [0]) strValue true true 0 0
  have hhorner : horner 16 0 [hi, lo] = b.toNat := by
    simp only [horner, List.foldl_cons, List.foldl_nil]
    omega
  rw [hhorner] at hread
  have hlast := Reads.cons (inNumber_step_separator (w := w) hw hsep name strValue b) (Reads.nil _)
  exact (reads_blanks hbefore _ _ 0 0).append
    (hread.append ((reads_blanks hafter _ _ b.toNat 2).append hlast))

/-- All groups, up to the closing brace. -/
theorem reads_groups (hw : 8 ≤ w) {bs text : List UInt8} (h : GroupsText bs text)
    (name strValue : List UInt8) :
    (inBraces name strValue true : Parser w).Reads (text ++ ['\x7d'.toUInt8])
      (inBraces name (strValue ++ bs) false) [] := by
  induction h generalizing strValue with
  | one hbefore hb hafter =>
    simp only [List.append_assoc]
    exact reads_group hw (by simp) hbefore hb hafter name strValue
  | @cons b bs before group after text hbefore hb hafter _ ih =>
    have hcomma : ','.toUInt8 ∈ [','.toUInt8, '\x7d'.toUInt8] := List.mem_cons_self
    have hgroup := reads_group (w := w) hw hcomma hbefore hb hafter name strValue
    have hall := hgroup.append (ih (strValue ++ [b]))
    simp only [List.append_assoc, List.cons_append] at hall ⊢
    exact hall

theorem groupsText_ne_nil {bs text : List UInt8} (h : GroupsText bs text) : bs ≠ [] := by
  cases h with
  | one => exact List.cons_ne_nil _ _
  | cons => exact List.cons_ne_nil _ _

theorem reads_bytes (hw : 8 ≤ w) {bs text name : List UInt8} (h : GroupsText bs text)
    (hname : ∀ c ∈ name, isPrintable c = true) (base : ℕ) :
    ReadsValue (atValue name base : Parser w) ('\x7b'.toUInt8 :: (text ++ ['\x7d'.toUInt8])) name
      (.bytes bs) := by
  have hread := Reads.cons (atValue_step_brace name base) (reads_groups hw h name [])
  have hend : ReadsValue (inBraces name ([] ++ bs) false : Parser w) [] name (.bytes bs) :=
    readsValue_bytes rfl rfl rfl (groupsText_ne_nil h) hname rfl
  have hall := ReadsValue.of_reads hread hend
  rwa [List.append_nil] at hall

/-! ## Strings -/

theorem reads_printable {s : List UInt8} (h : ∀ c ∈ s, isPrintable c = true) (p : Parser w)
    (hphase : p.phase = .strValue) :
    p.Reads s { p with strValue := p.strValue ++ s } [] := by
  induction s generalizing p with
  | nil =>
    rw [List.append_nil]
    exact Reads.nil p
  | cons c s ih =>
    have hc := h c List.mem_cons_self
    have hquote := ne_of_isPrintable hc (by decide : isPrintable '"'.toUInt8 = false)
    have hstep : p.step c = ({ p with strValue := p.strValue ++ [c] }, none) := by
      simp [step, hphase, strValueStep, hquote, hc]
    have hrest := ih (fun d hd => h d (List.mem_cons_of_mem c hd))
      { p with strValue := p.strValue ++ [c] } hphase
    rw [List.append_assoc, List.singleton_append] at hrest
    exact Reads.cons hstep hrest

theorem reads_string {s name : List UInt8} (h : ∀ c ∈ s, isPrintable c = true)
    (hname : ∀ c ∈ name, isPrintable c = true) (base : ℕ) :
    ReadsValue (atValue name base : Parser w) ('"'.toUInt8 :: (s ++ ['"'.toUInt8])) name
      (.string s) := by
  have hopen : (atValue name base : Parser w).step '"'.toUInt8 =
      (⟨.strValue, false, name ++ [0], [], 0, 0, 0, false⟩, none) := by
    simp [step, atValue, beginQuoteStep, goto]
  have hchars := reads_printable h (⟨.strValue, false, name ++ [0], [], 0, 0, 0, false⟩ : Parser w)
    rfl
  have hclose : (⟨.strValue, false, name ++ [0], s, 0, 0, 0, false⟩ : Parser w).step '"'.toUInt8 =
      (⟨.endLine, false, name ++ [0], s ++ [0], 0, 0, 0, false⟩,
        some ((Value.string s).param w name)) := by
    simp [step, strValueStep, goto, CNfcParam.ofString, cStr_of_isPrintable hname, Value.param]
  have hnone : ∀ c ∈ ([] : List UInt8), ¬ isNewline c := by simp
  have hend := reads_to_endOfLine
    (p := (⟨.endLine, false, name ++ [0], s ++ [0], 0, 0, 0, false⟩ : Parser w)) rfl hnone
  have hall := Reads.cons hopen (hchars.append (Reads.cons hclose hend))
  refine ⟨⟨.beginLine, false, name ++ [0], s ++ [0], 0, 0, 0, false⟩, ⟨rfl, rfl, rfl⟩, ?_⟩
  simpa [goto] using hall

theorem reads_value (hw : 8 ≤ w) {v : Value} {text name : List UInt8} (h : ValueText w v text)
    (hname : ∀ c ∈ name, isPrintable c = true) (base : ℕ) :
    ReadsValue (atValue name base : Parser w) text name v := by
  cases h with
  | decimal _ h => exact reads_decimal h hname base
  | hex _ hx h => exact reads_hex hx h hname base
  | bytes h => exact reads_bytes hw h hname base
  | string h => exact reads_string h hname base

end Parser

/-! ## Whole texts -/

/-- A printed configuration adds its assignments, in order, whatever came before it. -/
theorem Prints.reads (hw : 8 ≤ w) {assignments : List (List UInt8 × Value)} {text : List UInt8}
    (h : Prints w assignments text) {p : Parser w} (hp : p.Ready) :
    ∃ q : Parser w, q.Ready ∧
      p.Reads text q (assignments.map fun a => a.2.param w a.1) := by
  induction h generalizing p with
  | nil => exact ⟨p, hp, .nil p⟩
  | @blank assignments blanks text hblank _ ih =>
    obtain ⟨q, hq, hrest⟩ := ih hp
    have hline : p.Reads (blanks ++ ['\n'.toUInt8]) p [] := by
      refine hp.reads_blank fun c hc => ?_
      rcases List.mem_append.1 hc with hc | hc
      · have := hblank c hc
        simp only [List.mem_cons, List.not_mem_nil, or_false] at this ⊢
        tauto
      · simp only [List.mem_cons, List.not_mem_nil, or_false] at hc ⊢
        exact Or.inr (Or.inr (Or.inr hc))
    have hall := hline.append hrest
    rw [List.append_assoc] at hall
    exact ⟨q, hq, hall⟩
  | @comment assignments note text hnote _ ih =>
    obtain ⟨p', hp', hline⟩ := hp.reads_comment hnote
    obtain ⟨q, hq, hrest⟩ := ih hp'
    have hall := hline.append hrest
    rw [List.cons_append, List.append_assoc] at hall
    exact ⟨q, hq, hall⟩
  | @assign assignments name vtext text v hne hname hv _ ih =>
    obtain ⟨p', hp', hvalue⟩ := Parser.reads_value hw hv hname p.base
    obtain ⟨q, hq, hrest⟩ := ih hp'
    have hall := (hp.reads_name hne hname).append (hvalue.append hrest)
    simp only [List.append_assoc, List.cons_append, List.nil_append] at hall
    exact ⟨q, hq, hall⟩

/-- Parsing undoes printing. -/
theorem Prints.parse_eq (hw : 8 ≤ w) {assignments : List (List UInt8 × Value)} {text : List UInt8}
    (h : Prints w assignments text) :
    parse w text = assignments.map fun a => a.2.param w a.1 := by
  obtain ⟨q, -, hread⟩ := h.reads hw Parser.ready_init
  rw [parse, hread]

end AliceHal.Pn54x.Config
