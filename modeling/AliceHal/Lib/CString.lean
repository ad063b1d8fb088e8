import Mathlib

/-!
# C Strings

Text as bytes, with the functions of the C library that search it, read a number from it and print
one.

- `cString`: the bytes before the first null byte
- `strchr`: splitting at the first occurrence of a character
- `strtol`: reading a number of any base, limited to a type of `w` bits
- `printInt`: printing a number in decimal
- `strtol_append`: reading stops at a character that is not part of a number
- `strtol_printInt`: a printed number is read back
-/

namespace Lib

/-- The bytes of a text literal. -/
def asciiBytes (s : String) : List UInt8 := s.toList.map Char.toUInt8

/-- What a pointer to characters stands for. -/
def cString (s : List UInt8) : List UInt8 := s.takeWhile (· != 0)

theorem zero_notMem_cString (s : List UInt8) : 0 ∉ cString s := by
  intro h
  simpa using List.mem_takeWhile_imp h

theorem cString_of_notMem {s : List UInt8} (h : 0 ∉ s) : cString s = s := by
  apply List.takeWhile_eq_self_iff.2
  intro c hc
  have hne : c ≠ 0 := fun heq => h (heq ▸ hc)
  simpa using hne

@[simp] theorem cString_cString (s : List UInt8) : cString (cString s) = cString s :=
  cString_of_notMem (zero_notMem_cString s)

/-! ## Searching -/

/-- The text before the first occurrence of a character, and the text after it. -/
def strchr (c : UInt8) : List UInt8 → Option (List UInt8 × List UInt8)
  | [] => none
  | b :: s => if b = c then some ([], s) else (strchr c s).map fun r => (b :: r.1, r.2)

variable {c : UInt8}

theorem strchr_append {s : List UInt8} (h : c ∉ s) (t : List UInt8) :
    strchr c (s ++ c :: t) = some (s, t) := by
  induction s with
  | nil => simp [strchr]
  | cons b s ih =>
    have hb : b ≠ c := fun heq => h (heq ▸ List.mem_cons_self)
    have hs : c ∉ s := fun hc => h (List.mem_cons_of_mem b hc)
    simp [strchr, hb, ih hs]

theorem strchr_eq_none {s : List UInt8} : strchr c s = none ↔ c ∉ s := by
  induction s with
  | nil => simp [strchr]
  | cons b s ih =>
    by_cases hb : b = c
    · simp [strchr, hb]
    · simp [strchr, hb, ih, Ne.symm hb]

theorem strchr_eq_some {s u t : List UInt8} :
    strchr c s = some (u, t) ↔ s = u ++ c :: t ∧ c ∉ u := by
  constructor
  · intro h
    induction s generalizing u with
    | nil => simp [strchr] at h
    | cons b s ih =>
      rw [strchr] at h
      split at h
      · rename_i heq
        simp only [Option.some.injEq, Prod.mk.injEq] at h
        obtain ⟨rfl, rfl⟩ := h
        simp [heq]
      · rename_i hne
        obtain ⟨⟨u', t'⟩, hrest, heq⟩ := Option.map_eq_some_iff.1 h
        simp only [Prod.mk.injEq] at heq
        obtain ⟨rfl, rfl⟩ := heq
        obtain ⟨rfl, hnot⟩ := ih hrest
        simp [hnot, Ne.symm hne]
  · rintro ⟨rfl, hnot⟩
    exact strchr_append hnot t

/-- The text after an occurrence is shorter. -/
theorem length_lt_of_strchr {s u t : List UInt8} (h : strchr c s = some (u, t)) :
    t.length < s.length := by
  obtain ⟨rfl, -⟩ := strchr_eq_some.1 h
  simp only [List.length_append, List.length_cons]
  omega

/-! ## Numbers -/

/-- White space. -/
def isSpace (c : UInt8) : Bool := c == 0x20 || (0x09 ≤ c && c ≤ 0x0d)

/-- The value of a digit: the letters follow the ten figures. -/
def digitValue (c : UInt8) : ℕ :=
  if 0x30 ≤ c ∧ c ≤ 0x39 then c.toNat - 0x30
  else if 0x61 ≤ c ∧ c ≤ 0x7a then c.toNat - 0x61 + 10
  else if 0x41 ≤ c ∧ c ≤ 0x5a then c.toNat - 0x41 + 10
  else 36

/-- A digit of a base. -/
def isDigitOf (base : ℕ) (c : UInt8) : Bool := digitValue c < base

/-- The sign of a number, and what follows. -/
def takeSign : List UInt8 → Bool × List UInt8
  | [] => (false, [])
  | c :: s => if c = 0x2d then (true, s) else if c = 0x2b then (false, s) else (false, c :: s)

/-- The base of a number, with the marks of the base taken off. Base 0 leaves the choice to them. -/
def takeBase (base : ℕ) (s : List UInt8) : ℕ × List UInt8 :=
  let marked := s.head? = some 0x30 ∧ (s[1]? = some 0x78 ∨ s[1]? = some 0x58) ∧
    (s[2]?.any (isDigitOf 16) : Bool) = true
  if (base = 0 ∨ base = 16) ∧ marked then (16, s.drop 2)
  else if base = 0 then (if s.head? = some 0x30 then 8 else 10, s)
  else (base, s)

/-- The value of digits, the most significant first. -/
def ofDigitChars (base : ℕ) (ds : List UInt8) : ℕ :=
  ds.foldl (fun n c => n * base + digitValue c) 0

/-- A number limited to what a signed type of `w` bits holds. -/
def saturate (w : ℕ) (v : ℤ) : ℤ := max (-(2 ^ (w - 1) : ℕ)) (min v ((2 ^ (w - 1) : ℕ) - 1))

/-- The number at the front of a text, and the text after it. Without a digit nothing is read. -/
def strtol (w base : ℕ) (s : List UInt8) : ℤ × List UInt8 :=
  let signed := takeSign (s.dropWhile isSpace)
  let based := takeBase base signed.2
  let ds := based.2.takeWhile (isDigitOf based.1)
  if ds = [] then (0, s)
  else
    let v : ℤ := ofDigitChars based.1 ds
    (saturate w (if signed.1 then -v else v), based.2.dropWhile (isDigitOf based.1))

theorem takeSign_suffix (s : List UInt8) : (takeSign s).2 <:+ s := by
  cases s with
  | nil => exact List.suffix_refl []
  | cons c s =>
    simp only [takeSign]
    split
    · exact List.suffix_cons c s
    · split
      · exact List.suffix_cons c s
      · exact List.suffix_refl (c :: s)

theorem takeBase_suffix (base : ℕ) (s : List UInt8) : (takeBase base s).2 <:+ s := by
  simp only [takeBase]
  split
  · exact List.drop_suffix 2 s
  · split <;> exact List.suffix_refl s

/-- What is left of the text is its end. -/
theorem strtol_suffix (w base : ℕ) (s : List UInt8) : (strtol w base s).2 <:+ s := by
  simp only [strtol]
  split
  · exact List.suffix_refl s
  · apply List.IsSuffix.trans (List.dropWhile_suffix _)
    apply List.IsSuffix.trans (takeBase_suffix _ _)
    apply List.IsSuffix.trans (takeSign_suffix _)
    exact List.dropWhile_suffix _

/-- A number in decimal. -/
def printNat (n : ℕ) : List UInt8 :=
  if n = 0 then [0x30] else (Nat.digits 10 n).reverse.map fun d => UInt8.ofNat (0x30 + d)

/-- A number in decimal, with its sign where it is negative. -/
def printInt (v : ℤ) : List UInt8 :=
  if v < 0 then 0x2d :: printNat v.natAbs else printNat v.natAbs

/-! ## Where reading stops -/

/-- A character that is not part of a decimal number. -/
structure Stops (c : UInt8) : Prop where
  space : isSpace c = false
  minus : c ≠ 0x2d
  plus : c ≠ 0x2b
  digit : isDigitOf 10 c = false

theorem takeWhile_append_cons {p : UInt8 → Bool} (h : p c = false) (s t : List UInt8) :
    (s ++ c :: t).takeWhile p = s.takeWhile p := by
  induction s with
  | nil => simp [h]
  | cons b s ih => simp [List.takeWhile_cons, ih]

theorem dropWhile_append_cons {p : UInt8 → Bool} (h : p c = false) (s t : List UInt8) :
    (s ++ c :: t).dropWhile p = s.dropWhile p ++ c :: t := by
  induction s with
  | nil => simp [h]
  | cons b s ih =>
    simp only [List.cons_append, List.dropWhile_cons, ih]
    split <;> simp

theorem takeSign_append (h : Stops c) (s t : List UInt8) :
    takeSign (s ++ c :: t) = ((takeSign s).1, (takeSign s).2 ++ c :: t) := by
  cases s with
  | nil => simp [takeSign, h.minus, h.plus]
  | cons b s =>
    simp only [List.cons_append, takeSign]
    split
    · rfl
    · split <;> rfl

@[simp] theorem takeBase_ten (s : List UInt8) : takeBase 10 s = (10, s) := by simp [takeBase]

/-- A number is read in the same way where a character that is not part of it follows. -/
theorem strtol_append (h : Stops c) (w : ℕ) (s t : List UInt8) :
    strtol w 10 (s ++ c :: t) = ((strtol w 10 s).1, (strtol w 10 s).2 ++ c :: t) := by
  simp only [strtol, dropWhile_append_cons h.space, takeSign_append h, takeBase_ten,
    takeWhile_append_cons h.digit, dropWhile_append_cons h.digit]
  split <;> rfl

/-! ## Printing and reading -/

theorem digitValue_figure {d : ℕ} (h : d < 10) : digitValue (UInt8.ofNat (0x30 + d)) = d := by
  interval_cases d <;> rfl

theorem ofDigitChars_printNat (n : ℕ) : ofDigitChars 10 (printNat n) = n := by
  by_cases hn : n = 0
  · subst hn
    rfl
  · rw [printNat, if_neg hn, ofDigitChars, List.foldl_map, List.foldl_reverse]
    -- the figures are those of the number, the least significant first
    have hvalue : ∀ ds : List ℕ, (∀ d ∈ ds, d < 10) →
        ds.foldr (fun d n => n * 10 + digitValue (UInt8.ofNat (0x30 + d))) 0 = Nat.ofDigits 10 ds := by
      intro ds
      induction ds with
      | nil => simp
      | cons d ds ih =>
        intro hds
        have hd : d < 10 := hds d List.mem_cons_self
        rw [List.foldr_cons, ih fun e he => hds e (List.mem_cons_of_mem d he),
          digitValue_figure hd, Nat.ofDigits_cons]
        ring
    rw [hvalue _ fun d hd => Nat.digits_lt_base (by decide) hd, Nat.ofDigits_digits]

/-- A figure. -/
def IsFigure (c : UInt8) : Prop := 0x30 ≤ c ∧ c ≤ 0x39

theorem isFigure_ofNat {d : ℕ} (h : d < 10) : IsFigure (UInt8.ofNat (0x30 + d)) := by
  interval_cases d <;> exact ⟨by decide, by decide⟩

theorem isFigure_of_mem_printNat {n : ℕ} (h : c ∈ printNat n) : IsFigure c := by
  rw [printNat] at h
  split at h
  · obtain rfl := List.mem_singleton.1 h
    exact ⟨by decide, by decide⟩
  · obtain ⟨d, hd, rfl⟩ := List.mem_map.1 h
    exact isFigure_ofNat (Nat.digits_lt_base (by decide) (List.mem_reverse.1 hd))

theorem printNat_ne_nil (n : ℕ) : printNat n ≠ [] := by
  rw [printNat]
  split
  · simp
  · rename_i hn
    simpa [Nat.digits_eq_nil_iff_eq_zero] using hn

theorem IsFigure.toNat (h : IsFigure c) : 48 ≤ c.toNat ∧ c.toNat ≤ 57 :=
  ⟨UInt8.le_iff_toNat_le.1 h.1, UInt8.le_iff_toNat_le.1 h.2⟩

theorem IsFigure.digitValue (h : IsFigure c) : digitValue c < 10 := by
  have hrange := h.toNat
  have hpos : (0x30 : UInt8) ≤ c ∧ c ≤ 0x39 := h
  rw [Lib.digitValue, if_pos hpos]
  omega

theorem IsFigure.isDigitOf (h : IsFigure c) {base : ℕ} (hbase : 10 ≤ base) :
    isDigitOf base c = true := decide_eq_true (lt_of_lt_of_le h.digitValue hbase)

theorem IsFigure.ne (h : IsFigure c) {d : UInt8} (hd : d.toNat < 48 ∨ 57 < d.toNat) : c ≠ d := by
  rintro rfl
  have := h.toNat
  omega

theorem IsFigure.isSpace (h : IsFigure c) : isSpace c = false := by
  have hblank : c ≠ 0x20 := h.ne (by decide)
  have hhigh : ¬ c ≤ 0x0d := by
    intro hle
    have := UInt8.le_iff_toNat_le.1 hle
    have := h.toNat
    simp only [UInt8.reduceToNat] at *
    omega
  simp [Lib.isSpace, hblank, hhigh]

/-- The front of a text of figures. -/
theorem takeSign_figures {s : List UInt8} (h : ∀ c ∈ s, IsFigure c) : takeSign s = (false, s) := by
  cases s with
  | nil => rfl
  | cons c s =>
    have hc : IsFigure c := h c List.mem_cons_self
    have hminus : c ≠ 0x2d := hc.ne (by decide)
    have hplus : c ≠ 0x2b := hc.ne (by decide)
    simp [takeSign, hminus, hplus]

theorem dropWhile_isSpace_figures {s : List UInt8} (h : ∀ c ∈ s, IsFigure c) :
    s.dropWhile isSpace = s := by
  cases s with
  | nil => rfl
  | cons c s => simp [(h c List.mem_cons_self).isSpace]

/-- A printed number without its sign. -/
theorem signed_printInt (v : ℤ) :
    takeSign ((printInt v).dropWhile isSpace) = (decide (v < 0), printNat v.natAbs) := by
  have hfigures : ∀ c ∈ printNat v.natAbs, IsFigure c := fun c => isFigure_of_mem_printNat
  by_cases hv : v < 0
  · have hspace : isSpace 0x2d = false := by decide
    simp [printInt, hv, hspace, takeSign]
  · rw [printInt, if_neg hv, dropWhile_isSpace_figures hfigures, takeSign_figures hfigures]
    simp [hv]

theorem natAbs_signed (v : ℤ) :
    (if decide (v < 0) = true then -(v.natAbs : ℤ) else (v.natAbs : ℤ)) = v := by
  simp only [decide_eq_true_eq]
  split <;> omega

theorem saturate_eq_self {w : ℕ} {v : ℤ} (hlow : -(2 ^ (w - 1) : ℕ) ≤ v)
    (hhigh : v < (2 ^ (w - 1) : ℕ)) : saturate w v = v := by
  rw [saturate]
  omega

/-- A printed number is read back where the type holds it. -/
theorem strtol_printInt {w : ℕ} {v : ℤ} (hv : saturate w v = v) :
    strtol w 10 (printInt v) = (v, []) := by
  have hdigits : ∀ c ∈ printNat v.natAbs, isDigitOf 10 c = true :=
    fun c hc => (isFigure_of_mem_printNat hc).isDigitOf le_rfl
  simp only [strtol, signed_printInt, takeBase_ten, List.takeWhile_eq_self_iff.2 hdigits,
    List.dropWhile_eq_nil_iff.2 hdigits, if_neg (printNat_ne_nil _), ofDigitChars_printNat,
    natAbs_signed, hv]

theorem head?_printNat {n : ℕ} (hn : n ≠ 0) : (printNat n).head? ≠ some 0x30 := by
  have hne : Nat.digits 10 n ≠ [] := Nat.digits_ne_nil_iff_ne_zero.2 hn
  have hlast : (Nat.digits 10 n).getLast hne ≠ 0 := Nat.getLast_digit_ne_zero 10 hn
  have hlt : (Nat.digits 10 n).getLast hne < 10 :=
    Nat.digits_lt_base (by decide) (List.getLast_mem hne)
  rw [printNat, if_neg hn, List.head?_map, List.head?_reverse, List.getLast?_eq_some_getLast hne]
  intro h
  simp only [Option.map_some, Option.some.injEq] at h
  apply hlast
  rw [← digitValue_figure hlt, h]
  rfl

/-- The base is found where none is given: a printed number has no mark. -/
theorem takeBase_printNat (n : ℕ) :
    takeBase 0 (printNat n) = (if n = 0 then 8 else 10, printNat n) := by
  by_cases hn : n = 0
  · subst hn
    rfl
  · have hhead := head?_printNat hn
    simp [takeBase, hhead, hn]

theorem strtol_zero_printInt {w : ℕ} {v : ℤ} (hv : saturate w v = v) :
    strtol w 0 (printInt v) = (v, []) := by
  by_cases hzero : v = 0
  · subst hzero
    have hdigit : isDigitOf 8 0x30 = true := by decide
    simp only [strtol, signed_printInt, takeBase_printNat, Int.natAbs_zero, if_true]
    simp [printNat, hdigit, ofDigitChars, digitValue, hv]
  · have hn : v.natAbs ≠ 0 := Int.natAbs_ne_zero.2 hzero
    have hdigits : ∀ c ∈ printNat v.natAbs, isDigitOf 10 c = true :=
      fun c hc => (isFigure_of_mem_printNat hc).isDigitOf le_rfl
    simp only [strtol, signed_printInt, takeBase_printNat, if_neg hn,
      List.takeWhile_eq_self_iff.2 hdigits, List.dropWhile_eq_nil_iff.2 hdigits,
      if_neg (printNat_ne_nil _), ofDigitChars_printNat, natAbs_signed, hv]

/-- How long a printed number is. -/
theorem length_printNat {n k : ℕ} (hpos : 0 < k) (h : n < 10 ^ k) : (printNat n).length ≤ k := by
  rw [printNat]
  split
  · exact hpos
  · rw [List.length_map, List.length_reverse]
    exact (Nat.digits_length_le_iff (by decide) _).2 h

end Lib
