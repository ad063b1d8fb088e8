import AliceHal.Lib.BigEndian
import AliceHal.Pn54x.Config.Printing

/-!
# Groups of Hexadecimal Digits

A byte array is written as groups of hexadecimal digits, in braces or as a list after `0x`. The
bytes of a group are pushed by one of two loops, at a separator or at the character that ends the
value. The loop at a separator shifts the number in place, so that its shifts add up; the loop at
the end is not reached outside braces, because `state` has been replaced when its flag is tested.

- `HexGroupText`, `GroupListText`, `ByteArrayText`: the texts of a byte array
- `shiftedBytes_eq`: what the loop at a separator pushes
- `InPlaceExact`: the numbers for which these are the bytes of the group
- `reads_byteArray`: the parameter that a byte array gives
- `decodesGroups_iff`: when it holds the bytes of all groups
-/

namespace AliceHal.Pn54x.Config

open Lib

variable {w : ℕ}

/-! ## Texts -/

/-- The characters between two groups. -/
def groupSeparators : List UInt8 := [','.toUInt8, ':'.toUInt8, '-'.toUInt8]

/-- `text` spells the digits `ds`; in braces there may be blanks anywhere. -/
inductive HexGroupText (braces : Bool) : List ℕ → List UInt8 → Prop where
  | nil : HexGroupText braces [] []
  | digit {d : ℕ} {c : UInt8} {ds : List ℕ} {text : List UInt8} :
      DigitChar 16 d c → HexGroupText braces ds text → HexGroupText braces (d :: ds) (c :: text)
  | blank {c : UInt8} {ds : List ℕ} {text : List UInt8} :
      braces = true → isBlank c = true → HexGroupText braces ds text →
      HexGroupText braces ds (c :: text)

/-- Groups with a separator between two of them. -/
inductive GroupListText (braces : Bool) : List (List ℕ) → List UInt8 → Prop where
  | one {ds : List ℕ} {text : List UInt8} :
      ds ≠ [] → HexGroupText braces ds text → GroupListText braces [ds] text
  | cons {ds : List ℕ} {groups : List (List ℕ)} {sep : UInt8} {group text : List UInt8} :
      ds ≠ [] → HexGroupText braces ds group → sep ∈ groupSeparators →
      GroupListText braces groups text →
      GroupListText braces (ds :: groups) (group ++ sep :: text)

/-- The texts of a byte array, with `n` spaces behind it. A list after `0x` has more than one
group, else it is a number. The last group is closed by the brace or by a space. -/
inductive ByteArrayText : List (List ℕ) → Bool → List UInt8 → Prop where
  | braces {groups : List (List ℕ)} {text : List UInt8} (n : ℕ) :
      GroupListText true groups text →
      ByteArrayText groups true
        ('\x7b'.toUInt8 :: (text ++ '\x7d'.toUInt8 :: List.replicate n ' '.toUInt8))
  | list {groups : List (List ℕ)} {x : UInt8} {text : List UInt8} (n : ℕ) :
      x ∈ ['x'.toUInt8, 'X'.toUInt8] → 1 < groups.length → GroupListText false groups text →
      ByteArrayText groups (decide (0 < n))
        ('0'.toUInt8 :: x :: (text ++ List.replicate n ' '.toUInt8))

/-- The bytes of a group, two digits each. -/
def groupLen (ds : List ℕ) : ℕ := (ds.length + 1) / 2

/-- The bytes that a group stands for. -/
def groupBytes (ds : List ℕ) : List UInt8 := bigEndian (groupLen ds) (Parser.horner 16 0 ds)

/-! ## The two loops -/

namespace Parser

theorem lowByte_shift (v : BitVec w) (n : ℕ) :
    lowByte (v >>> (n * 8)) = UInt8.ofNat (v.toNat / 256 ^ n) := by
  rw [lowByte, BitVec.toNat_ushiftRight, Nat.shiftRight_eq_div_pow, Nat.mul_comm, Nat.pow_mul]

theorem toNat_shift (v : BitVec w) (n : ℕ) : (v >>> (n * 8)).toNat = v.toNat / 256 ^ n := by
  rw [BitVec.toNat_ushiftRight, Nat.shiftRight_eq_div_pow, Nat.mul_comm, Nat.pow_mul]

/-- The loop at the end of a value pushes the bytes of the number. -/
theorem tailBytes_eq (n : ℕ) (v : BitVec w) : tailBytes n v = bigEndian n v.toNat := by
  induction n with
  | zero => rfl
  | succ n ih => rw [tailBytes, bigEndian, ih, lowByte_shift]

theorem shiftedBytes_zero (n : ℕ) {v : BitVec w} (h : v.toNat = 0) :
    shiftedBytes n v = bigEndian n 0 := by
  induction n generalizing v with
  | zero => rfl
  | succ n ih =>
    have hshift : (v >>> (n * 8)).toNat = 0 := by rw [toNat_shift, h, Nat.zero_div]
    rw [shiftedBytes, bigEndian, ih hshift, lowByte_shift, h]

/-- The number whose bytes the loop at a separator pushes. From the third byte on everything has
been shifted out; of two bytes the first is pushed twice. -/
def shiftedNumber (n v : ℕ) : ℕ :=
  if n ≤ 1 then v else if n = 2 then v / 256 * 257 else v / 256 ^ (n - 1) * 256 ^ (n - 1)

theorem shiftedBytes_eq {n : ℕ} {v : BitVec w} (h : v.toNat < 256 ^ n) :
    shiftedBytes n v = bigEndian n (shiftedNumber n v.toNat) := by
  match n with
  | 0 => rfl
  | 1 =>
    rw [shiftedBytes, bigEndian, lowByte_shift]
    rfl
  | 2 =>
    have hlt : v.toNat / 256 < 256 := Nat.div_lt_of_lt_mul h
    have hhigh : v.toNat / 256 * 257 / 256 = v.toNat / 256 := by omega
    have hlow : UInt8.ofNat (v.toNat / 256) = UInt8.ofNat (v.toNat / 256 * 257) :=
      ofNat_eq_ofNat_iff.2 (by omega)
    have hnumber : shiftedNumber 2 v.toNat = v.toNat / 256 * 257 := rfl
    show [lowByte (v >>> (1 * 8)), lowByte (v >>> (1 * 8) >>> (0 * 8))] =
      [UInt8.ofNat (shiftedNumber 2 v.toNat / 256 ^ 1),
        UInt8.ofNat (shiftedNumber 2 v.toNat / 256 ^ 0)]
    rw [lowByte_shift, lowByte_shift, toNat_shift, hnumber, Nat.pow_one, Nat.pow_zero, Nat.div_one,
      Nat.div_one, hhigh, hlow]
  | m + 3 =>
    have hpos : 0 < 256 ^ (m + 2) := Nat.pow_pos (by decide)
    have hlt : v.toNat / 256 ^ (m + 2) < 256 := Nat.div_lt_of_lt_mul (by rwa [← Nat.pow_succ])
    have hnumber : shiftedNumber (m + 3) v.toNat = v.toNat / 256 ^ (m + 2) * 256 ^ (m + 2) := by
      simp [shiftedNumber]
    -- the second shift already leaves nothing
    have hnone : (v >>> ((m + 2) * 8) >>> ((m + 1) * 8)).toNat = 0 := by
      rw [toNat_shift, toNat_shift]
      apply Nat.div_eq_of_lt
      exact hlt.trans_le (Nat.le_self_pow (Nat.succ_ne_zero m) 256)
    have hrest : shiftedBytes (m + 2) (v >>> ((m + 2) * 8)) = bigEndian (m + 2) 0 := by
      show lowByte _ :: shiftedBytes (m + 1) _ = UInt8.ofNat (0 / 256 ^ (m + 1)) :: bigEndian (m + 1) 0
      rw [shiftedBytes_zero _ hnone, lowByte, hnone, Nat.zero_div]
    have hzero : bigEndian (m + 2) 0 =
        bigEndian (m + 2) (v.toNat / 256 ^ (m + 2) * 256 ^ (m + 2)) := by
      rw [bigEndian_eq_iff, Nat.mul_mod_left, Nat.zero_mod]
    rw [hnumber]
    show lowByte _ :: shiftedBytes (m + 2) _ = UInt8.ofNat (_ / 256 ^ (m + 2)) :: bigEndian (m + 2) _
    rw [hrest, hzero, lowByte_shift, Nat.mul_div_cancel _ hpos]

/-- The numbers of `n` bytes that the loop at a separator pushes as they are: those of one byte, of
two equal bytes, and of one byte with zeros behind it. -/
def InPlaceExact (w n v : ℕ) : Prop :=
  v < 2 ^ w ∧ (n ≤ 1 ∨ n = 2 ∧ v / 256 = v % 256 ∨ 3 ≤ n ∧ 256 ^ (n - 1) ∣ v)

theorem shiftedNumber_lt {n v : ℕ} (h : v < 256 ^ n) : shiftedNumber n v < 256 ^ n := by
  unfold shiftedNumber
  split_ifs with h1 h2
  · exact h
  · subst h2
    omega
  · exact (Nat.div_mul_le_self v _).trans_lt h

/-- What `numValue` holds gives back the number exactly when this is one of those. -/
theorem shiftedNumber_eq_iff {n v : ℕ} (h : v < 256 ^ n) :
    shiftedNumber n (v % 2 ^ w) = v ↔ InPlaceExact w n v := by
  have hle := Nat.mod_le v (2 ^ w)
  have hlt : v % 2 ^ w < 2 ^ w := Nat.mod_lt v (Nat.two_pow_pos w)
  unfold shiftedNumber InPlaceExact
  split_ifs with h1 h2
  · rw [Nat.mod_eq_iff_lt (Nat.two_pow_pos w).ne']
    exact ⟨fun h => ⟨h, .inl h1⟩, fun h => h.1⟩
  · subst h2
    constructor
    · intro heq
      have hequal : v / 256 = v % 256 := by omega
      refine ⟨?_, .inr (.inl ⟨rfl, hequal⟩)⟩
      -- a number that has lost bits cannot have kept its high byte
      rcases Nat.le_total w 8 with hw | hw
      · have hsmall : 2 ^ w ≤ 2 ^ 8 := Nat.pow_le_pow_right (by decide) hw
        omega
      · have hbyte : v % 2 ^ w % 256 = v % 256 := Nat.mod_mod_of_dvd v (Nat.pow_dvd_pow 2 hw)
        omega
    · rintro ⟨hfits, hcase⟩
      rw [Nat.mod_eq_of_lt hfits]
      omega
  · have hpos : 0 < 256 ^ (n - 1) := Nat.pow_pos (by decide)
    constructor
    · intro heq
      have hmul := Nat.div_mul_le_self (v % 2 ^ w) (256 ^ (n - 1))
      refine ⟨by omega, .inr (.inr ⟨by omega, ?_⟩)⟩
      rw [← heq]
      exact Dvd.intro_left _ rfl
    · rintro ⟨hfits, hcase⟩
      rw [Nat.mod_eq_of_lt hfits]
      rcases hcase with hcase | ⟨hcase, -⟩ | ⟨-, hdvd⟩
      · exact absurd hcase h1
      · exact absurd hcase h2
      · exact Nat.div_mul_cancel hdvd

end Parser

/-- The bytes that the loop at a separator pushes for a group. -/
def pushedBytes (w : ℕ) (ds : List ℕ) : List UInt8 :=
  Parser.shiftedBytes (groupLen ds) (BitVec.ofNat w (Parser.horner 16 0 ds))

@[simp]
theorem length_pushedBytes (w : ℕ) (ds : List ℕ) : (pushedBytes w ds).length = groupLen ds := by
  have hlen : ∀ (n : ℕ) (v : BitVec w), (Parser.shiftedBytes n v).length = n := by
    intro n
    induction n with
    | zero => exact fun _ => rfl
    | succ n ih => exact fun v => congrArg (· + 1) (ih _)
  exact hlen _ _

theorem groupLen_pos {ds : List ℕ} (h : ds ≠ []) : 0 < groupLen ds := by
  have hpos := List.length_pos_iff.2 h
  unfold groupLen
  omega

theorem horner_lt {base : ℕ} (hbase : 1 < base) {ds : List ℕ} (hds : ∀ d ∈ ds, d < base) :
    Parser.horner base 0 ds < base ^ ds.length := by
  rw [Parser.horner_zero, ← List.length_reverse]
  exact Nat.ofDigits_lt_base_pow_length hbase fun d hd => hds d (List.mem_reverse.1 hd)

theorem horner_lt_groupLen {ds : List ℕ} (hds : ∀ d ∈ ds, d < 16) :
    Parser.horner 16 0 ds < 256 ^ groupLen ds := by
  have hle : ds.length ≤ 2 * groupLen ds := by
    unfold groupLen
    omega
  calc Parser.horner 16 0 ds < 16 ^ ds.length := horner_lt (by decide) hds
    _ ≤ 16 ^ (2 * groupLen ds) := Nat.pow_le_pow_right (by decide) hle
    _ = 256 ^ groupLen ds := Nat.pow_mul 16 2 _

/-- A group closed by a separator gives its bytes exactly when its number is one of those. -/
theorem pushedBytes_eq_iff {ds : List ℕ} (hds : ∀ d ∈ ds, d < 16) :
    pushedBytes w ds = groupBytes ds ↔
      Parser.InPlaceExact w (groupLen ds) (Parser.horner 16 0 ds) := by
  have hlt := horner_lt_groupLen hds
  have hmod : Parser.horner 16 0 ds % 2 ^ w < 256 ^ groupLen ds := (Nat.mod_le _ _).trans_lt hlt
  rw [pushedBytes, groupBytes, Parser.shiftedBytes_eq (by rw [BitVec.toNat_ofNat]; exact hmod),
    bigEndian_eq_iff, BitVec.toNat_ofNat, Nat.mod_eq_of_lt (Parser.shiftedNumber_lt hmod),
    Nat.mod_eq_of_lt hlt, Parser.shiftedNumber_eq_iff hlt]

/-- Where the loop at a separator is right, the one at the end does the same. -/
theorem pushedBytes_eq_tailBytes {ds : List ℕ} (hds : ∀ d ∈ ds, d < 16)
    (h : Parser.InPlaceExact w (groupLen ds) (Parser.horner 16 0 ds)) :
    pushedBytes w ds =
      Parser.tailBytes (groupLen ds) (BitVec.ofNat w (Parser.horner 16 0 ds)) := by
  rw [(pushedBytes_eq_iff hds).2 h, groupBytes, Parser.tailBytes_eq, BitVec.toNat_ofNat,
    Nat.mod_eq_of_lt h.1]

/-! ## Reading -/

theorem HexGroupText.digits {braces : Bool} {ds : List ℕ} {text : List UInt8}
    (h : HexGroupText braces ds text) : ∀ d ∈ ds, d < 16 := by
  induction h with
  | nil => exact fun d hd => absurd hd List.not_mem_nil
  | @digit d c ds text hd _ ih =>
    intro d' hd'
    rcases List.mem_cons.1 hd' with rfl | hd'
    · exact hd.1
    · exact ih d' hd'
  | blank _ _ _ ih => exact ih

theorem GroupListText.digits {braces : Bool} {groups : List (List ℕ)} {text : List UInt8}
    (h : GroupListText braces groups text) : ∀ ds ∈ groups, ds ≠ [] ∧ ∀ d ∈ ds, d < 16 := by
  induction h with
  | one hne hds =>
    intro ds' hmem
    rw [List.mem_singleton.1 hmem]
    exact ⟨hne, hds.digits⟩
  | cons hne hds _ _ ih =>
    intro ds' hmem
    rcases List.mem_cons.1 hmem with rfl | hmem
    · exact ⟨hne, hds.digits⟩
    · exact ih ds' hmem

theorem ByteArrayText.digits {groups : List (List ℕ)} {closed : Bool} {text : List UInt8}
    (h : ByteArrayText groups closed text) : ∀ ds ∈ groups, ds ≠ [] ∧ ∀ d ∈ ds, d < 16 := by
  cases h with
  | braces _ h => exact h.digits
  | list _ _ _ h => exact h.digits

theorem GroupListText.ne_nil {braces : Bool} {groups : List (List ℕ)} {text : List UInt8}
    (h : GroupListText braces groups text) : groups ≠ [] := by
  cases h with
  | one => exact List.cons_ne_nil _ _
  | cons => exact List.cons_ne_nil _ _

/-- The groups that are stored. -/
def storedGroups (closed : Bool) (groups : List (List ℕ)) : List (List ℕ) :=
  if closed then groups else groups.dropLast

/-- Something is stored, so the value is no number. -/
theorem ByteArrayText.pushed_ne_nil {groups : List (List ℕ)} {closed : Bool} {text : List UInt8}
    (h : ByteArrayText groups closed text) :
    (storedGroups closed groups).flatMap (pushedBytes w) ≠ [] := by
  have hsub : ∀ ds ∈ storedGroups closed groups, ds ∈ groups := by
    intro ds hds
    unfold storedGroups at hds
    split at hds
    · exact hds
    · exact List.mem_of_mem_dropLast hds
  have hsome : storedGroups closed groups ≠ [] := by
    cases h with
    | braces _ h => exact h.ne_nil
    | list n _ hmany h =>
      unfold storedGroups
      split
      · exact h.ne_nil
      · apply List.ne_nil_of_length_pos
        rw [List.length_dropLast]
        omega
  obtain ⟨ds, hds⟩ := List.exists_mem_of_ne_nil _ hsome
  intro hnil
  have hbytes := List.flatMap_eq_nil_iff.1 hnil ds hds
  have hpos := groupLen_pos (h.digits ds (hsub ds hds)).1
  rw [← length_pushedBytes w ds, hbytes] at hpos
  exact absurd hpos (lt_irrefl 0)

namespace Parser

theorem reads_hexGroup {braces : Bool} {ds : List ℕ} {text : List UInt8}
    (h : HexGroupText braces ds text) (token strValue : List UInt8) (f : Bool) (n i : ℕ) :
    (inNumber token strValue f 16 n i braces : Parser w).Reads text
      (inNumber token strValue f 16 (horner 16 n ds) (i + ds.length) braces) [] := by
  induction h generalizing n i with
  | nil => exact Reads.nil _
  | @digit d c ds text hd _ ih =>
    have hfirst := reads_digits (w := w) (by simp) (.cons hd .nil) token strValue f braces n i
    have hall := hfirst.append (ih _ _)
    rw [List.length_singleton, Nat.add_assoc, Nat.add_comm 1] at hall
    exact hall
  | @blank c ds text hbraces hblank _ ih =>
    subst hbraces
    have hstep : (inNumber token strValue f 16 n i true : Parser w).step c =
        (inNumber token strValue f 16 n i true, none) := by
      simp [step, inNumber, numStep, isDigit_of_isBlank hblank, hblank]
    exact Reads.cons hstep (ih n i)

/-- A separator pushes the bytes of the group before it, if there is one. -/
theorem inNumber_step_closes (braces : Bool) {sep : UInt8} (hdigit : isDigit sep 16 = false)
    (hskip : (braces && isBlank sep) = false) (hsep : isSeparator sep = true)
    (token strValue : List UInt8) (f : Bool) (n i : ℕ) :
    (inNumber token strValue f 16 n i braces : Parser w).step sep =
      (inNumber token (if 0 < i then strValue ++ shiftedBytes ((i + 1) / 2) (BitVec.ofNat w n)
        else strValue) true 16 0 0 (braces && sep != '\x7d'.toUInt8), none) := by
  by_cases hi : 0 < i
  · simp [step, inNumber, numStep, hdigit, hskip, hsep, hi]
  · simp [step, inNumber, numStep, hdigit, hskip, hsep, hi]

theorem groupSeparator_facts {sep : UInt8} (h : sep ∈ groupSeparators) :
    isDigit sep 16 = false ∧ isBlank sep = false ∧ isSeparator sep = true ∧
      (sep != '\x7d'.toUInt8) = true := by
  have hall : ∀ sep ∈ groupSeparators, isDigit sep 16 = false ∧ isBlank sep = false ∧
      isSeparator sep = true ∧ (sep != '\x7d'.toUInt8) = true := by decide +kernel
  exact hall sep h

/-- The groups of a list: all but the last have been pushed. -/
theorem reads_groupList {braces : Bool} {groups : List (List ℕ)} {text : List UInt8}
    (h : GroupListText braces groups text) (token strValue : List UInt8) (f : Bool) :
    ∃ front last f', groups = front ++ [last] ∧ last ≠ [] ∧
      (inNumber token strValue f 16 0 0 braces : Parser w).Reads text
        (inNumber token (strValue ++ front.flatMap (pushedBytes w)) f' 16 (horner 16 0 last)
          last.length braces) [] := by
  induction h generalizing strValue f with
  | @one ds text hne hds =>
    refine ⟨[], ds, f, rfl, hne, ?_⟩
    have hread := reads_hexGroup (w := w) hds token strValue f 0 0
    rw [Nat.zero_add] at hread
    rw [List.flatMap_nil, List.append_nil]
    exact hread
  | @cons ds groups sep group text hne hds hsep _ ih =>
    obtain ⟨hdigit, hblank, hclass, hopen⟩ := groupSeparator_facts hsep
    have hread := reads_hexGroup (w := w) hds token strValue f 0 0
    have hclose := inNumber_step_closes (w := w) braces hdigit (by rw [hblank, Bool.and_false])
      hclass token strValue f (horner 16 0 ds) (0 + ds.length)
    rw [Nat.zero_add, if_pos (List.length_pos_iff.2 hne), hopen, Bool.and_true] at hclose
    obtain ⟨front, last, f', heq, hlast, hrest⟩ := ih (strValue ++ pushedBytes w ds) true
    refine ⟨ds :: front, last, f', by rw [heq]; rfl, hlast, ?_⟩
    have hall := hread.append (Reads.cons (o := none) (by rw [Nat.zero_add]; exact hclose) hrest)
    rw [List.flatMap_cons, ← List.append_assoc]
    exact hall

/-- After a byte array: what it has stored so far, outside braces. -/
structure Collected (name : List UInt8) (groups : List (List ℕ)) (q : Parser w) : Prop where
  phase : q.phase = .numValue
  base : q.base = 16
  bflag : q.bflag = false
  token : q.token = name ++ [0]
  strValue : q.strValue = groups.flatMap (pushedBytes w)

/-- Spaces behind a group that has been closed change nothing. -/
theorem reads_spaces (token strValue : List UInt8) (n : ℕ) :
    (inNumber token strValue true 16 0 0 false : Parser w).Reads (List.replicate n ' '.toUInt8)
      (inNumber token strValue true 16 0 0 false) [] := by
  refine Reads.skip fun c hc => ?_
  rw [List.eq_of_mem_replicate hc]
  exact inNumber_step_closes false (by decide) rfl (by decide) token strValue true 0 0

/-- The last group of a byte array is stored if it is closed. -/
theorem reads_byteArray {groups : List (List ℕ)} {closed : Bool} {text : List UInt8}
    (h : ByteArrayText groups closed text) (name : List UInt8) (base : ℕ) :
    ∃ q : Parser w, Collected name (storedGroups closed groups) q ∧
      (atValue name base : Parser w).Reads text q [] := by
  cases h with
  | @braces text n hlist =>
    obtain ⟨front, last, f', rfl, hlast, hread⟩ :=
      reads_groupList (w := w) hlist (name ++ [0]) [] true
    have hclose := inNumber_step_closes (w := w) true (by decide : isDigit '\x7d'.toUInt8 16 = false)
      (by decide) (by decide) (name ++ [0]) ([] ++ front.flatMap (pushedBytes w)) f'
      (horner 16 0 last) last.length
    rw [if_pos (List.length_pos_iff.2 hlast)] at hclose
    have hall := Reads.cons (atValue_step_brace name base) (hread.append (Reads.cons hclose (reads_spaces _ _ n)))
    refine ⟨_, ⟨rfl, rfl, rfl, rfl, ?_⟩, hall⟩
    rw [storedGroups, if_pos rfl, List.flatMap_append, List.flatMap_singleton]
    rfl
  | @list x text n hx _ hlist =>
    obtain ⟨front, last, f', rfl, hlast, hread⟩ :=
      reads_groupList (w := w) hlist (name ++ [0]) [] false
    have hfirst := Reads.cons (atValue_step_zero (w := w) name base) (Reads.cons (beginHex_step_x hx name base) hread)
    cases n with
    | zero =>
      -- nothing has closed the last group
      have hall := hfirst.append (Reads.nil _)
      refine ⟨_, ⟨rfl, rfl, rfl, rfl, ?_⟩, hall⟩
      rw [storedGroups, decide_eq_false (lt_irrefl 0), if_neg Bool.false_ne_true,
        List.dropLast_concat]
      rfl
    | succ n =>
      have hclose := inNumber_step_closes (w := w) false (by decide : isDigit ' '.toUInt8 16 = false)
        rfl (by decide) (name ++ [0]) ([] ++ front.flatMap (pushedBytes w)) f'
        (horner 16 0 last) last.length
      rw [if_pos (List.length_pos_iff.2 hlast)] at hclose
      have hall := hfirst.append (Reads.cons hclose (reads_spaces _ _ n))
      refine ⟨_, ⟨rfl, rfl, rfl, rfl, ?_⟩, hall⟩
      rw [storedGroups, decide_eq_true (Nat.succ_pos n), if_pos rfl, List.flatMap_append,
        List.flatMap_singleton]
      rfl

/-! ## Any text before -/

/-- The variables of a value are cleared outside a value. -/
def Cleared (p : Parser w) : Prop := p.phase ≠ .numValue → p.numValue = 0 ∧ p.bflag = false

/-- A value is left with its variables cleared. -/
theorem cleared_numStep {p : Parser w} (h : p.phase = .numValue) (c : UInt8) :
    (p.numStep c).1.Cleared := by
  intro hne
  unfold numStep at hne ⊢
  split_ifs at hne ⊢
  · exact absurd h hne
  · exact absurd h hne
  · exact absurd h hne
  · exact absurd h hne
  · -- inside braces the value goes on
    exact absurd h hne
  · rename_i hflag _
    exact ⟨rfl, Bool.eq_false_of_not_eq_true hflag⟩
  · rename_i hflag _
    exact ⟨rfl, Bool.eq_false_of_not_eq_true hflag⟩

/-- A newline after a single zero does the same. -/
theorem cleared_beginHexStep {p : Parser w} (h : p.Cleared) (hphase : p.phase = .beginHex)
    (c : UInt8) : (p.beginHexStep c).1.Cleared := by
  obtain ⟨hnum, hflag⟩ := h (by rw [hphase]; exact Phase.noConfusion)
  unfold beginHexStep
  split_ifs with hx hdigit hline
  · exact fun hne => absurd rfl hne
  · exact fun hne => absurd rfl hne
  · exact fun _ => ⟨hnum, hflag⟩
  · have hnewline : isNewline c = true := by simpa using hline
    rw [numStep_newline hflag hnewline]
    exact fun _ => ⟨rfl, hflag⟩

theorem Cleared.step {p : Parser w} (h : p.Cleared) (c : UInt8) : (p.step c).1.Cleared := by
  unfold Parser.step
  cases hphase : p.phase with
  | numValue => exact cleared_numStep hphase c
  | beginHex => exact cleared_beginHexStep h hphase c
  | beginLine | token | endLine | strValue | beginQuote =>
    -- these cases do not touch the number, and enter a value only with a new one
    obtain ⟨hnum, hflag⟩ := h (by rw [hphase]; exact Phase.noConfusion)
    simp only [beginLineStep, tokenStep, endLineStep, strValueStep, beginQuoteStep]
    split_ifs <;> simp [Cleared, goto, hnum, hflag]

theorem Cleared.feed {p : Parser w} (h : p.Cleared) (text : List UInt8) :
    (p.feed text).1.Cleared := by
  induction text generalizing p with
  | nil => exact h
  | cons c text ih => exact ih (h.step c)

/-- At the start of a line nothing is left of the text before. -/
theorem ready_of_beginLine {text : List UInt8}
    (h : ((init : Parser w).feed text).1.phase = .beginLine) :
    ((init : Parser w).feed text).1.Ready := by
  have hcleared : (init : Parser w).Cleared := fun _ => ⟨rfl, rfl⟩
  obtain ⟨hnum, hflag⟩ := hcleared.feed text (by rw [h]; exact Phase.noConfusion)
  exact ⟨h, hnum, hflag⟩

end Parser

/-- An assignment at the start of a line, up to where its value starts. -/
theorem reads_assignment {before name : List UInt8}
    (hbefore : ((Parser.init : Parser w).feed before).1.phase = .beginLine) (hname : name ≠ [])
    (hprint : ∀ c ∈ name, isPrintable c = true) :
    ∃ base, (Parser.init : Parser w).Reads (before ++ (name ++ ['='.toUInt8]))
      (Parser.atValue name base) (parse w before) := by
  have hready := Parser.ready_of_beginLine hbefore
  have hfirst : (Parser.init : Parser w).Reads before _ (parse w before) := rfl
  have hall := hfirst.append (hready.reads_name hname hprint)
  rw [List.append_nil] at hall
  exact ⟨_, hall⟩

/-! ## The bytes of a value -/

/-- A byte array ends at a character that neither continues nor closes a group. -/
def EndsByteArray (t : UInt8) : Prop := isDigit t 16 = false ∧ isSeparator t = false

instance (t : UInt8) : Decidable (EndsByteArray t) := inferInstanceAs (Decidable (_ ∧ _))

/-- What has been collected is registered. -/
theorem Parser.Collected.step_end {name : List UInt8} {groups : List (List ℕ)} {q : Parser w}
    (h : q.Collected name groups) (hprint : ∀ c ∈ name, isPrintable c = true)
    (hne : groups.flatMap (pushedBytes w) ≠ []) {t : UInt8} (ht : EndsByteArray t) :
    (q.step t).2 = some ⟨name, groups.flatMap (pushedBytes w), 0⟩ := by
  have hpos : 0 < (groups.flatMap (pushedBytes w)).length := List.length_pos_iff.2 hne
  have hflag : ∀ phase, (q.goto phase).isStringValue = false := fun _ => rfl
  have hstr : ∀ phase, (q.goto phase).strValue = groups.flatMap (pushedBytes w) :=
    fun _ => h.strValue
  have htoken : ∀ phase, (q.goto phase).token = name ++ [0] := fun _ => h.token
  unfold Parser.step
  rw [h.phase]
  simp only [Parser.numStep, h.base, ht.1, h.bflag, ht.2, hflag, hstr, htoken, Bool.false_and,
    Bool.and_false, Bool.false_eq_true, if_false, if_pos hpos]
  rw [CNfcParam.ofString, cStr_of_isPrintable hprint]

/-- The value is stored as the bytes of all groups, and both loops give the same bytes for each. -/
def DecodesGroups (w : ℕ) (before name : List UInt8) (groups : List (List ℕ)) (text : List UInt8)
    (t : UInt8) : Prop :=
  parse w (before ++ (name ++ '='.toUInt8 :: (text ++ [t]))) =
      parse w before ++ [⟨name, groups.flatMap groupBytes, 0⟩] ∧
    ∀ ds ∈ groups, Parser.shiftedBytes (groupLen ds) (BitVec.ofNat w (Parser.horner 16 0 ds)) =
      Parser.tailBytes (groupLen ds) (BitVec.ofNat w (Parser.horner 16 0 ds))

/-- The parameter that a byte array gives. -/
theorem parse_byteArray {before name : List UInt8} {groups : List (List ℕ)} {closed : Bool}
    {text : List UInt8} {t : UInt8}
    (hbefore : ((Parser.init : Parser w).feed before).1.phase = .beginLine) (hname : name ≠ [])
    (hprint : ∀ c ∈ name, isPrintable c = true) (h : ByteArrayText groups closed text)
    (ht : EndsByteArray t) :
    parse w (before ++ (name ++ '='.toUInt8 :: (text ++ [t]))) = parse w before ++
      [⟨name, (storedGroups closed groups).flatMap (pushedBytes w), 0⟩] := by
  obtain ⟨base, hfirst⟩ := reads_assignment hbefore hname hprint
  obtain ⟨q, hq, hvalue⟩ := Parser.reads_byteArray (w := w) h name base
  have hne := h.pushed_ne_nil (w := w)
  have hend := Parser.Reads.cons (Prod.mk.eta (p := q.step t)).symm (Parser.Reads.nil (q.step t).1)
  have hall := hfirst.append (hvalue.append hend)
  rw [hq.step_end hprint hne ht] at hall
  simp only [List.append_assoc, List.cons_append, List.nil_append] at hall
  rw [parse, hall]
  rfl

/-- Pieces of the same lengths are the same when they are joined to the same list. -/
theorem flatMap_eq_flatMap_iff {α β : Type*} {f g : α → List β} {l : List α}
    (hlen : ∀ a ∈ l, (f a).length = (g a).length) :
    l.flatMap f = l.flatMap g ↔ ∀ a ∈ l, f a = g a := by
  constructor
  · intro h
    induction l with
    | nil => exact fun a ha => absurd ha List.not_mem_nil
    | cons a l ih =>
      rw [List.flatMap_cons, List.flatMap_cons] at h
      obtain ⟨hfirst, hrest⟩ := List.append_inj h (hlen a List.mem_cons_self)
      intro b hb
      rcases List.mem_cons.1 hb with rfl | hb
      · exact hfirst
      · exact ih (fun b hb => hlen b (List.mem_cons_of_mem a hb)) hrest b hb
  · exact List.flatMap_congr

/-- What is stored without the last group is shorter than the bytes of all groups. -/
theorem dropLast_ne_groups {groups : List (List ℕ)} (hne : groups ≠ []) (hds : ∀ ds ∈ groups, ds ≠ []) :
    groups.dropLast.flatMap (pushedBytes w) ≠ groups.flatMap groupBytes := by
  obtain ⟨front, last, rfl⟩ : ∃ front last, groups = front ++ [last] :=
    ⟨_, _, (List.dropLast_append_getLast hne).symm⟩
  intro h
  have hlen := congrArg List.length h
  have hlast := groupLen_pos (hds last (List.mem_append_right _ List.mem_cons_self))
  have hsame : (front.flatMap (pushedBytes w)).length = (front.flatMap groupBytes).length := by
    simp only [List.length_flatMap, length_pushedBytes, groupBytes, length_bigEndian]
  rw [List.dropLast_concat, List.flatMap_append, List.length_append, List.flatMap_singleton,
    hsame, groupBytes, length_bigEndian] at hlen
  omega

/-- A byte array decodes to the bytes of its groups exactly when the last group is closed, by a
brace or by a space, and each group is one whose number survives being shifted in place: up to two
digits, two equal bytes, or one byte with zeros behind it. -/
theorem decodesGroups_iff {before name : List UInt8} {groups : List (List ℕ)} {closed : Bool}
    {text : List UInt8} {t : UInt8}
    (hbefore : ((Parser.init : Parser w).feed before).1.phase = .beginLine) (hname : name ≠ [])
    (hprint : ∀ c ∈ name, isPrintable c = true) (h : ByteArrayText groups closed text)
    (ht : EndsByteArray t) :
    DecodesGroups w before name groups text t ↔
      closed = true ∧
        ∀ ds ∈ groups, Parser.InPlaceExact w (groupLen ds) (Parser.horner 16 0 ds) := by
  have hdigits := h.digits
  have hlen : ∀ ds ∈ groups, (pushedBytes w ds).length = (groupBytes ds).length := fun ds _ => by
    rw [length_pushedBytes, groupBytes, length_bigEndian]
  rw [DecodesGroups, parse_byteArray hbefore hname hprint h ht, List.append_cancel_left_eq,
    List.singleton_inj, CNfcParam.mk.injEq]
  constructor
  · rintro ⟨⟨-, hbytes, -⟩, -⟩
    cases closed with
    | false =>
      have hne : groups ≠ [] := by
        rintro rfl
        exact h.pushed_ne_nil (w := w) rfl
      exact absurd hbytes (dropLast_ne_groups hne fun ds hds => (hdigits ds hds).1)
    | true =>
      refine ⟨rfl, fun ds hds => ?_⟩
      have heq := (flatMap_eq_flatMap_iff hlen).1 hbytes ds hds
      exact (pushedBytes_eq_iff (hdigits ds hds).2).1 heq
  · rintro ⟨rfl, hexact⟩
    refine ⟨⟨rfl, ?_, rfl⟩, fun ds hds => ?_⟩
    · exact (flatMap_eq_flatMap_iff hlen).2 fun ds hds =>
        (pushedBytes_eq_iff (hdigits ds hds).2).2 (hexact ds hds)
    · exact pushedBytes_eq_tailBytes (hdigits ds hds).2 (hexact ds hds)

/-- `A={01:0203}` stores `01 02 02`, and `A=0x01:02` only `01`. -/
theorem shortGroups_lost :
    ¬DecodesGroups 64 [] (ascii "A") [[0, 1], [0, 2, 0, 3]] (ascii "\x7b01:0203\x7d") '\n'.toUInt8 ∧
      ¬DecodesGroups 64 [] (ascii "A") [[0, 1], [0, 2]] (ascii "0x01:02") '\n'.toUInt8 := by
  constructor
  · rintro ⟨h, -⟩
    revert h
    decide
  · rintro ⟨h, -⟩
    revert h
    decide

/-- `A={01:2}` stores `01 02`. -/
theorem pairs_decoded :
    DecodesGroups 64 [] (ascii "A") [[0, 1], [2]] (ascii "\x7b01:2\x7d") '\n'.toUInt8 := by
  have htext : ByteArrayText [[0, 1], [2]] true (ascii "\x7b01:2\x7d") :=
    .braces 0 (.cons (List.cons_ne_nil _ _)
      (.digit (d := 0) (by decide) (.digit (d := 1) (by decide) .nil)) (by decide)
      (.one (List.cons_ne_nil _ _) (.digit (d := 2) (by decide) .nil)))
  -- both groups are shorter than two bytes, so nothing is shifted in place
  have hexact : ∀ ds ∈ [[0, 1], [2]],
      Parser.InPlaceExact 64 (groupLen ds) (Parser.horner 16 0 ds) := by
    intro ds hds
    rcases List.mem_pair.1 hds with rfl | rfl <;>
      exact ⟨by simp [Parser.horner], .inl (by decide)⟩
  exact (decodesGroups_iff rfl (by decide) (by decide +kernel) htext (by decide)).2 ⟨rfl, hexact⟩

end AliceHal.Pn54x.Config
