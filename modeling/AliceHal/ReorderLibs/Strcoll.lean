import AliceHal.Lib.StableSort
import Mathlib.Data.List.Infix

/-!
# The Order of the Blob Lists

The comparison of `reorder-libs.py`. Lines with directories are compared directory first, a
subdirectory before the directory that contains it. A line without a slash is its own directory
when it is compared with a line that has one.

- `strcollExtractUtils`: the comparison
- `Orderable`: the lines on which it is an order
- `comparesBy_of_orderable`: there it is the order of keys
- `totalPreorderOn_iff`: elsewhere it is none
-/

namespace AliceHal.ReorderLibs

open Lib

/-! ## The comparison -/

/-- A string, by its code points. -/
abbrev Text := List Char

/-- The code points of a string. -/
def codes (s : Text) : List ℕ := s.map Char.toNat

/-- `strcoll` in the C locale, where an embedded null character is an error. -/
def strcoll (string1 string2 : Text) : Option Ordering :=
  if '\x00' ∈ string1 ∨ '\x00' ∈ string2 then none
  else some (compare (codes string1) (codes string2))

/-- `removeprefix('-')` -/
def removePrefixDash : Text → Text
  | [] => []
  | c :: s => if c = '-' then s else c :: s

/-- `rsplit("/", 1)[0]`: a string without a slash is not split. -/
def rsplit : Text → Text
  | [] => []
  | c :: s => if '/' ∈ s then c :: rsplit s else if c = '/' then [] else c :: s

/-- The directory of a string. -/
def dir (s : Text) : Text := rsplit s ++ ['/']

/-- The comparison of strings without the mark of a build target. -/
def compareStripped (string1 string2 : Text) : Option Ordering :=
  if '/' ∉ string1 ∧ '/' ∉ string2 then strcoll string1 string2
  else if dir string1 = dir string2 then strcoll string1 string2
  else if dir string2 <+: dir string1 then some .lt
  else if dir string1 <+: dir string2 then some .gt
  else strcoll string1 string2

/-- `strcoll_extract_utils` -/
def strcollExtractUtils (string1 string2 : Text) : Option Ordering :=
  if string1 = [] ∨ string2 = [] then strcoll string1 string2
  else compareStripped (removePrefixDash string1) (removePrefixDash string2)

/-! ## The lines that are ordered -/

/-- The string is in a subdirectory of the directory of this name. -/
def Below (n x : Text) : Prop := ∃ r, x = n ++ '/' :: r ∧ '/' ∈ r

/-- The string goes on behind this name with a character before the slash. -/
def Before (n t : Text) : Prop := ∃ c r, t = n ++ c :: r ∧ c < '/'

/-- No line contains a null character, and no line without a slash has both a line in a subdirectory
of the directory of its name and one that goes on behind it with a character before the slash. -/
structure Orderable (lines : List Text) : Prop where
  noNull : ∀ a ∈ lines, '\x00' ∉ a
  noCycle : ∀ n ∈ lines, n ≠ [] → '/' ∉ removePrefixDash n →
    ∀ x ∈ lines, Below (removePrefixDash n) (removePrefixDash x) →
      ∀ t ∈ lines, ¬Before (removePrefixDash n) (removePrefixDash t)

variable {s t p u n : Text} {b c : Char}

/-! ## Strings -/

@[simp] theorem codes_append : codes (s ++ t) = codes s ++ codes t := List.map_append

@[simp] theorem codes_nil : codes [] = [] := rfl

@[simp] theorem codes_cons : codes (c :: s) = c.toNat :: codes s := rfl

theorem mem_of_mem_stripped (h : c ∈ removePrefixDash s) : c ∈ s := by
  cases s with
  | nil => exact h
  | cons d s =>
    rw [removePrefixDash] at h
    split at h
    · exact List.mem_cons_of_mem d h
    · exact h

/-- A string without a slash is its own directory. -/
theorem dir_of_notMem (h : '/' ∉ s) : dir s = s ++ ['/'] := by
  cases s with
  | nil => rfl
  | cons c s =>
    rw [List.mem_cons, not_or] at h
    rw [dir, rsplit, if_neg h.2, if_neg (Ne.symm h.1)]

theorem dir_cons_of_mem (h : '/' ∈ s) : dir (c :: s) = c :: dir s := by
  rw [dir, rsplit, if_pos h]
  rfl

theorem dir_slash (h : '/' ∉ s) : dir ('/' :: s) = ['/'] := by
  rw [dir, rsplit, if_neg h, if_pos rfl]
  rfl

theorem dir_append (h : '/' ∈ u) : dir (p ++ u) = p ++ dir u := by
  induction p with
  | nil => rfl
  | cons c p ih =>
    have hmem : '/' ∈ p ++ u := List.mem_append_right p h
    rw [List.cons_append, dir_cons_of_mem hmem, ih, List.cons_append]

/-- The directory of a string with a slash is a first part of it. -/
theorem dir_prefix (h : '/' ∈ s) : dir s <+: s := by
  induction s with
  | nil => cases h
  | cons c s ih =>
    by_cases hs : '/' ∈ s
    · rw [dir_cons_of_mem hs]
      exact (List.prefix_cons_inj c).2 (ih hs)
    · obtain rfl : '/' = c := by simpa [hs] using h
      rw [dir_slash hs]
      exact ⟨s, rfl⟩

theorem slash_mem_dir (s : Text) : '/' ∈ dir s := by simp [dir]

/-- The directory of a string starts like it, up to the first character behind a part without a
slash. -/
theorem exists_dir_cons (hp : '/' ∉ p) (c : Char) (u : Text) :
    ∃ r, dir (p ++ c :: u) = p ++ c :: r := by
  by_cases hu : '/' ∈ u
  · exact ⟨dir u, by rw [dir_append (List.mem_cons_of_mem c hu), dir_cons_of_mem hu]⟩
  · by_cases hc : c = '/'
    · subst hc
      exact ⟨[], by rw [dir_append (List.mem_cons_self ..), dir_slash hu]⟩
    · have hmem : '/' ∉ p ++ c :: u := by simp [hp, hu, Ne.symm hc]
      exact ⟨u ++ ['/'], by rw [dir_of_notMem hmem, List.append_assoc, List.cons_append]⟩

/-- Two strings are equal, or one goes on behind the other, or they differ in a character. -/
theorem compare_cases (s t : Text) : s = t ∨ (∃ c r, t = s ++ c :: r) ∨ (∃ c r, s = t ++ c :: r) ∨
    ∃ p a b s' t', a ≠ b ∧ s = p ++ a :: s' ∧ t = p ++ b :: t' := by
  induction s generalizing t with
  | nil =>
    cases t with
    | nil => exact .inl rfl
    | cons b t => exact .inr (.inl ⟨b, t, rfl⟩)
  | cons a s ih =>
    cases t with
    | nil => exact .inr (.inr (.inl ⟨a, s, rfl⟩))
    | cons b t =>
      by_cases hab : a = b
      · subst hab
        rcases ih t with rfl | ⟨c, r, rfl⟩ | ⟨c, r, rfl⟩ | ⟨p, x, y, s', t', hne, rfl, rfl⟩
        · exact .inl rfl
        · exact .inr (.inl ⟨c, r, rfl⟩)
        · exact .inr (.inr (.inl ⟨c, r, rfl⟩))
        · exact .inr (.inr (.inr ⟨a :: p, x, y, s', t', hne, rfl, rfl⟩))
      · exact .inr (.inr (.inr ⟨[], a, b, s, t, hab, rfl, rfl⟩))

/-! ## Comparing code points -/

@[simp] theorem compare_append (p x y : List ℕ) : compare (p ++ x) (p ++ y) = compare x y := by
  induction p with
  | nil => rfl
  | cons a p ih => rw [List.cons_append, List.cons_append, List.compare_cons_cons,
      Nat.compare_eq_eq.2 rfl, Ordering.eq_then, ih]

/-- The first difference decides. -/
theorem compare_of_lt {a d : ℕ} (h : a < d) (p x y : List ℕ) :
    compare (p ++ a :: x) (p ++ d :: y) = .lt := by
  rw [compare_append, List.compare_cons_cons, Nat.compare_eq_lt.2 h, Ordering.lt_then]

theorem compare_of_gt {a d : ℕ} (h : d < a) (p x y : List ℕ) :
    compare (p ++ a :: x) (p ++ d :: y) = .gt := by
  rw [compare_append, List.compare_cons_cons, Nat.compare_eq_gt.2 h, Ordering.gt_then]

/-- The longer string is the greater one. -/
theorem compare_append_cons (p : List ℕ) (a : ℕ) (x : List ℕ) : compare p (p ++ a :: x) = .lt := by
  have h := compare_append p [] (a :: x)
  rwa [List.append_nil, List.compare_nil_cons] at h

/-! ## Swapping the strings -/

theorem strcoll_of_noNull (hs : '\x00' ∉ s) (ht : '\x00' ∉ t) :
    strcoll s t = some (compare (codes s) (codes t)) :=
  if_neg (not_or.2 ⟨hs, ht⟩)

theorem strcoll_swap (s t : Text) : strcoll t s = (strcoll s t).map Ordering.swap := by
  by_cases hnull : '\x00' ∈ s ∨ '\x00' ∈ t
  · rw [strcoll, if_pos hnull.symm, strcoll, if_pos hnull, Option.map_none]
  · rw [strcoll, if_neg fun h => hnull h.symm, strcoll, if_neg hnull, Option.map_some,
      Std.OrientedOrd.eq_swap]

theorem eq_of_starts (hst : s <+: t) (hts : t <+: s) : s = t :=
  hst.eq_of_length (le_antisymm hst.length_le hts.length_le)

/-- With directories of which neither contains the other the strings decide. -/
theorem compareStripped_of_unrelated (hst : ¬dir s <+: dir t) (hts : ¬dir t <+: dir s) :
    compareStripped s t = strcoll s t := by
  have hne : dir s ≠ dir t := fun heq => hst (heq ▸ List.prefix_rfl)
  rw [compareStripped, if_neg hne, if_neg hts, if_neg hst, ite_self]

theorem not_prefix_of_ne {a b : Char} (hne : a ≠ b) : ¬p ++ a :: s <+: p ++ b :: t := by
  rw [List.prefix_append_right_inj, List.cons_prefix_cons]
  exact fun h => hne h.1

/-- With directories that differ in a character the strings decide. -/
theorem compareStripped_of_differ {a b : Char} {s' t' : Text} (hne : a ≠ b)
    (hs : dir s = p ++ a :: s') (ht : dir t = p ++ b :: t') :
    compareStripped s t = strcoll s t := by
  apply compareStripped_of_unrelated
  · rw [hs, ht]
    exact not_prefix_of_ne hne
  · rw [hs, ht]
    exact not_prefix_of_ne hne.symm

theorem compareStripped_swap (s t : Text) :
    compareStripped t s = (compareStripped s t).map Ordering.swap := by
  by_cases hslash : '/' ∉ s ∧ '/' ∉ t
  · rw [compareStripped, if_pos hslash.symm, compareStripped, if_pos hslash, strcoll_swap]
  · have hslash' : ¬('/' ∉ t ∧ '/' ∉ s) := fun h => hslash h.symm
    by_cases heq : dir s = dir t
    · rw [compareStripped, if_neg hslash', if_pos heq.symm, compareStripped, if_neg hslash,
        if_pos heq, strcoll_swap]
    · by_cases hts : dir t <+: dir s
      · have hst : ¬dir s <+: dir t := fun hst => heq (eq_of_starts hst hts)
        simp [compareStripped, hslash, hslash', heq, Ne.symm heq, hts, hst]
      · by_cases hst : dir s <+: dir t
        · simp [compareStripped, hslash, hslash', heq, Ne.symm heq, hts, hst]
        · rw [compareStripped_of_unrelated hst hts, compareStripped_of_unrelated hts hst,
            strcoll_swap]

/-! ## Keys -/

/-- A number above every code point. -/
def top : ℕ := 0x110000

theorem toNat_lt_top (c : Char) : c.toNat < top := by
  have hvalid := c.valid
  simp only [UInt32.isValidChar, Nat.isValidChar] at hvalid
  simp only [top, Char.toNat]
  omega

open Classical in
/-- The key of a string: its directory, closed by a number above every character, and then the string.
A name that no line is below counts as a string without a directory. -/
noncomputable def keyStripped (below : Text → Prop) (s : Text) : List ℕ :=
  if '/' ∈ s ∨ below s then codes (dir s) ++ top :: codes s else codes s

variable {below : Text → Prop}

theorem keyStripped_of_dir (h : '/' ∈ s ∨ below s) :
    keyStripped below s = codes (dir s) ++ top :: codes s := if_pos h

theorem keyStripped_of_name (h : '/' ∉ s) (hbelow : ¬below s) : keyStripped below s = codes s :=
  if_neg (not_or.2 ⟨h, hbelow⟩)

/-- The key starts like the string, up to the first character behind a part without a slash. -/
theorem exists_keyStripped (below : Text → Prop) (hp : '/' ∉ p) (c : Char) (u : Text) :
    ∃ r, keyStripped below (p ++ c :: u) = codes p ++ c.toNat :: r := by
  obtain ⟨r, hr⟩ := exists_dir_cons hp c u
  by_cases hdir : '/' ∈ p ++ c :: u ∨ below (p ++ c :: u)
  · exact ⟨codes r ++ top :: codes (p ++ c :: u), by simp [keyStripped_of_dir hdir, hr]⟩
  · exact ⟨codes u, by rw [keyStripped, if_neg hdir, codes_append, codes_cons]⟩

theorem compare_toNat {a b : Char} (hne : a ≠ b) (x y x' y' : List ℕ) (q q' : List ℕ) :
    compare (q ++ a.toNat :: x) (q ++ b.toNat :: y) =
      compare (q' ++ a.toNat :: x') (q' ++ b.toNat :: y') := by
  have hne' : a.toNat ≠ b.toNat := fun h => hne (Char.toNat_inj.1 h)
  rcases Nat.lt_or_gt_of_ne hne' with hlt | hgt
  · rw [compare_of_lt hlt, compare_of_lt hlt]
  · rw [compare_of_gt hgt, compare_of_gt hgt]

section

variable (hs : '\x00' ∉ s) (ht : '\x00' ∉ t)
include hs ht

/-- Of two strings with slashes the keys have the order of the comparison: it is the one of the
directories, where a directory comes behind those in it. -/
theorem compareStripped_of_mem (hslash : '/' ∈ s) (htslash : '/' ∈ t) :
    compareStripped s t = some (compare (keyStripped below s) (keyStripped below t)) := by
  have hslash' : ¬('/' ∉ s ∧ '/' ∉ t) := fun h => h.1 hslash
  rw [keyStripped_of_dir (.inl hslash), keyStripped_of_dir (.inl htslash)]
  rcases compare_cases (dir s) (dir t) with heq | ⟨c, r, hr⟩ | ⟨c, r, hr⟩ | ⟨p, a, b, s', t', hne, hs', ht'⟩
  · rw [compareStripped, if_neg hslash', if_pos heq, strcoll_of_noNull hs ht, heq]
    simp
  · have hpre : dir s <+: dir t := ⟨c :: r, hr.symm⟩
    have hne : dir s ≠ dir t := by simp [hr]
    have hts : ¬dir t <+: dir s := fun h => hne (eq_of_starts hpre h)
    rw [compareStripped, if_neg hslash', if_neg hne, if_neg hts, if_pos hpre, hr, codes_append,
      codes_cons, List.append_assoc, List.cons_append, compare_of_gt (toNat_lt_top c)]
  · have hpre : dir t <+: dir s := ⟨c :: r, hr.symm⟩
    have hne : dir s ≠ dir t := by simp [hr]
    rw [compareStripped, if_neg hslash', if_neg hne, if_pos hpre, hr, codes_append, codes_cons,
      List.append_assoc, List.cons_append, compare_of_lt (toNat_lt_top c)]
  · -- the strings differ where their directories do
    obtain ⟨f, hf⟩ := dir_prefix hslash
    obtain ⟨g, hg⟩ := dir_prefix htslash
    rw [compareStripped_of_differ hne hs' ht', strcoll_of_noNull hs ht]
    conv_lhs => rw [← hf, ← hg, hs', ht']
    rw [hs', ht']
    simp only [List.append_assoc, List.cons_append, codes_append, codes_cons]
    rw [compare_toNat hne]

omit hs ht in
/-- Strings that differ in a character behind a part without a slash decide themselves. -/
theorem compareStripped_of_ne {a b : Char} {s' t' : Text} (hp : '/' ∉ p) (hne : a ≠ b)
    (hs' : s = p ++ a :: s') (ht' : t = p ++ b :: t') : compareStripped s t = strcoll s t := by
  obtain ⟨x, hx⟩ := exists_dir_cons hp a s'
  obtain ⟨y, hy⟩ := exists_dir_cons hp b t'
  exact compareStripped_of_differ hne (hs' ▸ hx) (ht' ▸ hy)

theorem compareStripped_key_of_ne {a b : Char} {s' t' : Text} (hp : '/' ∉ p) (hne : a ≠ b)
    (hs' : s = p ++ a :: s') (ht' : t = p ++ b :: t') :
    compareStripped s t = some (compare (keyStripped below s) (keyStripped below t)) := by
  obtain ⟨x, hx⟩ := exists_keyStripped below hp a s'
  obtain ⟨y, hy⟩ := exists_keyStripped below hp b t'
  rw [compareStripped_of_ne hp hne hs' ht', strcoll_of_noNull hs ht, hs', ht', hx, hy,
    codes_append, codes_append, codes_cons, codes_cons, compare_toNat hne]

omit hs ht in
/-- A line in a subdirectory comes before the name of the directory. -/
theorem compareStripped_of_below (hslash : '/' ∉ s) (hbelow : Below s t) :
    ∃ d r, dir t = s ++ '/' :: d :: r ∧ compareStripped s t = some .gt := by
  obtain ⟨u, ht', hu⟩ := hbelow
  have htslash : '/' ∈ t := by simp [ht']
  have hslash' : ¬('/' ∉ s ∧ '/' ∉ t) := fun h => h.2 htslash
  have hdirt : dir t = s ++ '/' :: dir u := by
    rw [ht', dir_append (List.mem_cons_self ..), dir_cons_of_mem hu]
  obtain ⟨d, r, hd⟩ := List.exists_cons_of_ne_nil (List.ne_nil_of_mem (slash_mem_dir u))
  rw [hd] at hdirt
  have hdir : dir s = s ++ ['/'] := dir_of_notMem hslash
  have hpre : dir s <+: dir t := ⟨d :: r, by simp [hdir, hdirt]⟩
  have hne : dir s ≠ dir t := by simp [hdir, hdirt]
  have hts : ¬dir t <+: dir s := fun h => hne (eq_of_starts hpre h)
  exact ⟨d, r, hdirt, by rw [compareStripped, if_neg hslash', if_neg hne, if_neg hts, if_pos hpre]⟩

/-- A string that goes on behind a name, but not into a subdirectory, comes behind it. -/
theorem compareStripped_of_extends {r : Text} (hslash : '/' ∉ s) (ht' : t = s ++ c :: r)
    (hnot : ¬Below s t) : compareStripped s t = some .lt := by
  have hdir : dir s = s ++ ['/'] := dir_of_notMem hslash
  have hless : strcoll s t = some .lt := by
    rw [strcoll_of_noNull hs ht, ht', codes_append, codes_cons, compare_append_cons]
  by_cases hc : c = '/'
  · subst hc
    have hslash' : ¬('/' ∉ s ∧ '/' ∉ t) := fun h => h.2 (by simp [ht'])
    have hr : '/' ∉ r := fun hr => hnot ⟨r, ht', hr⟩
    have hdirt : dir t = s ++ ['/'] := by
      rw [ht', dir_append (List.mem_cons_self ..), dir_slash hr]
    rw [compareStripped, if_neg hslash', if_pos (hdir.trans hdirt.symm), hless]
  · obtain ⟨u, hu⟩ := exists_dir_cons hslash c r
    rw [compareStripped_of_differ (Ne.symm hc) hdir (ht' ▸ hu), hless]

/-- A string without a slash and one that goes on behind it. -/
theorem compareStripped_key_of_extends {r : Text} (hslash : '/' ∉ s) (ht' : t = s ++ c :: r)
    (hbelow : Below s t → below s) (hbefore : below s → ¬Before s t) :
    compareStripped s t = some (compare (keyStripped below s) (keyStripped below t)) := by
  have hdir : dir s = s ++ ['/'] := dir_of_notMem hslash
  by_cases hin : Below s t
  · -- the directory of the name is longer than its own
    obtain ⟨d, u, hdirt, hcoll⟩ := compareStripped_of_below hslash hin
    have htslash : '/' ∈ t := by
      obtain ⟨r, rfl, -⟩ := hin
      simp
    have hgt := compare_of_gt (toNat_lt_top d) (codes (s ++ ['/'])) (codes s) (codes u ++ top :: codes t)
    rw [hcoll, keyStripped_of_dir (.inr (hbelow hin)), keyStripped_of_dir (.inl htslash), hdir, hdirt,
      ← hgt]
    simp
  · rw [compareStripped_of_extends hs ht hslash ht' hin]
    by_cases hb : below s
    · rw [keyStripped_of_dir (.inr hb), hdir]
      by_cases hc : c = '/'
      · -- a line in the directory
        subst hc
        have hr : '/' ∉ r := fun hr => hin ⟨r, ht', hr⟩
        have hdirt : dir t = s ++ ['/'] := by
          rw [ht', dir_append (List.mem_cons_self ..), dir_slash hr]
        rw [keyStripped_of_dir (.inl (by simp [ht'])), hdirt, compare_append, List.compare_cons_cons,
          Std.compare_self, Ordering.eq_then, ht', codes_append, codes_cons, compare_append_cons]
      · -- it goes on with a character behind the slash
        obtain ⟨y, hy⟩ := exists_keyStripped below hslash c r
        have hle : ¬c < '/' := fun hlt => hbefore hb ⟨c, r, ht', hlt⟩
        have hlt : '/'.toNat < c.toNat :=
          lt_of_le_of_ne (not_lt.1 hle) fun h => hc (Char.toNat_inj.1 h).symm
        rw [ht', hy]
        simp only [codes_append, codes_cons, List.append_assoc, List.cons_append]
        rw [compare_of_lt hlt]
    · obtain ⟨y, hy⟩ := exists_keyStripped below hslash c r
      rw [keyStripped_of_name hslash hb, ht', hy, compare_append_cons]

end

/-- A comparison by keys is one by keys the other way round. -/
theorem compareStripped_symm
    (h : compareStripped t s = some (compare (keyStripped below t) (keyStripped below s))) :
    compareStripped s t = some (compare (keyStripped below s) (keyStripped below t)) := by
  rw [compareStripped_swap, h, Option.map_some, ← Std.OrientedOrd.eq_swap]

/-- The comparison is the one of the keys when `below` says below which names there are lines, and
no string goes on before the slash behind such a name. -/
theorem compareStripped_eq (hs : '\x00' ∉ s) (ht : '\x00' ∉ t)
    (hst : '/' ∉ s → (Below s t → below s) ∧ (below s → ¬Before s t))
    (hts : '/' ∉ t → (Below t s → below t) ∧ (below t → ¬Before t s)) :
    compareStripped s t = some (compare (keyStripped below s) (keyStripped below t)) := by
  by_cases hslash : '/' ∈ s
  · by_cases htslash : '/' ∈ t
    · exact compareStripped_of_mem hs ht hslash htslash
    · apply compareStripped_symm
      rcases compare_cases t s with rfl | ⟨c, r, hr⟩ | ⟨c, r, hr⟩ | ⟨p, a, b, t', s', hne, ht', hs'⟩
      · exact absurd hslash htslash
      · exact compareStripped_key_of_extends ht hs htslash hr (hts htslash).1 (hts htslash).2
      · exact absurd (hr ▸ List.mem_append_left _ hslash) htslash
      · exact compareStripped_key_of_ne ht hs (fun h => htslash (ht' ▸ List.mem_append_left _ h)) hne
          ht' hs'
  · rcases compare_cases s t with rfl | ⟨c, r, hr⟩ | ⟨c, r, hr⟩ | ⟨p, a, b, s', t', hne, hs', ht'⟩
    · rw [compareStripped, if_pos ⟨hslash, hslash⟩, strcoll_of_noNull hs hs, Std.compare_self,
        Std.compare_self]
    · exact compareStripped_key_of_extends hs ht hslash hr (hst hslash).1 (hst hslash).2
    · apply compareStripped_symm
      have htslash : '/' ∉ t := fun h => hslash (hr ▸ List.mem_append_left _ h)
      exact compareStripped_key_of_extends ht hs htslash hr (hts htslash).1 (hts htslash).2
    · exact compareStripped_key_of_ne hs ht (fun h => hslash (hs' ▸ List.mem_append_left _ h)) hne
        hs' ht'

/-! ## The order of the lines -/

variable {lines : List Text}

/-- There is a line below the name. -/
def HasBelow (lines : List Text) (n : Text) : Prop := ∃ x ∈ lines, Below n (removePrefixDash x)

/-- The key of a line. Empty lines come first. -/
noncomputable def key (lines : List Text) (a : Text) : List ℕ :=
  if a = [] then [] else top :: keyStripped (HasBelow lines) (removePrefixDash a)

/-- On orderable lines the comparison is the one of their keys. -/
theorem comparesBy_of_orderable (h : Orderable lines) :
    ComparesBy strcollExtractUtils (key lines) lines := by
  intro a ha b hb
  have hnull : ∀ a ∈ lines, '\x00' ∉ removePrefixDash a :=
    fun a ha hmem => h.noNull a ha (mem_of_mem_stripped hmem)
  by_cases hempty : a = [] ∨ b = []
  · rw [strcollExtractUtils, if_pos hempty, strcoll_of_noNull (h.noNull a ha) (h.noNull b hb)]
    by_cases hae : a = []
    · by_cases hbe : b = []
      · rw [hae, hbe, Std.compare_self, Std.compare_self]
      · obtain ⟨c, u, rfl⟩ := List.exists_cons_of_ne_nil hbe
        rw [hae, key, if_pos rfl, key, if_neg hbe]
        rfl
    · obtain ⟨c, u, rfl⟩ := List.exists_cons_of_ne_nil hae
      obtain rfl := hempty.resolve_left hae
      rw [key, if_neg hae, key, if_pos rfl]
      rfl
  · rw [not_or] at hempty
    rw [strcollExtractUtils, if_neg (not_or.2 hempty), key, if_neg hempty.1, key, if_neg hempty.2,
      List.compare_cons_cons, Std.compare_self, Ordering.eq_then]
    -- what the two lines are to each other as names
    have hname : ∀ n ∈ lines, ∀ t ∈ lines, n ≠ [] → '/' ∉ removePrefixDash n →
        (Below (removePrefixDash n) (removePrefixDash t) → HasBelow lines (removePrefixDash n)) ∧
          (HasBelow lines (removePrefixDash n) → ¬Before (removePrefixDash n) (removePrefixDash t)) := by
      intro n hn t ht hne hslash
      refine ⟨fun hbelow => ⟨t, ht, hbelow⟩, fun hhas => ?_⟩
      obtain ⟨x, hx, hbelow⟩ := hhas
      exact h.noCycle n hn hne hslash x hx hbelow t ht
    exact compareStripped_eq (hnull a ha) (hnull b hb) (hname a ha b hb hempty.1)
      (hname b hb a ha hempty.2)

/-! ## Lines that have no order -/

/-- A line with a null character is not even compared with itself. -/
theorem strcollExtractUtils_self_of_null (h : '\x00' ∈ t) : strcollExtractUtils t t = none := by
  have hself : ∀ u : Text, '\x00' ∈ u → strcoll u u = none := fun u hu => if_pos (.inl hu)
  unfold strcollExtractUtils
  split
  · exact hself t h
  · have hmem : '\x00' ∈ removePrefixDash t := by
      cases t with
      | nil => cases h
      | cons c t =>
        rw [removePrefixDash]
        split
        · rename_i hc
          simpa [hc] using h
        · exact h
    rw [compareStripped, if_pos (c := dir _ = dir _) rfl, hself _ hmem, ite_self]

/-- A line below a name, the name, and a line that goes on before the slash go round in a circle. -/
theorem circle {x : Text} (hn : '\x00' ∉ n) (hx : '\x00' ∉ x) (ht : '\x00' ∉ t) (hslash : '/' ∉ n)
    (hbelow : Below n x) (hbefore : Before n t) :
    compareStripped x n = some .lt ∧ compareStripped n t = some .lt ∧
      compareStripped t x = some .lt := by
  obtain ⟨-, -, -, hxn⟩ := compareStripped_of_below hslash hbelow
  obtain ⟨c, u, ht', hlt⟩ := hbefore
  obtain ⟨r, hx', -⟩ := hbelow
  have hne : c ≠ '/' := by
    rintro rfl
    exact absurd hlt (by decide)
  have hcode : c.toNat < '/'.toNat := hlt
  refine ⟨by rw [compareStripped_swap, hxn]; rfl, ?_, ?_⟩
  · apply compareStripped_of_extends hn ht hslash ht'
    rintro ⟨r', hr', -⟩
    rw [ht', List.append_cancel_left_eq, List.cons.injEq] at hr'
    exact absurd hr'.1 hne
  · rw [compareStripped_of_ne hslash hne ht' hx', strcoll_of_noNull ht hx, ht', hx', codes_append,
      codes_append, codes_cons, codes_cons, compare_of_lt hcode]

/-- The comparison is a total preorder of exactly the orderable lines. -/
theorem totalPreorderOn_iff : TotalPreorderOn strcollExtractUtils lines ↔ Orderable lines := by
  constructor
  · intro h
    have hnull : ∀ a ∈ lines, '\x00' ∉ a := by
      intro a ha hmem
      have hrefl := h.refl a ha
      rw [strcollExtractUtils_self_of_null hmem] at hrefl
      cases hrefl
    refine ⟨hnull, fun n hn hne hslash x hx hbelow t ht hbefore => ?_⟩
    have hstripped : ∀ a ∈ lines, '\x00' ∉ removePrefixDash a :=
      fun a ha hmem => hnull a ha (mem_of_mem_stripped hmem)
    have hxne : x ≠ [] := by
      rintro rfl
      obtain ⟨r, hr, -⟩ := hbelow
      simp [removePrefixDash] at hr
    have htne : t ≠ [] := by
      rintro rfl
      obtain ⟨c, r, hr, -⟩ := hbefore
      simp [removePrefixDash] at hr
    have hcompare : ∀ {a b : Text}, a ≠ [] → b ≠ [] →
        strcollExtractUtils a b = compareStripped (removePrefixDash a) (removePrefixDash b) :=
      fun ha hb => if_neg (not_or.2 ⟨ha, hb⟩)
    obtain ⟨hxn, hnt, htx⟩ :=
      circle (hstripped n hn) (hstripped x hx) (hstripped t ht) hslash hbelow hbefore
    rw [← hcompare hxne hne] at hxn
    rw [← hcompare hne htne] at hnt
    rw [← hcompare htne hxne] at htx
    -- two steps of the circle lead to the line before the first one
    apply h.trans x hx n hn t ht (by simp [hxn]) (by simp [hnt])
    rw [h.swap t ht x hx, htx]
    rfl
  · intro h
    exact (comparesBy_of_orderable h).totalPreorderOn

end AliceHal.ReorderLibs
