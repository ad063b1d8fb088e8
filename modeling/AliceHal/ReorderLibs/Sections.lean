import AliceHal.ReorderLibs.Strcoll
import Mathlib.Data.List.Chain
import Mathlib.Data.List.DropRight

/-!
# Reordering the Sections of a Blob List

The main loop of `reorder-libs.py` on the text of a file: its sections are separated by empty lines,
and the lines of a section are stripped and sorted.

- `sections`, `sectionList`, `reorder`: the loop
- `Tidy`, `Arranged`: the lines of its output
- `reorder_output`: on its own output the script changes nothing
- `wellDefined_iff`: when the order is well defined
-/

namespace AliceHal.ReorderLibs

open Lib

/-! ## The script -/

/-- The line boundaries of `splitlines`. -/
def isLineBreak (c : Char) : Bool :=
  c.toNat ∈ [0x0a, 0x0b, 0x0c, 0x0d, 0x1c, 0x1d, 0x1e, 0x85, 0x2028, 0x2029]

/-- The characters that `strip` removes. -/
def isSpace (c : Char) : Bool :=
  isLineBreak c || c.toNat ∈ [0x09, 0x1f, 0x20, 0xa0, 0x1680, 0x202f, 0x205f, 0x3000] ||
    (0x2000 ≤ c.toNat && c.toNat ≤ 0x200a)

/-- A file that is opened as text: every line end is read as a newline. -/
def universalNewlines : Text → Text
  | [] => []
  | c :: s =>
    if c = '\r' then
      -- of a pair the second character is kept
      if s.head? = some '\n' then universalNewlines s else '\n' :: universalNewlines s
    else c :: universalNewlines s

/-- `split("\n\n")` -/
def splitBlank : Text → List Text
  | [] => [[]]
  | [c] => [[c]]
  | c :: d :: s =>
    if c = '\n' ∧ d = '\n' then [] :: splitBlank s
    else (splitBlank (d :: s)).modifyHead (c :: ·)

/-- `splitlines` -/
def splitlines : Text → List Text
  | [] => []
  | c :: s =>
    if c = '\r' ∧ s.head? = some '\n' then splitlines s
    else if isLineBreak c then [] :: splitlines s
    else
      match splitlines s with
      | [] => [[c]]
      | l :: ls => (c :: l) :: ls

/-- `strip` -/
def strip (s : Text) : Text := (s.dropWhile isSpace).rdropWhile isSpace

/-- `"\n".join` -/
def join (lines : List Text) : Text := ['\n'].intercalate lines

/-- `f.read().split("\n\n")` -/
def sections (file : Text) : List Text := splitBlank (universalNewlines file)

/-- `section_list`, before it is sorted -/
def sectionList (part : Text) : List Text := (splitlines part).map strip

/-- A section with its lines in order. -/
def orderedSection (part : Text) : Option Text :=
  (sortBy strcollExtractUtils (sectionList part)).map join

/-- What the script writes to a file; without a result if a comparison failed. -/
def reorder (file : Text) : Option Text :=
  ((sections file).mapM orderedSection).map fun ordered =>
    strip (['\n', '\n'].intercalate ordered) ++ ['\n']

/-- The comparison is a total preorder on the lines of each section, a section is sorted to the same
lines up to ties in whatever order they stand, and a second run changes nothing. -/
structure WellDefined (file : Text) : Prop where
  order : ∀ part ∈ sections file, TotalPreorderOn strcollExtractUtils (sectionList part)
  permuted : ∀ part ∈ sections file, ∀ lines, lines.Perm (sectionList part) →
    ∃ r r', sortBy strcollExtractUtils (sectionList part) = some r ∧
      sortBy strcollExtractUtils lines = some r' ∧
      List.Forall₂ (fun a b => strcollExtractUtils a b = some .eq) r r'
  rerun : ∃ out, reorder file = some out ∧ reorder out = some out

/-! ## Stripped lines -/

variable {s l : Text} {c : Char} {g lines M : List Text}

theorem strip_within (s : Text) : strip s <:+: s := by
  obtain ⟨u, hu⟩ := List.rdropWhile_prefix isSpace (s.dropWhile isSpace)
  obtain ⟨v, hv⟩ := List.dropWhile_suffix (l := s) isSpace
  exact ⟨v, u, by rw [strip, List.append_assoc, hu, hv]⟩

theorem head_strip (h : (strip s).head? = some c) : ¬isSpace c := by
  obtain ⟨u, hu⟩ := List.rdropWhile_prefix isSpace (s.dropWhile isSpace)
  have hhead : (s.dropWhile isSpace).head? = some c := by
    rw [← hu, List.head?_append]
    change (strip s).head?.or _ = _
    rw [h]
    rfl
  intro hspace
  have hnot := List.head?_dropWhile_not isSpace s
  rw [hhead] at hnot
  simp [hspace] at hnot

theorem getLast_strip (h : (strip s).getLast? = some c) : ¬isSpace c := by
  have hne : strip s ≠ [] := by
    rintro hnil
    simp [hnil] at h
  have hnot := List.rdropWhile_last_not isSpace (s.dropWhile isSpace) hne
  rw [List.getLast?_eq_getLast_of_ne_nil hne, Option.some.injEq] at h
  subst h
  exact hnot

theorem strip_eq_self (hhead : ∀ c, s.head? = some c → ¬isSpace c)
    (hlast : ∀ c, s.getLast? = some c → ¬isSpace c) : strip s = s := by
  have hdrop : s.dropWhile isSpace = s := by
    cases s with
    | nil => rfl
    | cons c s => exact List.dropWhile_cons_of_neg (hhead c rfl)
  rw [strip, hdrop, List.rdropWhile_eq_self_iff]
  exact fun hne => hlast _ (List.getLast?_eq_getLast_of_ne_nil hne)

theorem strip_strip (s : Text) : strip (strip s) = strip s :=
  strip_eq_self (fun _ => head_strip) fun _ => getLast_strip

/-- A line of the output: stripped, without line breaks and without a null character. -/
structure Tidy (l : Text) : Prop where
  noBreak : ∀ c ∈ l, ¬isLineBreak c
  noNull : '\x00' ∉ l
  strip_eq : strip l = l

theorem Tidy.nil : Tidy [] := ⟨by simp, by simp, rfl⟩

theorem Tidy.head (h : Tidy l) (hc : l.head? = some c) : ¬isSpace c := by
  rw [← h.strip_eq] at hc
  exact head_strip hc

theorem Tidy.getLast (h : Tidy l) (hc : l.getLast? = some c) : ¬isSpace c := by
  rw [← h.strip_eq] at hc
  exact getLast_strip hc

/-- The lines of a text contain no line breaks. -/
theorem noBreak_of_mem_splitlines (hl : l ∈ splitlines s) : ∀ c ∈ l, ¬isLineBreak c := by
  induction s generalizing l with
  | nil => cases hl
  | cons d s ih =>
    rw [splitlines] at hl
    split at hl
    · exact ih hl
    · split at hl
      · rw [List.mem_cons] at hl
        rcases hl with rfl | hl
        · simp
        · exact ih hl
      · rename_i hd
        split at hl
        · obtain rfl := List.mem_singleton.1 hl
          simpa using hd
        · rename_i hsplit
          rw [List.mem_cons] at hl
          rcases hl with rfl | hl
          · intro c hc
            rcases List.mem_cons.1 hc with rfl | hc
            · exact hd
            · exact ih (hsplit ▸ List.mem_cons_self ..) c hc
          · exact ih (hsplit ▸ List.mem_cons_of_mem _ hl)

/-- The lines of a section are tidy when they have no null characters. -/
theorem tidy_of_mem_sectionList (hl : l ∈ sectionList s) (hnull : '\x00' ∉ l) : Tidy l := by
  obtain ⟨m, hm, rfl⟩ := List.mem_map.1 hl
  refine ⟨fun c hc => ?_, hnull, strip_strip m⟩
  exact noBreak_of_mem_splitlines hm c ((strip_within m).subset hc)

/-! ## Texts as lists of lines -/

theorem join_singleton (l : Text) : join [l] = l := List.intercalate_singleton

theorem join_cons (l : Text) (h : M ≠ []) : join (l :: M) = l ++ '\n' :: join M := by
  rw [join, List.intercalate_cons_of_ne_nil h]
  simp [join]

theorem join_append (hg : g ≠ []) (h : M ≠ []) : join (g ++ M) = join g ++ '\n' :: join M := by
  induction g with
  | nil => exact absurd rfl hg
  | cons l g ih =>
    cases g with
    | nil => rw [List.singleton_append, join_cons l h, join_singleton]
    | cons m g =>
      rw [List.cons_append, join_cons l (by simp), ih (by simp), join_cons l (by simp)]
      simp

theorem isLineBreak_newline : isLineBreak '\n' := by decide

/-- The line before a newline. -/
theorem splitlines_append (hl : ∀ c ∈ l, ¬isLineBreak c) (s : Text) :
    splitlines (l ++ '\n' :: s) = l :: splitlines s := by
  induction l with
  | nil =>
    have hreturn : ¬('\n' = '\r' ∧ s.head? = some '\n') := fun h => absurd h.1 (by decide)
    rw [List.nil_append, splitlines, if_neg hreturn, if_pos isLineBreak_newline]
  | cons c l ih =>
    rw [List.forall_mem_cons] at hl
    have hreturn : ¬(c = '\r' ∧ (l ++ '\n' :: s).head? = some '\n') := by
      rintro ⟨rfl, -⟩
      exact hl.1 (by decide)
    rw [List.cons_append, splitlines, if_neg hreturn, if_neg hl.1, ih hl.2]

/-- The last line, without a newline behind it. -/
theorem splitlines_of_noBreak (hl : ∀ c ∈ l, ¬isLineBreak c) (hne : l ≠ []) :
    splitlines l = [l] := by
  induction l with
  | nil => exact absurd rfl hne
  | cons c l ih =>
    rw [List.forall_mem_cons] at hl
    have hreturn : ¬(c = '\r' ∧ l.head? = some '\n') := by
      rintro ⟨rfl, -⟩
      exact hl.1 (by decide)
    rw [splitlines, if_neg hreturn, if_neg hl.1]
    cases l with
    | nil => rfl
    | cons d l => rw [ih hl.2 (by simp)]

/-- The lines of a text are those it is joined from, unless the last one is empty. -/
theorem splitlines_join (hg : ∀ l ∈ g, Tidy l) (hne : g ≠ []) (hlast : g.getLast? ≠ some []) :
    splitlines (join g) = g := by
  induction g with
  | nil => exact absurd rfl hne
  | cons l g ih =>
    rw [List.forall_mem_cons] at hg
    cases g with
    | nil =>
      rw [join_singleton]
      exact splitlines_of_noBreak hg.1.noBreak (by simpa using hlast)
    | cons m g =>
      rw [join_cons l (by simp), splitlines_append hg.1.noBreak]
      rw [ih hg.2 (by simp) (by simpa using hlast)]

/-- With a newline at the end the last line may be empty. -/
theorem splitlines_join_newline (hg : ∀ l ∈ g, Tidy l) (hne : g ≠ []) :
    splitlines (join g ++ ['\n']) = g := by
  induction g with
  | nil => exact absurd rfl hne
  | cons l g ih =>
    rw [List.forall_mem_cons] at hg
    cases g with
    | nil =>
      rw [join_singleton, splitlines_append hg.1.noBreak]
      rfl
    | cons m g =>
      rw [join_cons l (by simp), List.append_assoc, List.cons_append, splitlines_append hg.1.noBreak,
        ih hg.2 (by simp)]

/-! ## Sections as parts of a list of lines -/

theorem splitBlank_ne_nil (s : Text) : splitBlank s ≠ [] := by
  induction s using splitBlank.induct with
  | case1 => simp [splitBlank]
  | case2 c => simp [splitBlank]
  | case3 c d s h ih => simp [splitBlank, h]
  | case4 c d s h ih =>
    rw [splitBlank, if_neg h]
    obtain ⟨x, xs, hx⟩ := List.exists_cons_of_ne_nil ih
    simp [hx]

/-- The sections, joined again. -/
theorem intercalate_splitBlank (s : Text) : ['\n', '\n'].intercalate (splitBlank s) = s := by
  induction s using splitBlank.induct with
  | case1 => rfl
  | case2 c => rfl
  | case3 c d s h ih =>
    obtain ⟨rfl, rfl⟩ := h
    rw [splitBlank, if_pos ⟨rfl, rfl⟩, List.intercalate_cons_of_ne_nil (splitBlank_ne_nil s), ih]
    rfl
  | case4 c d s h ih =>
    rw [splitBlank, if_neg h]
    obtain ⟨x, xs, hx⟩ := List.exists_cons_of_ne_nil (splitBlank_ne_nil (d :: s))
    rw [hx] at ih ⊢
    rw [List.modifyHead_cons, ← ih, List.intercalate_cons_cons_left]

/-- A line is the beginning of the section that goes on behind it. -/
theorem splitBlank_append (hl : '\n' ∉ l) (s : Text) :
    splitBlank (l ++ s) = (splitBlank s).modifyHead (l ++ ·) := by
  induction l with
  | nil =>
    obtain ⟨x, xs, hx⟩ := List.exists_cons_of_ne_nil (splitBlank_ne_nil s)
    rw [List.nil_append, hx]
    rfl
  | cons c l ih =>
    rw [List.mem_cons, not_or] at hl
    obtain ⟨x, xs, hx⟩ := List.exists_cons_of_ne_nil (splitBlank_ne_nil s)
    rw [hx] at ih
    have ih := ih hl.2
    rw [List.cons_append, hx]
    cases hs : l ++ s with
    | nil =>
      obtain ⟨rfl, rfl⟩ := List.append_eq_nil_iff.1 hs
      cases hx
      rfl
    | cons d u =>
      have hnot : ¬(c = '\n' ∧ d = '\n') := fun h => hl.1 h.1.symm
      rw [splitBlank, if_neg hnot, ← hs, ih]
      rfl

/-- A newline before something else is no end of a section. -/
theorem splitBlank_newline (hs : s.head? ≠ some '\n') :
    splitBlank ('\n' :: s) = (splitBlank s).modifyHead ('\n' :: ·) := by
  cases s with
  | nil => rfl
  | cons d s =>
    have hnot : ¬('\n' = '\n' ∧ d = '\n') := fun h => hs (by rw [List.head?_cons, h.2])
    rw [splitBlank, if_neg hnot]

/-- A part of a list of lines in which only the first line may be empty. -/
def Part (M : List Text) (s : Text) : Prop :=
  ∃ g, g ≠ [] ∧ g <:+: M ∧ s = join g ∧ ∀ l ∈ g.tail, l ≠ []

/-- The sections of joined lines are parts of them, the first one with the first line. -/
theorem splitBlank_join (hM : ∀ l ∈ M, '\n' ∉ l) (hne : M ≠ [])
    (hlast : M.getLast? = some [] → M = [[]]) :
    ∃ g ss, splitBlank (join M) = join g :: ss ∧ g ≠ [] ∧ g <+: M ∧ (∀ l ∈ g.tail, l ≠ []) ∧
      ∀ s ∈ ss, Part M s := by
  induction hn : M.length using Nat.strong_induction_on generalizing M with
  | _ n ih =>
    obtain ⟨l, M, rfl⟩ := List.exists_cons_of_ne_nil hne
    rw [List.forall_mem_cons] at hM
    cases M with
    | nil =>
      refine ⟨[l], [], ?_, by simp, List.prefix_rfl, by simp, by simp⟩
      have h := splitBlank_append hM.1 []
      rw [List.append_nil] at h
      rw [join_singleton, h]
      simp [splitBlank]
    | cons m M =>
      have hlast' : (m :: M).getLast? ≠ some [] := by
        intro h
        simpa using hlast (by simpa using h)
      rw [join_cons l (by simp), splitBlank_append hM.1]
      by_cases hm : m = []
      · -- the empty line ends the section
        subst hm
        have hne' : M ≠ [] := by
          rintro rfl
          exact hlast' rfl
        have hlast'' : M.getLast? ≠ some [] := by
          rwa [List.getLast?_cons_of_ne_nil hne'] at hlast'
        have hless : M.length < n := by
          simp only [List.length_cons] at hn
          omega
        obtain ⟨g, ss, hg, hgne, hpre, htail, hss⟩ := ih M.length hless
          (fun x hx => hM.2 x (List.mem_cons_of_mem _ hx)) hne' (fun h => absurd h hlast'') rfl
        refine ⟨[l], splitBlank (join M), ?_, by simp, ⟨_, rfl⟩, by simp, ?_⟩
        · rw [join_cons [] hne', join_singleton]
          simp [splitBlank]
        · have hsuffix : M <:+: l :: [] :: M := ⟨[l, []], [], by simp⟩
          rw [hg, List.forall_mem_cons]
          constructor
          · exact ⟨g, hgne, hpre.isInfix.trans hsuffix, rfl, htail⟩
          · intro s hs
            obtain ⟨g', hgne', hinside, hs', htail'⟩ := hss s hs
            exact ⟨g', hgne', hinside.trans hsuffix, hs', htail'⟩
      · -- the section goes on
        obtain ⟨g, ss, hg, hgne, hpre, htail, hss⟩ := ih (m :: M).length (by simp [← hn]) hM.2
          (by simp) (fun h => absurd h hlast') rfl
        have hhead : (join (m :: M)).head? ≠ some '\n' := by
          intro h
          have hmhead : m.head? = some '\n' := by
            obtain ⟨c, u, rfl⟩ := List.exists_cons_of_ne_nil hm
            cases M with
            | nil => simpa [join_singleton] using h
            | cons m' M => simpa [join_cons] using h
          exact hM.2 m (List.mem_cons_self ..) (List.mem_of_mem_head? hmhead)
        have hgm : ∀ x ∈ g, x ≠ [] := by
          obtain ⟨x, g, rfl⟩ := List.exists_cons_of_ne_nil hgne
          obtain ⟨rfl, -⟩ := List.cons_prefix_cons.1 hpre
          rw [List.forall_mem_cons]
          exact ⟨hm, htail⟩
        refine ⟨l :: g, ss, ?_, by simp, (List.prefix_cons_inj l).2 hpre, hgm, ?_⟩
        · rw [splitBlank_newline hhead, hg, join_cons l hgne]
          rfl
        · intro s hs
          obtain ⟨g', hgne', hinside, hs', htail'⟩ := hss s hs
          exact ⟨g', hgne', hinside.trans (List.suffix_cons l _).isInfix, hs', htail'⟩

/-- Every section of joined lines is a part of them. -/
theorem part_of_mem_splitBlank (hM : ∀ l ∈ M, '\n' ∉ l) (hne : M ≠ [])
    (hlast : M.getLast? = some [] → M = [[]]) (hs : s ∈ splitBlank (join M)) : Part M s := by
  obtain ⟨g, ss, hg, hgne, hpre, htail, hss⟩ := splitBlank_join hM hne hlast
  rw [hg, List.mem_cons] at hs
  rcases hs with rfl | hs
  · exact ⟨g, hgne, hpre.isInfix, rfl, htail⟩
  · exact hss s hs

/-- A newline at the end of a text stands at the end of its last section. -/
theorem splitBlank_concat (hs : s.getLast? ≠ some '\n') :
    ∃ ss x, splitBlank s = ss ++ [x] ∧ splitBlank (s ++ ['\n']) = ss ++ [x ++ ['\n']] := by
  induction s using splitBlank.induct with
  | case1 => exact ⟨[], [], rfl, rfl⟩
  | case2 c =>
    have hc : ¬(c = '\n' ∧ '\n' = '\n') := by simpa using hs
    refine ⟨[], [c], rfl, ?_⟩
    rw [List.singleton_append, splitBlank, if_neg hc]
    rfl
  | case3 c d s h ih =>
    cases s with
    | nil => simp [h.2] at hs
    | cons e s =>
      obtain ⟨ss, x, hx, hx'⟩ := ih (by simpa using hs)
      refine ⟨[] :: ss, x, ?_, ?_⟩
      · rw [splitBlank, if_pos h, hx]
        rfl
      · rw [List.cons_append, List.cons_append, splitBlank, if_pos h, hx']
        rfl
  | case4 c d s h ih =>
    obtain ⟨ss, x, hx, hx'⟩ := ih (by simpa using hs)
    cases ss with
    | nil =>
      refine ⟨[], c :: x, ?_, ?_⟩
      · rw [splitBlank, if_neg h, hx]
        rfl
      · rw [List.cons_append, List.cons_append, splitBlank, if_neg h, ← List.cons_append, hx']
        rfl
    | cons y ss =>
      refine ⟨(c :: y) :: ss, x, ?_, ?_⟩
      · rw [splitBlank, if_neg h, hx]
        rfl
      · rw [List.cons_append, List.cons_append, splitBlank, if_neg h, ← List.cons_append, hx']
        rfl

/-! ## Stripping the text -/

theorem dropWhile_join (hM : ∀ l ∈ M, Tidy l) (hne : M ≠ []) :
    ∃ M', M' ≠ [] ∧ M' <:+ M ∧ (join M).dropWhile isSpace = join M' := by
  induction M with
  | nil => exact absurd rfl hne
  | cons l M ih =>
    rw [List.forall_mem_cons] at hM
    cases l with
    | nil =>
      cases M with
      | nil => exact ⟨[[]], by simp, List.suffix_rfl, rfl⟩
      | cons m M =>
        obtain ⟨M', hne', hsuffix, hM'⟩ := ih hM.2 (by simp)
        refine ⟨M', hne', hsuffix.trans (List.suffix_cons [] _), ?_⟩
        rw [join_cons [] (by simp), List.nil_append, List.dropWhile_cons_of_pos (by decide), hM']
    | cons c l =>
      refine ⟨(c :: l) :: M, by simp, List.suffix_rfl, ?_⟩
      have hc : ¬isSpace c := hM.1.head rfl
      cases M with
      | nil => rw [join_singleton, List.dropWhile_cons_of_neg hc]
      | cons m M => rw [join_cons _ (by simp), List.cons_append, List.dropWhile_cons_of_neg hc]

theorem rdropWhile_join (hM : ∀ l ∈ M, Tidy l) (hne : M ≠ []) :
    ∃ M', M' ≠ [] ∧ M' <+: M ∧ (join M).rdropWhile isSpace = join M' ∧
      (M'.getLast? = some [] → M' = [[]]) := by
  induction M using List.reverseRecOn with
  | nil => exact absurd rfl hne
  | append_singleton M l ih =>
    have hl : Tidy l := hM l (by simp)
    by_cases hnil : M = []
    · subst hnil
      refine ⟨[l], by simp, List.prefix_rfl, ?_, by simp⟩
      rw [List.nil_append, join_singleton, List.rdropWhile_eq_self_iff]
      exact fun hne => hl.getLast (List.getLast?_eq_getLast_of_ne_nil hne)
    · rw [join_append hnil (by simp), join_singleton]
      by_cases hempty : l = []
      · -- a newline at the end is removed
        subst hempty
        obtain ⟨M', hne', hpre, hM', hlast⟩ :=
          ih (fun x hx => hM x (List.mem_append_left _ hx)) hnil
        refine ⟨M', hne', hpre.trans (List.prefix_append M _), ?_, hlast⟩
        rw [List.rdropWhile_concat_pos _ _ _ (by decide), hM']
      · refine ⟨M ++ [l], by simp, List.prefix_rfl, ?_, ?_⟩
        · rw [join_append hnil (by simp), join_singleton, List.rdropWhile_eq_self_iff]
          intro hne'
          apply hl.getLast
          rw [List.getLast?_eq_getLast_of_ne_nil hempty]
          congr 1
          simp [hempty]
        · intro h
          simp [hempty] at h

/-- Stripping joined lines removes empty lines at both ends. -/
theorem strip_join (hM : ∀ l ∈ M, Tidy l) (hne : M ≠ []) :
    ∃ M', M' ≠ [] ∧ M' <:+: M ∧ strip (join M) = join M' ∧
      (M'.getLast? = some [] → M' = [[]]) := by
  obtain ⟨M₁, hne₁, hsuffix, hdrop⟩ := dropWhile_join hM hne
  obtain ⟨M₂, hne₂, hpre, hrdrop, hlast⟩ :=
    rdropWhile_join (fun l hl => hM l (hsuffix.subset hl)) hne₁
  exact ⟨M₂, hne₂, hpre.isInfix.trans hsuffix.isInfix, by rw [strip, hdrop, hrdrop], hlast⟩

/-! ## The output -/

/-- Adjacent lines of the output: an empty line, or a line that is not smaller. -/
def Follows (a b : Text) : Prop := b = [] ∨ ∃ o, strcollExtractUtils b a = some o ∧ o ≠ .lt

/-- Lines as the script writes them. -/
structure Arranged (M : List Text) : Prop where
  ne_nil : M ≠ []
  tidy : ∀ l ∈ M, Tidy l
  chain : M.IsChain Follows

theorem Arranged.of_infix (h : Arranged M) (hne : g ≠ []) (hinside : g <:+: M) : Arranged g :=
  ⟨hne, fun l hl => h.tidy l (hinside.subset hl), h.chain.infix hinside⟩

theorem Tidy.newline_notMem (h : Tidy l) : '\n' ∉ l := fun hmem =>
  h.noBreak '\n' hmem isLineBreak_newline

/-- An empty line comes before every line. -/
theorem follows_nil (h : Tidy l) : Follows [] l := by
  by_cases hl : l = []
  · exact .inl hl
  · obtain ⟨c, u, rfl⟩ := List.exists_cons_of_ne_nil hl
    refine .inr ⟨.gt, ?_, by simp⟩
    rw [strcollExtractUtils, if_pos (.inr rfl), strcoll_of_noNull h.noNull (by simp)]
    rfl

theorem Arranged.cons_nil (h : Arranged M) : Arranged ([] :: M) := by
  refine ⟨by simp, ?_, ?_⟩
  · rw [List.forall_mem_cons]
    exact ⟨Tidy.nil, h.tidy⟩
  · obtain ⟨l, M, rfl⟩ := List.exists_cons_of_ne_nil h.ne_nil
    exact h.chain.cons_cons (follows_nil (h.tidy l (List.mem_cons_self ..)))

theorem Arranged.append_nil (hg : Arranged g) (h : Arranged M) : Arranged (g ++ [] :: M) := by
  have hnil := h.cons_nil
  refine ⟨by simp, ?_, ?_⟩
  · rw [List.forall_mem_append]
    exact ⟨hg.tidy, hnil.tidy⟩
  · rw [List.isChain_append]
    refine ⟨hg.chain, hnil.chain, fun a _ b hb => ?_⟩
    obtain rfl : [] = b := by simpa using hb
    exact .inl rfl

/-- Sorted tidy lines, also if there are none. -/
theorem exists_arranged (htidy : ∀ l ∈ lines, Tidy l) (h : Ascending strcollExtractUtils lines) :
    ∃ M, Arranged M ∧ join lines = join M := by
  by_cases hnil : lines = []
  · exact ⟨[[]], ⟨by simp, by simpa using Tidy.nil, by simp⟩, by rw [hnil]; rfl⟩
  · exact ⟨lines, ⟨hnil, htidy, h.imp fun a b hab => .inr hab⟩, rfl⟩

/-- Sections joined with empty lines between them. -/
theorem exists_arranged_of_sections {parts : List Text} (hne : parts ≠ [])
    (h : ∀ s ∈ parts, ∃ M, Arranged M ∧ s = join M) :
    ∃ M, Arranged M ∧ ['\n', '\n'].intercalate parts = join M := by
  induction parts with
  | nil => exact absurd rfl hne
  | cons s parts ih =>
    rw [List.forall_mem_cons] at h
    obtain ⟨g, hg, rfl⟩ := h.1
    cases parts with
    | nil => exact ⟨g, hg, List.intercalate_singleton⟩
    | cons s parts =>
      obtain ⟨M, hM, hjoin⟩ := ih (by simp) h.2
      refine ⟨g ++ [] :: M, hg.append_nil hM, ?_⟩
      rw [List.intercalate_cons_of_ne_nil (by simp), hjoin, join_append hg.ne_nil (by simp),
        join_cons [] hM.ne_nil]
      simp

/-- The lines of a part of the output are in order. -/
theorem ascending_of_arranged (h : Arranged g) (htail : ∀ l ∈ g.tail, l ≠ []) :
    Ascending strcollExtractUtils g := by
  have hchain := h.chain
  unfold Ascending
  clear h
  induction g with
  | nil => exact List.IsChain.nil
  | cons a g ih =>
    cases g with
    | nil => exact List.IsChain.singleton a
    | cons b g =>
      rw [List.isChain_cons_cons] at hchain ⊢
      rw [List.tail_cons, List.forall_mem_cons] at htail
      exact ⟨hchain.1.resolve_left htail.1, ih htail.2 hchain.2⟩

/-- The lines of a section that was sorted before. -/
theorem orderedSection_of_splitlines (hg : Arranged g) (htail : ∀ l ∈ g.tail, l ≠ [])
    (hs : splitlines s = g) : orderedSection s = some (join g) := by
  have hstrip : g.map strip = g := by
    apply (List.map_congr_left fun l hl => (hg.tidy l hl).strip_eq).trans
    exact List.map_id g
  rw [orderedSection, sectionList, hs, hstrip,
    sortBy_of_ascending (ascending_of_arranged hg htail), Option.map_some]

/-- A section of the output is left as it is. -/
theorem orderedSection_of_part (hM : Arranged M) (hs : Part M s) : orderedSection s = some s := by
  obtain ⟨g, hne, hinside, rfl, htail⟩ := hs
  have hg := hM.of_infix hne hinside
  by_cases hempty : g = [[]]
  · subst hempty
    rfl
  · apply orderedSection_of_splitlines hg htail
    apply splitlines_join hg.tidy hne
    intro hlast
    obtain ⟨a, g, rfl⟩ := List.exists_cons_of_ne_nil hne
    cases g with
    | nil => exact hempty (by simpa using hlast)
    | cons b g =>
      rw [List.getLast?_cons_cons] at hlast
      exact htail [] (List.mem_of_getLast? hlast) rfl

/-- So is the last one, up to the newline at the end of the file. -/
theorem orderedSection_newline (hM : Arranged M) (hs : Part M s) :
    orderedSection (s ++ ['\n']) = some s := by
  obtain ⟨g, hne, hinside, rfl, htail⟩ := hs
  have hg := hM.of_infix hne hinside
  exact orderedSection_of_splitlines hg htail (splitlines_join_newline hg.tidy hne)

theorem universalNewlines_eq_self (h : '\r' ∉ s) : universalNewlines s = s := by
  induction s with
  | nil => rfl
  | cons c s ih =>
    rw [List.mem_cons, not_or] at h
    rw [universalNewlines, if_neg (Ne.symm h.1), ih h.2]

/-- Only newlines separate the lines of the output. -/
theorem return_notMem_join (hM : ∀ l ∈ M, Tidy l) : '\r' ∉ join M := by
  have hline : ∀ l, Tidy l → '\r' ∉ l := fun l hl hmem => hl.noBreak '\r' hmem (by decide)
  induction M with
  | nil => simp [join]
  | cons l M ih =>
    rw [List.forall_mem_cons] at hM
    by_cases hnil : M = []
    · rw [hnil, join_singleton]
      exact hline l hM.1
    · rw [join_cons l hnil]
      simp [hline l hM.1, ih hM.2]

theorem mapM_eq_some {f : Text → Option Text} (f' : Text → Text)
    (h : ∀ s ∈ lines, f s = some (f' s)) : lines.mapM f = some (lines.map f') := by
  induction lines with
  | nil => rfl
  | cons s lines ih =>
    rw [List.forall_mem_cons] at h
    rw [List.mapM_cons, h.1, ih h.2]
    rfl

/-- On its own output the script changes nothing. -/
theorem reorder_output (hM : Arranged M) :
    reorder (strip (join M) ++ ['\n']) = some (strip (join M) ++ ['\n']) := by
  obtain ⟨M', hne, hinside, hstrip, hlast⟩ := strip_join hM.tidy hM.ne_nil
  have hM' := hM.of_infix hne hinside
  have hend : (join M').getLast? ≠ some '\n' := by
    intro h
    rw [← hstrip] at h
    exact getLast_strip h (by decide)
  obtain ⟨ss, x, hsplit, hsplit'⟩ := splitBlank_concat hend
  have hpart : ∀ s ∈ ss ++ [x], Part M' s := by
    intro s hs
    rw [← hsplit] at hs
    exact part_of_mem_splitBlank (fun l hl => (hM'.tidy l hl).newline_notMem) hne hlast hs
  rw [List.forall_mem_append, List.forall_mem_singleton] at hpart
  have hread : universalNewlines (join M' ++ ['\n']) = join M' ++ ['\n'] := by
    apply universalNewlines_eq_self
    simp [return_notMem_join hM'.tidy]
  have hordered : (ss ++ [x ++ ['\n']]).mapM orderedSection = some (ss ++ [x]) := by
    have hss : ss.mapM orderedSection = some ss := by
      have hmap := mapM_eq_some (f := orderedSection) id
        fun s hs => orderedSection_of_part hM' (hpart.1 s hs)
      rwa [List.map_id] at hmap
    rw [List.mapM_append, hss, List.mapM_cons, orderedSection_newline hM' hpart.2]
    rfl
  rw [hstrip, reorder, sections, hread, hsplit', hordered, Option.map_some, ← hsplit,
    intercalate_splitBlank, ← hstrip, strip_strip]

/-- The lines of a section in the order of their keys. -/
noncomputable def sortedList (part : Text) : List Text :=
  (sectionList part).insertionSort (keyLe (key (sectionList part)))

/-- A section with orderable lines is sorted. -/
theorem orderedSection_of_orderable (h : Orderable (sectionList s)) :
    orderedSection s = some (join (sortedList s)) := by
  rw [orderedSection, sortBy_of_comparesBy (comparesBy_of_orderable h), Option.map_some, sortedList]

/-- The sorted lines of a section are tidy and in order. -/
theorem exists_arranged_sortedList (h : Orderable (sectionList s)) :
    ∃ M, Arranged M ∧ join (sortedList s) = join M := by
  apply exists_arranged
  · intro l hl
    have hmem : l ∈ sectionList s := (List.mem_insertionSort _).1 hl
    exact tidy_of_mem_sectionList hmem (h.noNull l hmem)
  · exact ascending_insertionSort (comparesBy_of_orderable h)

/-- With orderable sections a second run changes nothing. -/
theorem rerun_of_orderable {file : Text}
    (h : ∀ part ∈ sections file, Orderable (sectionList part)) :
    ∃ out, reorder file = some out ∧ reorder out = some out := by
  have hordered : (sections file).mapM orderedSection =
      some ((sections file).map fun part => join (sortedList part)) :=
    mapM_eq_some _ fun part hpart => orderedSection_of_orderable (h part hpart)
  have harranged : ∀ s ∈ (sections file).map fun part => join (sortedList part),
      ∃ M, Arranged M ∧ s = join M := by
    rw [List.forall_mem_map]
    exact fun part hpart => exists_arranged_sortedList (h part hpart)
  have hne : (sections file).map (fun part => join (sortedList part)) ≠ [] := by
    rw [ne_eq, List.map_eq_nil_iff]
    exact splitBlank_ne_nil _
  obtain ⟨M, hM, hjoin⟩ := exists_arranged_of_sections hne harranged
  refine ⟨strip (join M) ++ ['\n'], ?_, reorder_output hM⟩
  rw [reorder, hordered, Option.map_some, hjoin]

/-- The order of the sections is well defined exactly when the lines of each are orderable. -/
theorem wellDefined_iff (file : Text) :
    WellDefined file ↔ ∀ part ∈ sections file, Orderable (sectionList part) := by
  constructor
  · intro h part hpart
    exact totalPreorderOn_iff.1 (h.order part hpart)
  · intro h
    refine ⟨fun part hpart => totalPreorderOn_iff.2 (h part hpart), ?_, rerun_of_orderable h⟩
    intro part hpart lines hperm
    exact sortBy_perm (comparesBy_of_orderable (h part hpart)) hperm

/-- Three lines that go round in a circle. -/
def circular : Text := "a\na.b/c\na/b/c\n".toList

theorem not_wellDefined_circular : ¬WellDefined circular := by
  intro h
  have hlist : sectionList circular = ["a".toList, "a.b/c".toList, "a/b/c".toList] := by decide
  have hsections : sections circular = [circular] := by decide
  have htrans := (h.order circular (by simp [hsections])).trans
  rw [hlist] at htrans
  apply htrans "a/b/c".toList (by simp) "a".toList (by simp) "a.b/c".toList (by simp)
  · decide
  · decide
  · decide

end AliceHal.ReorderLibs
