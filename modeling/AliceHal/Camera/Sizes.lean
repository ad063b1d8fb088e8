import AliceHal.Camera.CameraParameters

/-!
# Sizes and Numbers

What one user of the parameters sets and another one gets, after the text has gone from the one to
the other.

- `Call.keeps`: a call that leaves the value of a key
- `numbers_arrive`: sizes and numbers
- `parseSize`, `leading`: a list of sizes, item by item
- `parseSizesList_eq`: the loop that walks through the text reads the items up to the first malformed one
- `sizes_arrive`: lists of sizes and of formats
-/

namespace AliceHal.Camera

open Lib CameraParameters

variable {w : ℕ} {p : CameraParameters} {key : List UInt8}

/-! ## The value of a key -/

theorem get_set_self {value : List UInt8} (hkey : plain key = true) (hkeyNull : 0 ∉ key)
    (hvalue : plain value = true) (hvalueNull : 0 ∉ value) :
    (p.set (some key) (some value)).get key = if value = [] then none else some value := by
  have hcond : (plain (cString key) && plain (cString value)) = true := by
    rw [cString_of_notMem hkeyNull, cString_of_notMem hvalueNull, hkey, hvalue]
    rfl
  rw [CameraParameters.set, if_pos hcond, CameraParameters.get]
  simp [cString_of_notMem hkeyNull, cString_of_notMem hvalueNull]

theorem get?_set_of_ne {k value : Option (List UInt8)} (h : k.map cString ≠ some key) :
    (p.set k value).mMap.get? key = p.mMap.get? key := by
  cases k with
  | none => rfl
  | some k =>
    cases value with
    | none => rfl
    | some value =>
      have hne : key ≠ cString k := fun heq => h (congrArg some heq.symm)
      rw [CameraParameters.set]
      split
      · exact KeyedVector.get?_add_of_ne _ hne _
      · rfl

/-- A call that leaves the value of a key. -/
def Call.keeps (key : List UInt8) : Call → Prop
  | .set k _ => k.map cString ≠ some key
  | .setInt k _ => k.map cString ≠ some key
  | .remove k => cString k ≠ key
  | .unflatten _ => False
  | .setPreviewSize _ _ => key ≠ keyPreviewSize
  | .setVideoSize _ _ => key ≠ keyVideoSize
  | .setPictureSize _ _ => key ≠ keyPictureSize
  | .setPreviewFrameRate _ => key ≠ keyPreviewFrameRate
  | .setPreviewFormat _ => key ≠ keyPreviewFormat
  | .setPictureFormat _ => key ≠ keyPictureFormat

theorem Call.keeps.get?_apply {call : Call} (h : call.keeps key) :
    (call.apply p).mMap.get? key = p.mMap.get? key := by
  have hfixed : ∀ {k : List UInt8}, cString k = k → key ≠ k → (some k).map cString ≠ some key :=
    fun hk hne heq => hne (by rw [← Option.some.inj heq, hk])
  cases call with
  | set k value => exact get?_set_of_ne h
  | setInt k value => exact get?_set_of_ne h
  | remove k => exact KeyedVector.get?_removeItem_of_ne _ (Ne.symm h)
  | unflatten params => exact absurd h not_false
  | _ => exact get?_set_of_ne (hfixed rfl h)

/-- Calls that leave the value of a key, one after the other. -/
theorem get?_run {calls : List Call} (h : ∀ call ∈ calls, call.keeps key) :
    (run calls p).mMap.get? key = p.mMap.get? key := by
  induction calls generalizing p with
  | nil => rfl
  | cons call calls ih =>
    show (run calls (call.apply p)).mMap.get? key = _
    rw [ih fun c hc => h c (List.mem_cons_of_mem call hc),
      (h call List.mem_cons_self).get?_apply]

/-- The value of a key, read from the text. -/
theorem get_of_text (before after : List Call) (call : Call) (q : CameraParameters)
    (hnull : 0 ∉ key) (hafter : ∀ c ∈ after, c.keeps key) :
    (q.unflatten (run (before ++ call :: after) .init).flatten).get key =
      (call.apply (run before .init)).get key := by
  have hsplit : run (before ++ call :: after) .init = run after (call.apply (run before .init)) :=
    List.foldl_append
  rw [allStorable_init.run.unflatten_eq q, hsplit, CameraParameters.get, CameraParameters.get,
    cString_of_notMem hnull, get?_run hafter]

/-! ## Printed numbers -/

theorem stops_x : Stops 0x78 := ⟨by decide, by decide, by decide, by decide⟩

theorem stops_comma : Stops 0x2c := ⟨by decide, by decide, by decide, by decide⟩

theorem mem_printInt {v : ℤ} {c : UInt8} (h : c ∈ printInt v) : c = 0x2d ∨ IsFigure c := by
  rw [printInt] at h
  split at h
  · exact (List.mem_cons.1 h).imp_right isFigure_of_mem_printNat
  · exact Or.inr (isFigure_of_mem_printNat h)

theorem notMem_printInt {v : ℤ} {c : UInt8} (hminus : c ≠ 0x2d)
    (hc : c.toNat < 48 ∨ 57 < c.toNat) : c ∉ printInt v := by
  intro h
  rcases mem_printInt h with heq | hfigure
  · exact hminus heq
  · exact hfigure.ne hc rfl

theorem saturate_toInt (hw : 32 ≤ w) (v : Int32) : saturate w v.toInt = v.toInt := by
  have hpow : 2 ^ 31 ≤ 2 ^ (w - 1) := Nat.pow_le_pow_right (by decide) (by omega)
  have hlow := v.le_toInt
  have hhigh := v.toInt_lt
  apply saturate_eq_self <;> omega

theorem notMem_printSize {size : Int32 × Int32} {c : UInt8} (hminus : c ≠ 0x2d) (hx : c ≠ 0x78)
    (hc : c.toNat < 48 ∨ 57 < c.toNat) : c ∉ printSize size := by
  simp only [printSize, List.mem_append, List.mem_cons, not_or]
  exact ⟨notMem_printInt hminus hc, hx, notMem_printInt hminus hc⟩

theorem parsePair_printSize (hw : 32 ≤ w) (size : Int32 × Int32) :
    parsePair w (printSize size) 0x78 = some (size, []) := by
  simp only [parsePair, printSize, strtol_append stops_x,
    strtol_printInt (saturate_toInt hw size.1), strtol_printInt (saturate_toInt hw size.2),
    List.nil_append, if_true, Int32.ofInt_toInt]

theorem printSize_ne_nil (size : Int32 × Int32) : printSize size ≠ [] := by simp [printSize]

theorem printInt_ne_nil (v : ℤ) : printInt v ≠ [] := by
  rw [printInt]
  split
  · simp
  · exact printNat_ne_nil _

theorem plain_printInt (v : ℤ) : plain (printInt v) = true ∧ 0 ∉ printInt v :=
  ⟨plain_iff.2 ⟨notMem_printInt (by decide) (by decide), notMem_printInt (by decide) (by decide)⟩,
    notMem_printInt (by decide) (by decide)⟩

theorem plain_printSize (size : Int32 × Int32) :
    plain (printSize size) = true ∧ 0 ∉ printSize size :=
  ⟨plain_iff.2 ⟨notMem_printSize (by decide) (by decide) (by decide),
    notMem_printSize (by decide) (by decide) (by decide)⟩,
    notMem_printSize (by decide) (by decide) (by decide)⟩

theorem getPair_of_get {size : Int32 × Int32} (hw : 32 ≤ w)
    (h : p.get key = some (printSize size)) : p.getPair w key 0x78 = size := by
  simp only [getPair, h, parsePair_printSize hw]

theorem getInt_of_get {v : Int32} (hw : 32 ≤ w) (h : p.get key = some (printInt v.toInt)) :
    p.getInt w key = v := by
  simp only [getInt, h, strtol_zero_printInt (saturate_toInt hw v), Int32.ofInt_toInt]

/-- A size or a number that one user sets is what another one gets from the text, whatever was done
before, as long as the key is not used again. -/
theorem numbers_arrive (hw : 32 ≤ w) (before after : List Call) (q : CameraParameters) :
    (∀ width height, (∀ c ∈ after, c.keeps keyPreviewSize) →
      (q.unflatten (run (before ++ .setPreviewSize width height :: after) .init).flatten
        ).getPreviewSize w = (width, height)) ∧
    (∀ width height, (∀ c ∈ after, c.keeps keyVideoSize) →
      (q.unflatten (run (before ++ .setVideoSize width height :: after) .init).flatten
        ).getVideoSize w = (width, height)) ∧
    (∀ width height, (∀ c ∈ after, c.keeps keyPictureSize) →
      (q.unflatten (run (before ++ .setPictureSize width height :: after) .init).flatten
        ).getPictureSize w = (width, height)) ∧
    (∀ fps, (∀ c ∈ after, c.keeps keyPreviewFrameRate) →
      (q.unflatten (run (before ++ .setPreviewFrameRate fps :: after) .init).flatten
        ).getPreviewFrameRate w = fps) ∧
    ∀ key value, plain key = true → 0 ∉ key → (∀ c ∈ after, c.keeps key) →
      (q.unflatten (run (before ++ .setInt (some key) value :: after) .init).flatten
        ).getInt w key = value := by
  have hsize : ∀ (key : List UInt8) (size : Int32 × Int32), plain key = true → 0 ∉ key →
      ((run before .init).setSize key size.1 size.2).get key = some (printSize size) := by
    intro key size hplain hnull
    have hset := get_set_self (p := run before .init) hplain hnull (plain_printSize size).1
      (plain_printSize size).2
    rwa [if_neg (printSize_ne_nil size)] at hset
  have hint : ∀ (key : List UInt8) (v : Int32), plain key = true → 0 ∉ key →
      ((run before .init).setInt (some key) v).get key = some (printInt v.toInt) := by
    intro key v hplain hnull
    have hset := get_set_self (p := run before .init) hplain hnull (plain_printInt v.toInt).1
      (plain_printInt v.toInt).2
    rwa [if_neg (printInt_ne_nil _)] at hset
  refine ⟨fun width height hafter => ?_, fun width height hafter => ?_,
    fun width height hafter => ?_, fun fps hafter => ?_, fun key value hplain hnull hafter => ?_⟩
  · apply getPair_of_get hw
    rw [get_of_text before after _ q (by decide) hafter]
    exact hsize keyPreviewSize (width, height) (by decide) (by decide)
  · apply getPair_of_get hw
    rw [get_of_text before after _ q (by decide) hafter]
    exact hsize keyVideoSize (width, height) (by decide) (by decide)
  · apply getPair_of_get hw
    rw [get_of_text before after _ q (by decide) hafter]
    exact hsize keyPictureSize (width, height) (by decide) (by decide)
  · apply getInt_of_get hw
    rw [get_of_text before after _ q (by decide) hafter]
    exact hint keyPreviewFrameRate fps (by decide) (by decide)
  · apply getInt_of_get hw
    rw [get_of_text before after _ q hnull hafter]
    exact hint key value hplain hnull

/-- A size set before another one, and a negative number under a key of the application's own. -/
theorem numbers_arrive_pair :
    (CameraParameters.init.unflatten (run ([.unflatten (asciiBytes "a=b;video-size=1x")] ++
      .setVideoSize 1920 1080 :: [.setPreviewSize 640 480]) .init).flatten).getVideoSize 32 =
        (1920, 1080) ∧
      (CameraParameters.init.unflatten (run ([] ++ .setInt (some (asciiBytes "zoom")) (-7) ::
        [.setPreviewFrameRate 30]) .init).flatten).getInt 32 (asciiBytes "zoom") = -7 := by
  constructor
  · have harrive := numbers_arrive (w := 32) le_rfl [.unflatten (asciiBytes "a=b;video-size=1x")]
      [.setPreviewSize 640 480] .init
    apply harrive.2.1
    intro c hc
    obtain rfl := List.mem_singleton.1 hc
    show keyVideoSize ≠ keyPreviewSize
    decide
  · have harrive := numbers_arrive (w := 32) le_rfl [] [.setPreviewFrameRate 30] .init
    apply harrive.2.2.2.2 _ _ (by decide) (by decide)
    intro c hc
    obtain rfl := List.mem_singleton.1 hc
    show asciiBytes "zoom" ≠ keyPreviewFrameRate
    decide

/-! ## Lists -/

/-- A size that takes up a whole item. -/
def parseSize (w : ℕ) (item : List UInt8) : Option (Int32 × Int32) :=
  match parsePair w item 0x78 with
  | some (size, []) => some size
  | _ => none

/-- The values up to the first that is missing. -/
def leading {α : Type*} : List (Option α) → List α
  | some a :: l => a :: leading l
  | _ => []

theorem leading_map_some {α : Type*} (l : List α) : leading (l.map some) = l := by
  induction l with
  | nil => rfl
  | cons a l ih => simp [leading, ih]

/-- Two numbers are read in the same way where a comma follows. -/
theorem parsePair_append (w : ℕ) (item rest : List UInt8) :
    parsePair w (item ++ 0x2c :: rest) 0x78 =
      (parsePair w item 0x78).map fun r => (r.1, r.2 ++ 0x2c :: rest) := by
  simp only [parsePair, strtol_append stops_comma]
  cases (strtol w 10 item).2 with
  | nil => simp
  | cons c tail =>
    simp only [List.cons_append, strtol_append stops_comma]
    split <;> rfl

section

variable {sizes : List (Int32 × Int32)} {size : Int32 × Int32} {str rest : List UInt8} {c : UInt8}

theorem sizesLoop_none (h : parsePair w str 0x78 = none) : sizesLoop w sizes str = sizes := by
  rw [sizesLoop.eq_def]
  split <;> simp_all

theorem sizesLoop_end (h : parsePair w str 0x78 = some (size, [])) :
    sizesLoop w sizes str = sizes ++ [size] := by
  rw [sizesLoop.eq_def]
  split <;> simp_all

theorem sizesLoop_next (h : parsePair w str 0x78 = some (size, c :: rest)) :
    sizesLoop w sizes str = if c = 0x2c then sizesLoop w (sizes ++ [size]) rest else sizes := by
  rw [sizesLoop.eq_def]
  split <;> simp_all

theorem parseSize_eq_none (h : parsePair w str 0x78 = some (size, c :: rest)) :
    parseSize w str = none := by
  simp [parseSize, h]

/-- The loop, on the last item. -/
theorem sizesLoop_item (h : 0x2c ∉ str) :
    sizesLoop w sizes str = sizes ++ leading [parseSize w str] := by
  cases hpair : parsePair w str 0x78 with
  | none => simp [sizesLoop_none hpair, parseSize, hpair, leading]
  | some r =>
    obtain ⟨size, rest⟩ := r
    cases rest with
    | nil => simp [sizesLoop_end hpair, parseSize, hpair, leading]
    | cons c rest =>
      -- what is left of the text has no comma either
      have hne : c ≠ 0x2c := fun heq =>
        h ((suffix_of_parsePair hpair).1.subset (heq ▸ List.mem_cons_self))
      rw [sizesLoop_next hpair, if_neg hne, parseSize_eq_none hpair]
      simp [leading]

/-- The loop, on an item that a comma follows. -/
theorem sizesLoop_cons {item : List UInt8} (h : 0x2c ∉ item) :
    sizesLoop w sizes (item ++ 0x2c :: rest) =
      match parseSize w item with
      | some size => sizesLoop w (sizes ++ [size]) rest
      | none => sizes := by
  have hpair := parsePair_append w item rest
  cases hitem : parsePair w item 0x78 with
  | none =>
    rw [hitem] at hpair
    simp [sizesLoop_none hpair, parseSize, hitem]
  | some r =>
    obtain ⟨size, tail⟩ := r
    rw [hitem] at hpair
    cases tail with
    | nil =>
      rw [sizesLoop_next hpair, if_pos rfl]
      simp [parseSize, hitem]
    | cons c tail =>
      have hne : c ≠ 0x2c := fun heq =>
        h ((suffix_of_parsePair hitem).1.subset (heq ▸ List.mem_cons_self))
      rw [sizesLoop_next hpair, if_neg hne, parseSize_eq_none hitem]

end

/-- The loop reads the items between commas, up to the first one that is not a size. -/
theorem sizesLoop_eq (w : ℕ) (sizes : List (Int32 × Int32)) (str : List UInt8) :
    sizesLoop w sizes str = sizes ++ leading ((str.splitOn 0x2c).map (parseSize w)) := by
  -- induction on the text, item by item
  induction hn : str.length using Nat.strong_induction_on generalizing sizes str with
  | _ n ih =>
    by_cases hmem : (0x2c : UInt8) ∈ str
    · obtain ⟨item, rest, hstr, hitem⟩ := List.eq_append_cons_of_mem hmem
      subst hstr
      have hlt : rest.length < n := by
        rw [← hn, List.length_append, List.length_cons]
        omega
      rw [sizesLoop_cons hitem, List.splitOn_append_cons_self_of_not_mem hitem, List.map_cons]
      cases hsize : parseSize w item with
      | none => simp [leading]
      | some size =>
        show sizesLoop w (sizes ++ [size]) rest = _
        rw [ih rest.length hlt _ rest rfl, leading]
        simp
    · rw [sizesLoop_item hmem, List.splitOn_eq_singleton hmem]
      rfl

/-- The sizes of every text are those of its items between commas, up to the first one that is not
a size as a whole; what follows is not looked at, and no text has no sizes. -/
theorem parseSizesList_eq (w : ℕ) (sizesStr : Option (List UInt8)) (sizes : List (Int32 × Int32)) :
    parseSizesList w sizesStr sizes =
      sizes ++ sizesStr.elim [] fun str => leading ((str.splitOn 0x2c).map (parseSize w)) := by
  cases sizesStr with
  | none => simp [parseSizesList]
  | some str => exact sizesLoop_eq w sizes str

/-- The text of a list of sizes. -/
def printSizes (sizes : List (Int32 × Int32)) : List UInt8 := [0x2c].intercalate (sizes.map printSize)

theorem mem_intercalate {α : Type*} {sep : α} {ls : List (List α)} {c : α}
    (h : c ∈ [sep].intercalate ls) : c = sep ∨ ∃ l ∈ ls, c ∈ l := by
  induction ls with
  | nil => simp [List.intercalate] at h
  | cons l ls ih =>
    cases ls with
    | nil => exact Or.inr ⟨l, List.mem_cons_self, by simpa [List.intercalate] using h⟩
    | cons m ls =>
      rw [List.intercalate_cons_cons, List.mem_append, List.mem_append] at h
      rcases h with (h | h) | h
      · exact Or.inr ⟨l, List.mem_cons_self, h⟩
      · exact Or.inl (List.mem_singleton.1 h)
      · exact (ih h).imp_right fun ⟨x, hx, hc⟩ => ⟨x, List.mem_cons_of_mem l hx, hc⟩

/-- Text joined with commas is plain where its parts are. -/
theorem plain_intercalate {ls : List (List UInt8)} (h : ∀ l ∈ ls, plain l = true ∧ 0 ∉ l) :
    plain ([0x2c].intercalate ls) = true ∧ 0 ∉ [0x2c].intercalate ls := by
  have hne : ∀ c : UInt8, c ≠ 0x2c → (∀ l ∈ ls, c ∉ l) → c ∉ [0x2c].intercalate ls := by
    intro c hc hls hmem
    rcases mem_intercalate hmem with heq | ⟨l, hl, hcl⟩
    · exact hc heq
    · exact hls l hl hcl
  exact ⟨plain_iff.2 ⟨hne _ (by decide) fun l hl => (plain_iff.1 (h l hl).1).1,
    hne _ (by decide) fun l hl => (plain_iff.1 (h l hl).1).2⟩,
    hne _ (by decide) fun l hl => (h l hl).2⟩

theorem parseSize_printSize (hw : 32 ≤ w) (size : Int32 × Int32) :
    parseSize w (printSize size) = some size := by
  simp only [parseSize, parsePair_printSize hw]

/-- A printed list is read back. -/
theorem parseSizesList_printSizes (hw : 32 ≤ w) (sizes sofar : List (Int32 × Int32)) :
    parseSizesList w (if printSizes sizes = [] then none else some (printSizes sizes)) sofar =
      sofar ++ sizes := by
  cases sizes with
  | nil => simp [printSizes, parseSizesList]
  | cons size sizes =>
    have hcomma : ∀ l ∈ (size :: sizes).map printSize, (0x2c : UInt8) ∉ l := by
      intro l hl
      obtain ⟨s, -, rfl⟩ := List.mem_map.1 hl
      exact notMem_printSize (by decide) (by decide) (by decide)
    have hsplit : (printSizes (size :: sizes)).splitOn 0x2c = (size :: sizes).map printSize :=
      List.splitOn_intercalate 0x2c hcomma (by simp)
    have hne : printSizes (size :: sizes) ≠ [] := by
      intro heq
      rw [heq, List.splitOn_nil] at hsplit
      simp only [List.map_cons, List.cons.injEq] at hsplit
      exact printSize_ne_nil size hsplit.1.symm
    rw [if_neg hne]
    show sizesLoop w sofar (printSizes (size :: sizes)) = _
    have hread : ((size :: sizes).map printSize).map (parseSize w) = (size :: sizes).map some := by
      rw [List.map_map]
      exact List.map_congr_left fun s _ => parseSize_printSize hw s
    rw [sizesLoop_eq, hsplit, hread, leading_map_some]

/-- The name of a known format. -/
structure NamesFormat (f : List UInt8 × HalPixelFormat) : Prop where
  plain : plain f.1 = true
  noNull : 0 ∉ f.1
  noComma : 0x2c ∉ f.1
  named : f.1 ≠ []
  known : previewFormatToEnum (some f.1) = some f.2

theorem namesFormat {f : List UInt8 × HalPixelFormat} (h : f ∈ previewFormats) :
    NamesFormat f := by
  have hall : ∀ f ∈ previewFormats, plain f.1 = true ∧ 0 ∉ f.1 ∧ 0x2c ∉ f.1 ∧ f.1 ≠ [] ∧
      previewFormatToEnum (some f.1) = some f.2 := by
    decide
  obtain ⟨hplain, hnull, hcomma, hne, hknown⟩ := hall f h
  exact ⟨hplain, hnull, hcomma, hne, hknown⟩

/-- The names of formats are read back. -/
theorem formats_of_names {formats : List (List UInt8 × HalPixelFormat)}
    (h : ∀ f ∈ formats, NamesFormat f) :
    (tokens 0x2c ([0x2c].intercalate (formats.map Prod.fst))).filterMap
      (fun fmt => previewFormatToEnum (some fmt)) = formats.map Prod.snd := by
  cases formats with
  | nil => rfl
  | cons f fs =>
    have hcomma : ∀ l ∈ (f :: fs).map Prod.fst, (0x2c : UInt8) ∉ l := by
      intro l hl
      obtain ⟨g, hg, rfl⟩ := List.mem_map.1 hl
      exact (h g hg).noComma
    have hfilter : ((f :: fs).map Prod.fst).filter (fun part => !part.isEmpty) =
        (f :: fs).map Prod.fst := by
      apply List.filter_eq_self.2
      intro l hl
      obtain ⟨g, hg, rfl⟩ := List.mem_map.1 hl
      simpa using (h g hg).named
    rw [tokens, List.splitOn_intercalate 0x2c hcomma (by simp), hfilter, List.filterMap_map]
    have hknown : ∀ g ∈ f :: fs, ((fun fmt => previewFormatToEnum (some fmt)) ∘ Prod.fst) g =
        (some ∘ Prod.snd) g := fun g hg => (h g hg).known
    rw [List.filterMap_congr hknown, List.filterMap_eq_map]

/-- A list of sizes that the HAL puts under one of the keys for supported sizes is what an
application gets from the text, in the same order; so is a list of formats. -/
theorem sizes_arrive (hw : 32 ≤ w) (before after : List Call) (q : CameraParameters)
    (sizes sofar : List (Int32 × Int32)) (formats : List (List UInt8 × HalPixelFormat))
    (known : List HalPixelFormat) (hknown : ∀ f ∈ formats, f ∈ previewFormats) :
    ((∀ c ∈ after, c.keeps keySupportedPreviewSizes) →
      (q.unflatten (run (before ++ .set (some keySupportedPreviewSizes) (some (printSizes sizes)) ::
        after) .init).flatten).getSupportedPreviewSizes w sofar = sofar ++ sizes) ∧
    ((∀ c ∈ after, c.keeps keySupportedVideoSizes) →
      (q.unflatten (run (before ++ .set (some keySupportedVideoSizes) (some (printSizes sizes)) ::
        after) .init).flatten).getSupportedVideoSizes w sofar = sofar ++ sizes) ∧
    ((∀ c ∈ after, c.keeps keySupportedPictureSizes) →
      (q.unflatten (run (before ++ .set (some keySupportedPictureSizes) (some (printSizes sizes)) ::
        after) .init).flatten).getSupportedPictureSizes w sofar = sofar ++ sizes) ∧
    ((∀ c ∈ after, c.keeps keySupportedPreviewFormats) →
      (q.unflatten (run (before ++ .set (some keySupportedPreviewFormats)
        (some ([0x2c].intercalate (formats.map Prod.fst))) :: after) .init).flatten
        ).getSupportedPreviewFormats known = known ++ formats.map Prod.snd) := by
  have hplain : plain (printSizes sizes) = true ∧ 0 ∉ printSizes sizes := by
    apply plain_intercalate
    intro l hl
    obtain ⟨s, -, rfl⟩ := List.mem_map.1 hl
    exact plain_printSize s
  have hget : ∀ (key : List UInt8), plain key = true → 0 ∉ key →
      (∀ c ∈ after, c.keeps key) →
      (q.unflatten (run (before ++ .set (some key) (some (printSizes sizes)) :: after) .init).flatten
        ).get key = if printSizes sizes = [] then none else some (printSizes sizes) := by
    intro key hkey hnull hafter
    rw [get_of_text before after _ q hnull hafter]
    exact get_set_self hkey hnull hplain.1 hplain.2
  refine ⟨fun hafter => ?_, fun hafter => ?_, fun hafter => ?_, fun hafter => ?_⟩
  · rw [getSupportedPreviewSizes, hget _ (by decide) (by decide) hafter]
    exact parseSizesList_printSizes hw sizes sofar
  · rw [getSupportedVideoSizes, hget _ (by decide) (by decide) hafter]
    exact parseSizesList_printSizes hw sizes sofar
  · rw [getSupportedPictureSizes, hget _ (by decide) (by decide) hafter]
    exact parseSizesList_printSizes hw sizes sofar
  · have hnamed : ∀ f ∈ formats, NamesFormat f := fun f hf => namesFormat (hknown f hf)
    have hjoined := plain_intercalate fun l (hl : l ∈ formats.map Prod.fst) => by
      obtain ⟨f, hf, rfl⟩ := List.mem_map.1 hl
      exact ⟨(hnamed f hf).plain, (hnamed f hf).noNull⟩
    have hformats : ((run before .init).set (some keySupportedPreviewFormats)
        (some ([0x2c].intercalate (formats.map Prod.fst)))).get keySupportedPreviewFormats = _ :=
      get_set_self (by decide) (by decide) hjoined.1 hjoined.2
    have hread := formats_of_names hnamed
    rw [getSupportedPreviewFormats, get_of_text before after _ q (by decide) hafter]
    simp only [Call.apply, hformats]
    split
    · rename_i hempty
      split at hempty
      · rename_i hnil
        rw [hnil] at hread
        simpa [tokens] using hread
      · cases hempty
    · rename_i s hsome
      split at hsome
      · cases hsome
      · rw [← Option.some.inj hsome, hread]

/-- What is set first and never again, in a longer run. -/
theorem sizes_arrive_between :
    (CameraParameters.init.unflatten (run ([.setPreviewFrameRate 30] ++
      .set (some keySupportedVideoSizes) (some (printSizes [(1920, 1080), (640, 480)])) ::
        [.setVideoSize 640 480]) .init).flatten).getSupportedVideoSizes 32 [] =
      [(1920, 1080), (640, 480)] := by
  have harrive := sizes_arrive (w := 32) le_rfl [.setPreviewFrameRate 30] [.setVideoSize 640 480]
    .init [(1920, 1080), (640, 480)] [] [] [] (fun f hf => absurd hf List.not_mem_nil)
  apply harrive.2.1
  intro c hc
  obtain rfl := List.mem_singleton.1 hc
  show keySupportedVideoSizes ≠ keyVideoSize
  decide

end AliceHal.Camera
