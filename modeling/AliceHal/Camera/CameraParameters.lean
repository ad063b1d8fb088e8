import AliceHal.Lib.SortedStore
import AliceHal.Lib.KeyedVector
import AliceHal.Lib.CString

/-!
# Camera Parameters

The class `CameraParameters` of `CameraParameters.cpp`: values under keys, which applications and
the camera HAL exchange as one text. Text is bytes; an argument that is a pointer to characters is
given by the bytes it points to, of which those before the first null byte count, and is `none` for
a null pointer. A `long` has `w` bits.

- `CameraParameters.flatten`, `CameraParameters.unflatten`: to the text and back
- `CameraParameters.set`, `CameraParameters.get`: one value
- `CameraParameters.parsePair`, `CameraParameters.parseSizesList`: sizes
- `Call`, `run`: what the users of the class call
- `Storable`: what every key and value is made of, after any calls
- `unflatten_flatten`: a text is read back into the parameters it was made from
-/

namespace AliceHal.Camera

open Lib

/-! ## Keys and formats -/

def keyPreviewSize : List UInt8 := asciiBytes "preview-size"
def keySupportedPreviewSizes : List UInt8 := asciiBytes "preview-size-values"
def keyPreviewFormat : List UInt8 := asciiBytes "preview-format"
def keySupportedPreviewFormats : List UInt8 := asciiBytes "preview-format-values"
def keyPreviewFrameRate : List UInt8 := asciiBytes "preview-frame-rate"
def keyPreviewFpsRange : List UInt8 := asciiBytes "preview-fps-range"
def keyPictureSize : List UInt8 := asciiBytes "picture-size"
def keySupportedPictureSizes : List UInt8 := asciiBytes "picture-size-values"
def keyPictureFormat : List UInt8 := asciiBytes "picture-format"
def keyVideoSize : List UInt8 := asciiBytes "video-size"
def keySupportedVideoSizes : List UInt8 := asciiBytes "video-size-values"
def keyPreferredPreviewSizeForVideo : List UInt8 :=
  asciiBytes "preferred-preview-size-for-video"

/-- The pixel formats that have a name. -/
inductive HalPixelFormat where
  | yCbCr422Sp | yCrCb420Sp | yCbCr422I | yv12 | rgb565 | rgba8888 | raw16
  deriving DecidableEq, Repr

/-- The names, in the order in which they are compared. -/
def previewFormats : List (List UInt8 × HalPixelFormat) :=
  [(asciiBytes "yuv422sp", .yCbCr422Sp), (asciiBytes "yuv420sp", .yCrCb420Sp),
    (asciiBytes "yuv422i-yuyv", .yCbCr422I), (asciiBytes "yuv420p", .yv12),
    (asciiBytes "rgb565", .rgb565), (asciiBytes "rgba8888", .rgba8888),
    (asciiBytes "bayer-rggb", .raw16)]

/-- The format of a name; `none` is the code's -1. -/
def previewFormatToEnum : Option (List UInt8) → Option HalPixelFormat
  | none => some .yCrCb420Sp
  | some format => previewFormats.lookup (cString format)

/-! ## The class -/

/-- The parameters. -/
@[ext]
structure CameraParameters where
  mMap : KeyedVector (List UInt8) (List UInt8)

namespace CameraParameters

/-- No parameters. -/
def init : CameraParameters := ⟨KeyedVector.empty⟩

/-- The loop of `flatten`: there is no semicolon behind the last value. -/
def flattenEntries : List (List UInt8 × List UInt8) → List UInt8
  | [] => []
  | [(k, v)] => k ++ 0x3d :: v
  | (k, v) :: e :: es => k ++ 0x3d :: v ++ 0x3b :: flattenEntries (e :: es)

/-- The text of the parameters. -/
def flatten (p : CameraParameters) : List UInt8 := flattenEntries p.mMap.entries

/-- The loop of `unflatten`, from a place in the text. -/
def unflattenLoop (mMap : KeyedVector (List UInt8) (List UInt8)) (a : List UInt8) :
    KeyedVector (List UInt8) (List UInt8) :=
  match _hkey : strchr 0x3d a with
  | none => mMap
  | some (k, rest) =>
    match _hvalue : strchr 0x3b rest with
    | none => mMap.add k rest
    | some (v, next) => unflattenLoop (mMap.add k v) next
termination_by a.length
decreasing_by exact (length_lt_of_strchr _hvalue).trans (length_lt_of_strchr _hkey)

/-- Replace the parameters by those of a text. -/
def unflatten (_ : CameraParameters) (params : List UInt8) : CameraParameters :=
  ⟨unflattenLoop KeyedVector.empty (cString params)⟩

/-- Neither of the two separators occurs. -/
def plain (s : List UInt8) : Bool := (strchr 0x3d s).isNone && (strchr 0x3b s).isNone

/-- Set a value, unless a separator occurs in it or in the key. -/
def set (p : CameraParameters) : Option (List UInt8) → Option (List UInt8) → CameraParameters
  | some key, some value =>
    if plain (cString key) && plain (cString value) then
      ⟨p.mMap.add (cString key) (cString value)⟩
    else p
  | _, _ => p

/-- Set a number. -/
def setInt (p : CameraParameters) (key : Option (List UInt8)) (value : Int32) : CameraParameters :=
  p.set key (some (printInt value.toInt))

/-- The value of a key; an empty one counts as none. -/
def get (p : CameraParameters) (key : List UInt8) : Option (List UInt8) :=
  let v := (p.mMap.get? (cString key)).getD []
  if v.length = 0 then none else some (cString v)

/-- The value of a key as a number in any notation of C, -1 where there is none. -/
def getInt (w : ℕ) (p : CameraParameters) (key : List UInt8) : Int32 :=
  match p.get key with
  | none => -1
  | some v => Int32.ofInt (strtol w 0 v).1

/-- Remove a key. -/
def remove (p : CameraParameters) (key : List UInt8) : CameraParameters :=
  ⟨p.mMap.removeItem (cString key)⟩

/-! ## Sizes -/

/-- Two numbers with a delimiter between them, and the text that follows. -/
def parsePair (w : ℕ) (str : List UInt8) (delim : UInt8) :
    Option ((Int32 × Int32) × List UInt8) :=
  let (first, rest) := strtol w 10 str
  match rest with
  | [] => none
  | c :: rest =>
    if c = delim then
      let (second, rest) := strtol w 10 rest
      some ((Int32.ofInt first, Int32.ofInt second), rest)
    else none

/-- The text of a size. -/
def printSize (size : Int32 × Int32) : List UInt8 :=
  printInt size.1.toInt ++ 0x78 :: printInt size.2.toInt

/-- Set a size. -/
def setSize (p : CameraParameters) (key : List UInt8) (width height : Int32) : CameraParameters :=
  p.set (some key) (some (printSize (width, height)))

/-- Get a pair of numbers; both are -1 where there is none. -/
def getPair (w : ℕ) (p : CameraParameters) (key : List UInt8) (delim : UInt8) : Int32 × Int32 :=
  match p.get key with
  | none => (-1, -1)
  | some v =>
    match parsePair w v delim with
    | none => (-1, -1)
    | some (pair, _) => pair

def setPreviewSize (p : CameraParameters) (width height : Int32) : CameraParameters :=
  p.setSize keyPreviewSize width height

def setVideoSize (p : CameraParameters) (width height : Int32) : CameraParameters :=
  p.setSize keyVideoSize width height

def setPictureSize (p : CameraParameters) (width height : Int32) : CameraParameters :=
  p.setSize keyPictureSize width height

def getPreviewSize (w : ℕ) (p : CameraParameters) : Int32 × Int32 :=
  p.getPair w keyPreviewSize 0x78

def getPreferredPreviewSizeForVideo (w : ℕ) (p : CameraParameters) : Int32 × Int32 :=
  p.getPair w keyPreferredPreviewSizeForVideo 0x78

def getVideoSize (w : ℕ) (p : CameraParameters) : Int32 × Int32 := p.getPair w keyVideoSize 0x78

def getPictureSize (w : ℕ) (p : CameraParameters) : Int32 × Int32 :=
  p.getPair w keyPictureSize 0x78

def getPreviewFpsRange (w : ℕ) (p : CameraParameters) : Int32 × Int32 :=
  p.getPair w keyPreviewFpsRange 0x2c

def setPreviewFrameRate (p : CameraParameters) (fps : Int32) : CameraParameters :=
  p.setInt (some keyPreviewFrameRate) fps

def getPreviewFrameRate (w : ℕ) (p : CameraParameters) : Int32 := p.getInt w keyPreviewFrameRate

def setPreviewFormat (p : CameraParameters) (format : Option (List UInt8)) : CameraParameters :=
  p.set (some keyPreviewFormat) format

def getPreviewFormat (p : CameraParameters) : Option (List UInt8) := p.get keyPreviewFormat

def setPictureFormat (p : CameraParameters) (format : Option (List UInt8)) : CameraParameters :=
  p.set (some keyPictureFormat) format

def getPictureFormat (p : CameraParameters) : Option (List UInt8) := p.get keyPictureFormat

/-- What is left behind two numbers is the end of the text. -/
theorem suffix_of_parsePair {w : ℕ} {str rest : List UInt8} {delim : UInt8}
    {pair : Int32 × Int32} (h : parsePair w str delim = some (pair, rest)) :
    rest <:+ str ∧ rest.length < str.length := by
  have hfirst := strtol_suffix w 10 str
  simp only [parsePair] at h
  split at h
  · cases h
  · rename_i c tail heq
    rw [heq] at hfirst
    split at h
    · have hsecond := strtol_suffix w 10 tail
      simp only [Option.some.injEq, Prod.mk.injEq] at h
      rw [← h.2]
      -- the delimiter stands between the two
      refine ⟨(hsecond.trans (List.suffix_cons c tail)).trans hfirst, ?_⟩
      exact lt_of_le_of_lt hsecond.length_le hfirst.length_le
    · cases h

/-- The loop of `parseSizesList`, which adds to the sizes that the caller has. -/
def sizesLoop (w : ℕ) (sizes : List (Int32 × Int32)) (str : List UInt8) : List (Int32 × Int32) :=
  match _h : parsePair w str 0x78 with
  | none => sizes
  | some (size, []) => sizes ++ [size]
  | some (size, c :: rest) => if c = 0x2c then sizesLoop w (sizes ++ [size]) rest else sizes
termination_by str.length
decreasing_by
  have hlt := (suffix_of_parsePair _h).2
  rw [List.length_cons] at hlt
  omega

def parseSizesList (w : ℕ) (sizesStr : Option (List UInt8)) (sizes : List (Int32 × Int32)) :
    List (Int32 × Int32) :=
  match sizesStr with
  | none => sizes
  | some str => sizesLoop w sizes str

def getSupportedPreviewSizes (w : ℕ) (p : CameraParameters) (sizes : List (Int32 × Int32)) :
    List (Int32 × Int32) :=
  parseSizesList w (p.get keySupportedPreviewSizes) sizes

def getSupportedVideoSizes (w : ℕ) (p : CameraParameters) (sizes : List (Int32 × Int32)) :
    List (Int32 × Int32) :=
  parseSizesList w (p.get keySupportedVideoSizes) sizes

def getSupportedPictureSizes (w : ℕ) (p : CameraParameters) (sizes : List (Int32 × Int32)) :
    List (Int32 × Int32) :=
  parseSizesList w (p.get keySupportedPictureSizes) sizes

/-- The tokens that `strtok_r` finds: the parts between delimiters that are not empty. -/
def tokens (delim : UInt8) (s : List UInt8) : List (List UInt8) :=
  (s.splitOn delim).filter fun part => !part.isEmpty

/-- The formats with a known name, added to those the caller has. -/
def getSupportedPreviewFormats (p : CameraParameters) (formats : List HalPixelFormat) :
    List HalPixelFormat :=
  match p.get keySupportedPreviewFormats with
  | none => formats
  | some s => formats ++ (tokens 0x2c s).filterMap fun fmt => previewFormatToEnum (some fmt)

end CameraParameters

/-! ## Runs -/

open CameraParameters

/-- A call that changes the parameters. -/
inductive Call where
  | set (key value : Option (List UInt8))
  | setInt (key : Option (List UInt8)) (value : Int32)
  | remove (key : List UInt8)
  | unflatten (params : List UInt8)
  | setPreviewSize (width height : Int32)
  | setVideoSize (width height : Int32)
  | setPictureSize (width height : Int32)
  | setPreviewFrameRate (fps : Int32)
  | setPreviewFormat (format : Option (List UInt8))
  | setPictureFormat (format : Option (List UInt8))

/-- What a call does. -/
def Call.apply (p : CameraParameters) : Call → CameraParameters
  | .set key value => p.set key value
  | .setInt key value => p.setInt key value
  | .remove key => p.remove key
  | .unflatten params => p.unflatten params
  | .setPreviewSize width height => p.setPreviewSize width height
  | .setVideoSize width height => p.setVideoSize width height
  | .setPictureSize width height => p.setPictureSize width height
  | .setPreviewFrameRate fps => p.setPreviewFrameRate fps
  | .setPreviewFormat format => p.setPreviewFormat format
  | .setPictureFormat format => p.setPictureFormat format

/-- The parameters after some calls. -/
def run (calls : List Call) (p : CameraParameters) : CameraParameters := calls.foldl Call.apply p

/-! ## What is stored -/

/-- A key and a value that the text keeps apart: the key ends at the first equals sign, the value
at the first semicolon. -/
structure Storable (k v : List UInt8) : Prop where
  keyNull : 0 ∉ k
  keyEquals : 0x3d ∉ k
  valueNull : 0 ∉ v
  valueSemicolon : 0x3b ∉ v

/-- All parameters are storable. -/
def AllStorable (p : CameraParameters) : Prop := p.mMap.Forall Storable

theorem plain_iff {s : List UInt8} : plain s = true ↔ 0x3d ∉ s ∧ 0x3b ∉ s := by
  simp [plain, strchr_eq_none]

theorem allStorable_init : AllStorable .init := KeyedVector.forall_empty

theorem AllStorable.set {p : CameraParameters} (h : AllStorable p) (key value : Option (List UInt8)) :
    AllStorable (p.set key value) := by
  cases key with
  | none => exact h
  | some key =>
    cases value with
    | none => exact h
    | some value =>
      rw [CameraParameters.set]
      split
      · rename_i hplain
        rw [Bool.and_eq_true, plain_iff, plain_iff] at hplain
        apply KeyedVector.forall_add h
        exact ⟨zero_notMem_cString key, hplain.1.1, zero_notMem_cString value, hplain.2.2⟩
      · exact h

section

variable {mMap : KeyedVector (List UInt8) (List UInt8)} {a k v rest next : List UInt8}

theorem unflattenLoop_end (hkey : strchr 0x3d a = none) : unflattenLoop mMap a = mMap := by
  rw [unflattenLoop.eq_def]
  split <;> simp_all

theorem unflattenLoop_last (hkey : strchr 0x3d a = some (k, rest)) (hvalue : strchr 0x3b rest = none) :
    unflattenLoop mMap a = mMap.add k rest := by
  rw [unflattenLoop.eq_def]
  split
  · simp_all
  · split <;> simp_all

theorem unflattenLoop_next (hkey : strchr 0x3d a = some (k, rest))
    (hvalue : strchr 0x3b rest = some (v, next)) :
    unflattenLoop mMap a = unflattenLoop (mMap.add k v) next := by
  rw [unflattenLoop.eq_def]
  split
  · simp_all
  · split <;> simp_all

end

/-- What `unflatten` reads is storable, whatever the text. -/
theorem forall_unflattenLoop {mMap : KeyedVector (List UInt8) (List UInt8)}
    (h : mMap.Forall Storable) {a : List UInt8} (ha : 0 ∉ a) :
    (unflattenLoop mMap a).Forall Storable := by
  induction mMap, a using unflattenLoop.induct with
  | case1 mMap a hkey =>
    rw [unflattenLoop_end hkey]
    exact h
  | case2 mMap a k rest hkey hvalue =>
    obtain ⟨rfl, hequals⟩ := strchr_eq_some.1 hkey
    simp only [List.mem_append, List.mem_cons, not_or] at ha
    rw [unflattenLoop_last hkey hvalue]
    exact KeyedVector.forall_add h ⟨ha.1, hequals, ha.2.2, strchr_eq_none.1 hvalue⟩
  | case3 mMap a k rest hkey v next hvalue ih =>
    obtain ⟨rfl, hequals⟩ := strchr_eq_some.1 hkey
    obtain ⟨rfl, hsemicolon⟩ := strchr_eq_some.1 hvalue
    simp only [List.mem_append, List.mem_cons, not_or] at ha
    rw [unflattenLoop_next hkey hvalue]
    exact ih (KeyedVector.forall_add h ⟨ha.1, hequals, ha.2.2.1, hsemicolon⟩) ha.2.2.2.2

theorem AllStorable.unflatten (p : CameraParameters) (params : List UInt8) :
    AllStorable (p.unflatten params) :=
  forall_unflattenLoop KeyedVector.forall_empty (zero_notMem_cString params)

/-- Every call keeps `AllStorable`. -/
theorem AllStorable.apply {p : CameraParameters} (h : AllStorable p) (call : Call) :
    AllStorable (call.apply p) := by
  cases call with
  | remove key => exact KeyedVector.forall_removeItem h _
  | unflatten params => exact AllStorable.unflatten p params
  | _ => exact h.set _ _

theorem AllStorable.run {calls : List Call} {p : CameraParameters} (h : AllStorable p) :
    AllStorable (run calls p) := by
  induction calls generalizing p with
  | nil => exact h
  | cons call calls ih => exact ih (h.apply call)

/-! ## To the text and back -/

/-- Reading the text of some pairs adds these pairs. -/
theorem unflattenLoop_flattenEntries {es : List (List UInt8 × List UInt8)}
    (h : ∀ e ∈ es, Storable e.1 e.2) (mMap : KeyedVector (List UInt8) (List UInt8)) :
    unflattenLoop mMap (flattenEntries es) = mMap.addAll es := by
  induction es generalizing mMap with
  | nil => exact unflattenLoop_end rfl
  | cons e es ih =>
    obtain ⟨k, v⟩ := e
    have he : Storable k v := h (k, v) List.mem_cons_self
    cases es with
    | nil =>
      -- the last value goes up to the end of the text
      have hkey : strchr 0x3d (flattenEntries [(k, v)]) = some (k, v) := strchr_append he.keyEquals v
      have hvalue : strchr 0x3b v = none := strchr_eq_none.2 he.valueSemicolon
      rw [unflattenLoop_last hkey hvalue]
      rfl
    | cons d ds =>
      have hkey : strchr 0x3d (flattenEntries ((k, v) :: d :: ds)) =
          some (k, v ++ 0x3b :: flattenEntries (d :: ds)) := by
        rw [flattenEntries, List.append_assoc]
        exact strchr_append he.keyEquals _
      have hvalue : strchr 0x3b (v ++ 0x3b :: flattenEntries (d :: ds)) =
          some (v, flattenEntries (d :: ds)) := strchr_append he.valueSemicolon _
      rw [unflattenLoop_next hkey hvalue]
      exact ih (fun x hx => h x (List.mem_cons_of_mem _ hx)) _

theorem zero_notMem_flattenEntries {es : List (List UInt8 × List UInt8)}
    (h : ∀ e ∈ es, Storable e.1 e.2) : 0 ∉ flattenEntries es := by
  induction es with
  | nil => simp [flattenEntries]
  | cons e es ih =>
    obtain ⟨k, v⟩ := e
    have he : Storable k v := h (k, v) List.mem_cons_self
    have hrest := ih fun x hx => h x (List.mem_cons_of_mem _ hx)
    cases es with
    | nil => simp [flattenEntries, he.keyNull, he.valueNull]
    | cons d ds => simp [flattenEntries, he.keyNull, he.valueNull, hrest]

theorem AllStorable.unflatten_eq {p : CameraParameters} (h : AllStorable p)
    (q : CameraParameters) : q.unflatten p.flatten = p := by
  apply CameraParameters.ext
  show unflattenLoop KeyedVector.empty (cString (flattenEntries p.mMap.entries)) = p.mMap
  rw [cString_of_notMem (zero_notMem_flattenEntries h), unflattenLoop_flattenEntries h,
    KeyedVector.addAll_entries]

/-- After any calls, reading any texts among them, the text of the parameters is read back into
these parameters, so no two parameter sets that calls lead to have the same text. -/
theorem unflatten_flatten (calls : List Call) (q : CameraParameters) :
    q.unflatten (run calls .init).flatten = run calls .init ∧
      ∀ others, (run others .init).flatten = (run calls .init).flatten →
        run others .init = run calls .init := by
  have hback : ∀ calls, q.unflatten (run calls .init).flatten = run calls .init :=
    fun calls => allStorable_init.run.unflatten_eq q
  refine ⟨hback calls, fun others hsame => ?_⟩
  rw [← hback others, hsame, hback calls]

end AliceHal.Camera
