import AliceHal.Lib.Splitting

/-!
# Loading Properties at Boot

`mploader.cpp`: the properties of the product model come from a file below `/system/hw_oem/`, those
of the product id on the kernel command line from `/vendor/phone.prop`. Both loaders set one
property for each line of the form `name=value`. The one for the product id leaves out the names in
`kBlacklistedProperties`; the one for the model does not look at them.

- `readProductId`, `loadPhoneProperties`, `loadHWOemProperties`, `main`: the program
- `setsOf_iff`: the lines that set a property
- `loadPhoneProperties_skips`, `mem_loadHWOemProperties`: what the two loaders set
- `main_skips_iff`: the runs that set no blacklisted property
-/

namespace AliceHal.Mploader

open Lib

/-! ## The program -/

/-- A `std::string`. -/
abbrev Text := List Char

/-- A call of `SetProperty`: name and value. -/
abbrev Call := Text × Text

/-- What the program finds: the files by path, `none` for one that cannot be opened, and the value
of `ro.product.model`, empty when it is not set. -/
structure Env where
  files : Text → Option Text
  productModel : Text

/-- `DEFAULT_ID` -/
def defaultId : Text := "0X00000000".toList

/-- `SYS_PROP_READY` -/
def sysPropReady : Text := "sys.rilprops_ready".toList

/-- `CMDLINE` -/
def cmdlinePath : Text := "/proc/cmdline".toList

/-- `PHONE_PROP` -/
def phoneProp : Text := "/vendor/phone.prop".toList

/-- `kBlacklistedProperties` -/
def kBlacklistedProperties : List Text := ["ro.frp.pst".toList]

/-- White space of `android::base::Trim`. -/
def isSpace (c : Char) : Bool := c = ' ' || ('\t' ≤ c && c ≤ '\r')

/-- `android::base::Trim` -/
def trim (s : Text) : Text := s.rdropWhile isSpace |>.dropWhile isSpace

/-- `ReadProductId`: the last word `productid=value` of the command line decides. -/
def readProductId (env : Env) : Text :=
  match env.files cmdlinePath with
  | none => defaultId
  | some cmdline =>
    ((trim cmdline).splitOn ' ').foldl (fun prid word =>
      match word.splitOn '=' with
      | [name, value] => if name = "productid".toList then value.map Char.toUpper else prid
      | _ => prid) defaultId

/-- The properties of the form `name=value` in a line, if it is one. -/
def setsOf (line : Text) : List Call :=
  match line.splitOn '=' with
  | [name, value] => [(name, value)]
  | _ => []

/-- What `LoadPhoneProperties` sets for a line in its section. -/
def phoneLine (line : Text) : List Call :=
  (setsOf line).filter fun call => call.1 ∉ kBlacklistedProperties

/-- The lines of `LoadPhoneProperties`. The section of a product starts at a line that contains its
id and ends at an empty line; `ret` tells whether it has started. -/
def phoneLines (prid : Text) (ret : ℤ) : List Text → ℤ × List Call
  | [] => (ret, [])
  | line :: rest =>
    if ret = 0 ∧ line.length = 0 then (ret, [])
    else
      let ret := if prid <:+: line then 0 else ret
      let set := if ret = 0 then phoneLine line else []
      let (ret, calls) := phoneLines prid ret rest
      (ret, set ++ calls)

/-- `LoadPhoneProperties` -/
def loadPhoneProperties (env : Env) (prid : Text) : ℤ × List Call :=
  match env.files phoneProp with
  | none => (-1, [])
  | some content => phoneLines prid (-1) (lines '\n' content)

/-- What `LoadHWOemProperties` sets for a line; comments are skipped. -/
def hwOemLine (line : Text) : List Call :=
  if line.head? = some '#' then [] else setsOf line

/-- The file with the properties of a model. -/
def hwOemProp (model : Text) : Text := "/system/hw_oem/".toList ++ model ++ "/prop/local.prop".toList

/-- `LoadHWOemProperties` -/
def loadHWOemProperties (env : Env) (model : Text) : ℤ × List Call :=
  match env.files (hwOemProp model) with
  | none => (0, [])
  | some content => (0, (lines '\n' content).flatMap hwOemLine)

/-- `main`: the value returned and the properties set, in order. -/
def main (env : Env) : ℤ × List Call :=
  let productId := readProductId env
  let (ret, calls) :=
    if env.productModel ≠ [] then loadHWOemProperties env env.productModel else (-1, [])
  if productId ≠ defaultId then
    let (ret, calls') := loadPhoneProperties env productId
    (ret, calls ++ calls' ++ if ret = 0 then [(sysPropReady, ['1'])] else [])
  else (ret, calls)

/-! ## What the loaders set -/

/-- A line sets a property when it has exactly one `=`. -/
theorem setsOf_iff {line name value : Text} : (name, value) ∈ setsOf line ↔
    line = name ++ '=' :: value ∧ '=' ∉ name ∧ '=' ∉ value := by
  rw [← splitOn_eq_pair_iff, setsOf]
  split
  · rename_i name' value' heq
    rw [heq]
    simp [eq_comm]
  · rename_i hother
    constructor
    · intro h
      cases h
    · intro h
      exact absurd h (hother name value)

/-- No line of a section sets a blacklisted property, so no section does. -/
theorem phoneLines_skips {prid : Text} {ret : ℤ} {ls : List Text} {call : Call}
    (h : call ∈ (phoneLines prid ret ls).2) : call.1 ∉ kBlacklistedProperties := by
  induction ls generalizing ret with
  | nil => cases h
  | cons line rest ih =>
    rw [phoneLines] at h
    split at h
    · cases h
    · dsimp only at h
      rcases List.mem_append.1 h with h | h
      · have hline : ∀ ret' : ℤ, call ∈ (if ret' = 0 then phoneLine line else []) →
            call.1 ∉ kBlacklistedProperties := by
          intro ret' hcall
          split at hcall
          · exact of_decide_eq_true (List.mem_filter.1 hcall).2
          · cases hcall
        exact hline _ h
      · exact ih h

theorem loadPhoneProperties_skips {env : Env} {prid : Text} {call : Call}
    (h : call ∈ (loadPhoneProperties env prid).2) : call.1 ∉ kBlacklistedProperties := by
  unfold loadPhoneProperties at h
  split at h
  · cases h
  · exact phoneLines_skips h

/-- What the loader for the model sets: every `name=value` in a line that is no comment. -/
theorem mem_loadHWOemProperties {env : Env} {model name value : Text} :
    (name, value) ∈ (loadHWOemProperties env model).2 ↔
      ∃ content, env.files (hwOemProp model) = some content ∧
        ∃ line ∈ lines '\n' content, line.head? ≠ some '#' ∧
          line = name ++ '=' :: value ∧ '=' ∉ name ∧ '=' ∉ value := by
  unfold loadHWOemProperties
  split
  · rename_i hnone
    simp [hnone]
  · rename_i content hsome
    simp only [hsome, Option.some.injEq, exists_eq_left', List.mem_flatMap, hwOemLine]
    constructor
    · rintro ⟨line, hline, hcall⟩
      split at hcall
      · cases hcall
      · rename_i hcomment
        exact ⟨line, hline, hcomment, setsOf_iff.1 hcall⟩
    · rintro ⟨line, hline, hcomment, hcall⟩
      refine ⟨line, hline, ?_⟩
      rw [if_neg hcomment]
      exact setsOf_iff.2 hcall

/-- The properties a run sets, by where they come from. -/
theorem mem_main {env : Env} {call : Call} : call ∈ (main env).2 ↔
    (env.productModel ≠ [] ∧ call ∈ (loadHWOemProperties env env.productModel).2) ∨
      (readProductId env ≠ defaultId ∧
        (call ∈ (loadPhoneProperties env (readProductId env)).2 ∨
          (loadPhoneProperties env (readProductId env)).1 = 0 ∧ call = (sysPropReady, ['1']))) := by
  have hmodel : call ∈ (if env.productModel ≠ [] then loadHWOemProperties env env.productModel
      else (-1, [])).2 ↔
        env.productModel ≠ [] ∧ call ∈ (loadHWOemProperties env env.productModel).2 := by
    split
    · rename_i h
      exact ⟨fun hcall => ⟨h, hcall⟩, fun hcall => hcall.2⟩
    · rename_i h
      exact ⟨fun hcall => absurd hcall List.not_mem_nil, fun hcall => absurd hcall.1 h⟩
  have hready : ∀ ret : ℤ, call ∈ (if ret = 0 then [(sysPropReady, ['1'])] else []) ↔
      ret = 0 ∧ call = (sysPropReady, ['1']) := by
    intro ret
    by_cases h : ret = 0
    · simp [h]
    · simp [h]
  unfold main
  dsimp only
  split
  · rename_i hid
    dsimp only
    rw [List.mem_append, List.mem_append, hmodel, hready, or_assoc]
    exact or_congr_right ⟨fun h => ⟨hid, h⟩, fun h => h.2⟩
  · rename_i hid
    rw [← hmodel]
    exact ⟨.inl, fun h => h.resolve_right fun h' => hid h'.1⟩

/-! ## The blacklist -/

/-- A blacklisted name starts no comment and contains no `=`. -/
theorem blacklisted_plain {name : Text} (h : name ∈ kBlacklistedProperties) (value : Text) :
    (name ++ '=' :: value).head? ≠ some '#' ∧ '=' ∉ name := by
  rw [List.mem_singleton.1 h]
  constructor
  · intro hhead
    cases hhead
  · decide

theorem sysPropReady_not_blacklisted : sysPropReady ∉ kBlacklistedProperties := by decide

/-- The file for the model sets no blacklisted property: it has no line with such a name and one
value. -/
def HwOemClean (env : Env) : Prop :=
  ∀ content, env.files (hwOemProp env.productModel) = some content →
    ∀ name ∈ kBlacklistedProperties, ∀ value, '=' ∉ value →
      name ++ '=' :: value ∉ lines '\n' content

/-- No blacklisted property is set exactly when there is no model or its file has no line for
one. -/
theorem main_skips_iff (env : Env) :
    (∀ call ∈ (main env).2, call.1 ∉ kBlacklistedProperties) ↔
      env.productModel = [] ∨ HwOemClean env := by
  constructor
  · intro h
    by_contra hbad
    obtain ⟨hmodel, hunclean⟩ := not_or.1 hbad
    apply hunclean
    intro content hcontent name hname value hvalue hline
    obtain ⟨hcomment, heq⟩ := blacklisted_plain hname value
    have hset : (name, value) ∈ (loadHWOemProperties env env.productModel).2 :=
      mem_loadHWOemProperties.2 ⟨content, hcontent, _, hline, hcomment, rfl, heq, hvalue⟩
    exact h _ (mem_main.2 (.inl ⟨hmodel, hset⟩)) hname
  · rintro h ⟨name, value⟩ hcall hname
    rcases mem_main.1 hcall with ⟨hmodel, hset⟩ | ⟨-, hset | ⟨-, hready⟩⟩
    · obtain ⟨content, hcontent, line, hline, -, rfl, -, hvalue⟩ := mem_loadHWOemProperties.1 hset
      exact h.resolve_left hmodel content hcontent name hname value hvalue hline
    · exact loadPhoneProperties_skips hset hname
    · cases hready
      exact sysPropReady_not_blacklisted hname

/-- A model whose file sets the blacklisted property; the device has no product id. -/
def frpEnv : Env where
  files path :=
    if path = "/system/hw_oem/ALE-L21/prop/local.prop".toList then some "ro.frp.pst=x".toList
    else none
  productModel := "ALE-L21".toList

theorem frpEnv_sets_blacklisted :
    ¬∀ call ∈ (main frpEnv).2, call.1 ∉ kBlacklistedProperties := by
  intro h
  exact h ("ro.frp.pst".toList, "x".toList) (by decide) (by decide)

end AliceHal.Mploader
