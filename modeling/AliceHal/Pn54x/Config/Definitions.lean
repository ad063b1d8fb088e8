import AliceHal.Pn54x.Config.Store

/-!
# Definitions since the Last Reset

What the configuration is for: a log of definitions, of which the last one for a name counts. The
sorted array with its two moves and its scan refines this log over any sequence of loads.

- `Definitions`: the log, newest first
- `ConfigOp`: the operations that change the configuration
- `Refines`: the relation between the log and the array, kept by every operation
- `run_sorted_and_last_wins`: after every sequence of operations
-/

namespace AliceHal.Pn54x.Config

variable {w : ℕ} {crc : List UInt8 → UInt32}

/-! ## The abstract model -/

/-- The definitions loaded since the last reset, newest first, and whether the main file counts as
readable. -/
structure Definitions (w : ℕ) where
  log : List (CNfcParam w)
  validFile : Bool

namespace Definitions

/-- Nothing loaded yet. -/
def init : Definitions w := ⟨[], true⟩

/-- Load a file; the settings of a readable one are added, in the order of the file. -/
def load (d : Definitions w) (file : Option (List UInt8)) (bResetContent : Bool) :
    Definitions w :=
  match CNfcConfig.readConfigFile file with
  | none => { d with validFile := d.validFile && !bResetContent }
  | some text => ⟨(parse w text).reverse ++ (if bResetContent then [] else d.log), true⟩

/-- Load the main file if there are no definitions. -/
def getInstance (d : Definitions w) (main : Option (List UInt8)) : Definitions w :=
  if d.log.length == 0 && d.validFile then d.load main true else d

/-- Forget all definitions. -/
def clean (d : Definitions w) : Definitions w := { d with log := [] }

/-- The definition of a name that counts. -/
def find (d : Definitions w) (name : List UInt8) : Option (CNfcParam w) :=
  d.log.find? fun param => param.name = name

end Definitions

/-! ## Operations -/

/-- The operations that load or reset settings; a file is given with its contents at that time. -/
inductive ConfigOp where
  | readConfig (file : Option (List UInt8)) (bResetContent : Bool)
  | getInstance (main : Option (List UInt8))
  | readOptionalConfig (main extra : Option (List UInt8))
  | resetNxpConfig (main : Option (List UInt8))
  | clean
  deriving DecidableEq, Repr

/-- An operation on the configuration. -/
def ConfigOp.apply (crc : List UInt8 → UInt32) (self : CNfcConfig w) : ConfigOp → CNfcConfig w
  | .readConfig file bResetContent => (self.readConfig crc file bResetContent).1
  | .getInstance main => self.getInstance crc main
  | .readOptionalConfig main extra => self.readOptionalConfig crc main extra
  | .resetNxpConfig main => self.resetNxpConfig crc main
  | .clean => self.clean

/-- What an operation means for the log. -/
def ConfigOp.record (d : Definitions w) : ConfigOp → Definitions w
  | .readConfig file bResetContent => d.load file bResetContent
  | .getInstance main => d.getInstance main
  | .readOptionalConfig main extra => (d.getInstance main).load extra false
  | .resetNxpConfig main => (d.getInstance main).clean
  | .clean => d.clean

/-- The configuration after a sequence of operations. -/
def runOps (crc : List UInt8 → UInt32) (ops : List ConfigOp) : CNfcConfig w :=
  ops.foldl (ConfigOp.apply crc) .init

/-- The log after a sequence of operations. -/
def recordOps (ops : List ConfigOp) : Definitions w := ops.foldl ConfigOp.record .init

/-! ## The array as a sorted store -/

theorem addTo_eq_insertNewest (param : CNfcParam w) (l : List (CNfcParam w)) :
    CNfcConfig.addTo param l = Lib.insertNewest CNfcParam.name param l := by
  induction l with
  | nil => rfl
  | cons it rest ih =>
    rw [CNfcConfig.addTo, Lib.insertNewest, List.orderedInsert_cons]
    by_cases h : it.name < param.name
    · rw [if_pos h, if_neg (not_le.2 h), ih]
      rfl
    · rw [if_neg h, if_pos (not_lt.1 h)]

theorem findIn_eq_lookup (name : List UInt8) (l : List (CNfcParam w)) :
    CNfcConfig.findIn name l = Lib.lookup CNfcParam.name name l := by
  induction l with
  | nil => rfl
  | cons it rest ih =>
    rw [CNfcConfig.findIn, Lib.lookup_cons, ih]
    congr

theorem foldl_add_eq_insertAll (params : List (CNfcParam w)) (self : CNfcConfig w) :
    params.foldl CNfcConfig.add self =
      { self with mList := Lib.insertAll CNfcParam.name params self.mList } := by
  induction params generalizing self with
  | nil => rfl
  | cons param params ih =>
    rw [List.foldl_cons, ih, CNfcConfig.add, addTo_eq_insertNewest]
    rfl

/-! ## The refinement -/

/-- The array is sorted and answers every lookup as the log does. -/
structure Refines (config : CNfcConfig w) (d : Definitions w) : Prop where
  mList : config.mList = []
  valid : config.mValidFile = d.validFile
  sorted : Lib.SortedBy CNfcParam.name config.params
  find : ∀ name, config.find name = d.find name

namespace Refines

variable {self : CNfcConfig w} {d : Definitions w}

theorem init : Refines (CNfcConfig.init : CNfcConfig w) .init :=
  ⟨rfl, rfl, List.Pairwise.nil, fun _ => rfl⟩

/-- One is empty when the other is: each element would be found by its own name. -/
theorem length_eq_zero (h : Refines self d) : self.params.length = 0 ↔ d.log.length = 0 := by
  rw [List.length_eq_zero_iff, List.length_eq_zero_iff]
  constructor
  · intro hnil
    by_contra hlog
    obtain ⟨param, rest, hcons⟩ := List.exists_cons_of_ne_nil hlog
    have hfind := h.find param.name
    rw [CNfcConfig.find, hnil, Definitions.find, hcons, List.find?_cons] at hfind
    simp [CNfcConfig.findIn] at hfind
  · intro hlog
    by_contra hnil
    obtain ⟨param, rest, hcons⟩ := List.exists_cons_of_ne_nil hnil
    have hfind := h.find param.name
    rw [CNfcConfig.find, hcons, Definitions.find, hlog, CNfcConfig.findIn,
      if_neg (lt_irrefl _), if_pos rfl] at hfind
    cases hfind

theorem clean (h : Refines self d) : Refines self.clean d.clean :=
  ⟨h.mList, h.valid, List.Pairwise.nil, fun _ => rfl⟩

/-- A readable file: `older` is what the merge starts with. -/
theorem merge (text : List UInt8) {older log : List (CNfcParam w)} {n : UInt32}
    (hsorted : Lib.SortedBy CNfcParam.name older)
    (hfind : ∀ name, Lib.lookup CNfcParam.name name older = log.find? fun p => p.name = name) :
    Refines ⟨Lib.insertAll CNfcParam.name (parse w text) older, [], true, n⟩
      ⟨(parse w text).reverse ++ log, true⟩ where
  mList := rfl
  valid := rfl
  sorted := hsorted.insertAll
  find name := by
    rw [CNfcConfig.find, findIn_eq_lookup, Lib.lookup_insertAll hsorted, hfind, Definitions.find,
      List.find?_append]
    congr!

/-- What a load of a readable file leaves, in terms of the sorted store. -/
theorem readConfig_eq (hl : self.mList = []) {file : Option (List UInt8)} {text : List UInt8}
    (hfile : CNfcConfig.readConfigFile file = some text) (b : Bool) :
    (self.readConfig crc file b).1 =
      ⟨Lib.insertAll CNfcParam.name (parse w text) (if b then [] else self.params), [], true,
        crc text⟩ := by
  have hparams : self.params.length = 0 → self.params = [] := List.length_eq_zero_iff.1
  unfold CNfcConfig.readConfig
  rw [hfile]
  simp only [foldl_add_eq_insertAll, CNfcConfig.moveFromList]
  by_cases hpos : 0 < self.params.length
  · cases b with
    | true => simp [hpos, CNfcConfig.clean, hl]
    | false => simp [hpos, CNfcConfig.moveToList]
  · have hnil := hparams (by omega)
    simp [hnil, hl]

theorem load (h : Refines self d) (file : Option (List UInt8)) (b : Bool) :
    Refines (self.readConfig crc file b).1 (d.load file b) := by
  cases hfile : CNfcConfig.readConfigFile file with
  | none =>
    unfold CNfcConfig.readConfig Definitions.load
    rw [hfile]
    cases b with
    | true => exact ⟨h.mList, (Bool.and_false _).symm, h.sorted, h.find⟩
    | false => exact ⟨h.mList, h.valid.trans (Bool.and_true _).symm, h.sorted, h.find⟩
  | some text =>
    rw [readConfig_eq h.mList hfile, Definitions.load, hfile]
    cases b with
    | true => exact merge text List.Pairwise.nil fun _ => rfl
    | false =>
      refine merge text h.sorted fun name => ?_
      rw [← findIn_eq_lookup]
      exact h.find name

theorem getInstance (h : Refines self d) (main : Option (List UInt8)) :
    Refines (self.getInstance crc main) (d.getInstance main) := by
  have hcond : (self.params.length == 0 && self.mValidFile) =
      (d.log.length == 0 && d.validFile) := by
    rw [h.valid]
    congr 1
    exact Bool.eq_iff_iff.2 (by simpa only [beq_iff_eq] using h.length_eq_zero)
  rw [CNfcConfig.getInstance, Definitions.getInstance, hcond]
  split
  · exact h.load main true
  · exact h

/-- Every operation keeps the refinement. -/
theorem apply (h : Refines self d) (op : ConfigOp) : Refines (op.apply crc self) (op.record d) := by
  cases op with
  | readConfig file b => exact h.load file b
  | getInstance main => exact h.getInstance main
  | readOptionalConfig main extra => exact (h.getInstance main).load extra false
  | resetNxpConfig main => exact (h.getInstance main).clean
  | clean => exact h.clean

/-- So does every sequence of operations. -/
theorem run (ops : List ConfigOp) : Refines (runOps crc ops : CNfcConfig w) (recordOps ops) := by
  have hfold : ∀ (ops : List ConfigOp) (self : CNfcConfig w) (d : Definitions w), Refines self d →
      Refines (ops.foldl (ConfigOp.apply crc) self) (ops.foldl ConfigOp.record d) := by
    intro ops
    induction ops with
    | nil => exact fun _ _ h => h
    | cons op ops ih => exact fun _ _ h => ih _ _ (h.apply op)
  exact hfold ops _ _ init

end Refines

/-- After every sequence of loads and resets the array is sorted by name, and a lookup gives the
definition added last since the last reset, or nothing exactly when there is none. -/
theorem run_sorted_and_last_wins (crc : List UInt8 → UInt32) (ops : List ConfigOp) :
    Lib.SortedBy CNfcParam.name (runOps crc ops : CNfcConfig w).params ∧
      ∀ name : List UInt8,
        (runOps crc ops : CNfcConfig w).find name =
            (recordOps ops).log.find? (fun param => param.name = name) ∧
          ((runOps crc ops : CNfcConfig w).find name = none ↔
            ∀ param ∈ (recordOps ops : Definitions w).log, param.name ≠ name) := by
  have h : Refines (runOps crc ops : CNfcConfig w) (recordOps ops) := Refines.run ops
  refine ⟨h.sorted, fun name => ⟨h.find name, ?_⟩⟩
  rw [h.find, Definitions.find, List.find?_eq_none]
  simp only [decide_eq_true_eq, ne_eq]

end AliceHal.Pn54x.Config
