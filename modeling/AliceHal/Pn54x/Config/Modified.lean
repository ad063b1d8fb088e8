import AliceHal.Pn54x.Config.Crc32
import AliceHal.Pn54x.Config.Definitions

/-!
# Detecting a Changed Configuration

`updateNxpConfigTimestamp` writes the checksum of the configuration to a file, and
`isNxpConfigModified` compares it with the checksum of a later load. There is one checksum for all
files: each load, of the main file or of an optional one, replaces it. The timestamp file is opened
anew by each of the two, and that may fail.

- `World`, `ConfigCall`: the configuration with the timestamp file, and the calls of a HAL process
- `History`: which files were loaded last, and which before the stamp
- `Tracks`: the checksums are those of the files in the history
- `isNxpConfigModified_iff_lastFile`: when a change of the main file is seen
-/

namespace AliceHal.Pn54x.Config

variable {w : ℕ}

/-! ## The model -/

/-- The files loaded last, by this process and before the stamp. -/
structure History where
  lastMain : Option (List UInt8)
  /-- of the main and the optional files -/
  lastFile : Option (List UInt8)
  /-- the main file when the timestamp was to be written last -/
  stampedMain : Option (List UInt8)
  /-- the file whose checksum is in the timestamp file -/
  stampedFile : Option (List UInt8)
  deriving DecidableEq, Repr

/-- What becomes of the timestamp file when it is to be written. -/
inductive StampWrite where
  | written
  /-- `fopen` fails: the file is left as it is -/
  | notOpened
  /-- `fopen` has emptied the file, and the checksum does not get there -/
  | emptied
  deriving DecidableEq, Repr

/-- The configuration of the process, the checksum that is read from the timestamp file if that
exists, and what was loaded. -/
structure World (w : ℕ) where
  config : CNfcConfig w
  stamp : Option UInt32
  history : History

namespace World

/-- Before the first process. -/
def init : World w := ⟨.init, none, ⟨none, none, none, none⟩⟩

/-- A new process: the static object is built again, the timestamp file stays. -/
def restart (s : World w) : World w :=
  { s with
    config := .init
    history := { s.history with lastMain := none, lastFile := none } }

/-- `CNfcConfig::GetInstance`. -/
def getInstance (crc : List UInt8 → UInt32) (main : Option (List UInt8)) (s : World w) : World w :=
  { s with
    config := s.config.getInstance crc main
    history :=
      if s.config.params.length == 0 && s.config.mValidFile &&
          (CNfcConfig.readConfigFile main).isSome then
        { s.history with lastMain := main, lastFile := main }
      else s.history }

def readOptionalConfig (crc : List UInt8 → UInt32) (main extra : Option (List UInt8))
    (s : World w) : World w :=
  let s := s.getInstance crc main
  { s with
    config := (s.config.readConfig crc extra false).1
    history :=
      if (CNfcConfig.readConfigFile extra).isSome then { s.history with lastFile := extra }
      else s.history }

def resetNxpConfig (crc : List UInt8 → UInt32) (main : Option (List UInt8)) (s : World w) :
    World w :=
  let s := s.getInstance crc main
  { s with config := s.config.clean }

/-- `resetModified` of the singleton. -/
def updateNxpConfigTimestamp (crc : List UInt8 → UInt32) (main : Option (List UInt8))
    (write : StampWrite) (s : World w) : World w :=
  let s := s.getInstance crc main
  let s := { s with history := { s.history with stampedMain := s.history.lastMain } }
  match write with
  | .notOpened => s
  | .written =>
    { s with
      stamp := some s.config.configCrc32
      history := { s.history with stampedFile := s.history.lastFile } }
  -- `stored_crc32` stays zero where nothing is read
  | .emptied => { s with stamp := some 0, history := { s.history with stampedFile := none } }

/-- `isModified` of the singleton; a timestamp file that is not there, or is not opened, counts as
modified. -/
def isNxpConfigModified (crc : List UInt8 → UInt32) (main : Option (List UInt8)) (opened : Bool)
    (s : World w) : Bool :=
  match opened, s.stamp with
  | false, _ | true, none => true
  | true, some storedCrc32 => storedCrc32 != (s.getInstance crc main).config.configCrc32

end World

/-- The calls of a HAL process; each finds the main file with some contents. -/
inductive ConfigCall where
  | restart
  /-- a lookup, or any other call that only gets the singleton -/
  | getInstance (main : Option (List UInt8))
  | readOptionalConfig (main extra : Option (List UInt8))
  | resetNxpConfig (main : Option (List UInt8))
  | updateNxpConfigTimestamp (main : Option (List UInt8)) (write : StampWrite)
  deriving DecidableEq, Repr

/-- One call. -/
def ConfigCall.apply (crc : List UInt8 → UInt32) (s : World w) : ConfigCall → World w
  | .restart => s.restart
  | .getInstance main => s.getInstance crc main
  | .readOptionalConfig main extra => s.readOptionalConfig crc main extra
  | .resetNxpConfig main => s.resetNxpConfig crc main
  | .updateNxpConfigTimestamp main write => s.updateNxpConfigTimestamp crc main write

/-- A sequence of calls. -/
def runCalls (crc : List UInt8 → UInt32) (calls : List ConfigCall) (s : World w) : World w :=
  calls.foldl (ConfigCall.apply crc) s

/-- The main file has these contents at the call. -/
def ConfigCall.findsMain (main : Option (List UInt8)) : ConfigCall → Bool
  | .restart => true
  | .getInstance m => m = main
  | .readOptionalConfig m _ => m = main
  | .resetNxpConfig m => m = main
  | .updateNxpConfigTimestamp m _ => m = main

/-- The call is to write the timestamp. -/
def ConfigCall.stamps : ConfigCall → Bool
  | .updateNxpConfigTimestamp _ _ => true
  | _ => false

/-! ## Which file a checksum belongs to -/

/-- The checksum after a file was loaded last; a static object starts with zero, and so does what is
read from the timestamp file. -/
def checksum (crc : List UInt8 → UInt32) : Option (List UInt8) → UInt32
  | none => 0
  | some text => crc text

/-- The checksums are those of the files in the history. -/
structure Tracks (crc : List UInt8 → UInt32) (s : World w) : Prop where
  config : s.config.configCrc32 = checksum crc s.history.lastFile
  stamp : ∀ c, s.stamp = some c → c = checksum crc s.history.stampedFile

theorem readConfigFile_eq {file : Option (List UInt8)} {text : List UInt8}
    (h : CNfcConfig.readConfigFile file = some text) : file = some text := by
  unfold CNfcConfig.readConfigFile at h
  split at h
  · exact h
  · cases h

/-- A load replaces the checksum if the file is readable. -/
theorem configCrc32_readConfig (crc : List UInt8 → UInt32) (self : CNfcConfig w)
    (file : Option (List UInt8)) (b : Bool) :
    (self.readConfig crc file b).1.configCrc32 =
      if (CNfcConfig.readConfigFile file).isSome then checksum crc file
      else self.configCrc32 := by
  unfold CNfcConfig.readConfig
  cases hfile : CNfcConfig.readConfigFile file with
  | none => cases b <;> rfl
  | some text =>
    rw [readConfigFile_eq hfile]
    simp only [foldl_add_eq_insertAll, CNfcConfig.moveFromList, Option.isSome_some, if_true]
    split_ifs <;> rfl

theorem configCrc32_getInstance (crc : List UInt8 → UInt32) (self : CNfcConfig w)
    (main : Option (List UInt8)) :
    (self.getInstance crc main).configCrc32 =
      if self.params.length == 0 && self.mValidFile && (CNfcConfig.readConfigFile main).isSome then
        checksum crc main
      else self.configCrc32 := by
  rw [CNfcConfig.getInstance]
  cases hcond : self.params.length == 0 && self.mValidFile with
  | false => rfl
  | true => simp only [if_true, Bool.true_and, configCrc32_readConfig]

namespace Tracks

variable {crc : List UInt8 → UInt32} {s : World w}

theorem init : Tracks crc (World.init : World w) :=
  ⟨rfl, fun _ h => nomatch h⟩

theorem getInstance (h : Tracks crc s) (main : Option (List UInt8)) :
    Tracks crc (s.getInstance crc main) := by
  have hconfig := configCrc32_getInstance crc s.config main
  unfold World.getInstance
  split_ifs with hload
  · rw [if_pos hload] at hconfig
    exact ⟨hconfig, h.stamp⟩
  · rw [if_neg hload] at hconfig
    exact ⟨hconfig.trans h.config, h.stamp⟩

theorem readOptionalConfig (h : Tracks crc s) (main extra : Option (List UInt8)) :
    Tracks crc (s.readOptionalConfig crc main extra) := by
  have hfirst := h.getInstance main
  have hconfig := configCrc32_readConfig crc (s.getInstance crc main).config extra false
  unfold World.readOptionalConfig
  simp only
  split_ifs with hload
  · rw [if_pos hload] at hconfig
    exact ⟨hconfig, hfirst.stamp⟩
  · rw [if_neg hload] at hconfig
    exact ⟨hconfig.trans hfirst.config, hfirst.stamp⟩

/-- Every call keeps track of the checksums. -/
theorem apply (h : Tracks crc s) (call : ConfigCall) : Tracks crc (call.apply crc s) := by
  cases call with
  | restart => exact ⟨rfl, h.stamp⟩
  | getInstance main => exact h.getInstance main
  | readOptionalConfig main extra => exact h.readOptionalConfig main extra
  | resetNxpConfig main =>
    have hfirst := h.getInstance main
    exact ⟨hfirst.config, hfirst.stamp⟩
  | updateNxpConfigTimestamp main write =>
    have hfirst := h.getInstance main
    cases write with
    | notOpened => exact ⟨hfirst.config, hfirst.stamp⟩
    | written =>
      refine ⟨hfirst.config, fun c hc => ?_⟩
      exact (Option.some.inj hc).symm.trans hfirst.config
    | emptied => exact ⟨hfirst.config, fun c hc => (Option.some.inj hc).symm⟩

theorem run (h : Tracks crc s) (calls : List ConfigCall) : Tracks crc (runCalls crc calls s) := by
  induction calls generalizing s with
  | nil => exact h
  | cons call calls ih => exact ih (h.apply call)

end Tracks

/-! ## The same calls again -/

/-- What holds of the configuration while the main file does not change. -/
structure Steady (main : Option (List UInt8)) (config : CNfcConfig w) : Prop where
  mList : config.mList = []
  valid : (CNfcConfig.readConfigFile main).isSome → config.mValidFile = true

/-- Two configurations that load the same files from here on. -/
structure Alike (main : Option (List UInt8)) (a b : CNfcConfig w) : Prop where
  left : Steady main a
  right : Steady main b
  params : a.params = b.params

/-- From `a` and `b` to `a'` and `b'` either the same file was loaded last, or none at all. -/
def SameLoad (a b a' b' : CNfcConfig w) : Prop :=
  a'.configCrc32 = b'.configCrc32 ∨
    (a'.configCrc32 = a.configCrc32 ∧ b'.configCrc32 = b.configCrc32)

theorem SameLoad.trans {a b a' b' a'' b'' : CNfcConfig w} (h : SameLoad a b a' b')
    (h' : SameLoad a' b' a'' b'') : SameLoad a b a'' b'' := by
  rcases h' with hlast | ⟨hleft, hright⟩
  · exact Or.inl hlast
  · rcases h with hfirst | ⟨hl, hr⟩
    · exact Or.inl (hleft.trans (hfirst.trans hright.symm))
    · exact Or.inr ⟨hleft.trans hl, hright.trans hr⟩

section
variable {crc : List UInt8 → UInt32} {main : Option (List UInt8)} {a b : CNfcConfig w}

theorem Steady.init : Steady main (CNfcConfig.init : CNfcConfig w) := ⟨rfl, fun _ => rfl⟩

theorem Steady.clean (h : Steady main a) : Steady main a.clean := ⟨h.mList, h.valid⟩

theorem Steady.readConfig (h : Steady main a) (file : Option (List UInt8)) (b : Bool)
    (hb : b = true → file = main) : Steady main (a.readConfig crc file b).1 := by
  cases hfile : CNfcConfig.readConfigFile file with
  | some text =>
    rw [Refines.readConfig_eq h.mList hfile]
    exact ⟨rfl, fun _ => rfl⟩
  | none =>
    unfold CNfcConfig.readConfig
    rw [hfile]
    cases b with
    | false => exact h
    | true =>
      -- an unreadable main file is marked, which the invariant allows
      rw [hb rfl] at hfile
      exact ⟨h.mList, fun hread => by rw [hfile] at hread; cases hread⟩

theorem Steady.getInstance (h : Steady main a) : Steady main (a.getInstance crc main) := by
  rw [CNfcConfig.getInstance]
  split
  · exact h.readConfig main true fun _ => rfl
  · exact h

/-- A readable file makes two configurations equal. -/
theorem Alike.readConfig_eq (h : Alike main a b) {file : Option (List UInt8)} {text : List UInt8}
    (hfile : CNfcConfig.readConfigFile file = some text) (r : Bool) :
    (a.readConfig crc file r).1 = (b.readConfig crc file r).1 := by
  rw [Refines.readConfig_eq h.left.mList hfile, Refines.readConfig_eq h.right.mList hfile, h.params]

theorem Alike.of_eq {a' b' : CNfcConfig w} (heq : a' = b') (hs : Steady main a') :
    Alike main a' b' ∧ SameLoad a b a' b' := by
  subst heq
  exact ⟨⟨hs, hs, rfl⟩, Or.inl rfl⟩

variable (crc) in
theorem Alike.getInstance (h : Alike main a b) :
    Alike main (a.getInstance crc main) (b.getInstance crc main) ∧
      SameLoad a b (a.getInstance crc main) (b.getInstance crc main) := by
  have hleft : Steady main (a.getInstance crc main) := h.left.getInstance
  have hright : Steady main (b.getInstance crc main) := h.right.getInstance
  cases hfile : CNfcConfig.readConfigFile main with
  | some text =>
    have hread : (CNfcConfig.readConfigFile main).isSome := by rw [hfile]; rfl
    have hcond : (a.params.length == 0 && a.mValidFile) = (b.params.length == 0 && b.mValidFile) := by
      rw [h.params, h.left.valid hread, h.right.valid hread]
    rw [CNfcConfig.getInstance, CNfcConfig.getInstance, hcond]
    split
    · exact Alike.of_eq (h.readConfig_eq hfile true) (h.left.readConfig main true fun _ => rfl)
    · exact ⟨h, Or.inr ⟨rfl, rfl⟩⟩
  | none =>
    have hkeep : ∀ c : CNfcConfig w, (c.getInstance crc main).params = c.params ∧
        (c.getInstance crc main).configCrc32 = c.configCrc32 := by
      intro c
      rw [CNfcConfig.getInstance, CNfcConfig.readConfig, hfile]
      split <;> exact ⟨rfl, rfl⟩
    refine ⟨⟨hleft, hright, ?_⟩, Or.inr ⟨(hkeep a).2, (hkeep b).2⟩⟩
    rw [(hkeep a).1, (hkeep b).1, h.params]

variable (crc) in
theorem Alike.readOptional (h : Alike main a b) (extra : Option (List UInt8)) :
    Alike main (a.readConfig crc extra false).1 (b.readConfig crc extra false).1 ∧
      SameLoad a b (a.readConfig crc extra false).1 (b.readConfig crc extra false).1 := by
  cases hfile : CNfcConfig.readConfigFile extra with
  | some text =>
    exact Alike.of_eq (h.readConfig_eq hfile false)
      (h.left.readConfig extra false fun hb => by cases hb)
  | none =>
    have hkeep : ∀ c : CNfcConfig w, (c.readConfig crc extra false).1 = c := by
      intro c
      rw [CNfcConfig.readConfig, hfile]
      rfl
    rw [hkeep, hkeep]
    exact ⟨h, Or.inr ⟨rfl, rfl⟩⟩

/-- Stamping loads nothing but what getting the singleton loads. -/
theorem config_updateNxpConfigTimestamp (crc : List UInt8 → UInt32) (main : Option (List UInt8))
    (write : StampWrite) (s : World w) :
    (s.updateNxpConfigTimestamp crc main write).config = s.config.getInstance crc main := by
  cases write <;> rfl

variable (crc main) in
/-- A second call in a row leaves the checksum. -/
theorem configCrc32_getInstance_twice (a : CNfcConfig w) :
    ((a.getInstance crc main).getInstance crc main).configCrc32 =
      (a.getInstance crc main).configCrc32 := by
  rw [configCrc32_getInstance]
  split
  · rename_i hload
    rw [configCrc32_getInstance]
    split
    · rfl
    · -- the first call did not load, so it changed nothing that the second could load for
      rename_i hno
      rw [Bool.and_eq_true, Bool.and_eq_true] at hload
      have hsame : a.getInstance crc main = a := by
        rw [CNfcConfig.getInstance]
        split
        · rename_i hcond
          rw [hcond, hload.2] at hno
          exact absurd rfl hno
        · rfl
      rw [hsame] at hload
      rw [hload.1.1, hload.1.2, hload.2] at hno
      exact absurd rfl hno
  · rfl

end

/-- Every call that finds the main file as it was keeps `Steady`. -/
theorem Steady.apply {crc : List UInt8 → UInt32} {main : Option (List UInt8)} {s : World w}
    (h : Steady main s.config) {call : ConfigCall} (hmain : call.findsMain main = true) :
    Steady main (call.apply crc s).config := by
  cases call with
  | restart => exact Steady.init
  | getInstance m =>
    obtain rfl : m = main := of_decide_eq_true hmain
    exact h.getInstance
  | readOptionalConfig m extra =>
    obtain rfl : m = main := of_decide_eq_true hmain
    exact h.getInstance.readConfig extra false fun hb => by cases hb
  | resetNxpConfig m =>
    obtain rfl : m = main := of_decide_eq_true hmain
    exact h.getInstance.clean
  | updateNxpConfigTimestamp m write =>
    obtain rfl : m = main := of_decide_eq_true hmain
    rw [ConfigCall.apply, config_updateNxpConfigTimestamp]
    exact h.getInstance

theorem Steady.run {crc : List UInt8 → UInt32} {main : Option (List UInt8)}
    {calls : List ConfigCall} (hmain : ∀ call ∈ calls, call.findsMain main = true) {s : World w}
    (h : Steady main s.config) : Steady main (runCalls crc calls s).config := by
  induction calls generalizing s with
  | nil => exact h
  | cons call calls ih =>
    exact ih (fun c hc => hmain c (List.mem_cons_of_mem call hc))
      (h.apply (hmain call List.mem_cons_self))

/-- The same call on two configurations that are alike. -/
theorem Alike.apply (crc : List UInt8 → UInt32) {main : Option (List UInt8)} {s t : World w}
    (h : Alike main s.config t.config) {call : ConfigCall} (hmain : call.findsMain main = true)
    (hstamp : call.stamps = false) :
    Alike main (call.apply crc s).config (call.apply crc t).config ∧
      SameLoad s.config t.config (call.apply crc s).config (call.apply crc t).config := by
  cases call with
  | restart => exact Alike.of_eq rfl Steady.init
  | getInstance m =>
    obtain rfl : m = main := of_decide_eq_true hmain
    exact h.getInstance crc
  | readOptionalConfig m extra =>
    obtain rfl : m = main := of_decide_eq_true hmain
    obtain ⟨hfirst, hload⟩ := h.getInstance crc
    obtain ⟨hsecond, hload'⟩ := hfirst.readOptional crc extra
    exact ⟨hsecond, hload.trans hload'⟩
  | resetNxpConfig m =>
    obtain rfl : m = main := of_decide_eq_true hmain
    obtain ⟨hfirst, hload⟩ := h.getInstance crc
    exact ⟨⟨hfirst.left.clean, hfirst.right.clean, rfl⟩, hload⟩
  | updateNxpConfigTimestamp => cases hstamp

theorem Alike.run (crc : List UInt8 → UInt32) {main : Option (List UInt8)}
    {calls : List ConfigCall}
    (hcalls : ∀ call ∈ calls, call.findsMain main = true ∧ call.stamps = false) {s t : World w}
    (h : Alike main s.config t.config) :
    Alike main (runCalls crc calls s).config (runCalls crc calls t).config ∧
      SameLoad s.config t.config (runCalls crc calls s).config (runCalls crc calls t).config := by
  induction calls generalizing s t with
  | nil => exact ⟨h, Or.inr ⟨rfl, rfl⟩⟩
  | cons call calls ih =>
    have hcall := hcalls call List.mem_cons_self
    obtain ⟨hfirst, hload⟩ := h.apply crc hcall.1 hcall.2
    obtain ⟨hrest, hload'⟩ := ih (fun c hc => hcalls c (List.mem_cons_of_mem call hc)) hfirst
    exact ⟨hrest, hload.trans hload'⟩

/-- Calls that do not write the timestamp leave it. -/
theorem stamp_runCalls {crc : List UInt8 → UInt32} {calls : List ConfigCall}
    (hcalls : ∀ call ∈ calls, call.stamps = false) (s : World w) :
    (runCalls crc calls s).stamp = s.stamp := by
  induction calls generalizing s with
  | nil => rfl
  | cons call calls ih =>
    have hcall := hcalls call List.mem_cons_self
    have hrest := ih (fun c hc => hcalls c (List.mem_cons_of_mem call hc)) (call.apply crc s)
    refine hrest.trans ?_
    cases call with
    | updateNxpConfigTimestamp => cases hcall
    | _ => rfl

/-! ## The check -/

variable {crc : List UInt8 → UInt32} {main : Option (List UInt8)}

/-- The check compares two files, where it finds a timestamp. -/
theorem isNxpConfigModified_iff {s : World w} (h : Tracks crc s) (opened : Bool) :
    s.isNxpConfigModified crc main opened = true ↔
      opened = false ∨ s.stamp = none ∨
        checksum crc s.history.stampedFile ≠
          checksum crc (s.getInstance crc main).history.lastFile := by
  unfold World.isNxpConfigModified
  cases opened with
  | false => simp
  | true =>
    cases hs : s.stamp with
    | none => simp
    | some c =>
      rw [← (h.getInstance main).config, ← h.stamp c hs]
      simp

/-- Nothing has changed for the check if and only if it reads the checksum of the file that was
loaded last. -/
theorem isNxpConfigModified_eq_false {s : World w} (h : Tracks crc s) (opened : Bool) :
    s.isNxpConfigModified crc main opened = false ↔ opened = true ∧
      s.stamp = some (checksum crc (s.getInstance crc main).history.lastFile) := by
  unfold World.isNxpConfigModified
  cases opened with
  | false => simp
  | true =>
    cases hs : s.stamp with
    | none => simp
    | some c =>
      rw [← (h.getInstance main).config]
      simp

/-- Calls that start over: a new process, or a reset of the settings. -/
def ConfigCall.startsOver (main : Option (List UInt8)) : ConfigCall → Bool
  | .restart => true
  | .resetNxpConfig m => m = main
  | _ => false

/-- After starting over two configurations are alike. The checksum is that of a new process in
both, or the one before the call, where that followed another call. -/
theorem Alike.of_startsOver {opening : ConfigCall} (hopening : opening.startsOver main = true)
    {s t : World w} (hs : Steady main s.config) (ht : Steady main t.config) {a : CNfcConfig w}
    (hta : t.config = a.getInstance crc main) :
    Alike main (opening.apply crc s).config (opening.apply crc t).config ∧
      ((opening.apply crc t).config.configCrc32 = (opening.apply crc s).config.configCrc32 ∨
        (opening.apply crc t).config.configCrc32 = t.config.configCrc32) := by
  cases opening with
  | restart => exact ⟨⟨Steady.init, Steady.init, rfl⟩, Or.inl rfl⟩
  | resetNxpConfig m =>
    obtain rfl : m = main := of_decide_eq_true hopening
    refine ⟨⟨hs.getInstance.clean, ht.getInstance.clean, rfl⟩, Or.inr ?_⟩
    have htwice := configCrc32_getInstance_twice crc m a
    rw [← hta] at htwice
    exact htwice
  | getInstance => cases hopening
  | readOptionalConfig => cases hopening
  | updateNxpConfigTimestamp => cases hopening

theorem findsMain_of_startsOver {opening : ConfigCall} (h : opening.startsOver main = true) :
    opening.findsMain main = true ∧ opening.stamps = false := by
  cases opening with
  | restart => exact ⟨rfl, rfl⟩
  | resetNxpConfig m => exact ⟨h, rfl⟩
  | getInstance => cases h
  | readOptionalConfig => cases h
  | updateNxpConfigTimestamp => cases h

/-- A stamp after some calls and a check after the same calls again: the checksum is the same. -/
theorem configCrc32_of_same_calls {opening : ConfigCall}
    (hopening : opening.startsOver main = true) {calls : List ConfigCall}
    (hcalls : ∀ call ∈ calls, call.findsMain main = true ∧ call.stamps = false) {s t : World w}
    (hs : Steady main s.config)
    (ht : t.config = (runCalls crc (opening :: calls) s).config.getInstance crc main) :
    ((runCalls crc (opening :: calls) t).config.getInstance crc main).configCrc32 =
      t.config.configCrc32 := by
  have hround : ∀ call ∈ opening :: calls, call.findsMain main = true := by
    intro call hc
    rcases List.mem_cons.1 hc with rfl | hc
    · exact (findsMain_of_startsOver hopening).1
    · exact (hcalls call hc).1
  have hsteady : Steady main t.config := by
    rw [ht]
    exact (hs.run hround).getInstance
  obtain ⟨halike, hstart⟩ := Alike.of_startsOver hopening hs hsteady ht
  obtain ⟨hrest, hload⟩ := halike.run crc hcalls
  obtain ⟨-, hlast⟩ := hrest.getInstance crc
  -- the stamp is the checksum after the first round, the check uses the one after the second
  symm
  rw [ht]
  rcases hload.trans hlast with heq | ⟨hleft, hright⟩
  · exact heq
  · refine Eq.trans ?_ hright.symm
    rcases hstart with hnew | hold
    · exact hleft.trans hnew.symm
    · rw [hold, ht]

/-- The same calls again change nothing for the check, if it opens the timestamp file and this holds
their checksum: because it was just written, or from before. -/
theorem isNxpConfigModified_of_same_calls {opening : ConfigCall}
    (hopening : opening.startsOver main = true) {calls : List ConfigCall}
    (hcalls : ∀ call ∈ calls, call.findsMain main = true ∧ call.stamps = false)
    {write : StampWrite} (opened : Bool) {s t : World w} (hs : Steady main s.config)
    (htracks : Tracks crc s)
    (ht : t = (runCalls crc (opening :: calls) s).updateNxpConfigTimestamp crc main write) :
    (runCalls crc (opening :: calls) t).isNxpConfigModified crc main opened = false ↔
      opened = true ∧ (write = .written ∨ t.stamp =
        some (checksum crc ((runCalls crc (opening :: calls) t).getInstance crc
          main).history.lastFile)) := by
  have hquiet : ∀ call ∈ opening :: calls, call.stamps = false := by
    intro call hc
    rcases List.mem_cons.1 hc with rfl | hc
    · exact (findsMain_of_startsOver hopening).2
    · exact (hcalls call hc).2
  have ht' : Tracks crc t := by
    rw [ht]
    exact (htracks.run (opening :: calls)).apply (.updateNxpConfigTimestamp main write)
  have htracks' := ht'.run (opening :: calls)
  rw [isNxpConfigModified_eq_false htracks', stamp_runCalls hquiet]
  refine and_congr_right fun _ => ⟨Or.inr, ?_⟩
  rintro (rfl | hstamp)
  · have htconfig : t.config = (runCalls crc (opening :: calls) s).config.getInstance crc main := by
      rw [ht, config_updateNxpConfigTimestamp]
    rw [← (htracks'.getInstance main).config]
    have hcrc := configCrc32_of_same_calls hopening hcalls hs htconfig
    refine Eq.trans ?_ (congrArg some hcrc.symm)
    rw [ht]
    rfl
  · exact hstamp

/-- A change of the main file between the stamp and the check is seen exactly when the timestamp
file is not there or not opened, or the file whose checksum it holds and the one loaded last before
the check, main or optional, have different checksums; so it is seen when these are the main files.
Nothing is seen when no file changes and the same calls are made again, exactly when the check opens
the timestamp file, and that was written or had the checksum already. -/
theorem isNxpConfigModified_iff_lastFile (crc : List UInt8 → UInt32) :
    (∀ (calls : List ConfigCall) (main : Option (List UInt8)) (opened : Bool) (s : World w)
        (m₁ m₂ : List UInt8),
        s = runCalls crc calls .init → crc m₁ ≠ crc m₂ →
        s.history.stampedMain = some m₁ →
        (s.getInstance crc main).history.lastMain = some m₂ →
        (s.isNxpConfigModified crc main opened = true ↔
            opened = false ∨ s.stamp = none ∨
              checksum crc s.history.stampedFile ≠
                checksum crc (s.getInstance crc main).history.lastFile) ∧
          (s.history.stampedFile = some m₁ →
            (s.getInstance crc main).history.lastFile = some m₂ →
            s.isNxpConfigModified crc main opened = true)) ∧
      ∀ (before calls : List ConfigCall) (opening : ConfigCall) (main : Option (List UInt8))
        (write : StampWrite) (opened : Bool) (t : World w),
        (∀ call ∈ before, call.findsMain main = true) →
        (∀ call ∈ calls, call.findsMain main = true ∧ call.stamps = false) →
        opening.startsOver main = true →
        t = (runCalls crc (opening :: calls) (runCalls crc before .init)).updateNxpConfigTimestamp
          crc main write →
        ((runCalls crc (opening :: calls) t).isNxpConfigModified crc main opened = false ↔
          opened = true ∧ (write = .written ∨ t.stamp =
            some (checksum crc ((runCalls crc (opening :: calls) t).getInstance crc
              main).history.lastFile))) := by
  constructor
  · intro calls main opened s m₁ m₂ hs hne _ _
    have htracks : Tracks crc s := by
      rw [hs]
      exact Tracks.init.run calls
    have hiff : s.isNxpConfigModified crc main opened = true ↔ _ :=
      isNxpConfigModified_iff htracks opened
    refine ⟨hiff, fun hfirst hlast => hiff.2 (.inr (.inr ?_))⟩
    rw [hfirst, hlast]
    exact hne
  · intro before calls opening main write opened t hbefore hcalls hopening ht
    exact isNxpConfigModified_of_same_calls hopening hcalls opened (Steady.init.run hbefore)
      (Tracks.init.run before) ht

/-- A process loads a main and an optional file and stamps; the next one finds another main file. -/
def optionalFileCalls : List ConfigCall :=
  [.readOptionalConfig (some (ascii "A=1\n")) (some (ascii "B=1\n")),
    .updateNxpConfigTimestamp (some (ascii "A=1\n")) .written, .restart,
    .readOptionalConfig (some (ascii "A=2\n")) (some (ascii "B=1\n"))]

/-- The change of the main file is not seen: both checksums are those of the optional file. -/
theorem optionalFileCalls_not_modified :
    sparseCrc32 0 (ascii "A=1\n") ≠ sparseCrc32 0 (ascii "A=2\n") ∧
      (runCalls (w := 64) (sparseCrc32 0) optionalFileCalls .init).history.stampedMain =
        some (ascii "A=1\n") ∧
      ((runCalls (w := 64) (sparseCrc32 0) optionalFileCalls .init).getInstance (sparseCrc32 0)
        (some (ascii "A=2\n"))).history.lastMain = some (ascii "A=2\n") ∧
      (runCalls (w := 64) (sparseCrc32 0) optionalFileCalls .init).isNxpConfigModified
        (sparseCrc32 0) (some (ascii "A=2\n")) true = false := by
  decide +kernel

/-- Without optional files the change is seen. -/
def mainFileCalls : List ConfigCall :=
  [.getInstance (some (ascii "A=1\n")), .updateNxpConfigTimestamp (some (ascii "A=1\n")) .written,
    .restart]

/-- The change is seen; and after a stamp with nothing changed it is not, unless the timestamp file
could not be written. -/
theorem isNxpConfigModified_mainFileCalls :
    (runCalls (w := 64) (sparseCrc32 0) mainFileCalls .init).isNxpConfigModified (sparseCrc32 0)
        (some (ascii "A=2\n")) true = true ∧
      (runCalls (w := 64) (sparseCrc32 0) [.restart, .getInstance (some (ascii "A=1\n"))]
        ((runCalls (sparseCrc32 0) [.restart, .getInstance (some (ascii "A=1\n"))]
          (runCalls (sparseCrc32 0) [] .init)).updateNxpConfigTimestamp (sparseCrc32 0)
            (some (ascii "A=1\n")) .written)).isNxpConfigModified (sparseCrc32 0)
              (some (ascii "A=1\n")) true = false ∧
      (runCalls (w := 64) (sparseCrc32 0) [.restart, .getInstance (some (ascii "A=1\n"))]
        ((runCalls (sparseCrc32 0) [.restart, .getInstance (some (ascii "A=1\n"))]
          (runCalls (sparseCrc32 0) [] .init)).updateNxpConfigTimestamp (sparseCrc32 0)
            (some (ascii "A=1\n")) .notOpened)).isNxpConfigModified (sparseCrc32 0)
              (some (ascii "A=1\n")) true ≠ false := by
  have h := isNxpConfigModified_iff_lastFile (w := 64) (sparseCrc32 0)
  refine ⟨?_, ?_, ?_⟩
  · exact (h.1 mainFileCalls (some (ascii "A=2\n")) true _ (ascii "A=1\n") (ascii "A=2\n") rfl
      (by decide +kernel) (by decide +kernel) (by decide +kernel)).2 (by decide +kernel)
      (by decide +kernel)
  · exact (h.2 [] [.getInstance (some (ascii "A=1\n"))] .restart (some (ascii "A=1\n")) .written
      true _ (by simp) (by decide +kernel) rfl rfl).2 ⟨rfl, .inl rfl⟩
  · intro hsame
    obtain ⟨-, hfresh | hold⟩ := (h.2 [] [.getInstance (some (ascii "A=1\n"))] .restart
      (some (ascii "A=1\n")) .notOpened true _ (by simp) (by decide +kernel) rfl rfl).1 hsame
    · cases hfresh
    · revert hold
      decide +kernel

end AliceHal.Pn54x.Config
