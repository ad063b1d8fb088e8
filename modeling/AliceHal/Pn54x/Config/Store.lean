import AliceHal.Lib.Bytes
import AliceHal.Pn54x.Config.Parser

/-!
# The Configuration Store

The singleton `CNfcConfig` of `phNxpConfig.cpp`: a sorted array of parameters, the list they are
merged in while a file is read, and the checksum of the file read last. A file is its contents, or
`none` where it cannot be opened; `crc` stands for `sparse_crc32(0, …)`.

- `readConfig`, `getInstance`, `clean`: loading
- `find` and the lookups of the C interface
-/

namespace AliceHal.Pn54x.Config

variable {w : ℕ}

/-- The configuration. The member `state` is set at the start of every load, and is part of
`Parser`. -/
structure CNfcConfig (w : ℕ) where
  /-- the array that the class derives from -/
  params : List (CNfcParam w)
  mList : List (CNfcParam w)
  mValidFile : Bool
  configCrc32 : UInt32
  deriving DecidableEq, Repr

namespace CNfcConfig

/-- The static object, before any load. -/
def init : CNfcConfig w := ⟨[], [], true, 0⟩

/-! ## Merging -/

/-- The place that `add` searches in the list: before the first name that is not smaller. -/
def addTo (param : CNfcParam w) : List (CNfcParam w) → List (CNfcParam w)
  | [] => [param]
  | it :: rest => if it.name < param.name then it :: addTo param rest else param :: it :: rest

/-- Add a setting to the list. -/
def add (self : CNfcConfig w) (param : CNfcParam w) : CNfcConfig w :=
  { self with mList := addTo param self.mList }

/-- Move the settings from the list to the array. -/
def moveFromList (self : CNfcConfig w) : CNfcConfig w :=
  { self with params := self.params ++ self.mList, mList := [] }

/-- Move the settings from the array to the list. -/
def moveToList (self : CNfcConfig w) : CNfcConfig w :=
  { self with params := [], mList := self.params }

/-- Reset the array. -/
def clean (self : CNfcConfig w) : CNfcConfig w := { self with params := [] }

/-! ## Loading -/

/-- The contents of a file. `fread` of an empty file reads no member, so that one counts as
unreadable. -/
def readConfigFile : Option (List UInt8) → Option (List UInt8)
  | some (c :: text) => some (c :: text)
  | _ => none

/-- Read a file and merge its settings. -/
def readConfig (crc : List UInt8 → UInt32) (self : CNfcConfig w) (file : Option (List UInt8))
    (bResetContent : Bool) : CNfcConfig w × Bool :=
  match readConfigFile file with
  | none =>
    (if bResetContent then { self with mValidFile := false } else self, false)
  | some text =>
    let self := { self with configCrc32 := crc text, mValidFile := true }
    let self :=
      if 0 < self.params.length then
        if bResetContent then self.clean else self.moveToList
      else self
    let self := ((parse w text).foldl add self).moveFromList
    (self, 0 < self.params.length)

/-- The singleton, which reads the main file while it is empty. -/
def getInstance (crc : List UInt8 → UInt32) (main : Option (List UInt8)) (self : CNfcConfig w) :
    CNfcConfig w :=
  if self.params.length == 0 && self.mValidFile then (self.readConfig crc main true).1 else self

/-- Merge an optional file. -/
def readOptionalConfig (crc : List UInt8 → UInt32) (main extra : Option (List UInt8))
    (self : CNfcConfig w) : CNfcConfig w :=
  ((self.getInstance crc main).readConfig crc extra false).1

/-- Reset the settings array. -/
def resetNxpConfig (crc : List UInt8 → UInt32) (main : Option (List UInt8))
    (self : CNfcConfig w) : CNfcConfig w :=
  (self.getInstance crc main).clean

/-! ## Lookups -/

/-- The scan of `find`, which ends at the first greater name. -/
def findIn (name : List UInt8) : List (CNfcParam w) → Option (CNfcParam w)
  | [] => none
  | it :: rest =>
    if it.name < name then findIn name rest else if it.name = name then some it else none

/-- Search a setting. -/
def find (self : CNfcConfig w) (name : List UInt8) : Option (CNfcParam w) :=
  findIn name self.params

/-- `getValue` for a string: the bytes stored at `pValue` by `memset` and `memcpy`, in the order of
their addresses, or `none` where the setting does not exist. -/
def getStrValue (self : CNfcConfig w) (name : List UInt8) (len : ℕ) : Option (List UInt8) :=
  (self.find name).bind fun param =>
    if 0 < param.strValue.length then
      some (Lib.store (List.replicate len 0) 0 param.strValue)
    else none

/-- `getValue` for a byte array: the bytes stored at `pValue` and the length read. -/
def getByteArrayValue (self : CNfcConfig w) (name : List UInt8) (len : BitVec w) :
    Option (List UInt8 × ℤ) :=
  (self.find name).bind fun param =>
    if 0 < param.strValue.length then
      if param.strValue.length ≤ len.toNat then
        some (Lib.store (List.replicate len.toNat 0) 0 param.strValue, param.strValue.length)
      else some ([], -1)
    else none

/-- A short byte string taken as a number, first byte highest. -/
def numberOfBytes (v : BitVec w) (bytes : List UInt8) : BitVec w :=
  bytes.foldl (fun v b => v * 256 + BitVec.ofNat w b.toNat) v

/-- The number stored at `pValue`, `len` bytes wide. -/
def getNumValue (self : CNfcConfig w) (name : List UInt8) (len : ℕ) : Option ℕ :=
  (self.find name).bind fun param =>
    let v :=
      if param.numValue = 0 ∧ 0 < param.strValue.length ∧ param.strValue.length < 4 then
        numberOfBytes param.numValue param.strValue
      else param.numValue
    if len = w / 8 then some v.toNat
    else if len = 2 then some (v.toNat % 2 ^ 16)
    else if len = 1 then some (v.toNat % 2 ^ 8)
    else none

/-! ## The C interface -/

def getNxpStrValue (crc : List UInt8 → UInt32) (main : Option (List UInt8)) (self : CNfcConfig w)
    (name : List UInt8) (len : ℕ) : Option (List UInt8) :=
  (self.getInstance crc main).getStrValue name len

def getNxpByteArrayValue (crc : List UInt8 → UInt32) (main : Option (List UInt8))
    (self : CNfcConfig w) (name : List UInt8) (bufflen : BitVec w) : Option (List UInt8 × ℤ) :=
  (self.getInstance crc main).getByteArrayValue name bufflen

def getNxpNumValue (crc : List UInt8 → UInt32) (main : Option (List UInt8)) (self : CNfcConfig w)
    (name : List UInt8) (len : ℕ) : Option ℕ :=
  (self.getInstance crc main).getNumValue name len

end CNfcConfig

end AliceHal.Pn54x.Config
