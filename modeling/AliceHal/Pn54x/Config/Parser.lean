import AliceHal.Lib.SortedStore

/-!
# The Configuration Parser

The character automaton inside `CNfcConfig::readConfig` (`phNxpConfig.cpp`). A configuration file
is read byte by byte; each complete assignment gives one parameter, which the store then adds.

- `CNfcParam`: a setting, numeric or with a byte string
- `Parser.step`: one character, with every carried-over variable of the source
- `Parser.feed`: a whole text, with the parameters it adds in order

`w` is the width of `unsigned long`.
-/

namespace AliceHal.Pn54x.Config

variable {w : ℕ}

/-! ## Characters -/

/-- Whether `c` is printable. -/
def isPrintable (c : UInt8) : Bool :=
  ('A'.toUInt8 ≤ c && c ≤ 'Z'.toUInt8) || ('a'.toUInt8 ≤ c && c ≤ 'z'.toUInt8) ||
    ('0'.toUInt8 ≤ c && c ≤ '9'.toUInt8) || c == '/'.toUInt8 || c == '_'.toUInt8 ||
    c == '-'.toUInt8 || c == '.'.toUInt8

/-- Whether `c` is a digit. -/
def isDigit (c : UInt8) (base : ℕ) : Bool :=
  ('0'.toUInt8 ≤ c && c ≤ '9'.toUInt8) ||
    (base == 16 && (('A'.toUInt8 ≤ c && c ≤ 'F'.toUInt8) || ('a'.toUInt8 ≤ c && c ≤ 'f'.toUInt8)))

/-- The value of a decimal or hexadecimal digit, otherwise 0. -/
def getDigitValue (c : UInt8) (base : ℕ) : ℕ :=
  if '0'.toUInt8 ≤ c && c ≤ '9'.toUInt8 then c.toNat - '0'.toNat
  else if base == 16 then
    if 'A'.toUInt8 ≤ c && c ≤ 'F'.toUInt8 then c.toNat - 'A'.toNat + 10
    else if 'a'.toUInt8 ≤ c && c ≤ 'f'.toUInt8 then c.toNat - 'a'.toNat + 10
    else 0
  else 0

/-- The two characters that end a line. -/
def isNewline (c : UInt8) : Bool := c == '\n'.toUInt8 || c == '\r'.toUInt8

/-- What is skipped between braces. -/
def isBlank (c : UInt8) : Bool := c == ' '.toUInt8 || isNewline c || c == '\t'.toUInt8

/-- What ends a group of hexadecimal digits. -/
def isSeparator (c : UInt8) : Bool :=
  c == ','.toUInt8 || c == ':'.toUInt8 || c == '-'.toUInt8 || c == ' '.toUInt8 ||
    c == '}'.toUInt8

/-- The bytes of an ASCII text. -/
def ascii (s : String) : List UInt8 := s.toList.map Char.toUInt8

/-! ## Parameters -/

/-- A setting. The class derives from the string of its name. -/
structure CNfcParam (w : ℕ) where
  name : List UInt8
  strValue : List UInt8
  numValue : BitVec w
  deriving DecidableEq, Repr

/-- The C string in a buffer. -/
def cStr (s : List UInt8) : List UInt8 := s.takeWhile (· != 0)

/-- The constructor for a string value. -/
def CNfcParam.ofString (name value : List UInt8) : CNfcParam w := ⟨cStr name, value, 0⟩

/-- The constructor for a number. -/
def CNfcParam.ofNumber (name : List UInt8) (value : BitVec w) : CNfcParam w :=
  ⟨cStr name, [], value⟩

/-! ## The automaton -/

/-- The states of the automaton, without the flag `IsStringValue`. -/
inductive Phase where
  | beginLine
  | token
  | strValue
  | numValue
  | beginHex
  | beginQuote
  | endLine
  deriving DecidableEq, Repr

/-- The local variables of `readConfig`, all of them carried over from one line to the next. -/
structure Parser (w : ℕ) where
  phase : Phase
  /-- the flag that `Set(IsStringValue)` sets in `state` -/
  isStringValue : Bool
  token : List UInt8
  strValue : List UInt8
  numValue : BitVec w
  i : ℕ
  base : ℕ
  bflag : Bool
  deriving DecidableEq, Repr

namespace Parser

/-- At the start of a file. -/
def init : Parser w := ⟨.beginLine, false, [], [], 0, 0, 0, false⟩

/-- An assignment to `state`, which drops the flag. -/
def goto (p : Parser w) (phase : Phase) : Parser w :=
  { p with phase := phase, isStringValue := false }

/-- `numValue & 0xFF`. -/
def lowByte (v : BitVec w) : UInt8 := UInt8.ofNat v.toNat

/-- The bytes of a group inside a byte list: each round shifts what the round before left. -/
def shiftedBytes : ℕ → BitVec w → List UInt8
  | 0, _ => []
  | n + 1, v => lowByte (v >>> (n * 8)) :: shiftedBytes n (v >>> (n * 8))

/-- The bytes of the last group. -/
def tailBytes : ℕ → BitVec w → List UInt8
  | 0, _ => []
  | n + 1, v => lowByte (v >>> (n * 8)) :: tailBytes n v

/-- The case `BEGIN_LINE`. -/
def beginLineStep (p : Parser w) (c : UInt8) : Parser w :=
  if c == '#'.toUInt8 then p.goto .endLine
  else if isPrintable c then { p.goto .token with i := 0, token := [c], strValue := [] }
  else p

/-- The case `TOKEN`. -/
def tokenStep (p : Parser w) (c : UInt8) : Parser w :=
  if c == '='.toUInt8 then { p.goto .beginQuote with token := p.token ++ [0] }
  else if isPrintable c then { p with token := p.token ++ [c] }
  else p.goto .endLine

/-- The case `BEGIN_QUOTE`. The number of an earlier line stays in `numValue` on `{`. -/
def beginQuoteStep (p : Parser w) (c : UInt8) : Parser w :=
  if c == '"'.toUInt8 then { p.goto .strValue with base := 0 }
  else if c == '0'.toUInt8 then p.goto .beginHex
  else if isDigit c 10 then
    { p.goto .numValue with base := 10, numValue := BitVec.ofNat w (getDigitValue c 10), i := 0 }
  else if c == '\x7b'.toUInt8 then
    { p with phase := .numValue, isStringValue := true, bflag := true, base := 16, i := 0 }
  else p.goto .endLine

/-- The case `NUM_VALUE`. -/
def numStep (p : Parser w) (c : UInt8) : Parser w × Option (CNfcParam w) :=
  if isDigit c p.base then
    ({ p with numValue := p.numValue * BitVec.ofNat w p.base + BitVec.ofNat w (getDigitValue c p.base)
              i := p.i + 1 }, none)
  else if p.bflag && isBlank c then (p, none)
  else if p.base == 16 && isSeparator c then
    ({ p with bflag := p.bflag && c != '\x7d'.toUInt8
              strValue :=
                if 0 < p.i then p.strValue ++ shiftedBytes ((p.i + 1) / 2) p.numValue
                else p.strValue
              isStringValue := true
              numValue := 0
              i := 0 }, none)
  else
    -- an open brace keeps the state, and with it the flag
    let q := if p.bflag then p else p.goto (if isNewline c then .beginLine else .endLine)
    let strValue :=
      if q.isStringValue && q.base == 16 && 0 < q.i then
        q.strValue ++ tailBytes ((q.i + 1) / 2) q.numValue
      else q.strValue
    ({ q with strValue := [], numValue := 0 },
      some (if 0 < strValue.length then .ofString q.token strValue
        else .ofNumber q.token q.numValue))

/-- The case `BEGIN_HEX`. A single `0` at the end of a line falls through to `NUM_VALUE`, with the
base of an earlier line. -/
def beginHexStep (p : Parser w) (c : UInt8) : Parser w × Option (CNfcParam w) :=
  if c == 'x'.toUInt8 || c == 'X'.toUInt8 then
    ({ p.goto .numValue with base := 16, numValue := 0, i := 0 }, none)
  else if isDigit c 10 then
    ({ p.goto .numValue with base := 10, numValue := BitVec.ofNat w (getDigitValue c 10) }, none)
  else if !isNewline c then (p.goto .endLine, none)
  else p.numStep c

/-- The case `STR_VALUE`. -/
def strValueStep (p : Parser w) (c : UInt8) : Parser w × Option (CNfcParam w) :=
  if c == '"'.toUInt8 then
    ({ p.goto .endLine with strValue := p.strValue ++ [0] },
      some (.ofString p.token (p.strValue ++ [0])))
  else if isPrintable c then ({ p with strValue := p.strValue ++ [c] }, none)
  else (p, none)

/-- The case `END_LINE`. -/
def endLineStep (p : Parser w) (c : UInt8) : Parser w :=
  if isNewline c then p.goto .beginLine else p

/-- One character: the next state of the automaton and the parameter added, if any. -/
def step (p : Parser w) (c : UInt8) : Parser w × Option (CNfcParam w) :=
  match p.phase with
  | .beginLine => (p.beginLineStep c, none)
  | .token => (p.tokenStep c, none)
  | .beginQuote => (p.beginQuoteStep c, none)
  | .beginHex => p.beginHexStep c
  | .numValue => p.numStep c
  | .strValue => p.strValueStep c
  | .endLine => (p.endLineStep c, none)

/-- A text: the automaton after it and the parameters added, first to last. -/
def feed (p : Parser w) : List UInt8 → Parser w × List (CNfcParam w)
  | [] => (p, [])
  | c :: text =>
    let (q, added) := p.step c
    let (r, rest) := q.feed text
    (r, added.toList ++ rest)

end Parser

/-- The parameters that a file's contents add. -/
def parse (w : ℕ) (text : List UInt8) : List (CNfcParam w) := ((Parser.init : Parser w).feed text).2

end AliceHal.Pn54x.Config
