import ScreenScript.Json.Numeral
import ScreenScript.Text.Ranges

/-!
JSON texts as they are written: numerals keep their digits, objects keep repeated keys in order, and
nesting has no limit. What a text means is decided by those who read this tree.
-/

namespace ScreenScript.Json

/-- A string literal is `none` when one of its escapes leaves half of a surrogate pair alone. -/
inductive Written where
  | null
  | bool (b : Bool)
  | number (n : Numeral)
  | string (s : Option String)
  | array (items : List Written)
  | object (members : List (Option String × Written))

namespace Written

/-- A step inside a string literal: a character, or half of a surrogate pair. -/
inductive CodeUnit where
  | scalar (c : Char)
  | half (n : Nat)

def CodeUnit.ofNat (n : Nat) : CodeUnit :=
  if 0xd800 ≤ n ∧ n < 0xe000 then .half n else .scalar (Char.ofNat n)

def joinUnits : List CodeUnit → Option (List Char)
  | [] => some []
  | .scalar c :: r => (joinUnits r).map (c :: ·)
  | .half a :: .half b :: r =>
    if a < 0xdc00 ∧ 0xdc00 ≤ b then
      (joinUnits r).map (Char.ofNat (0x10000 + (a - 0xd800) * 0x400 + (b - 0xdc00)) :: ·)
    else none
  | .half _ :: _ => none

def hex4? (a b c d : Char) : Option Nat := do
  let a ← Text.Ranges.hexDigit? a
  let b ← Text.Ranges.hexDigit? b
  let c ← Text.Ranges.hexDigit? c
  let d ← Text.Ranges.hexDigit? d
  pure (((a * 16 + b) * 16 + c) * 16 + d)

def simpleEscape? (c : Char) : Option Char :=
  if c = '"' then some '"'
  else if c = '\\' then some '\\'
  else if c = '/' then some '/'
  else if c = 'b' then some '\x08'
  else if c = 'f' then some '\x0c'
  else if c = 'n' then some '\n'
  else if c = 'r' then some '\r'
  else if c = 't' then some '\t'
  else none

def readUnits : List Char → Option (List CodeUnit × List Char)
  | [] => none
  | '"' :: r => some ([], r)
  | '\\' :: 'u' :: a :: b :: c :: d :: r => do
    let n ← hex4? a b c d
    let (us, rest) ← readUnits r
    pure (.ofNat n :: us, rest)
  | '\\' :: e :: r => do
    let c ← simpleEscape? e
    let (us, rest) ← readUnits r
    pure (.scalar c :: us, rest)
  | c :: r =>
    if c = '\\' ∨ c.toNat < 0x20 then none
    else do
      let (us, rest) ← readUnits r
      pure (.scalar c :: us, rest)

def readLiteral (s : List Char) : Option (Option String × List Char) :=
  (readUnits s).map fun (us, rest) => ((joinUnits us).map String.ofList, rest)

def skipSpace (s : List Char) : List Char :=
  s.dropWhile fun c => c = ' ' || c = '\t' || c = '\n' || c = '\r'

def readDigits (s : List Char) : Option (List Char × List Char) :=
  let ds := s.takeWhile Decimal.isDigit
  if ds.isEmpty then none else some (ds, s.dropWhile Decimal.isDigit)

def readExponent : List Char → Option (Option (Bool × List Char) × List Char)
  | c :: r =>
    if c = 'e' ∨ c = 'E' then
      match r with
      | '-' :: r => (readDigits r).map fun (ds, rest) => (some (true, ds), rest)
      | '+' :: r => (readDigits r).map fun (ds, rest) => (some (false, ds), rest)
      | r => (readDigits r).map fun (ds, rest) => (some (false, ds), rest)
    else some (none, c :: r)
  | [] => some (none, [])

def readFraction : List Char → Option (Option (List Char) × List Char)
  | '.' :: r => (readDigits r).map fun (ds, rest) => (some ds, rest)
  | s => some (none, s)

/-- No zero may lead a longer run of digits. -/
def readWhole (s : List Char) : Option (List Char × List Char) :=
  match readDigits s with
  | some ('0' :: _ :: _, _) => none
  | r => r

def readNumeral (negative : Bool) (s : List Char) : Option (Written × List Char) := do
  let (whole, s) ← readWhole s
  let (fraction, s) ← readFraction s
  let (exponent, s) ← readExponent s
  pure (.number ⟨negative, whole, fraction, exponent⟩, s)

def expect (word : List Char) (w : Written) (s : List Char) : Option (Written × List Char) :=
  if word.isPrefixOf s then some (w, s.drop word.length) else none

mutual

/-- Reads one value after leading space. Each call spends one unit of fuel. -/
def readValue : Nat → List Char → Option (Written × List Char)
  | 0, _ => none
  | fuel + 1, s =>
    match skipSpace s with
    | [] => none
    | '"' :: r => (readLiteral r).map fun (t, rest) => (.string t, rest)
    | '[' :: r =>
      match skipSpace r with
      | ']' :: r => some (.array [], r)
      | r => (readItems fuel r).map fun (ws, rest) => (.array ws, rest)
    | '\x7b' :: r =>
      match skipSpace r with
      | '\x7d' :: r => some (.object [], r)
      | r => (readMembers fuel r).map fun (ms, rest) => (.object ms, rest)
    | '-' :: r => readNumeral true r
    | 't' :: r => expect "rue".toList (.bool true) r
    | 'f' :: r => expect "alse".toList (.bool false) r
    | 'n' :: r => expect "ull".toList .null r
    | s => readNumeral false s

def readItems : Nat → List Char → Option (List Written × List Char)
  | 0, _ => none
  | fuel + 1, s => do
    let (w, s) ← readValue fuel s
    match skipSpace s with
    | ',' :: r => (readItems fuel r).map fun (ws, rest) => (w :: ws, rest)
    | ']' :: r => some ([w], r)
    | _ => none

def readMembers : Nat → List Char → Option (List (Option String × Written) × List Char)
  | 0, _ => none
  | fuel + 1, s =>
    match skipSpace s with
    | '"' :: r => do
      let (key, s) ← readLiteral r
      match skipSpace s with
      | ':' :: s => do
        let (w, s) ← readValue fuel s
        match skipSpace s with
        | ',' :: r => (readMembers fuel r).map fun (ms, rest) => ((key, w) :: ms, rest)
        | '\x7d' :: r => some ([(key, w)], r)
        | _ => none
      | _ => none
    | _ => none

end

/-- Reads a whole text. Between two units of fuel spent on the same depth a character goes. -/
def parse? (s : String) : Option Written :=
  let cs := s.toList
  match readValue (2 * cs.length + 2) cs with
  | some (w, rest) => if (skipSpace rest).isEmpty then some w else none
  | none => none

end Written

end ScreenScript.Json
