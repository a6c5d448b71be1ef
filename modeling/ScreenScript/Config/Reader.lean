import ScreenScript.Config.Basic
import ScreenScript.Number.Decimal
import ScreenScript.Pattern.Class

/-!
Texts of configurations: `(field: number, ..)`, with an optional name in front, comments, and
extensions switched on at the top. A text is taken as a whole or not at all.
-/

namespace ScreenScript.Config.Reader

structure Extensions where
  /-- An optional number may be written without its wrapping. -/
  implicitSome : Bool := false
  /-- The name of the structure may not be left out. -/
  explicitNames : Bool := false

def isSpace (c : Char) : Bool :=
  let n := c.toNat
  (9 ≤ n && n ≤ 13) || n = 0x20 || n = 0x85 || n = 0x200e || n = 0x200f || n = 0x2028 || n = 0x2029

mutual

def skip : List Char → Option (List Char)
  | [] => some []
  | '/' :: '/' :: r => skipLine r
  | '/' :: '*' :: r => skipBlock 0 r
  | c :: r => if isSpace c then skip r else some (c :: r)

def skipLine : List Char → Option (List Char)
  | [] => some []
  | '\n' :: r => skip r
  | _ :: r => skipLine r

def skipBlock (depth : Nat) : List Char → Option (List Char)
  | [] => none
  | '/' :: '*' :: r => skipBlock (depth + 1) r
  | '*' :: '/' :: r => if depth = 0 then skip r else skipBlock (depth - 1) r
  | _ :: r => skipBlock depth r

end

def nameStart : Text.Ranges :=
  .ofText ((Pattern.Class.find? "xidstart" Pattern.Property.tables).getD "")

def nameRest : Text.Ranges :=
  .ofText ((Pattern.Class.find? "xidcontinue" Pattern.Property.tables).getD "")

def isRawPart (c : Char) : Bool :=
  c = '.' || c = '+' || c = '-' || nameRest.contains c

def name : List Char → Option (String × List Char)
  | 'r' :: '#' :: r =>
    let cs := r.takeWhile isRawPart
    if cs.isEmpty then none else some (String.ofList cs, r.dropWhile isRawPart)
  | c :: r =>
    if c = '_' || nameStart.contains c then
      let rest := r.dropWhile nameRest.contains
      if rest.head?.any isRawPart then none
      else some (String.ofList (c :: r.takeWhile nameRest.contains), rest)
    else none
  | [] => none

def expect (word : String) (s : List Char) : Option (List Char) :=
  if word.toList.isPrefixOf s then some (s.drop word.length) else none

def expectAll : List String → List Char → Option (List Char)
  | [], s => some s
  | w :: ws, s => do expectAll ws (← expect w (← skip s))

def comma (s : List Char) : Option (Bool × List Char) := do
  match ← skip s with
  | ',' :: r => pure (true, ← skip r)
  | r => pure (false, r)

def digitOf (base : Nat) (c : Char) : Option Nat :=
  (Text.Ranges.hexDigit? c).bind fun d => if d < base then some d else none

def digits? (base : Nat) (ds : List Char) : Option Nat :=
  ds.foldl (fun n c => do
    let n ← n
    if c = '_' then pure n
    else
      let n := base * n + (← digitOf base c)
      if n < UInt64.size then pure n else none) (some 0)

def unsigned (s : List Char) : Option (Nat × List Char) := do
  let (base, s) := match s with
    | '0' :: 'x' :: r => (16, r)
    | '0' :: 'o' :: r => (8, r)
    | '0' :: 'b' :: r => (2, r)
    | r => (10, r)
  let isPart (c : Char) : Bool := c = '_' || (Text.Ranges.hexDigit? c).isSome
  let ds := s.takeWhile isPart
  if ds.isEmpty || ds.head? = some '_' then none
  let n ← digits? base ds
  let r := s.dropWhile isPart
  let ending := r.takeWhile isRawPart
  if ending.isEmpty || ending = ['u', '6', '4'] then some (n, r.dropWhile isRawPart) else none

/-- A number of a field: of the negative ones only zero is there. -/
def number : List Char → Option (Nat × List Char)
  | '+' :: r => unsigned r
  | '-' :: r => do
    let (n, r) ← unsigned r
    if n = 0 then some (0, r) else none
  | s => unsigned s

def word (w : String) (s : List Char) : Option (List Char) :=
  (expect w s).bind fun r => if r.head?.any nameRest.contains then none else some r

def optional (x : Extensions) (s : List Char) : Option (Option Nat × List Char) :=
  let bare := if x.implicitSome then (number s).map fun (n, r) => (some n, r) else none
  match word "None" s with
  | some r => some (none, r)
  | none =>
    match (word "Some" s).bind skip with
    | some ('(' :: r) => do
      let (n, r) ← number (← skip r)
      match ← comma r with
      | (_, ')' :: r) => some (some n, r)
      | _ => none
    | _ => bare

def value (x : Extensions) (f : Field) (s : List Char) : Option (Option Nat × List Char) :=
  if f.optional then optional x s else (number s).map fun (n, r) => (some n, r)

/-- The fields up to the closing parenthesis; `more` tells whether another one may come. -/
def fields (x : Extensions) : Nat → Bool → Config → List Field → List Char →
    Option (Config × List Char)
  | 0, _, _, _, _ => none
  | fuel + 1, more, c, seen, s => do
    match ← skip s with
    | ')' :: r => some (c, r)
    | s =>
      if !more then none
      let (n, s) ← name s
      let f ← Field.ofName? n
      if seen.contains f then none
      match ← skip s with
      | ':' :: s =>
        let (v, s) ← value x f (← skip s)
        let (more, s) ← comma s
        fields x fuel more (f.set c v) (f :: seen) s
      | _ => none

def extensionNames : Nat → Extensions → List Char → Option (Extensions × List Char)
  | 0, _, _ => none
  | fuel + 1, x, s => do
    let (n, s) ← name s
    let x ← match n with
      | "implicit_some" => some { x with implicitSome := true }
      | "explicit_struct_names" => some { x with explicitNames := true }
      | "unwrap_newtypes" => some x
      | "unwrap_variant_newtypes" => some x
      | _ => none
    let (more, s) ← comma s
    if more && s.head?.any nameRest.contains then extensionNames fuel x s else some (x, s)

def extensions : Nat → Extensions → List Char → Option (Extensions × List Char)
  | 0, _, _ => none
  | fuel + 1, x, s => do
    match ← skip s with
    | '#' :: r =>
      let s ← expectAll ["!", "[", "enable", "("] r
      let (x, s) ← extensionNames s.length x (← skip s)
      extensions fuel x (← expectAll [")", "]"] s)
    | s => some (x, s)

def structName : String := "EngineConfig"

def structStart (x : Extensions) (s : List Char) : Option (List Char) :=
  match s with
  | '(' :: r => if x.explicitNames then none else some r
  | s => do
    let (n, s) ← name s
    if n != structName then none
    match ← skip s with
    | '(' :: r => some r
    | _ => none

end Reader

/-- The configuration a text describes. Each field takes a character at least. -/
def parse? (text : String) : Option Config := do
  let s := text.toList
  let (x, s) ← Reader.extensions (s.length + 1) {} s
  let s ← Reader.structStart x s
  let (c, s) ← Reader.fields x (s.length + 1) true {} [] s
  match ← Reader.skip s with
  | [] => some c
  | _ => none

inductive LoadError where
  | unreadable (path reason : String)
  /-- What is wrong with the text is the reader's to say. -/
  | malformed
  deriving DecidableEq

def LoadError.message : LoadError → String
  | unreadable path reason => "failed to read " ++ path ++ ": " ++ reason
  | malformed => "invalid engine config: malformed text"

def ofFile (path : String) (text : Except String String) : Except LoadError Config :=
  match text with
  | .ok s => match parse? s with
    | some c => .ok c
    | none => .error .malformed
  | .error reason => .error (.unreadable path reason)

end ScreenScript.Config
