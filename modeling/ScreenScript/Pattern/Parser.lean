import ScreenScript.Pattern.Basic
import ScreenScript.Number.Decimal

/-!
Reading regular expressions. There is no look-around and no reference back to a group; a nesting
that is too deep and an expression that is too large are refused.
-/

namespace ScreenScript.Pattern

/-- Modes that `(?ims-x)` turns on and off. -/
structure Modes where
  ignoreCase : Bool := false
  multiLine : Bool := false
  dotAll : Bool := false
  unicode : Bool := true
  spaced : Bool := false
  crlf : Bool := false

/-- An expression with the depth of its nesting and an estimate of the room it takes. -/
structure Part where
  expr : Expr
  depth : Nat
  room : Nat

/-- One item of a sequence: mode settings cannot be repeated. -/
inductive Item where
  | part (p : Part)
  | setting

namespace Part

def maxDepth : Nat := 250

def maxRoom : Nat := 10485760

def step : Nat := 32

def empty : Part := ⟨.empty, 0, step⟩

def sequence : List Part → Part
  | [] => empty
  | [p] => p
  | ps => ⟨ps.foldr (fun p e => .seq p.expr e) .empty, ps.foldl (fun d p => max d p.depth) 0 + 1,
      ps.foldl (fun n p => n + p.room) 0⟩

def alternatives : List Part → Part
  | [] => empty
  | [p] => p
  | p :: ps => ⟨ps.foldl (fun e q => .alt e q.expr) p.expr,
      (p :: ps).foldl (fun d p => max d p.depth) 0 + 1,
      (p :: ps).foldl (fun n p => n + p.room) step⟩

def group (p : Part) : Part := { p with depth := p.depth + 1 }

def repeated (p : Part) (lo : Nat) (hi : Option Nat) : Part :=
  ⟨.repeat p.expr lo hi, p.depth + 1, step + p.room * max 1 (hi.getD lo)⟩

def acceptable (p : Part) : Bool :=
  p.depth ≤ maxDepth && p.room ≤ maxRoom

end Part

namespace Parser

inductive Escape where
  | literal (c : Char)
  | set (c : Class)
  | anchor (a : Anchor)

def isMeta (c : Char) : Bool :=
  "\\.+*?()|[]\x7b\x7d^$#&-~".toList.contains c

/-- ASCII characters that may follow a backslash to stand for themselves. -/
def isEscapable (c : Char) : Bool :=
  isMeta c || (c.toNat < 0x80 && !c.isAlphanum && c != '<' && c != '>')

def skipSpaced (m : Modes) : List Char → List Char
  | [] => []
  | c :: r =>
    if !m.spaced then c :: r
    else if Text.isBlank c then skipSpaced m r
    else if c = '#' then skipComment m r
    else c :: r
where
  skipComment (m : Modes) : List Char → List Char
    | [] => []
    | '\n' :: r => skipSpaced m r
    | _ :: r => skipComment m r

def scalar? (n : Nat) : Option Char :=
  if n < 0xd800 ∨ (0xe000 ≤ n ∧ n < 0x110000) then some (Char.ofNat n) else none

def hexValue? (ds : List Char) : Option Nat :=
  ds.foldl (fun n c => do pure (16 * (← n) + (← Text.Ranges.hexDigit? c))) (some 0)

def readHex (width : Nat) : List Char → Option (Char × List Char)
  | '\x7b' :: r =>
    let ds := r.takeWhile (· != '\x7d')
    match r.dropWhile (· != '\x7d') with
    | _ :: rest => if ds.isEmpty then none else do pure (← scalar? (← hexValue? ds), rest)
    | [] => none
  | s =>
    if s.length < width then none
    else do pure (← scalar? (← hexValue? (s.take width)), s.drop width)

/-- Two digits without braces stand for a byte where the tables of the character standard are off, and
not every byte is a character. -/
def readByte (m : Modes) (s : List Char) : Option (Char × List Char) :=
  match s with
  | '\x7b' :: _ => readHex 2 s
  | _ => (readHex 2 s).filter fun (c, _) => m.unicode || c.toNat < 0x80

def splitAt? (sep : List Char) : List Char → Option (List Char × List Char)
  | [] => none
  | c :: r =>
    if sep.isPrefixOf (c :: r) then some ([], (c :: r).drop sep.length)
    else (splitAt? sep r).map fun (a, b) => (c :: a, b)

/-- The set that the text between the braces of `\p` names, and whether it is to be inverted. -/
def propertySet? (s : List Char) : Option (Bool × Class) :=
  let valued (invert : Bool) (k v : List Char) : Option (Bool × Class) :=
    (Class.valued? (Class.looseName k) (Class.looseName v)).map fun c => (invert, c)
  match splitAt? ['!', '='] s with
  | some (k, v) => valued true k v
  | none =>
    match splitAt? [':'] s with
    | some (k, v) => valued false k v
    | none =>
      match splitAt? ['='] s with
      | some (k, v) => valued false k v
      | none => (Class.named? (Class.looseName s)).map fun c => (false, c)

def readProperty (m : Modes) (negated : Bool) (s : List Char) : Option (Class × List Char) :=
  let finish (invert : Bool) (c : Class) := (Class.complementIf (negated != invert)
    (Class.foldedIf m.ignoreCase c))
  if !m.unicode then none
  else match s with
  | [] => none
  | '\\' :: _ => none
  | '\x7b' :: r =>
    let name := r.takeWhile (· != '\x7d')
    match r.dropWhile (· != '\x7d') with
    | _ :: rest => (propertySet? name).map fun (invert, c) => (finish invert c, rest)
    | [] => none
  | c :: r => (Class.category? (Class.looseName [c])).map fun a => (finish false a, r)

def shorthand (m : Modes) (c : Char) : Option Class :=
  let pick (a b : Class) := if m.unicode then a else b
  match c with
  | 'd' => some (pick .digit Class.asciiDigit)
  | 's' => some (pick .blank Class.asciiBlank)
  | 'w' => some (pick .word Class.asciiWord)
  | 'D' => if m.unicode then some (.complement .digit) else none
  | 'S' => if m.unicode then some (.complement .blank) else none
  | 'W' => if m.unicode then some (.complement .word) else none
  | _ => none

def control? (c : Char) : Option Char :=
  match c with
  | 'a' => some '\x07'
  | 'f' => some '\x0c'
  | 't' => some '\t'
  | 'n' => some '\n'
  | 'r' => some '\r'
  | 'v' => some '\x0b'
  | _ => none

/-- After `\b`: a word in braces may narrow the edge. -/
def readWordEdge (s : List Char) : Option (Anchor × List Char) :=
  match s with
  | '\x7b' :: c :: r =>
    if c.isAlpha ∨ c = '-' then
      let name := String.ofList ((c :: r).takeWhile (· != '\x7d'))
      match (c :: r).dropWhile (· != '\x7d') with
      | [] => none
      | _ :: rest =>
        match name with
        | "start" => some (.wordStart, rest)
        | "end" => some (.wordEnd, rest)
        | "start-half" => some (.wordStartHalf, rest)
        | "end-half" => some (.wordEndHalf, rest)
        | _ => none
    else some (.wordEdge, s)
  | ['\x7b'] => none
  | _ => some (.wordEdge, s)

def readEscape (m : Modes) : List Char → Option (Escape × List Char)
  | [] => none
  | c :: r =>
    if c = 'x' then (readByte m r).map fun (c, r) => (.literal c, r)
    else if c = 'u' then (readHex 4 r).map fun (c, r) => (.literal c, r)
    else if c = 'U' then (readHex 8 r).map fun (c, r) => (.literal c, r)
    else if c = 'p' ∨ c = 'P' then (readProperty m (c = 'P') r).map fun (c, r) => (.set c, r)
    else if "dDsSwW".toList.contains c then (shorthand m c).map fun a => (.set a, r)
    else if isEscapable c then some (.literal c, r)
    else match control? c with
    | some c => some (.literal c, r)
    | none =>
      match c with
      | 'A' => some (.anchor .textStart, r)
      | 'z' => some (.anchor .textEnd, r)
      | 'B' => some (.anchor .noWordEdge, r)
      | '<' => some (.anchor .wordStart, r)
      | '>' => some (.anchor .wordEnd, r)
      | 'b' => (readWordEdge r).map fun (a, r) => (.anchor a, r)
      | _ => none

def readClassItem (m : Modes) : List Char → Option (Escape × List Char)
  | [] => none
  | '\\' :: r => readEscape m r
  | c :: r => some (.literal c, r)

def readClassRange (m : Modes) (s : List Char) : Option (Class × List Char) := do
  let (first, r) ← readClassItem m s
  let single : Option Class := match first with
    | .literal c => if m.unicode || c.toNat < 0x80 then some (.char c) else none
    | .set a => some a
    | .anchor _ => none
  let r := skipSpaced m r
  let plain := do pure (← single, r)
  match r with
  | [] => none
  | '-' :: r' =>
    match skipSpaced m r' with
    | [] => none
    | ']' :: _ => plain
    | '-' :: _ => plain
    | r'' => do
      let (last, rest) ← readClassItem m r''
      match first, last with
      | .literal a, .literal b =>
        if a.toNat ≤ b.toNat && (m.unicode || b.toNat < 0x80) then
          some (.range a.toNat b.toNat, rest)
        else none
      | _, _ => none
  | _ => plain

def readAsciiClass (s : List Char) : Option ((Bool × Class) × List Char) :=
  match s with
  | '[' :: ':' :: r =>
    let (negated, r) := match r with
      | '^' :: r => (true, r)
      | r => (false, r)
    let name := String.ofList (r.takeWhile (· != ':'))
    match r.dropWhile (· != ':') with
    | ':' :: ']' :: rest => (Class.ascii? name).map fun c => ((negated, c), rest)
    | _ => none
  | _ => none

def folded (m : Modes) (c : Class) : Class :=
  if m.unicode then Class.foldedIf m.ignoreCase c
  else if m.ignoreCase then .inter (.range 0 0x7f) (.folded c) else c

/-- A set that may be inverted. Where the tables are off that would be a set of bytes. -/
def finished? (m : Modes) (negated : Bool) (c : Class) : Option Class :=
  if negated && !m.unicode then none else some (Class.complementIf negated (folded m c))

def combine (m : Modes) (op : Option (Char × Class)) (c : Class) : Class :=
  match op with
  | none => c
  | some (o, a) =>
    let a := folded m a
    let c := folded m c
    if o = '&' then .inter a c else if o = '-' then Class.difference a c else Class.symmetric a c

def leadingHyphens (m : Modes) : Nat → List Char → List Char × List Char
  | fuel + 1, '-' :: r =>
    let (hs, rest) := leadingHyphens m fuel (skipSpaced m r)
    ('-' :: hs, rest)
  | _, s => ([], s)

mutual

def readBrackets (m : Modes) : Nat → List Char → Option ((Class × Nat) × List Char)
  | 0, _ => none
  | fuel + 1, s =>
    let (negated, s) := match skipSpaced m s with
      | '^' :: r => (true, skipSpaced m r)
      | r => (false, r)
    let (hyphens, s) := leadingHyphens m s.length s
    let (start, s) := match hyphens, s with
      | [], ']' :: r => (Class.char ']', r)
      | [], r => (Class.none, r)
      | _ :: _, r => (Class.char '-', r)
    (readClassBody m fuel none start 1 s).bind fun ((c, d), r) =>
      (finished? m negated c).map fun c => ((c, d), r)

def readClassBody (m : Modes) :
    Nat → Option (Char × Class) → Class → Nat → List Char → Option ((Class × Nat) × List Char)
  | 0, _, _, _, _ => none
  | fuel + 1, op, acc, depth, s =>
    match skipSpaced m s with
    | [] => none
    | ']' :: r => some ((combine m op acc, depth), r)
    | '&' :: '&' :: r => readClassBody m fuel (some ('&', combine m op acc)) .none depth r
    | '-' :: '-' :: r => readClassBody m fuel (some ('-', combine m op acc)) .none depth r
    | '~' :: '~' :: r => readClassBody m fuel (some ('~', combine m op acc)) .none depth r
    | '[' :: r =>
      match readAsciiClass ('[' :: r) with
      | some ((negated, c), r) => do
        let c ← finished? m negated c
        readClassBody m fuel op (.union acc c) depth r
      | none => do
        let ((c, d), r) ← readBrackets m fuel r
        readClassBody m fuel op (.union acc c) (max depth (d + 1)) r
    | s => do
      let (c, r) ← readClassRange m s
      readClassBody m fuel op (.union acc c) depth r

end

def readCount (s : List Char) : Option (Nat × List Char) :=
  let s := s.dropWhile Text.isBlank
  let ds := s.takeWhile Decimal.isDigit
  let n := Decimal.value ds
  if ds.isEmpty ∨ UInt32.size ≤ n then none
  else some (n, (s.dropWhile Decimal.isDigit).dropWhile Text.isBlank)

def readCounts (m : Modes) (s : List Char) : Option ((Nat × Option Nat) × List Char) := do
  let (lo, r) ← readCount (skipSpaced m s)
  let (bounds, r) ← match r with
    | ',' :: r =>
      match skipSpaced m r with
      | '\x7d' :: r => some ((lo, none), '\x7d' :: r)
      | r => (readCount r).map fun (hi, r) => ((lo, some hi), r)
    | r => some ((lo, some lo), r)
  match r with
  | '\x7d' :: r =>
    if bounds.2.any (· < lo) then none
    else
      let r := skipSpaced m r
      some (bounds, match r with
        | '?' :: r => r
        | r => r)
  | _ => none

def setMode (on : Bool) (m : Modes) (c : Char) : Option Modes :=
  match c with
  | 'i' => some { m with ignoreCase := on }
  | 'm' => some { m with multiLine := on }
  | 's' => some { m with dotAll := on }
  | 'U' => some m
  | 'u' => some { m with unicode := on }
  | 'R' => some { m with crlf := on }
  | 'x' => some { m with spaced := on }
  | _ => none

/-- Reads mode letters up to a colon or a parenthesis. No letter may come twice, nor the hyphen, and
the hyphen may not come last. -/
def readModes (seen : List Char) (on : Bool) (m : Modes) :
    List Char → Option ((Modes × List Char) × List Char)
  | [] => none
  | c :: r =>
    if c = ':' ∨ c = ')' then
      if seen.getLast? = some '-' then none else some ((m, seen), c :: r)
    else if seen.contains c then none
    else if c = '-' then readModes (seen ++ [c]) false m r
    else do readModes (seen ++ [c]) on (← setMode on m c) r

def readName (s : List Char) : Option (String × List Char) :=
  let isStart (c : Char) : Bool :=
    c = '_' || (((Class.find? "alphabetic" Property.tables).map Text.Ranges.ofText).getD #[]).contains c
  let isPart (c : Char) : Bool :=
    isStart c || c = '.' || c = '[' || c = ']' || Class.digit.contains c
  let name := s.takeWhile (· != '>')
  match s.dropWhile (· != '>'), name with
  | _ :: rest, c :: cs => if isStart c && cs.all isPart then some (String.ofList name, rest) else none
  | _, _ => none

def dot (m : Modes) : Option Class :=
  if !m.unicode then none
  else if m.dotAll then some .any
  else if m.crlf then some (.complement (Class.ofChars ['\r', '\n']))
  else some (.complement (.char '\n'))

def roomOf (c : Class) : Nat :=
  match c with
  | .range lo hi => if lo = hi ∧ lo < 0x80 then Part.step else 2 * Part.step
  | .table t => Part.step * t.size
  | .complement (.table t) => Part.step * t.size
  | _ => 4 * Part.step

def charsPart (c : Class) (depth : Nat) : Part := ⟨.chars c, depth, roomOf c⟩

def literalPart (m : Modes) (c : Char) : Part :=
  charsPart (if m.unicode || c.toNat < 0x80 then folded m (.char c) else .char c) 0

def anchorPart (m : Modes) (a : Anchor) : Part :=
  ⟨.anchor a (if m.unicode then .word else .asciiWord), 0, Part.step⟩

def repeatLast (items : List Item) (lo : Nat) (hi : Option Nat) : Option (List Item) :=
  match items with
  | .part p :: r =>
    let q := p.repeated lo hi
    if q.acceptable then some (.part q :: r) else none
  | _ => none

def close (items : List Item) : Part :=
  .sequence (items.reverse.filterMap fun
    | .part p => some p
    | .setting => none)

/-- Skips the mark of a reluctant repetition, which changes no verdict. -/
def skipReluctant : List Char → List Char
  | '?' :: r => r
  | s => s

structure Scope where
  names : List String := []
  modes : Modes := {}

mutual

/-- Reads alternatives up to a closing parenthesis or the end: `alts` are the ones before, `items`
the items of the current one, each last first. -/
def readExpr : Nat → Scope → List Part → List Item → List Char → Option ((Part × Scope) × List Char)
  | 0, _, _, _, _ => none
  | fuel + 1, sc, alts, items, s =>
    let m := sc.modes
    let finish : Part := .alternatives (alts.reverse ++ [close items])
    let push (p : Part) (r : List Char) := readExpr fuel sc alts (.part p :: items) r
    let again (lo : Nat) (hi : Option Nat) (r : List Char) := do
      readExpr fuel sc alts (← repeatLast items lo hi) r
    match skipSpaced m s with
    | [] => some ((finish, sc), [])
    | ')' :: r => some ((finish, sc), ')' :: r)
    | '|' :: r => readExpr fuel sc (close items :: alts) [] r
    | '(' :: r => do
      let ((item, sc), r) ← readGroup fuel sc (skipSpaced m r)
      readExpr fuel sc alts (item :: items) r
    | '[' :: r => do
      let ((c, d), r) ← readBrackets m fuel r
      push (charsPart c d) r
    | '*' :: r => again 0 none (skipReluctant r)
    | '+' :: r => again 1 none (skipReluctant r)
    | '?' :: r => again 0 (some 1) (skipReluctant r)
    | '\x7b' :: r => do
      if items.isEmpty then none
      let ((lo, hi), r) ← readCounts m r
      again lo hi r
    | '.' :: r => do push (charsPart (← dot m) 0) r
    | '^' :: r =>
      push (anchorPart m (if m.multiLine then if m.crlf then .crlfStart else .lineStart
        else .textStart)) r
    | '$' :: r =>
      push (anchorPart m (if m.multiLine then if m.crlf then .crlfEnd else .lineEnd
        else .textEnd)) r
    | '\\' :: r => do
      let (e, r) ← readEscape m r
      push (match e with
        | .literal c => literalPart m c
        | .set c => charsPart c 0
        | .anchor a => anchorPart m a) r
    | c :: r => push (literalPart m c) r

def readGroup : Nat → Scope → List Char → Option ((Item × Scope) × List Char)
  | 0, _, _ => none
  | fuel + 1, sc, s =>
    let body (inner : Scope) (r : List Char) : Option ((Item × Scope) × List Char) := do
      let ((p, after), r) ← readExpr fuel inner [] [] r
      match r with
      | ')' :: r =>
        let q := p.group
        if q.acceptable then some ((.part q, { after with modes := sc.modes }), r) else none
      | _ => none
    let named (r : List Char) := do
      let (name, r) ← readName r
      if sc.names.contains name then none
      body { sc with names := name :: sc.names } r
    match s with
    | '?' :: 'P' :: '<' :: r => named r
    | '?' :: '<' :: '=' :: _ => none
    | '?' :: '<' :: '!' :: _ => none
    | '?' :: '<' :: r => named r
    | '?' :: r => do
      let ((m, letters), r) ← readModes [] true sc.modes r
      match r with
      | ':' :: r => body { sc with modes := m } r
      | ')' :: r => if letters.isEmpty then none else some ((.setting, { sc with modes := m }), r)
      | _ => none
    | r => body sc r

end

/-- Reads a whole expression. Every call but one per group takes a character. -/
def parse? (s : List Char) : Option Expr :=
  match readExpr (2 * s.length + 2) {} [] [] s with
  | some ((p, _), []) => if p.acceptable then some p.expr else none
  | _ => none

end Parser

end ScreenScript.Pattern
