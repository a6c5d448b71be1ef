import ScreenScript.Script.Token
import ScreenScript.Text.Blank
import ScreenScript.Text.Ranges

/-!
Splitting a script into tokens. A text in backquotes may embed blocks, whose tokens follow the piece
of text in front of them. The word `debug` is a name right after a period; whether a token was a
period is remembered from one script to the next.
-/

namespace ScreenScript.Script.Lexer

open Decimal (isDigit)

def isNameStart (c : Char) : Bool := c.isAlpha || c = '_'

def isNamePart (c : Char) : Bool := c.isAlphanum || c = '_'

/-- A name holds a letter, with nothing but underscores in front of it. -/
def isProperName (s : List Char) : Bool :=
  match s.dropWhile (· = '_') with
  | c :: _ => c.isAlpha
  | [] => false

structure Rest where
  chars : List Char
  pos : Position

def Rest.skip (r : Rest) (n : Nat) : Rest :=
  ⟨r.chars.drop n, r.pos.afterAll (r.chars.take n)⟩

def base? (c : Char) : Option Nat :=
  match c with
  | 'x' | 'X' => some 16
  | 'o' | 'O' => some 8
  | 'b' | 'B' => some 2
  | _ => none

def isDigitOf (base : Nat) (c : Char) : Bool :=
  (Text.Ranges.hexDigit? c).any (· < base)

/-- Takes digits and drops the underscores among them; counts all characters. -/
def takeDigits (p : Char → Bool) : List Char → List Char × Nat × List Char
  | [] => ([], 0, [])
  | c :: r =>
    if c = '_' then
      let (ds, n, rest) := takeDigits p r
      (ds, n + 1, rest)
    else if p c then
      let (ds, n, rest) := takeDigits p r
      (c :: ds, n + 1, rest)
    else ([], 0, c :: r)

/-- A fraction, after the whole part. A point is taken only before a digit, before a character that
no property can begin with, or at the end. -/
def takeFraction : List Char → List Char × Nat × List Char
  | ['.'] => (['.', '0'], 1, [])
  | '.' :: c :: r =>
    if isDigit c then
      let (ds, n, rest) := takeDigits isDigit (c :: r)
      ('.' :: ds, n + 1, rest)
    else if c = '_' || c = '.' || isNameStart c then ([], 0, '.' :: c :: r)
    else
      let (ds, n, rest) := takeDigits isDigit (c :: r)
      ('.' :: '0' :: ds, n + 1, rest)
  | s => ([], 0, s)

def takeExponent : List Char → List Char × Nat × List Char
  | 'e' :: c :: r =>
    if isDigit c then
      let (ds, n, rest) := takeDigits isDigit (c :: r)
      ('e' :: ds, n + 1, rest)
    else if c = '+' || c = '-' then
      let (ds, n, rest) := takeDigits isDigit r
      ('e' :: c :: ds, n + 2, rest)
    else ([], 0, 'e' :: c :: r)
  | s => ([], 0, s)

def real? (negative : Bool) (whole fraction exponent : List Char) : Option Binary64 := do
  let fs := fraction.drop 1
  let e ← match exponent with
    | [] => some 0
    | _ :: e => Decimal.readInt? e
  pure (Binary64.ofDecimal negative (Decimal.value (whole ++ fs)) (e - fs.length))

/-- Reads a number, and counts its characters. Whole numbers that are no word become floating. -/
def number (negative : Bool) (s : List Char) : Token × Nat :=
  let sign := if negative then ['-'] else []
  let inBase (base : Nat) (r : List Char) : Token × Nat :=
    let (ds, n, _) := takeDigits (isDigitOf base) r
    let v := ds.foldl (fun v c => base * v + (Text.Ranges.hexDigit? c).getD 0) 0
    let token := if ds.isEmpty || UInt64.size ≤ v then
        Token.fault (.badNumber (String.ofList (sign ++ s.take 2 ++ ds)))
      else .int (let w := Int64.ofInt v; if negative then 0 - w else w)
    (token, n + 2)
  match s with
  | '0' :: c :: r =>
    match base? c with
    | some b => inBase b r
    | none => plain sign
  | _ => plain sign
where
  plain (sign : List Char) : Token × Nat :=
    let (whole, n, r) := takeDigits isDigit s
    let (fraction, k, r) := takeFraction r
    let (exponent, m, _) := takeExponent r
    let written := String.ofList (sign ++ whole ++ fraction ++ exponent)
    let v : Int := if negative then -(Decimal.value whole : Int) else Decimal.value whole
    let token :=
      match fraction, exponent, Word.ofInt? v with
      | [], [], some w => Token.int w
      | _, _, _ =>
        match real? negative whole fraction exponent with
        | some x => .float x written
        | none => .fault (.badNumber written)
    (token, n + k + m)

structure Quotes where
  close : Char
  /-- Backslashes are plain characters, and lines may end. -/
  verbatim : Bool
  /-- Blocks may be embedded. -/
  embeds : Bool
  /-- A backslash may end a line. -/
  continues : Bool

inductive Ending where
  | closed
  | embedded
  /-- The script ended first, inside a text that may go on. -/
  | cut

abbrev TextResult := Except (LexFault × Position) (List Char × Ending × Rest)

def escapeOf? (c : Char) : Option Char :=
  match c with
  | '\\' => some '\\'
  | 't' => some '\t'
  | 'r' => some '\r'
  | 'n' => some '\n'
  | '"' => some '"'
  | '\'' => some '\''
  | _ => none

/-- Reads `n` hexadecimal digits of an escape; `seen` is the escape so far, `last` the place of its
last character. -/
def codePoint (seen : List Char) (last : Position) :
    Nat → Nat → List Char → Except (LexFault × Position) (Nat × List Char × Position × List Char)
  | 0, v, s => .ok (v, s, last, seen)
  | _ + 1, _, [] => .error (.badEscape (String.ofList seen), last)
  | n + 1, v, c :: r =>
    match Text.Ranges.hexDigit? c with
    | some d => codePoint (seen ++ [c]) (last.after c) n (16 * v + d) r
    | none => .error (.badEscape (String.ofList (seen ++ [c])), last)

/-- Reads a text up to its end. `acc` holds its characters in reverse; blanks at the start of a line
are skipped up to the column `indent` after a continued line. -/
def text (q : Quotes) (start : Position) :
    Nat → Nat → List Char → Rest → TextResult
  | 0, _, acc, r => .ok (acc.reverse, .cut, r)
  | fuel + 1, indent, acc, ⟨s, p⟩ =>
    match s with
    | [] => if q.verbatim then .ok (acc.reverse, .cut, ⟨[], p⟩) else .error (.openString, start)
    | '$' :: '\x7b' :: r =>
      if q.embeds then .ok (acc.reverse, .embedded, ⟨'\x7b' :: r, p.after '$'⟩)
      else text q start fuel 0 ('$' :: acc) ⟨'\x7b' :: r, p.after '$'⟩
    | c :: r =>
      let p' := p.after c
      if c = q.close then
        match r with
        | d :: r' =>
          if d = q.close then text q start fuel 0 (c :: acc) ⟨r', p'.after d⟩
          else .ok (acc.reverse, .closed, ⟨r, p'⟩)
        | [] => .ok (acc.reverse, .closed, ⟨[], p'⟩)
      else if c = '\r' && r.head? = some '\n' then text q start fuel indent acc ⟨r, p'⟩
      else if c = '\\' && !q.verbatim then
        match r with
        | [] => if q.continues then .ok (acc.reverse, .cut, ⟨[], p'⟩) else .error (.openString, start)
        | e :: r' =>
          let width := if e = 'x' then 2 else if e = 'u' then 4 else if e = 'U' then 8 else 0
          if width ≠ 0 then
            match codePoint ['\\', e] p' width 0 r' with
            | .error f => .error f
            | .ok (v, rest, last, seen) =>
              if v < 0xd800 ∨ (0xe000 ≤ v ∧ v < 0x110000) then
                text q start fuel 0 (Char.ofNat v :: acc) ⟨rest, last.after 'x'⟩
              else .error (.badEscape (String.ofList seen), last)
          else if e = '\n' then
            if q.continues then text q start fuel (start.col + 1) acc ⟨r', p'.after e⟩
            else .error (.openString, start)
          else match escapeOf? e with
          | some d => text q start fuel 0 (d :: acc) ⟨r', p'.after e⟩
          | none => .error (.badEscape (String.ofList ['\\', e]), p')
      else if c = '\n' && !q.verbatim then .error (.openString, start)
      else if Text.isBlank c && p.col < indent then text q start fuel indent acc ⟨r, p'⟩
      else text q start fuel 0 (c :: acc) ⟨r, p'⟩

def doubleQuotes : Quotes := ⟨'"', false, false, true⟩
def singleQuotes : Quotes := ⟨'\'', false, false, false⟩
def backQuotes : Quotes := ⟨'\x60', true, true, false⟩

def forbidden : List (String × String) :=
  [("===", "'===' is not a valid operator. This is not JavaScript! Should it be '=='?"),
    ("!==", "'!==' is not a valid operator. This is not JavaScript! Should it be '!='?"),
    ("->", "'->' is not a valid symbol. This is not C or C++!"),
    ("<-", "'<-' is not a valid symbol. This is not Go! Should it be '<='?"),
    (":=", "':=' is not a valid assignment operator. This is not Go or Pascal! " ++
      "Should it be simply '='?"),
    ("(*", "'(*' is not a valid comment format. This is not Pascal! Should it be '/*'?"),
    ("*)", "'*)' is not a valid comment format. This is not Pascal! Should it be '*/'?"),
    ("#", "'#' is not a valid symbol. Should it be '#\x7b'?")]

/-- All symbols, a longer one before its beginnings. -/
def symbols : List String :=
  ["===", "!==", "...", "..=", "**=", "<<=", ">>=", "??=", "#\x7b", "#!", "()", "(*", "*)",
    "+=", "++", "-=", "->", "--", "**", "*=", "/=", "..", "==", "=>", "::", ":=", ":;", "<=", "<-",
    "<<", "<|", ">=", ">>", "!=", "!.", "||", "|=", "|>", "&&", "&=", "^=", "%=", "??", "?.", "?[",
    "\x7b", "\x7d", "(", ")", "[", "]", "+", "-", "*", "/", ";", ",", ".", "=", ":", "<", ">", "!",
    "|", "&", "^", "~", "%", "#", "@", "$", "?"]

def plainlyForbidden : List String :=
  ["...", "??=", "#!", "++", "--", ":;", "<|", "!.", "|>", "~", "@", "$", "?"]

def symbolToken (s : String) : Token :=
  match forbidden.find? (·.1 = s) with
  | some (_, remark) => .fault (.badSymbol remark)
  | none =>
    if plainlyForbidden.contains s then .fault (.badSymbol ("'" ++ s ++ "' is a reserved symbol"))
    else .symbol s

/-- Skips a comment between slashes and stars, with `depth` more around it. -/
def skipBlock (depth : Nat) (p : Position) : List Char → Rest
  | [] => ⟨[], p⟩
  | '/' :: '*' :: r => skipBlock (depth + 1) ((p.after '/').after '*') r
  | '*' :: '/' :: r =>
    let p := (p.after '*').after '/'
    if depth = 0 then ⟨r, p⟩ else skipBlock (depth - 1) p r
  | c :: r => skipBlock depth (p.after c) r

def skipLine (p : Position) : List Char → Rest
  | [] => ⟨[], p⟩
  | '\n' :: r => ⟨'\n' :: r, p⟩
  | c :: r => skipLine (p.after c) r

def skipBlanks : Nat → Rest → Rest
  | 0, r => r
  | fuel + 1, ⟨s, p⟩ =>
    match s with
    | '/' :: '/' :: r => skipBlanks fuel (skipLine ((p.after '/').after '/') r)
    | '/' :: '*' :: r => skipBlanks fuel (skipBlock 0 ((p.after '/').after '*') r)
    | c :: r => if Text.isBlank c then skipBlanks fuel ⟨r, p.after c⟩ else ⟨s, p⟩
    | [] => ⟨[], p⟩

def wordToken (s : List Char) : Token :=
  let w := String.ofList s
  if Token.keywords.contains w then .symbol w
  else if Token.reservedWords.contains w then
    match w with
    | "begin" => .fault (.badSymbol "'begin' is a reserved symbol")
    | "end" => .fault (.badSymbol "'end' is a reserved symbol")
    | _ => .reserved w
  else if isProperName s then .name w
  else if s = ['_'] then .symbol "_"
  else .fault (.badName w)

def checked (limit : Nat) (s : List Char) (last : Position) (mk : String → Token) : Placed :=
  let t := String.ofList s
  if limit ≠ 0 ∧ limit < t.utf8ByteSize then ⟨.fault (.stringTooLong limit), last, false⟩
  else ⟨mk t, last, false⟩

def before (p : Position) : Position := ⟨p.line, p.col - 1⟩

/-- One token with the rest after it. `settled` is false for a text cut off by the end. -/
structure Scanned where
  placed : Placed
  rest : Rest
  settled : Bool := true

def textToken (limit : Nat) (start : Position) (r : TextResult) : Scanned :=
  match r with
  | .error (f, p) => ⟨⟨.fault f, p, false⟩, ⟨[], p⟩, true⟩
  | .ok (s, ending, rest) =>
    let place (p : Placed) : Placed := match p.token with
      | .fault _ => p
      | t => ⟨t, start, false⟩
    match ending with
    | .closed => ⟨place (checked limit s (before rest.pos) .string), rest, true⟩
    | .embedded => ⟨place (checked limit s (before rest.pos) .piece), rest, true⟩
    | .cut => ⟨⟨.fault .openString, start, false⟩, rest, false⟩

def continueText (limit : Nat) (r : Rest) : Scanned :=
  textToken limit r.pos (text backQuotes r.pos (r.chars.length + 1) 0 [] r)

/-- Reads one token; `sign` tells whether a minus may belong to a number. -/
def scan (limit : Nat) (sign : Bool) (r : Rest) : Scanned :=
  let r := skipBlanks (r.chars.length + 1) r
  let p := r.pos
  let one (t : Token) (n : Nat) : Scanned := ⟨⟨t, p, false⟩, r.skip n, true⟩
  let quoted (q : Quotes) (r : Rest) := text q p (r.chars.length + 1) 0 [] r
  match r.chars with
  | [] => ⟨⟨.eof, p, false⟩, r, true⟩
  | '-' :: d :: s =>
    if sign && isDigit d then
      let (t, n) := number true (d :: s)
      one t (n + 1)
    else one (symbolOf ('-' :: d :: s)).1 (symbolOf ('-' :: d :: s)).2
  | '"' :: _ => textToken limit p (quoted doubleQuotes (r.skip 1))
  | '\x60' :: '\r' :: '\n' :: _ => textToken limit p (quoted backQuotes (r.skip 3))
  | '\x60' :: '\n' :: _ => textToken limit p (quoted backQuotes (r.skip 2))
  | '\x60' :: _ => textToken limit p (quoted backQuotes (r.skip 1))
  | '\'' :: '\'' :: _ => one (.fault (.badChar "")) 2
  | '\'' :: _ =>
    match quoted singleQuotes (r.skip 1) with
    | .ok ([c], .closed, rest) => ⟨⟨.char c, p, false⟩, rest, true⟩
    | .ok (s, _, rest) => ⟨⟨.fault (.badChar (String.ofList s)), p, false⟩, rest, true⟩
    | .error (f, fp) => ⟨⟨.fault f, fp, false⟩, ⟨[], fp⟩, true⟩
  | c :: s =>
    if isDigit c then
      let (t, n) := number false (c :: s)
      one t n
    else if isNameStart c then
      let w := (c :: s).takeWhile isNamePart
      one (wordToken w) w.length
    else if c = '!' && "in".toList.isPrefixOf s && !(s.drop 2).head?.any isNamePart then
      one (.symbol "!in") 3
    else one (symbolOf (c :: s)).1 (symbolOf (c :: s)).2
where
  symbolOf (s : List Char) : Token × Nat :=
    match symbols.find? fun w => w.toList.isPrefixOf s with
    | some w => (symbolToken w, w.length)
    | none => (.fault (.unexpected (String.ofList (s.take 1))), 1)

/-- How deep the braces are inside each embedded block, the innermost first. -/
abbrev Depths := List Nat

/-- Follows the braces; true when a block just ended and its text goes on. -/
def follow (ds : Depths) : Token → Depths × Bool
  | .piece _ => (0 :: ds, false)
  | .symbol s =>
    match ds with
    | [] => ([], false)
    | d :: r =>
      if s = "\x7b" ∨ s = "#\x7b" then ((d + 1) :: r, false)
      else if s = "\x7d" then if d ≤ 1 then (r, true) else ((d - 1) :: r, false)
      else (ds, false)
  | _ => (ds, false)

def settle (afterPeriod : Bool) : Token → Token
  | .reserved "debug" => if afterPeriod then .name "debug" else .reserved "debug"
  | t => t

def run (limit : Nat) : Nat → Depths → Bool → Bool → Bool → Rest → List Placed
  | 0, _, _, _, _, _ => []
  | fuel + 1, ds, inText, sign, afterPeriod, r =>
    let s := if inText then continueText limit r else scan limit sign r
    match s.placed.token with
    | .eof => [⟨.eof, s.placed.pos, afterPeriod⟩]
    | t =>
      let t := settle afterPeriod t
      let (ds, inText) := follow ds t
      let afterPeriod := if s.settled then t = .symbol "." else afterPeriod
      ⟨t, s.placed.pos, afterPeriod⟩ :: run limit fuel ds inText t.allowsSign afterPeriod s.rest

/-- The tokens of a script, the end being the last. Strings longer than `limit` bytes are faults,
unless it is zero. -/
def tokens (limit : Nat) (afterPeriod : Bool) (source : String) : List Placed :=
  let cs := source.toList
  run limit (cs.length + 2) [] false true afterPeriod ⟨cs, .start⟩

end ScreenScript.Script.Lexer
