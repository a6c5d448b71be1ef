import ScreenScript.Script.Lexer
import ScreenScript.Script.Syntax

/-!
Parsing scripts. Each construct is a rule over the rules for what lies inside it, and the rules are
tied together by recursion on a bound that every token pays for.
-/

namespace ScreenScript.Script.Parser

/-- Limits a script's literals have to keep; zero stands for none. -/
structure Limits where
  string : Nat := 0
  array : Nat := 0
  map : Nat := 0

structure Context where
  limits : Limits
  topLevel : Bool := true
  inLoop : Bool := false

structure State where
  rest : List Placed
  last : Placed
  /-- Variables declared so far, the innermost first, and whether they are constants. -/
  scope : List (String × Bool) := []
  /-- Functions declared so far, the last first. -/
  functions : List Function := []

abbrev Parse := ReaderT Context (StateT State (Except SyntaxFault))

def peek : Parse Placed := do
  let s ← get
  pure (s.rest.head?.getD s.last)

/-- Fails at a place; the next token counts as looked at. -/
def failAt {α : Type} (c : SyntaxCause) (p : Position) : Parse α := do
  throw ⟨c, p, (← peek).afterPeriod⟩

def fail {α : Type} (c : SyntaxCause) : Parse α := do
  failAt c (← peek).pos

def advance : Parse Unit :=
  modify fun s => { s with rest := s.rest.tail }

def next : Parse Placed := do
  let t ← peek
  advance
  pure t

def accept (symbol : String) : Parse Bool := do
  if (← peek).token = .symbol symbol then
    advance
    pure true
  else pure false

def isNext (symbol : String) : Parse Bool := do
  pure ((← peek).token = .symbol symbol)

def refuseFault : Parse Unit := do
  match (← peek).token with
  | .fault f => fail (.lexical f)
  | _ => pure ()

def require (symbol why : String) : Parse Position := do
  let t ← peek
  if t.token = .symbol symbol then
    advance
    pure t.pos
  else
    refuseFault
    fail (.missing symbol why)

def inScope {α : Type} (p : Parse α) : Parse α := do
  let outer := (← get).scope
  let a ← p
  modify fun s => { s with scope := outer }
  pure a

def declareName (name : String) (constant : Bool) : Parse Unit :=
  modify fun s => { s with scope := (name, constant) :: s.scope }

def variableName : Parse (String × Position) := do
  let t ← peek
  match t.token with
  | .name s =>
    advance
    pure (s, t.pos)
  | .reserved w => fail (.reserved w)
  | .fault f => fail (.lexical f)
  | _ => fail .variableExpected

def literalKind : Value → Option String
  | .unit => some "()"
  | .int _ => some "a number"
  | .float _ => some "a floating-point number"
  | .char _ => some "a character"
  | .string _ => some "a string"
  | _ => none

def requireBool (e : Expr) : Parse Expr := do
  let kind := match e with
    | .constant v _ => literalKind v
    | .interpolated .. => some "a string"
    | .array .. => some "an array"
    | .map .. => some "an object map"
    | _ => none
  match kind with
  | some k => failAt (.mismatch "a boolean expression" k) e.startPos
  | none => pure e

def requireItems (e : Expr) : Parse Expr := do
  let kind := match e with
    | .constant .unit _ => some "()"
    | .constant (.bool _) _ => some "a boolean"
    | .constant (.float _) _ => some "a floating-point number"
    | .constant (.char _) _ => some "a character"
    | .and .. => some "a boolean"
    | .or .. => some "a boolean"
    | .map .. => some "an object map"
    | _ => none
  match kind with
  | some k => failAt (.mismatch "an iterable value" k) e.startPos
  | none => pure e

def refuseBrace : Parse Unit := do
  if ← isNext "\x7b" then fail (.expressionExpected "a boolean")

def compoundOperators : List String :=
  ["+=", "-=", "*=", "/=", "%="]

def refuseAssignment : Parse Unit := do
  match (← peek).token with
  | .symbol s =>
    if s = "=" then fail (.lexical (.badSymbol "Possibly a typo of '=='?"))
    else if compoundOperators.contains s then
      fail (.lexical (.badSymbol "Expecting a boolean expression, not an assignment"))
  | _ => pure ()

/-- What an index must not be, given what is indexed. -/
def indexFault (base index : Expr) : Option String :=
  let kindOf : Expr → Option String := fun
    | .constant .unit _ => some "()"
    | .constant (.int _) _ => some "a number"
    | .constant (.float _) _ => some "a float"
    | .constant (.char _) _ => some "a character"
    | .constant (.bool _) _ => some "a boolean"
    | .constant (.string _) _ => some "a string"
    | .and .. => some "a boolean"
    | .or .. => some "a boolean"
    | _ => none
  let onMap := match kindOf index with
    | some "a string" => none
    | k => k.map fun k => "Object map expects string index, not " ++ k
  let onItems := match kindOf index with
    | some "a number" => none
    | some "a string" => some "Array, string or bit-field expects numeric index, not a string"
    | k => k.map fun k => "Array, string or bit-field expects integer index, not " ++ k
  match base with
  | .map .. => onMap
  | .array .. => onItems
  | .interpolated .. => onItems
  | .constant (.string _) _ => onItems
  | .constant (.int _) _ => onItems
  | .constant .. => some "Only arrays, object maps and strings can be indexed"
  | .and .. => some "Only arrays, object maps and strings can be indexed"
  | .or .. => some "Only arrays, object maps and strings can be indexed"
  | _ => none

def precedence : Token → Nat
  | .symbol s =>
    match s with
    | ".." | "..=" => 10
    | "||" => 30
    | "&&" => 60
    | "==" | "!=" => 90
    | "in" | "!in" => 110
    | "<" | "<=" | ">" | ">=" => 130
    | "+" | "-" => 150
    | "*" | "/" | "%" => 180
    | _ => 0
  | _ => 0

def operation (op : String) (a b : Expr) (p : Position) : Parse Expr :=
  match op with
  | "||" => do
    let b ← requireBool b
    pure (.or (← requireBool a) b p)
  | "&&" => do
    let b ← requireBool b
    pure (.and (← requireBool a) b p)
  | "in" => pure (.call "contains" [b, a] a.startPos)
  | "!in" => pure (.call "!" [.call "contains" [b, a] a.startPos] a.startPos)
  | _ => pure (.call op [a, b] p)

/-- A sign in front of an expression; a number takes it in. -/
def negated (e : Expr) (p : Position) : Expr :=
  match e with
  | .constant (.int n) _ =>
    match Word.neg? n with
    | some n => .constant (.int n) p
    | none => .constant (.float (Binary64.ofInt n.toInt).neg) p
  | .constant (.float x) _ => .constant (.float x.neg) p
  | e => .call "-" [e] p

/-- The place of the first link that no value can be written to. -/
def unwritable (links : List Link) : Option Position :=
  links.findSome? fun
    | .method _ _ _ p => some p
    | _ => none

/-- Extends a path by links, which reach on into the same path. -/
def extend (base : Expr) (links : List Link) (p : Position) : Expr :=
  match base with
  | .path b ls q =>
    match ls.getLast? with
    | some (.index ..) => .path b (ls ++ links) q
    | _ => .path base links p
  | e => .path e links p

def assignment (op : Option String) (target value : Expr) (p : Position) : Parse Stmt :=
  match target with
  | .var name q => do
    match (← get).scope.find? (·.1 = name) with
    | some (_, true) => failAt (.constantAssigned name) q
    | _ => pure (.assign op target value p)
  | .path base links _ =>
    match unwritable links, base with
    | some q, _ => failAt .notAssignable q
    | none, .var .. => pure (.assign op target value p)
    | none, e => failAt .notAssignable e.pos
  | .constant _ q => failAt (.constantAssigned "") q
  | .and .. | .or .. =>
    if op.isNone then failAt (.lexical (.badSymbol "Possibly a typo of '=='?")) p
    else failAt .notAssignable target.pos
  | e => failAt .notAssignable e.pos

/-- The rules for what may lie inside a construct. -/
structure Rules where
  expr : Parse Expr
  unary : Parse Expr
  /-- Goes on with operators that bind at least as tightly as the number. -/
  binary : Nat → Expr → Parse Expr
  /-- An operand; `true` after a period. -/
  primary : Bool → Parse Expr
  postfixes : Bool → Expr → Parse Expr
  block : Parse (List Stmt × Position)
  stmt : Parse Stmt

namespace Rules

variable (g : Rules)

def exprRule : Parse Expr := do
  g.binary 1 (← g.unary)

/-- Fails on a symbol set aside where an operator may stand. -/
def operatorPrecedence : Parse Nat := do
  pure (precedence (← peek).token)

def binaryRule (least : Nat) (lhs : Expr) : Parse Expr := do
  let t ← peek
  let prec ← operatorPrecedence
  if prec = 0 || prec ≤ least then pure lhs
  else
    advance
    let rhs ← g.unary
    let nextPrec ← operatorPrecedence
    let rhs ← if prec < nextPrec then g.binary prec rhs else pure rhs
    let e ← operation t.token.text lhs rhs t.pos
    g.binary least e

def unaryRule : Parse Expr := do
  let t ← peek
  match t.token with
  | .symbol "-" =>
    advance
    pure (negated (← g.unary) t.pos)
  | .symbol "+" =>
    advance
    match ← g.unary with
    | .constant (.int n) p => pure (.constant (.int n) p)
    | .constant (.float x) p => pure (.constant (.float x) p)
    | e => pure (.call "+" [e] t.pos)
  | .symbol "!" =>
    advance
    pure (.call "!" [← g.unary] t.pos)
  | .eof => fail .incomplete
  | _ => g.primary false

def arguments (name : String) : Nat → Parse (List Expr)
  | 0 => fail .incomplete
  | fuel + 1 => do
    let close := "to close the arguments list of this function call '" ++ name ++ "'"
    if ← accept ")" then pure []
    else
      let e ← g.expr
      let t ← peek
      match t.token with
      | .symbol ")" =>
        advance
        pure [e]
      | .symbol "," =>
        advance
        pure (e :: (← arguments name fuel))
      | .eof => fail (.missing ")" close)
      | .fault f => fail (.lexical f)
      | _ => fail (.missing "," ("to separate the arguments to function call '" ++ name ++ "'"))

def callRule (name : String) (p : Position) : Parse Expr := do
  match (← peek).token with
  | .eof =>
    fail (.missing ")" ("to close the arguments list of this function call '" ++ name ++ "'"))
  | .fault f => fail (.lexical f)
  | _ => pure (.call name (← g.arguments name ((← get).rest.length + 1)) p)

/-- Items up to the closing bracket; `n` counts those before. -/
def items (n : Nat) : Nat → Parse (List Expr)
  | 0 => fail .incomplete
  | fuel + 1 => do
    let limit := (← read).limits.array
    if limit ≠ 0 ∧ limit ≤ n then fail (.tooLarge "Size of array literal" limit)
    let t ← peek
    match t.token with
    | .symbol "]" =>
      advance
      pure []
    | .eof => fail (.missing "]" "to end this array literal")
    | _ =>
      let e ← g.expr
      match (← peek).token with
      | .symbol "," =>
        advance
        pure (e :: (← items (n + 1) fuel))
      | .symbol "]" => pure (e :: (← items (n + 1) fuel))
      | .eof => fail (.missing "]" "to end this array literal")
      | .fault f => fail (.lexical f)
      | _ => fail (.missing "," "to separate the items of this array literal")

/-- Entries up to the closing brace; `keys` are those before. -/
def entries (keys : List String) : Nat → Parse (List (String × Expr))
  | 0 => fail .incomplete
  | fuel + 1 => do
    let missingEnd : SyntaxCause := .missing "\x7d" "to end this object map literal"
    let t ← peek
    match t.token with
    | .symbol "\x7d" =>
      advance
      pure []
    | .eof => fail missingEnd
    | .name k => entry k keys fuel
    | .string k => entry k keys fuel
    | .piece _ => fail .propertyExpected
    | .reserved w => fail (.reserved w)
    | .fault f => fail (.lexical f)
    | _ => if keys.isEmpty then fail missingEnd else fail .propertyExpected
where
  entry (k : String) (keys : List String) (fuel : Nat) : Parse (List (String × Expr)) := do
    if keys.contains k then fail (.duplicateProperty k)
    advance
    let _ ← require ":" ("to follow the property '" ++ k ++ "' in this object map literal")
    let limit := (← read).limits.map
    if limit ≠ 0 ∧ limit ≤ keys.length then
      fail (.tooLarge "Number of properties in object map literal" limit)
    let e ← g.expr
    match (← peek).token with
    | .symbol "," =>
      advance
      pure ((k, e) :: (← entries (k :: keys) fuel))
    | .symbol "\x7d" => pure ((k, e) :: (← entries (k :: keys) fuel))
    | .name _ => fail (.missing "," "to separate the items of this object map literal")
    | .fault f => fail (.lexical f)
    | _ => fail (.missing "\x7d" "to end this object map literal")

def pieces : Nat → Parse (List Expr)
  | 0 => fail .incomplete
  | fuel + 1 => do
    let (stmts, p) ← g.block
    let part : Expr := .block stmts p
    let t ← peek
    let text (s : String) : List Expr := if s = "" then [] else [.constant (.string s) t.pos]
    match t.token with
    | .string s =>
      advance
      pure (part :: text s)
    | .piece s =>
      advance
      pure (part :: text s ++ (← pieces fuel))
    | .fault f => fail (.lexical f)
    | _ => fail .incomplete

/-- A condition and two branches; the keyword is taken. -/
def ifRule (p : Position) : Nat → Parse Stmt
  | 0 => fail .incomplete
  | fuel + 1 => do
    refuseBrace
    let cond ← requireBool (← g.expr)
    refuseAssignment
    let (yes, _) ← g.block
    if ← accept "else" then
      let q := (← peek).pos
      if ← accept "if" then pure (.ifElse cond yes [← ifRule q fuel] p)
      else pure (.ifElse cond yes (← g.block).1 p)
    else pure (.ifElse cond yes [] p)

def loopBody : Parse (List Stmt × Position) :=
  withReader (fun c => { c with inLoop := true }) g.block

def whileRule (p : Position) : Parse Stmt := do
  refuseBrace
  let cond ← requireBool (← g.expr)
  refuseAssignment
  let (body, q) ← g.loopBody
  pure (.loop (some cond) body p q)

def loopRule (p : Position) : Parse Stmt := do
  let (body, q) ← g.loopBody
  pure (.loop none body p q)

def forRule (p : Position) : Parse Stmt := do
  let (name, _) ← variableName
  let _ ← require "in" "after the iteration variable"
  refuseBrace
  let items ← requireItems (← g.expr)
  inScope do
    declareName name false
    let (body, q) ← g.loopBody
    pure (.forIn name items body p q)

/-- Only here is `eval` known. Elsewhere it is a function that nobody defined. -/
def tryRule (p : Position) : Parse Stmt := do
  let (body, _) ← g.block
  let _ ← require "catch" "for the 'try' statement"
  let (handler, _) ← g.block
  match body, handler with
  | [.expr (.call "eval" [e] q)], [] => pure (.attempt e p q)
  | body, handler => pure (.tryCatch body handler p)

def control? (t : Placed) : Option (Parse Stmt) :=
  match t.token with
  | .symbol "if" => some do g.ifRule t.pos ((← get).rest.length + 1)
  | .symbol "while" => some (g.whileRule t.pos)
  | .symbol "loop" => some (g.loopRule t.pos)
  | .symbol "for" => some (g.forRule t.pos)
  | _ => none

def opensCall : Parse Bool := do
  match (← peek).token with
  | .symbol s => pure (s = "(" || s = "()" || s = "!")
  | _ => pure false

def operand : Parse Expr := do
  let t ← peek
  let constant (v : Value) : Parse Expr := do
    advance
    pure (.constant v t.pos)
  match t.token with
  | .eof => fail .incomplete
  | .int n => constant (.int n)
  | .float x _ => constant (.float x)
  | .char c => constant (.char c)
  | .string s => constant (.string s)
  | .piece s =>
    advance
    let first : List Expr := if s = "" then [] else [.constant (.string s) t.pos]
    let rest ← g.pieces ((← get).rest.length + 1)
    pure (.interpolated (first ++ rest) t.pos)
  | .name s =>
    advance
    pure (.var s t.pos)
  | .reserved w =>
    advance
    if Token.callableWords.contains w && (← opensCall) then pure (.var w t.pos)
    else failAt (.reserved w) t.pos
  | .fault f => fail (.lexical f)
  | .symbol s =>
    match s with
    | "()" => constant .unit
    | "true" => constant (.bool true)
    | "false" => constant (.bool false)
    | "(" =>
      advance
      if ← accept ")" then pure (.constant .unit t.pos)
      else
        let e ← g.expr
        let _ ← require ")" "for a matching ( in this expression"
        pure e
    | "[" =>
      advance
      pure (.array (← g.items 0 ((← get).rest.length + 1)) t.pos)
    | "#\x7b" =>
      advance
      pure (.map (← g.entries [] ((← get).rest.length + 1)) t.pos)
    | "\x7b" =>
      let (stmts, p) ← g.block
      pure (.block stmts p)
    | s =>
      match g.control? t with
      | some p =>
        advance
        let stmt ← p
        pure (.block [stmt] t.pos)
      | none => fail (.lexical (.unexpected s))

def primaryRule (afterPeriod : Bool) : Parse Expr := do
  g.postfixes afterPeriod (← g.operand)

def linksOf (safe : Bool) : Expr → Option (List Link)
  | .var name p => some [.property name safe p]
  | .call name args p => some [.method name args safe p]
  | .path (.var name p) links _ => some (.property name safe p :: links)
  | .path (.call name args p) links _ => some (.method name args safe p :: links)
  | _ => none

def indexRule (base : Expr) (p : Position) : Parse Expr := do
  let e ← g.expr
  match base with
  | .path .. => pure ()
  | b => match indexFault b e with
    | some why => failAt (.badIndex why) e.startPos
    | none => pure ()
  let _ ← require "]" "for a matching [ in this index expression"
  pure (extend base [.index e p] p)

def dotRule (base : Expr) (safe : Bool) (p : Position) : Parse Expr := do
  match (← peek).token with
  | .name _ => pure ()
  | .reserved w => if Token.methodWords.contains w then pure () else fail (.reserved w)
  | _ => fail .propertyExpected
  let rhs ← g.primary true
  match linksOf safe rhs with
  | some links => pure (extend base links p)
  | none => failAt .propertyExpected rhs.startPos

def postfixRule (afterPeriod : Bool) (e : Expr) : Parse Expr := do
  let t ← peek
  match t.token, e with
  | .symbol "(", .var name p => do
    advance
    g.postfixes afterPeriod (← g.callRule name p)
  | .symbol "()", .var name p => do
    advance
    g.postfixes afterPeriod (.call name [] p)
  | .symbol "!", .var _ _ => do
    advance
    fail (.missing "(" "to start arguments list of function call")
  | .symbol "[", e => do
    advance
    g.postfixes afterPeriod (← g.indexRule e t.pos)
  | .symbol ".", e => do
    advance
    g.postfixes afterPeriod (← g.dotRule e false t.pos)
  | .symbol "?.", e => do
    advance
    g.postfixes afterPeriod (← g.dotRule e true t.pos)
  | _, e => pure e

def statements : Nat → Parse (List Stmt)
  | 0 => fail .incomplete
  | fuel + 1 => do
    match (← peek).token with
    | .symbol "\x7d" =>
      advance
      pure []
    | .eof => fail (.missing "\x7d" "to terminate this block")
    | _ =>
      let stmt ← g.stmt
      if stmt.isNoop then statements fuel
      else
        match (← peek).token with
        | .symbol "\x7d" => pure ()
        | .symbol ";" => advance
        | _ =>
          if !stmt.closesItself then
            refuseFault
            fail (.missing ";" "to terminate this statement")
        pure (stmt :: (← statements fuel))

def blockRule : Parse (List Stmt × Position) := do
  let p ← require "\x7b" "to start a statement block"
  let stmts ← inScope (withReader (fun c => { c with topLevel := false })
    (do g.statements ((← get).rest.length + 1)))
  pure (stmts, p)

def parameters (name : String) (before : List String) : Nat → Parse (List String)
  | 0 => fail .incomplete
  | fuel + 1 => do
    let t ← peek
    match t.token with
    | .symbol ")" =>
      advance
      pure before
    | .name s =>
      if before.contains s then fail (.duplicateParameter name s)
      advance
      let params := before ++ [s]
      match (← peek).token with
      | .symbol ")" =>
        advance
        pure params
      | .symbol "," =>
        advance
        parameters name params fuel
      | .fault f => fail (.lexical f)
      | _ => fail (.missing "," ("to separate the parameters of function '" ++ name ++ "'"))
    | .fault f => fail (.lexical f)
    | _ => fail (.missing ")" ("to close the parameters list of function '" ++ name ++ "'"))

def functionRule (p : Position) : Parse Stmt := do
  let t ← peek
  let name ← match t.token with
    | .name s => pure s
    | .reserved w => fail (.reserved w)
    | _ => fail .functionNameMissing
  advance
  let params ← match (← peek).token with
    | .symbol "(" => do
      advance
      parameters name [] ((← get).rest.length + 1)
    | .symbol "()" => do
      advance
      pure []
    | _ => fail (.parametersMissing name)
  if !(← isNext "\x7b") then fail (.bodyMissing name)
  let outer := (← get).scope
  modify fun s => { s with scope := params.reverse.map fun n => (n, false) }
  let (body, _) ← withReader
    (fun c => { c with topLevel := false, inLoop := false }) g.block
  modify fun s => { s with scope := outer }
  if (← get).functions.any (·.is name params.length) then
    failAt (.duplicateFunction name params.length) p
  modify fun s => { s with functions := ⟨name, params, body⟩ :: s.functions }
  pure (.noop p)

def declareRule (constant : Bool) (p : Position) : Parse Stmt := do
  let (name, _) ← variableName
  let init ← if ← accept "=" then g.expr else pure (.constant .unit p)
  declareName name constant
  pure (.declare name init constant p)

/-- The value a function ends with or throws; there is none before the end of the statement. A
closing brace ends one only within a block or a function. -/
def resultValue : Parse (Option Expr) := do
  match (← peek).token with
  | .eof => pure none
  | .symbol ";" => pure none
  | .symbol "\x7d" => if (← read).topLevel then do pure (some (← g.expr)) else pure none
  | _ => do pure (some (← g.expr))

def exprStmt : Parse Stmt := do
  let e ← g.expr
  let t ← peek
  match t.token with
  | .symbol s =>
    if s = "=" then
      advance
      assignment none e (← g.expr) t.pos
    else if compoundOperators.contains s then
      advance
      assignment (some ((s.dropEnd 1).toString)) e (← g.expr) t.pos
    else pure (.expr e)
  | _ => pure (.expr e)

def stmtRule : Parse Stmt := do
  let t ← peek
  let c ← read
  match t.token with
  | .symbol s =>
    match s with
    | ";" =>
      advance
      pure (.noop t.pos)
    | "\x7b" =>
      let (stmts, p) ← g.block
      pure (.block stmts p)
    | "fn" =>
      if c.topLevel then
        advance
        g.functionRule t.pos
      else fail .nestedFunction
    | "continue" =>
      if c.inLoop then
        advance
        pure (.leave false t.pos)
      else fail .strayBreak
    | "break" =>
      if c.inLoop then
        advance
        pure (.leave true t.pos)
      else fail .strayBreak
    | "return" =>
      advance
      pure (.ret (← g.resultValue) t.pos)
    | "throw" =>
      advance
      pure (.raise (← g.resultValue) t.pos)
    | "try" =>
      advance
      g.tryRule t.pos
    | "let" =>
      advance
      g.declareRule false t.pos
    | "const" =>
      advance
      g.declareRule true t.pos
    | _ =>
      match g.control? t with
      | some p =>
        advance
        p
      | none => g.exprStmt
  | _ => g.exprStmt

end Rules

def rules : Nat → Rules
  | 0 =>
    { expr := fail .incomplete, unary := fail .incomplete, binary := fun _ _ => fail .incomplete
      primary := fun _ => fail .incomplete, postfixes := fun _ _ => fail .incomplete
      block := fail .incomplete, stmt := fail .incomplete }
  | n + 1 =>
    { expr := fun c s => (rules n).exprRule c s
      unary := fun c s => (rules n).unaryRule c s
      binary := fun least e c s => (rules n).binaryRule least e c s
      primary := fun b c s => (rules n).primaryRule b c s
      postfixes := fun b e c s => (rules n).postfixRule b e c s
      block := fun c s => (rules n).blockRule c s
      stmt := fun c s => (rules n).stmtRule c s }

def script (g : Rules) : Nat → Parse (List Stmt)
  | 0 => fail .incomplete
  | fuel + 1 => do
    match (← peek).token with
    | .eof => pure []
    | _ =>
      let stmt ← g.stmt
      if stmt.isNoop then script g fuel
      else
        match (← peek).token with
        | .eof => pure ()
        | .symbol ";" => if stmt.closesItself then pure () else advance
        | _ =>
          if !stmt.closesItself then
            refuseFault
            fail (.missing ";" "to terminate this statement")
        pure (stmt :: (← script g fuel))

/-- Parses a script, and tells whether its last token was a period. A token is good for at most eight
rules within each other. -/
def parse (limits : Limits) (afterPeriod : Bool) (source : String) :
    Except SyntaxFault (Compiled × Bool) := do
  let tokens := Lexer.tokens limits.string afterPeriod source
  let last := tokens.getLast?.getD ⟨.eof, .start, afterPeriod⟩
  let bound := 8 * tokens.length + 8
  let (body, s) ← (script (rules bound) (tokens.length + 1)).run { limits } |>.run
    { rest := tokens, last }
  pure (⟨body, s.functions.reverse⟩, last.afterPeriod)

end ScreenScript.Script.Parser
