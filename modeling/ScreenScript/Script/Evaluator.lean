import ScreenScript.Script.Api
import ScreenScript.Script.Moved
import ScreenScript.Script.Parser
import ScreenScript.Script.Place

/-!
Evaluating scripts. Each construct is a rule over an evaluator for what lies inside it, and the rules
are tied together by recursion on a bound for the steps within each other.
-/

namespace ScreenScript.Script

open Script.Action

/-- How expressions, statements and the rounds of a loop are evaluated. -/
structure Evaluator where
  expr : Expr → Action Value
  stmt : Stmt → Action Value
  rounds : Option Expr → List Stmt → Position → Action Unit

def limits (c : Config) : Parser.Limits :=
  { string := c.maxStringSize, array := c.maxCollectionSize, map := c.maxCollectionSize }

namespace Evaluator

def failOn {α : Type} (p : Position) : Except Cause α → Action α
  | .ok a => pure a
  | .error c => fail c p

def checkSize (v : Value) (p : Position) : Action Unit := do
  let config := (← read).config
  match (Operator.size v).excess? config.maxStringSize config.maxCollectionSize with
  | some m => fail (.tooLarge m) p
  | none => pure ()

def checked (v : Value) (p : Position) : Action Value := do
  checkSize v p
  pure v

def readPlace (place : Place) : Action Value := do
  pure (place.read (← get))

def writePlace (place : Place) (v : Value) : Action Unit :=
  modify fun s => place.write s v

/-- Where a name leads: to a variable, or to an object that is always there. -/
def placeOf (name : String) (p : Position) : Action Place := do
  if ((← get).lookup? name).isSome then pure (.variable name [])
  else match Namespace.all.find? (·.name = name) with
  | some n => pure (.value (.namespaceObject n))
  | none => fail (.variableNotFound name) p

def plainTypeName (v : Value) : String :=
  if v.pathName = "" then v.typeName else v.pathName

def expectBool (v : Value) (p : Position) : Action Bool :=
  match v with
  | .bool b => pure b
  | v => fail (.wrongType "bool" (plainTypeName v)) p

/-- Calls a function of the language or the screen; `receiver` holds the first argument. -/
def callNative (name : String) (receiver : Place) (args : List Value) (p : Position) :
    Action Value := do
  tick p
  let v ← readPlace receiver
  match Api.changed? v name args with
  | some new =>
    if receiver.isConstant (← get) then fail (.constantChanged name) p
    writePlace receiver new
    checkSize new p
    pure .unit
  | none =>
    match Api.function? name (v :: args) p with
    | some a => checked (← a) p
    | none => fail (.functionNotFound name ((v :: args).map Value.argumentType)) p

def callPlain (name : String) (p : Position) : Action Value := do
  tick p
  match Api.function? name [] p with
  | some a => checked (← a) p
  | none => fail (.functionNotFound name []) p

def callOutcome (name : String) (p : Position) : Except Stop Value → Except Stop Value
  | .error (.returned v) => .ok v
  | .error (.failed f) => .error (.failed (f.outOf name p))
  | r => r

/-- What is assigned, and where the variable and the sign stand. -/
structure Assignment where
  op : Option String
  value : Value
  name : String
  namePos : Position
  pos : Position

/-- Whether a compound assignment looks at the size of the result before it is stored. -/
def checksFirst : Value → Value → Bool
  | .string _, .string _ => true
  | .string _, .char _ => true
  | .string _, _ => false
  | .array _, _ => false
  | _, _ => true

/-- Where the complaint about the size of a stored result points. -/
def sizePos (a : Assignment) : Value → Value → Position
  | .array _, .array _ => a.namePos
  | _, _ => a.pos

def combine (a : Assignment) (op : String) (old : Value) : Action Value := do
  failOn a.pos (Operator.compound (← get).selectors op old a.value)

def assignTo (place : Place) (a : Assignment) : Action Unit := do
  if place.isConstant (← get) then fail (.constantAssigned a.name) a.namePos
  match a.op with
  | none => writePlace place a.value
  | some op =>
    let old ← readPlace place
    let new ← combine a op old
    if checksFirst old a.value then
      checkSize new a.pos
      writePlace place new
    else
      writePlace place new
      checkSize new (sizePos a old a.value)

/-- A link with its operands evaluated. An index carries the place of its expression too. -/
inductive Step where
  | property (name : String) (safe : Bool) (p : Position)
  | method (name : String) (args : List Value) (safe : Bool) (p : Position)
  | index (key : Value) (keyPos p : Position)

/-- The place of an index that counts from the end when it is negative. -/
def position? (n : Int64) (length : Nat) : Option Nat :=
  let i := if n < 0 then n.toInt + length else n.toInt
  if 0 ≤ i ∧ i < length then some i.toNat else none

def readProperty (v : Value) (name : String) (p : Position) : Action Value := do
  tick p
  match Api.property? v name with
  | some a => checked (← a) p
  | none => fail (.unknownProperty name v.typeName) p

/-- No property but those of maps can be written. -/
def writeProperty (v : Value) (name : String) (p : Position) (a : Assignment) : Action Unit := do
  let new ← match a.op with
    | some op => do combine a op (← readProperty v name p)
    | none => pure a.value
  tick p
  fail (.unwritableProperty name v.typeName new.typeName) p

def assignKey (map : Place) (name : String) (a : Assignment) : Action Unit := do
  assignTo (map.child (.name name)) a
  checkSize (← readPlace map) a.pos

def assignChar (text : Place) (s : String) (i : Nat) (a : Assignment) : Action Unit := do
  if text.isConstant (← get) then fail (.constantAssigned a.name) a.namePos
  let new ← match a.op with
    | some op => combine a op (.char (s.toList.getD i ' '))
    | none => pure a.value
  match new with
  | .char c => writePlace text (.string (String.ofList (s.toList.set i c)))
  | v => fail (.wrongType "char" (plainTypeName v)) a.pos

def indexPlace (place : Place) (key : Value) (keyPos p : Position) : Action Place := do
  tick p
  match ← readPlace place, key with
  | .array vs, .int n =>
    match position? n vs.length with
    | some i => pure (place.child (.index i))
    | none => fail (.arrayBounds n vs.length) keyPos
  | .map es, .string k =>
    pure (if (Json.getMember k es).isSome then place.child (.name k) else .value .unit)
  | .string s, .int n =>
    match position? n s.length with
    | some i => pure (.value (.char (s.toList.getD i ' ')))
    | none => fail (.stringBounds n s.length) keyPos
  | .array _, k => fail (.wrongType "i64" (plainTypeName k)) keyPos
  | .string _, k => fail (.wrongType "i64" (plainTypeName k)) keyPos
  | .map _, k => fail (.wrongType "string" (plainTypeName k)) keyPos
  | v, k => fail (.notIndexable v.typeName k.typeName) p

def assignIndex (place : Place) (key : Value) (keyPos p : Position) (a : Assignment) :
    Action Unit := do
  match ← readPlace place, key with
  | .map _, .string k =>
    tick p
    assignTo (place.child (.name k)) a
  | .string s, .int n =>
    tick p
    match position? n s.length with
    | some i => assignChar place s i a
    | none => fail (.stringBounds n s.length) keyPos
  | .array _, _ => assignTo (← indexPlace place key keyPos p) a
  | .map _, _ => assignTo (← indexPlace place key keyPos p) a
  | .string _, _ => assignTo (← indexPlace place key keyPos p) a
  | v, k => fail (.notIndexable v.typeName (k.typeName ++ "] = " ++ a.value.typeName)) p

def follow (call : String → Place → List Value → Position → Action Value) :
    List Step → Place → Action Value
  | [], place => readPlace place
  | .property name safe p :: rest, place => do
    match ← readPlace place with
    | .unit => if safe then pure .unit else readProperty .unit name p
    | .map es =>
      tick p
      follow call rest
        (if (Json.getMember name es).isSome then place.child (.name name) else .value .unit)
    | v => follow call rest (.value (← readProperty v name p))
  | .method name args safe p :: rest, place => do
    if safe && (match ← readPlace place with | .unit => true | _ => false) then pure .unit
    else follow call rest (.value (← call name place args p))
  | .index key keyPos p :: rest, place => do
    follow call rest (← indexPlace place key keyPos p)

def followAssign (a : Assignment) : List Step → Place → Action Unit
  | [], place => assignTo place a
  | [.property name safe p], place => do
    match ← readPlace place with
    | .unit => if safe then pure () else writeProperty .unit name p a
    | .map _ =>
      tick p
      assignKey place name a
    | v => writeProperty v name p a
  | [.index key keyPos p], place => assignIndex place key keyPos p a
  | .property name safe p :: rest, place => do
    match ← readPlace place with
    | .unit =>
      if safe then pure () else followAssign a rest (.value (← readProperty .unit name p))
    | .map es =>
      tick p
      followAssign a rest
        (if (Json.getMember name es).isSome then place.child (.name name) else .value .unit)
    | v => followAssign a rest (.value (← readProperty v name p))
  | .index key keyPos p :: rest, place => do
    followAssign a rest (← indexPlace place key keyPos p)
  | .method .. :: _, _ => pure ()

variable (g : Evaluator)

def exprs : List Expr → Action (List Value)
  | [] => pure []
  | e :: es => do
    let v ← g.expr e
    pure (v :: (← exprs es))

def stmts : List Stmt → Action Value
  | [] => pure .unit
  | [s] => g.stmt s
  | s :: ss => do
    let _ ← g.stmt s
    stmts ss

def block (ss : List Stmt) : Action Value :=
  if ss.isEmpty then pure .unit else inScope (g.stmts ss)

def callFunction (f : Function) (args : List Value) (p : Position) : Action Value := do
  if f.body.isEmpty then pure .unit
  else
    tick p
    let c ← read
    if c.config.callLevels < c.level + 1 then fail .stackOverflow p
    let body := isolated ((f.params.zip args).reverse.map fun (n, v) => ⟨n, false, v⟩)
      (g.stmts f.body)
    fun c s => (body c s).bind fun (r, s) => .done (callOutcome f.name p r, s)

/-- Calls a function of a script if there is one of the name and arity, or else one of the screen.
A method's receiver does not count for the arity of a script's function. -/
def callMethod (name : String) (receiver : Place) (args : List Value) (p : Position) :
    Action Value := do
  match (← get).function? name args.length with
  | some f => callFunction g f args p
  | none => callNative name receiver args p

def detached (place : Place) : Action Place := do
  if place.isConstant (← get) then pure (.value (← readPlace place)) else pure place

/-- Evaluates the arguments of a call, and then calls. A variable in front is looked up last, so that
it can be changed by the call. -/
def call (name : String) (args : List Expr) (p : Position) : Action Value := do
  let go (receiver : Place) (rest : List Value) : Action Value := do
    match (← get).function? name (rest.length + 1) with
    | some f => do callFunction g f ((← readPlace receiver) :: rest) p
    | none => callNative name receiver rest p
  match args with
  | [] =>
    match (← get).function? name 0 with
    | some f => callFunction g f [] p
    | none => callPlain name p
  | .var x q :: rest =>
    let vs ← g.exprs rest
    let place ← placeOf x q
    tick q
    go (← detached place) vs
  | e :: rest =>
    let v ← g.expr e
    go (.value v) (← g.exprs rest)

/-- An operator with its operands; nothing for a name that is no operator. -/
def operator? (name : String) (args : List Expr) (p : Position) : Option (Action Value) :=
  match args with
  | [a] => (Operator.unary? name).map fun f => do
    let v ← g.expr a
    if name ≠ "!" then tick p
    failOn p (f v)
  | [a, b] => (Operator.binary? {} name).map fun _ => do
    let v ← g.expr a
    let w ← g.expr b
    if (Operator.order? v w).isNone then tick p
    match Operator.binary? (← get).selectors name with
    | some f => checked (← failOn p (f v w)) p
    | none => pure .unit
  | _ => none

def steps : List Link → Action (List Step)
  | [] => pure []
  | .property name safe p :: ls => do pure (.property name safe p :: (← steps ls))
  | .method name args safe p :: ls => do
    let vs ← g.exprs args
    pure (.method name vs safe p :: (← steps ls))
  | .index e p :: ls => do
    let v ← g.expr e
    pure (.index v e.startPos p :: (← steps ls))

def basePlace (base : Expr) : Action Place := do
  match base with
  | .var x q =>
    let place ← placeOf x q
    tick q
    pure place
  | e => pure (.value (← g.expr e))

def path (base : Expr) (links : List Link) : Action Value := do
  let ss ← g.steps links
  follow g.callMethod ss (← g.basePlace base)

def interpolate (before : String) : List Expr → Action Value
  | [] => pure (.string before)
  | e :: es => do
    let v ← g.expr e
    let s := before ++ v.ownText (← get).selectors
    checkSize (.string s) e.pos
    interpolate s es

/-- The items of an array; their sizes together are limited. -/
def arrayItems (before : List Value) : List Expr → Action Value
  | [] => pure (.array before)
  | e :: es => do
    let v ← g.expr e
    let items := before ++ [v]
    checkItems (items.map Operator.size) e.pos
    arrayItems items es
where
  checkItems (sizes : List Operator.Size) (p : Position) : Action Unit := do
    let config := (← read).config
    let total := sizes.foldl Operator.Size.add {}
    match total.excess? config.maxStringSize config.maxCollectionSize with
    | some m => fail (.tooLarge m) p
    | none => pure ()

def mapEntries (before : List (String × Value)) : List (String × Expr) → Action Value
  | [] => pure (.map before)
  | (k, e) :: es => do
    let v ← g.expr e
    let entries := Json.putMember k v before
    arrayItems.checkItems (entries.map fun e => Operator.size e.2) e.pos
    mapEntries entries es

def exprRule (e : Expr) : Action Value := do
  tick e.pos
  match e with
  | .constant v _ => pure v
  | .interpolated parts _ => g.interpolate "" parts
  | .array items _ => g.arrayItems [] items
  | .map entries _ => g.mapEntries [] entries
  | .var name p => do readPlace (← placeOf name p)
  | .call name args p => (g.operator? name args p).getD (g.call name args p)
  | .path base links _ => g.path base links
  | .and a b _ => do
    if ← expectBool (← g.expr a) a.pos then pure (.bool (← expectBool (← g.expr b) b.pos))
    else pure (.bool false)
  | .or a b _ => do
    if ← expectBool (← g.expr a) a.pos then pure (.bool true)
    else pure (.bool (← expectBool (← g.expr b) b.pos))
  | .block ss _ => g.block ss

def round (a : Action Value) : Action Bool :=
  fun c s => (a c s).bind fun (r, s) => .done
    (match r with
      | .ok _ => .ok true
      | .error (.left ends) => .ok (!ends)
      | .error e => .error e, s)

def roundsRule (cond : Option Expr) (body : List Stmt) (p : Position) : Action Unit := do
  let goOn ← match cond with
    | some c => do expectBool (← g.expr c) c.pos
    | none => pure true
  if goOn then
    if body.isEmpty then
      tick p
      g.rounds cond body p
    else if ← round (g.block body) then g.rounds cond body p
    else pure ()

def itemRound (name : String) (body : List Stmt) (p : Position) (v : Value) : Action Bool := do
  tick p
  if body.isEmpty then pure true
  else
    round (inScope do
      modify (·.declare name false v)
      g.block body)

def forItems (name : String) (body : List Stmt) (p : Position) : List Value → Action Unit
  | [] => pure ()
  | v :: vs => do if ← g.itemRound name body p v then forItems name body p vs

def forRange (name : String) (body : List Stmt) (p : Position) : Nat → Int → Action Unit
  | 0, _ => pure ()
  | n + 1, i => do
    if ← g.itemRound name body p (.int (Int64.ofInt i)) then forRange name body p n (i + 1)

def forRule (name : String) (items : Expr) (body : List Stmt) (p : Position) : Action Unit := do
  match ← g.expr items with
  | .array vs => g.forItems name body p vs
  | .string s => g.forItems name body p (s.toList.map .char)
  | .range lo hi closed =>
    g.forRange name body p (hi.toInt - lo.toInt + if closed then 1 else 0).toNat lo.toInt
  | _ => fail .notIterable items.startPos

def assignRule (op : Option String) (target value : Expr) (p : Position) : Action Unit := do
  let v ← g.expr value
  match target with
  | .var x q =>
    tick q
    match ← placeOf x q with
    | .variable x ks => assignTo (.variable x ks) ⟨op, v, x, q, p⟩
    | .value _ => fail (.constantAssigned x) q
  | .path (.var x q) links _ =>
    let ss ← g.steps links
    followAssign ⟨op, v, x, q, p⟩ ss (← g.basePlace (.var x q))
  | _ => pure ()

def optional (e : Option Expr) : Action Value :=
  match e with
  | some e => g.expr e
  | none => pure .unit

/-- The end of a handler. A unit value that it throws stands for what was caught. -/
def handled (f : Failure) : Except Stop Value → Except Stop Value
  | .ok _ => .ok .unit
  | .error (.failed (.error (.thrown .unit) p)) => .error (.failed (f.rethrown p))
  | r => r

def caught (a handler : Action Value) : Action Value :=
  fun c s => (a c s).bind fun (r, s) =>
    match r with
    | .error (.failed f) =>
      if f.isCatchable then (handler c s).bind fun (r, s) => .done (handled f r, s)
      else .done (r, s)
    | r => .done (r, s)

/-- What comes of a text that is run where nobody asks why it failed. It may end like a function. -/
def heard : Except Stop Value → Except Stop Value
  | .error (.returned v) => .ok v
  | .error .exhausted => .error .exhausted
  | .error _ => .ok .unit
  | r => r

/-- The statements of a text, all at one place; none if it is no script or defines functions. -/
def statements? (c : Config) (text : String) (p : Position) : Option (List Stmt) × Bool :=
  match Parser.parse (limits c) false text with
  | .ok (t, mark) =>
    (if t.functions.isEmpty then some (movedStmts (fun _ => p) t.body) else none, mark)
  | .error f => (none, f.afterPeriod)

def parseText (text : String) (p : Position) : Action (Option (List Stmt)) := do
  let (ss, mark) := statements? (← read).config text p
  modify fun s => { s with afterPeriod := mark }
  pure ss

def textRule (text : String) (p : Position) : Action Value := do
  tick p
  match ← parseText text p with
  | some ss => g.stmts ss
  | none => pure .unit

def attemptRule (e : Expr) (p : Position) : Action Value := do
  tick p
  match ← g.expr e with
  | .string text =>
    let a := withReader (fun c => { c with level := c.level + 1 }) (g.textRule text p)
    fun c s => (a c s).bind fun (r, s) => .done (heard r, s)
  | v => fail (.wrongType "string" (plainTypeName v)) e.startPos

def stmtRule (s : Stmt) : Action Value := do
  tick s.pos
  match s with
  | .noop _ => pure .unit
  | .expr (.call name args p) => (g.operator? name args p).getD (g.call name args p)
  | .expr e => g.expr e
  | .ifElse cond yes no _ => do
    if ← expectBool (← g.expr cond) cond.pos then g.block yes else g.block no
  | .loop cond body _ q => do
    g.rounds cond body q
    pure .unit
  | .forIn name items body _ q => do
    g.forRule name items body q
    pure .unit
  | .declare name init constant _ => do
    let v ← g.expr init
    modify (·.declare name constant v)
    pure .unit
  | .assign op target value p => do
    g.assignRule op target value p
    pure .unit
  | .block ss _ => g.block ss
  | .leave ends _ => stop (.left ends)
  | .ret e _ => do stop (.returned (← g.optional e))
  | .raise e p => do fail (.thrown (← g.optional e)) p
  | .tryCatch body handler _ => caught (g.block body) (g.block handler)
  | .attempt e _ q => caught (inScope (g.attemptRule e q)) (pure .unit)

end Evaluator

def evaluator : Nat → Evaluator
  | 0 =>
    { expr := fun _ => stop .exhausted, stmt := fun _ => stop .exhausted
      rounds := fun _ _ _ => stop .exhausted }
  | n + 1 =>
    { expr := fun e c s => (evaluator n).exprRule e c s
      stmt := fun t c s => (evaluator n).stmtRule t c s
      rounds := fun e b p c s => (evaluator n).roundsRule e b p c s }

end ScreenScript.Script
