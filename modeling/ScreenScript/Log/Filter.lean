import ScreenScript.Log.Event
import ScreenScript.Number.Decimal
import ScreenScript.Text.Blank

/-!
Which events are reported: directives that set a level for all targets that begin with a text.
-/

namespace ScreenScript.Log

/-- `level` is the greatest rank reported, zero for none. A directive about spans concerns no
event. -/
structure Directive where
  target : String := ""
  level : Nat := 5
  spans : Bool := false

inductive Directive.Refusal where
  | form
  | level
  deriving DecidableEq

namespace Directive

def Refusal.message : Refusal → String
  | form => "invalid filter directive"
  | level => "error parsing level filter: expected one of \"off\", \"error\", \"warn\", " ++
      "\"info\", \"debug\", \"trace\", or a number 0-5"

def level? (s : List Char) : Option Nat :=
  match Decimal.readUnsigned? s with
  | some n => if n ≤ 5 then some n else none
  | none =>
    let name := String.ofList (s.map Char.toLower)
    if name = "off" then some 0
    else (Level.all.find? fun l => l.name = name).map Level.rank

def mayStart (c : Char) : Bool :=
  c = '-' || c = ':' || c = '_' || c.isAlphanum || c.toNat ≥ 0x80

def withLevel (d : Directive) (s : List Char) : Except Refusal Directive :=
  if s.isEmpty then .ok d
  else match level? s with
  | some l => .ok { d with level := l }
  | none => .error .level

def read (s : List Char) : Except Refusal Directive :=
  match s with
  | [] => .error .form
  | c :: _ =>
    if c = '[' then spanned s
    else if !mayStart c then .error .form
    else
      let head := s.takeWhile fun c => c != '=' && c != '['
      match s.drop head.length with
      | '=' :: r => withLevel { target := String.ofList head } r
      | '[' :: r => spanned r
      | _ =>
        match level? head with
        | some l => .ok { level := l }
        | none => .ok { target := String.ofList head }
where
  /-- A directive about spans: only its level has to be right. -/
  spanned (s : List Char) : Except Refusal Directive :=
    match s.dropWhile (· != ']') with
    | [_] => .ok { spans := true }
    | _ :: '=' :: r => withLevel { spans := true } r
    | _ => .error .form

end Directive

structure Filter where
  directives : List Directive

namespace Filter

def parts (spec : String) : List String :=
  ((spec.splitOn ",").filter (· ≠ ""))

def readPart (s : String) : Except Directive.Refusal Directive :=
  Directive.read (Text.trim s.toList)

/-- The directives that can be read; only errors are reported where there is none. -/
def ofSpec (spec : String) : Filter :=
  let ds := (parts spec).filterMap fun s => (readPart s).toOption
  ⟨if ds.isEmpty then [{ level := 1 }] else ds⟩

def complaints (spec : String) : List String :=
  (parts spec).filterMap fun s =>
    match readPart s with
    | .ok _ => none
    | .error e => some ("ignoring \x60" ++ s ++ "\x60: " ++ e.message)

/-- The directive with the longest matching target decides, the last of several for one target. -/
def allows (f : Filter) (e : Event) : Bool :=
  let best := f.directives.foldl (fun (best : Option Directive) d =>
    if !d.spans && d.target.isPrefixOf e.target then
      match best with
      | some b => if b.target.length ≤ d.target.length then some d else best
      | none => some d
    else best) none
  match best with
  | some d => e.level.rank ≤ d.level
  | none => false

end Filter

end ScreenScript.Log
