import ScreenScript.Selector.Kind
import ScreenScript.Node.Info
import ScreenScript.Pattern.Cache

/-!
Conditions on nodes: their wire form, how it is read, and when a node satisfies them.
-/

namespace ScreenScript.Selector

open Node Pattern

/-- Values travel as text, whatever the kind. -/
structure Condition where
  kind : Kind
  value : String
  deriving DecidableEq

namespace Condition

def json (c : Condition) : List Char :=
  Json.Value.printObject
    [("type", Json.Value.printString c.kind.name), ("value", Json.Value.printString c.value)]

def jsonAll (cs : List Condition) : String :=
  String.ofList (Json.Value.printArray (cs.map json))

def debug (c : Condition) : String :=
  "Condition \x7b kind: " ++ Kind.titled c.kind.name ++ ", value: " ++ Text.quoted c.value ++ " \x7d"

def ofTexts? (kind value : Option String) : Option Condition := do
  let kind ← kind
  let value ← value
  pure ⟨← Kind.ofName? kind, value⟩

def only? (key : String) (ms : List (Option String × Json.Written)) : Option String :=
  match ms.filter (·.1 = some key) with
  | [(_, .string s)] => s
  | _ => none

def ofWritten? : Json.Written → Option Condition
  | .object ms =>
    if ms.all (·.1.isSome) then ofTexts? (only? "type" ms) (only? "value" ms) else none
  | .array [.string k, .string v] => ofTexts? k v
  | _ => none

def parseAll? (s : String) : Option (List Condition) :=
  match Json.Written.parse? s with
  | some (.array ws) => ws.mapM ofWritten?
  | _ => none

def occurs (sub : List Char) : List Char → Bool
  | [] => sub.isEmpty
  | c :: r => sub.isPrefixOf (c :: r) || occurs sub r

def endsAfter (mark value actual : List Char) : Bool :=
  !value.isEmpty && (mark ++ value).isSuffixOf actual

/-- Exact identifiers and class names may leave out the package in front. -/
def isShortFor (f : Field) (value actual : List Char) : Bool :=
  match f with
  | .id => endsAfter [':', 'i', 'd', '/'] value actual
  | .className => endsAfter ['.'] value actual
  | _ => false

def number? (value : String) : Option Int64 :=
  Word.read? value.toList

def holds (c : Condition) (i : Info) (cache : Cache) : Bool × Cache :=
  match c.kind with
  | .text f m =>
    let actual := (i.field f).toList
    let want := c.value.toList
    match m with
    | .exact => (actual = want || isShortFor f want actual, cache)
    | .contains => (occurs want actual, cache)
    | .startsWith => (want.isPrefixOf actual, cache)
    | .endsWith => (want.isSuffixOf actual, cache)
    | .pattern => cache.matchesAll c.value (i.field f)
  | .flag f => (i.flag f == (c.value = "true"), cache)
  | .depth => (number? c.value = some i.depth, cache)
  | .drawingOrder => (number? c.value = some i.drawingOrder, cache)

/-- Whether the node satisfies every condition. The first that fails ends the search. -/
def holdAll (i : Info) : List Condition → Cache → Bool × Cache
  | [], cache => (true, cache)
  | c :: cs, cache =>
    match c.holds i cache with
    | (true, cache) => holdAll i cs cache
    | (false, cache) => (false, cache)

end Condition

end ScreenScript.Selector
