import ScreenScript.Node.Field

/-!
The kinds of conditions a selector may hold. A kind's name is its wire form and the name of the
script function that appends it.
-/

namespace ScreenScript.Selector

open Node

inductive Mode where
  | exact
  | contains
  | startsWith
  | endsWith
  | pattern
  deriving DecidableEq, Repr

inductive Kind where
  | text (f : Field) (m : Mode)
  | flag (f : Flag)
  | depth
  | drawingOrder
  deriving DecidableEq, Repr

namespace Mode

def all : List Mode := [exact, contains, startsWith, endsWith, pattern]

def ending : Mode → String
  | exact => ""
  | contains => "Contains"
  | startsWith => "StartsWith"
  | endsWith => "EndsWith"
  | pattern => "Matches"

end Mode

namespace Kind

def all : List Kind :=
  Field.all.flatMap (fun f => Mode.all.map (text f)) ++ Flag.all.map flag ++ [depth, drawingOrder]

def name : Kind → String
  | text f m => f.name ++ m.ending
  | flag f => f.name
  | depth => "depth"
  | drawingOrder => "drawingOrder"

def ofName? (s : String) : Option Kind :=
  all.find? fun k => k.name = s

def titled (s : String) : String :=
  String.ofList (match s.toList with
    | [] => []
    | c :: r => c.toUpper :: r)

def modeTitle : Mode → String
  | .exact => "Exact"
  | m => m.ending

def shape : Kind → String
  | text f m => "Text(" ++ titled f.name ++ ", " ++ modeTitle m ++ ")"
  | flag f => "Flag(" ++ titled f.name ++ ")"
  | depth => "Depth"
  | drawingOrder => "DrawingOrder"

end Kind

end ScreenScript.Selector
