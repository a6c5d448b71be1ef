import ScreenScript.Pattern.Category
import ScreenScript.Pattern.Folding
import ScreenScript.Pattern.Property
import ScreenScript.Pattern.Script
import ScreenScript.Text.Blank

/-!
Sets of characters that patterns name, and which characters belong to them.
-/

namespace ScreenScript.Pattern

inductive Class where
  | none
  | range (lo hi : Nat)
  | table (t : Text.Ranges)
  | blank
  | complement (a : Class)
  | union (a b : Class)
  | inter (a b : Class)
  /-- Closed under differences in case. -/
  | folded (a : Class)

namespace Class

def contains : Class → Char → Bool
  | none, _ => false
  | range lo hi, c => lo ≤ c.toNat && c.toNat ≤ hi
  | table t, c => t.contains c
  | blank, c => Text.isBlank c
  | complement a, c => !a.contains c
  | union a b, c => a.contains c || b.contains c
  | inter a b, c => a.contains c && b.contains c
  | folded a, c => (Folding.orbit c).any a.contains

def any : Class := range 0 0x10ffff

def char (c : Char) : Class := range c.toNat c.toNat

def ofChars (cs : List Char) : Class :=
  cs.foldr (fun c a => union (char c) a) none

def difference (a b : Class) : Class := inter a (complement b)

def symmetric (a b : Class) : Class := union (difference a b) (difference b a)

def complementIf (b : Bool) (a : Class) : Class := if b then complement a else a

def foldedIf (b : Bool) (a : Class) : Class := if b then folded a else a

def wordTable : Text.Ranges := .ofText Property.word

def find? {α : Type} (name : String) (ts : List (List String × α)) : Option α :=
  (ts.find? fun t => t.1.contains name).map (·.2)

def digitTable : Text.Ranges := .ofText ((find? "nd" Category.tables).getD "")

def word : Class := table wordTable

def digit : Class := table digitTable

def asciiWord : Class :=
  union (range 0x30 0x39) (union (range 0x41 0x5a) (union (char '_') (range 0x61 0x7a)))

def asciiDigit : Class := range 0x30 0x39

def asciiBlank : Class := union (range 9 13) (char ' ')

/-- The ASCII sets that brackets may name as `[:name:]`. -/
def ascii? (name : String) : Option Class :=
  match name with
  | "alnum" => some (union asciiDigit (union (range 0x41 0x5a) (range 0x61 0x7a)))
  | "alpha" => some (union (range 0x41 0x5a) (range 0x61 0x7a))
  | "ascii" => some (range 0 0x7f)
  | "blank" => some (ofChars ['\t', ' '])
  | "cntrl" => some (union (range 0 0x1f) (range 0x7f 0x7f))
  | "digit" => some asciiDigit
  | "graph" => some (range 0x21 0x7e)
  | "lower" => some (range 0x61 0x7a)
  | "print" => some (range 0x20 0x7e)
  | "punct" =>
    some (union (range 0x21 0x2f) (union (range 0x3a 0x40) (union (range 0x5b 0x60)
      (range 0x7b 0x7e))))
  | "space" => some asciiBlank
  | "upper" => some (range 0x41 0x5a)
  | "word" => some asciiWord
  | "xdigit" => some (union asciiDigit (union (range 0x41 0x46) (range 0x61 0x66)))
  | _ => Option.none

/-- Small letters without spaces, hyphens, underscores or a leading `is`. -/
def looseName (s : List Char) : String :=
  let cs := (s.filter fun c => !(c = ' ' || c = '-' || c = '_')).map Char.toLower
  String.ofList (match cs with
    | 'i' :: 's' :: c :: r => if c = 'c' ∧ r = [] then cs else c :: r
    | _ => cs)

def category? (name : String) : Option Class :=
  match name with
  | "any" => some any
  | "assigned" => (find? "cn" Category.tables).map fun t => complement (table (.ofText t))
  | "ascii" => some (range 0 0x7f)
  | "cs" | "surrogate" => some none
  | _ =>
    match find? name Category.tables, find? name Category.groups with
    | some t, _ => some (table (.ofText t))
    | Option.none, some members =>
      some (members.foldr (fun m a =>
        union (table (.ofText ((find? m Category.tables).getD ""))) a) none)
    | Option.none, Option.none => Option.none

def script? (name : String) : Option Class :=
  (find? name Script.tables).map fun t => table (.ofText t)

def property? (name : String) : Option Class :=
  (find? name Property.tables).map fun t => table (.ofText t)

/-- A set by one name. Three short names mean the category and not a property. -/
def named? (name : String) : Option Class :=
  let p := if name = "cf" ∨ name = "sc" ∨ name = "lc" then Option.none else property? name
  p <|> category? name <|> script? name

def valued? (kind value : String) : Option Class :=
  match kind with
  | "gc" | "generalcategory" => category? value
  | "sc" | "script" => script? value
  | "scx" | "scriptextensions" => script? value
  | _ => Option.none

end Class

end ScreenScript.Pattern
