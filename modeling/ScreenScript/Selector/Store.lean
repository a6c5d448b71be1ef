import ScreenScript.Selector.Condition

/-!
Selectors in use. A selector is shared by all its handles, so a handle is a place in a store that
holds every selector's conditions.
-/

namespace ScreenScript.Selector

/-- A handle is the number of its selector, counted from the oldest. -/
abbrev Handle := Nat

/-- The conditions of each selector, in the order they were appended. -/
structure Store where
  lists : Array (List Condition) := #[]

namespace Store

def create (s : Store) : Handle × Store :=
  (s.lists.size, ⟨s.lists.push []⟩)

def conditions (s : Store) (h : Handle) : List Condition :=
  s.lists.getD h []

def push (s : Store) (h : Handle) (c : Condition) : Store :=
  ⟨s.lists.modify h (· ++ [c])⟩

def flagValue (on : Bool) : String :=
  if on then "true" else "false"

def flag (s : Store) (h : Handle) (k : Kind) (on : Bool) : Store :=
  s.push h ⟨k, flagValue on⟩

def number (s : Store) (h : Handle) (k : Kind) (n : Int64) : Store :=
  s.push h ⟨k, Word.text n⟩

def text (s : Store) (h : Handle) : String :=
  Condition.jsonAll (s.conditions h)

def debug (s : Store) (h : Handle) : String :=
  "Selector \x7b conditions: [" ++ ", ".intercalate ((s.conditions h).map Condition.debug) ++
    "] \x7d"

end Store

end ScreenScript.Selector
