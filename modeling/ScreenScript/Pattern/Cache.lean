import ScreenScript.Pattern.Parser

/-!
Matchers for whole texts, and the store that keeps the ones used last.
-/

namespace ScreenScript.Pattern

def anchored (pattern : String) : String :=
  "^(?:" ++ pattern ++ ")$"

/-- Nothing for a pattern that is no expression once it is anchored. -/
def compile? (pattern : String) : Option Expr :=
  Parser.parse? (anchored pattern).toList

/-- A matcher; two with one stamp are the same object. -/
structure Matcher where
  pattern : String
  expr : Expr
  stamp : Nat

/-- The most recent matcher comes first. -/
structure Cache where
  capacity : Nat
  entries : List Matcher := []
  fresh : Nat := 0

namespace Cache

def defaultCapacity : Nat := 128

def ofCapacity (n : Nat) : Cache := ⟨max 1 n, [], 0⟩

instance : Inhabited Cache := ⟨ofCapacity defaultCapacity⟩

/-- Moves the pattern's matcher to the front, or makes it; an invalid pattern is not kept. -/
def lookup (c : Cache) (pattern : String) : Option Matcher × Cache :=
  match c.entries.find? (·.pattern = pattern) with
  | some m => (some m, { c with entries := m :: c.entries.filter (·.pattern ≠ pattern) })
  | none =>
    match compile? pattern with
    | none => (none, c)
    | some e =>
      let m : Matcher := ⟨pattern, e, c.fresh⟩
      (some m, { c with entries := (m :: c.entries).take c.capacity, fresh := c.fresh + 1 })

def matchesAll (c : Cache) (pattern text : String) : Bool × Cache :=
  match c.lookup pattern with
  | (some m, c) => (m.expr.occursIn text.toList, c)
  | (none, c) => (false, c)

end Cache

end ScreenScript.Pattern
