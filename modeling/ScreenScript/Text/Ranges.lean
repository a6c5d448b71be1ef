/-!
Sets of characters given as ranges of code points in hexadecimal, the way character tables are
published: `41-5a 61-7a aa`. Anything else between them is a separator.
-/

namespace ScreenScript.Text

/-- Ascending, disjoint, inclusive ranges of code points. -/
abbrev Ranges := Array (Nat × Nat)

namespace Ranges

def hexDigit? (c : Char) : Option Nat :=
  if '0' ≤ c ∧ c ≤ '9' then some (c.toNat - '0'.toNat)
  else if 'a' ≤ c ∧ c ≤ 'f' then some (c.toNat - 'a'.toNat + 10)
  else if 'A' ≤ c ∧ c ≤ 'F' then some (c.toNat - 'A'.toNat + 10)
  else none

/-- The range that ends with the number read last, if there is one. -/
def close (acc : Ranges) (lo n : Option Nat) : Ranges :=
  match n with
  | none => acc
  | some n => acc.push (lo.getD n, n)

/-- Collects ranges: `lo` is the first end of a range once its dash is read, `n` the number at hand. -/
def read (acc : Ranges) (lo n : Option Nat) : List Char → Ranges
  | [] => close acc lo n
  | c :: r =>
    if c = '-' then read acc n none r
    else match hexDigit? c with
    | some d => read acc lo (some (16 * n.getD 0 + d)) r
    | none => read (close acc lo n) none none r

def ofText (s : String) : Ranges :=
  read #[] none none s.toList

def search (t : Ranges) (n lo size : Nat) : Bool :=
  if size = 0 then false
  else
    let mid := lo + size / 2
    match t[mid]? with
    | none => false
    | some (a, b) =>
      if n < a then search t n lo (size / 2)
      else if n ≤ b then true
      else search t n (mid + 1) (size - size / 2 - 1)
  termination_by size

def contains (t : Ranges) (c : Char) : Bool :=
  t.search c.toNat 0 t.size

/-- Membership by looking at every range; what `contains` answers on a sorted table. -/
def covers (t : Ranges) (c : Char) : Bool :=
  t.any fun r => r.1 ≤ c.toNat && c.toNat ≤ r.2

end Ranges

end ScreenScript.Text
