import ScreenScript.Number.Decimal

/-!
Signed words of 64 bits as the numbers of scripts and screens: results are exact or refused, or are
clamped to the range, and never wrap.
-/

namespace ScreenScript.Word

def fits (n : Int) : Bool :=
  Int64.minValue.toInt ≤ n && n ≤ Int64.maxValue.toInt

def ofInt? (n : Int) : Option Int64 :=
  if fits n then some (Int64.ofInt n) else none

def clamp (n : Int) : Int64 :=
  Int64.ofIntClamp n

/-- The mean of two words toward zero, which is always a word again. -/
def midpoint (a b : Int64) : Int64 :=
  Int64.ofInt ((a.toInt + b.toInt).tdiv 2)

def saturatingAdd (a b : Int64) : Int64 :=
  clamp (a.toInt + b.toInt)

def saturatingSub (a b : Int64) : Int64 :=
  clamp (a.toInt - b.toInt)

def add? (a b : Int64) : Option Int64 :=
  ofInt? (a.toInt + b.toInt)

def sub? (a b : Int64) : Option Int64 :=
  ofInt? (a.toInt - b.toInt)

def mul? (a b : Int64) : Option Int64 :=
  ofInt? (a.toInt * b.toInt)

def neg? (a : Int64) : Option Int64 :=
  ofInt? (-a.toInt)

/-- Division toward zero; nothing by zero, nor where the quotient leaves the range. -/
def div? (a b : Int64) : Option Int64 :=
  if b = 0 then none else ofInt? (a.toInt.tdiv b.toInt)

/-- The remainder that goes with `div?`, refused in the same cases. -/
def mod? (a b : Int64) : Option Int64 :=
  if b = 0 ∨ (a = Int64.minValue ∧ b = -1) then none else ofInt? (a.toInt.tmod b.toInt)

def text (a : Int64) : String :=
  Decimal.text a.toInt

def read? (s : List Char) : Option Int64 :=
  (Decimal.readInt? s).bind ofInt?

end ScreenScript.Word
