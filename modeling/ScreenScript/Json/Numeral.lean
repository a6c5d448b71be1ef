import ScreenScript.Number.Binary64
import ScreenScript.Number.Decimal

/-!
Numerals of JSON texts and the numbers they are read as. Whole numerals within 64 bits stay whole;
all others go through floating point, where digits that no longer fit an unsigned word are dropped.
-/

namespace ScreenScript.Json

/-- A numeral as it is written; digits are kept as characters. -/
structure Numeral where
  negative : Bool
  whole : List Char
  fraction : Option (List Char)
  exponent : Option (Bool × List Char)

inductive Number where
  | whole (n : Int)
  | real (x : Binary64)
  deriving DecidableEq

namespace Number

def toReal : Number → Binary64
  | whole n => .ofInt n
  | real x => x

end Number

namespace Numeral

def wordLimit : Nat := UInt64.size

/-- Takes digits while the significand stays an unsigned word; the rest is what no longer fits. -/
def significand (n : Nat) : List Char → Nat × List Char
  | [] => (n, [])
  | c :: r =>
    let m := 10 * n + Decimal.digitValue c
    if m < wordLimit then significand m r else (n, c :: r)

/-- `x * 10 ^ e` by one multiplication or division per 308 places; nothing where it overflows. -/
def scale (x : Binary64) (e : Int) : Nat → Option Binary64
  | 0 => some x
  | steps + 1 =>
    if 0 ≤ e then
      if e ≤ 308 then
        let y := x.mul (.ofDecimal false 1 e)
        if y.isInfinite then none else some y
      else if x.isZero then some x else none
    else if -308 ≤ e then some (x.div (.ofDecimal false 1 (-e)))
    else if x.isZero then some x
    else scale (x.div (.ofDecimal false 1 308)) (e + 308) steps

def real? (negative : Bool) (m : Nat) (e : Int) : Option Binary64 :=
  -- two divisions by the greatest power reach zero from any significand
  (scale (.ofInt m) e 4).map fun x => if negative then x.neg else x

def maxExponent : Nat := 2147483647

/-- Applies a written exponent to a significand whose point has moved by `shift`. -/
def withExponent (negative : Bool) (m : Nat) (shift : Int) :
    Option (Bool × List Char) → Option Binary64
  | none => real? negative m shift
  | some (below, ds) =>
    let k := Decimal.value ds
    if maxExponent < k then
      if m ≠ 0 ∧ !below then none else some (.finite negative 0 (-1074))
    else
      let e : Int := if below then shift - k else shift + k
      real? negative m (max (-maxExponent - 1) (min maxExponent e))

/-- The number a numeral is read as; nothing if it lies outside the floating-point range. -/
def number? (t : Numeral) : Option Number :=
  match significand 0 t.whole with
  | (m, []) =>
    match t.fraction, t.exponent with
    | none, none =>
      if !t.negative then some (.whole m)
      else if m = 0 ∨ (-m : Int) < Int64.minValue.toInt then some (.real (Binary64.ofInt m).neg)
      else some (.whole (-m))
    | none, e => (withExponent t.negative m 0 e).map .real
    | some f, e =>
      let (m', left) := significand m f
      (withExponent t.negative m' (-((f.length - left.length : Nat) : Int)) e).map .real
  | (m, left) =>
    match t.fraction with
    | none => (withExponent t.negative m left.length t.exponent).map .real
    | some f =>
      let (m', left) := significand m f
      (withExponent t.negative m' (left.length - ((f.length - left.length : Nat) : Int))
        t.exponent).map .real

end Numeral

end ScreenScript.Json
