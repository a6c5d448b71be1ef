import ScreenScript.Number.Decimal
import ScreenScript.Number.Shortest

/-!
Texts of floating-point numbers: which exponents are written out in place, and which with an `e`.
-/

namespace ScreenScript

/-- Decimal exponents from `least` to `greatest` are written positionally, with a fraction always. -/
structure Layout where
  least : Int
  greatest : Int

namespace Layout

/-- Numbers inside script values shown for inspection. -/
def inspected : Layout := ⟨-4, 15⟩

/-- Numbers in wire texts. -/
def wire : Layout := ⟨-5, 15⟩

def plain : Layout := ⟨-400, 400⟩

def scientific : Layout := ⟨1, 0⟩

def positional (ds : List Char) (point : Int) : List Char :=
  if point ≤ 0 then ['0', '.'] ++ List.replicate (-point).toNat '0' ++ ds
  else
    let k := point.toNat
    if ds.length ≤ k then ds ++ List.replicate (k - ds.length) '0' ++ ['.', '0']
    else ds.take k ++ '.' :: ds.drop k

def withExponent (ds : List Char) (point : Int) : List Char :=
  let mantissa := match ds with
    | [] => []
    | [d] => [d]
    | d :: r => d :: '.' :: r
  mantissa ++ 'e' :: Decimal.ofInt (point - 1)

def chars (l : Layout) : Binary64 → List Char
  | .nan => ['N', 'a', 'N']
  | .infinite s => (if s then ['-'] else []) ++ ['i', 'n', 'f']
  | .finite s m e =>
    (if s then ['-'] else []) ++
      if m = 0 then ['0', '.', '0']
      else
        let ⟨ds, point⟩ := Binary64.shortest m e
        if l.least ≤ point - 1 ∧ point - 1 ≤ l.greatest then positional ds point
        else withExponent ds point

def text (l : Layout) (x : Binary64) : String :=
  String.ofList (l.chars x)

/-- Beyond this magnitude a displayed number takes an exponent. -/
def displayCeiling : Binary64 := .ofInt 9999999827968

/-- A displayed number closer to zero than this takes an exponent: the single-precision `1e-13`. -/
def displayFloor : Binary64 := .round false 14757395 (1 <<< 67)

/-- Numbers as scripts show them: positional within the two bounds, zero without a sign. -/
def display (x : Binary64) : String :=
  if x.isZero then "0.0"
  else
    let a := x.abs
    if displayCeiling.lt a || a.lt displayFloor then scientific.text x else plain.text x

end Layout

end ScreenScript
