import ScreenScript.Number.Binary64

/-!
The fewest decimal digits that read back as a given floating-point number, and of those the nearest.
-/

namespace ScreenScript.Binary64

/-- `0.d₁d₂…dₙ * 10 ^ point`, without trailing zeros. -/
structure Digits where
  digits : List Char
  point : Int

/-- A scale `a / b` at which a significand and the ends of its interval are compared with a grid. -/
structure Grid where
  a : Nat
  b : Nat

/-- Units of `2 ^ q` measured in steps of `10 ^ j`. -/
def Grid.of (q j : Int) : Grid :=
  let a := if 0 ≤ q then 1 <<< q.toNat else 1
  let b := if 0 ≤ q then 1 else 1 <<< (-q).toNat
  if 0 ≤ j then ⟨a, b * Nat.pow 10 j.toNat⟩ else ⟨a * Nat.pow 10 (-j).toNat, b⟩

/-- The greatest `p` with `10 ^ p ≤ m * 2 ^ e`, from an estimate that is off by one at most. -/
def floorLog10 (m : Nat) (e : Int) : Int :=
  let p := (((m.log2 : Int) + e) * 1233).fdiv 4096
  let atLeast (p : Int) : Bool := let g := Grid.of e p; g.b ≤ m * g.a
  if atLeast (p + 1) then p + 1 else if atLeast p then p else p - 1

/-- The interval of numbers that round to `m * 2 ^ e`, in quarters of its last place: its lower end,
the number and its upper end. -/
def interval (m : Nat) (e : Int) : Nat × Nat × Nat :=
  (if m = Binary64.leastFull ∧ e ≠ -1074 then 4 * m - 1 else 4 * m - 2, 4 * m, 4 * m + 2)

/-- The multiple of the grid's step inside the interval, the nearer of two. -/
def pick (m : Nat) (e : Int) (g : Grid) : Option Nat :=
  let (lo, x, hi) := interval m e
  let d := x * g.a / g.b
  let inside (d : Nat) : Bool :=
    if m % 2 = 0 then lo * g.a ≤ d * g.b && d * g.b ≤ hi * g.a
    else lo * g.a < d * g.b && d * g.b < hi * g.a
  match inside d, inside (d + 1) with
  | true, true => if 2 * (x * g.a - d * g.b) ≤ g.b then some d else some (d + 1)
  | true, false => some d
  | false, true => some (d + 1)
  | false, false => none

/-- Tries ever finer grids, `n` more of them. -/
def refine (m : Nat) (e j : Int) : Nat → Nat × Int
  | 0 => (m, j)
  | n + 1 =>
    match pick m e (Grid.of (e - 2) j) with
    | some d => (d, j)
    | none => refine m e (j - 1) n

def dropZeros (ds : List Char) : List Char :=
  (ds.reverse.dropWhile (· = '0')).reverse

def shortest (m : Nat) (e : Int) : Digits :=
  let (d, j) := refine m e (floorLog10 m e) 17
  let ds := Nat.toDigits 10 d
  ⟨dropZeros ds, ds.length + j⟩

end ScreenScript.Binary64
