/-!
Floating-point numbers with 53 significant bits and exponents from -1074 to 971. Every operation
computes the exact rational result and rounds it once, to nearest, a tie to the even significand.
-/

namespace ScreenScript

/-- A finite number stands for `± mantissa * 2 ^ exponent`, in the form `Binary64.round` gives it. -/
inductive Binary64 where
  | nan
  | infinite (negative : Bool)
  | finite (negative : Bool) (mantissa : Nat) (exponent : Int)
  deriving DecidableEq, Inhabited

namespace Binary64

/-- The quotient rounded to the nearest whole number, a tie to the even one. -/
def divEven (num den : Nat) : Nat :=
  let q := num / den
  let r := num % den
  if 2 * r < den then q else if 2 * r = den then q + q % 2 else q + 1

/-- `num / den` as a fraction scaled by `2 ^ -e`. -/
def scaled (num den : Nat) (e : Int) : Nat × Nat :=
  if 0 ≤ e then (num, den <<< e.toNat) else (num <<< (-e).toNat, den)

/-- The greatest `k` with `2 ^ k ≤ num / den`. -/
def floorLog2 (num den : Nat) : Int :=
  let k : Int := num.log2 - den.log2
  let (a, b) := scaled num den k
  if b ≤ a then k else k - 1

/-- The least significand that uses all 53 bits. -/
def leastFull : Nat := 4503599627370496

/-- The number nearest to `± num / den`. -/
def round (negative : Bool) (num den : Nat) : Binary64 :=
  if num = 0 then finite negative 0 (-1074)
  else
    let e := max (floorLog2 num den - 52) (-1074)
    let (a, b) := scaled num den e
    let m := divEven a b
    let (m, e) := if m = 2 * leastFull then (leastFull, e + 1) else (m, e)
    if 971 < e then infinite negative else finite negative m e

def zero : Binary64 := finite false 0 (-1074)

def ofInt (n : Int) : Binary64 :=
  round (n < 0) n.natAbs 1

/-- Digits `m` with the decimal point moved by `e` places. Exponents far outside the range are
settled by the count of digits alone. -/
def ofDecimal (negative : Bool) (m : Nat) (e : Int) : Binary64 :=
  let size : Int := (Nat.toDigits 10 m).length
  if m = 0 then finite negative 0 (-1074)
  else if 400 < e + size then infinite negative
  else if e + size < -400 then finite negative 0 (-1074)
  else if 0 ≤ e then round negative (m * Nat.pow 10 e.toNat) 1
  else round negative m (Nat.pow 10 (-e).toNat)

def isInfinite : Binary64 → Bool
  | infinite _ => true
  | _ => false

def isZero : Binary64 → Bool
  | finite _ m _ => m = 0
  | _ => false

def neg : Binary64 → Binary64
  | nan => nan
  | infinite s => infinite (!s)
  | finite s m e => finite (!s) m e

def abs : Binary64 → Binary64
  | nan => nan
  | infinite _ => infinite false
  | finite _ m e => finite false m e

def signed (negative : Bool) (n : Nat) : Int :=
  if negative then -(n : Int) else n

/-- The significand of `m * 2 ^ e` written at the smaller exponent `low`. -/
def lower (m : Nat) (e low : Int) : Nat :=
  m <<< (e - low).toNat

/-- `n * 2 ^ e` rounded; zero takes the given sign. -/
def ofScaled (zeroSign : Bool) (n e : Int) : Binary64 :=
  if n = 0 then finite zeroSign 0 (-1074)
  else if 0 ≤ e then round (n < 0) (n.natAbs <<< e.toNat) 1
  else round (n < 0) n.natAbs (1 <<< (-e).toNat)

def add : Binary64 → Binary64 → Binary64
  | nan, _ => nan
  | _, nan => nan
  | infinite s, infinite t => if s = t then infinite s else nan
  | infinite s, _ => infinite s
  | _, infinite t => infinite t
  | finite s m e, finite t n f =>
    let low := min e f
    ofScaled (s && t) (signed s (lower m e low) + signed t (lower n f low)) low

def sub (a b : Binary64) : Binary64 :=
  add a (neg b)

def mul : Binary64 → Binary64 → Binary64
  | nan, _ => nan
  | _, nan => nan
  | infinite s, infinite t => infinite (s != t)
  | infinite s, finite t n _ => if n = 0 then nan else infinite (s != t)
  | finite s m _, infinite t => if m = 0 then nan else infinite (s != t)
  | finite s m e, finite t n f => ofScaled (s != t) (signed (s != t) (m * n)) (e + f)

def div : Binary64 → Binary64 → Binary64
  | nan, _ => nan
  | _, nan => nan
  | infinite _, infinite _ => nan
  | infinite s, finite t _ _ => infinite (s != t)
  | finite s _ _, infinite t => finite (s != t) 0 (-1074)
  | finite s m e, finite t n f =>
    if n = 0 then if m = 0 then nan else infinite (s != t)
    else if f ≤ e then round (s != t) (lower m e f) n
    else round (s != t) m (lower n f e)

def rem : Binary64 → Binary64 → Binary64
  | nan, _ => nan
  | _, nan => nan
  | infinite _, _ => nan
  | finite s m e, infinite _ => finite s m e
  | finite s m e, finite _ n f =>
    if n = 0 then nan
    else
      let low := min e f
      ofScaled s (signed s (lower m e low % lower n f low)) low

def lt : Binary64 → Binary64 → Bool
  | nan, _ => false
  | _, nan => false
  | infinite s, infinite t => s && !t
  | infinite s, finite .. => s
  | finite .., infinite t => !t
  | finite s m e, finite t n f =>
    let low := min e f
    signed s (lower m e low) < signed t (lower n f low)

def eq : Binary64 → Binary64 → Bool
  | nan, _ => false
  | _, nan => false
  | infinite s, infinite t => s = t
  | infinite _, finite .. => false
  | finite .., infinite _ => false
  | finite s m e, finite t n f =>
    let low := min e f
    signed s (lower m e low) = signed t (lower n f low)

def le (a b : Binary64) : Bool :=
  lt a b || eq a b

def wholePart (m : Nat) (e : Int) : Nat :=
  if 0 ≤ e then m <<< e.toNat else m >>> (-e).toNat

/-- Truncation toward zero, clamped to words; zero for a number that is none. -/
def toWord : Binary64 → Int64
  | nan => 0
  | infinite s => if s then Int64.minValue else Int64.maxValue
  | finite s m e => Int64.ofIntClamp (signed s (wholePart m e))

/-- The nearest whole number, halves away from zero. -/
def roundAway : Binary64 → Binary64
  | finite s m e =>
    if 0 ≤ e then finite s m e
    else ofScaled s (signed s ((2 * m + 1 <<< (-e).toNat) >>> ((-e).toNat + 1))) 0
  | x => x

end Binary64

end ScreenScript
