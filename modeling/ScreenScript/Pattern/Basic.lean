import ScreenScript.Pattern.Class

/-!
Regular expressions over characters, and the places they lead to in a text. A set of places is a
number whose bit `i` stands for the place before the `i`-th character.
-/

namespace ScreenScript.Pattern

inductive Anchor where
  | textStart
  | textEnd
  | lineStart
  | lineEnd
  /-- Lines end at a carriage return, a line feed, or both together. -/
  | crlfStart
  | crlfEnd
  | wordEdge
  | noWordEdge
  | wordStart
  | wordEnd
  | wordStartHalf
  | wordEndHalf
  deriving DecidableEq

/-- Anchors at words say which characters make one. -/
inductive Expr where
  | empty
  | chars (c : Class)
  | anchor (a : Anchor) (word : Class)
  | seq (a b : Expr)
  | alt (a b : Expr)
  | repeat (a : Expr) (lo : Nat) (hi : Option Nat)

namespace Anchor

def holds (word : Class) (before after : Option Char) (a : Anchor) : Bool :=
  let w (c : Option Char) : Bool := c.any word.contains
  match a with
  | textStart => before.isNone
  | textEnd => after.isNone
  | lineStart => before.isNone || before = some '\n'
  | lineEnd => after.isNone || after = some '\n'
  | crlfStart => before.isNone || before = some '\n' || (before = some '\r' && after != some '\n')
  | crlfEnd => after.isNone || after = some '\r' || (after = some '\n' && before != some '\r')
  | wordEdge => w before != w after
  | noWordEdge => w before == w after
  | wordStart => !w before && w after
  | wordEnd => w before && !w after
  | wordStartHalf => !w before
  | wordEndHalf => !w after

end Anchor

namespace Expr

/-- The places before a character of the class. -/
def classMask (c : Class) : List Char → Nat
  | [] => 0
  | x :: r => 2 * classMask c r + if c.contains x then 1 else 0

/-- The places of `r` that satisfy the anchor, `before` being the character in front. -/
def anchorMask (word : Class) (a : Anchor) (before : Option Char) : List Char → Nat
  | [] => if a.holds word before none then 1 else 0
  | x :: r =>
    2 * anchorMask word a (some x) r + if a.holds word before (some x) then 1 else 0

/-- Applies `f` up to `n` times and gathers all places on the way, until nothing new comes up. -/
def closure (f : Nat → Nat) : Nat → Nat → Nat → Nat
  | 0, _, all => all
  | n + 1, here, all =>
    let next := f here
    if next ||| all = all then all else closure f n next (next ||| all)

/-- The places where a match that starts at a place of `here` may end. -/
def reach (text : List Char) : Expr → Nat → Nat
  | empty, here => here
  | chars c, here => 2 * (here &&& classMask c text)
  | anchor a word, here => here &&& anchorMask word a none text
  | seq a b, here => b.reach text (a.reach text here)
  | alt a b, here => a.reach text here ||| b.reach text here
  | .repeat a lo hi, here =>
    let start := Nat.repeat (a.reach text) lo here
    match hi with
    | none => closure (a.reach text) (text.length + 1) start start
    | some hi => closure (a.reach text) (hi - lo) start start

def occursIn (e : Expr) (text : List Char) : Bool :=
  e.reach text (1 <<< (text.length + 1) - 1) != 0

end Expr

end ScreenScript.Pattern
