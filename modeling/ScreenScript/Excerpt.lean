import ScreenScript.Text.Lines

/-!
The lines around a place in a source, with a caret under the place.
-/

namespace ScreenScript.Excerpt

def gutter (n : Nat) : List Char :=
  let ds := Nat.toDigits 10 n
  ' ' :: List.replicate (4 - ds.length) ' ' ++ ds ++ [' ', '|', ' ']

def quote (n : Nat) (text : List Char) : List Char :=
  gutter n ++ text ++ ['\n']

def caret (n col : Nat) : List Char :=
  List.replicate (gutter n).length ' ' ++ List.replicate (col - 1) ' ' ++ ['^', '\n']

def window (line col last : Nat) : Nat → List (List Char) → List Char
  | _, [] => []
  | n, text :: rest =>
    if last < n then []
    else quote n text ++ (if n = line then caret n col else []) ++ window line col last (n + 1) rest

def render (source : List Char) (line col : Nat) : List Char :=
  let first := max 1 (line - 2)
  window line col (line + 1) first ((Text.lines source).drop (first - 1))

def text (source : String) (line col : Nat) : String :=
  String.ofList (render source.toList line col)

end ScreenScript.Excerpt
