/-!
Lines of a text. A line ends at a line feed, which takes a carriage return before it along; after
the last one nothing begins unless characters follow.
-/

namespace ScreenScript.Text

def chomp (line : List Char) : List Char :=
  match line.reverse with
  | '\r' :: r => r.reverse
  | _ => line

/-- `line` holds the characters of the current line in reverse. -/
def linesFrom (line : List Char) : List Char → List (List Char)
  | [] => if line.isEmpty then [] else [line.reverse]
  | '\n' :: r => chomp line.reverse :: linesFrom [] r
  | c :: r => linesFrom (c :: line) r

def lines (s : List Char) : List (List Char) :=
  linesFrom [] s

end ScreenScript.Text
