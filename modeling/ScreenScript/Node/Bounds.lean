import ScreenScript.Number.Word
import ScreenScript.Json.Value

/-!
The rectangle a node covers on the screen. Its text is the key under which a host looks the node up.
-/

namespace ScreenScript.Node

structure Bounds where
  left : Int64 := 0
  top : Int64 := 0
  right : Int64 := 0
  bottom : Int64 := 0
  deriving DecidableEq, Inhabited

inductive Edge where
  | left
  | top
  | right
  | bottom
  deriving DecidableEq

def Edge.all : List Edge := [.left, .top, .right, .bottom]

def Edge.name : Edge → String
  | left => "left"
  | top => "top"
  | right => "right"
  | bottom => "bottom"

namespace Bounds

def edge (b : Bounds) : Edge → Int64
  | .left => b.left
  | .top => b.top
  | .right => b.right
  | .bottom => b.bottom

def centerX (b : Bounds) : Int64 := Word.midpoint b.left b.right

def centerY (b : Bounds) : Int64 := Word.midpoint b.top b.bottom

def width (b : Bounds) : Int64 := Word.saturatingSub b.right b.left

def height (b : Bounds) : Int64 := Word.saturatingSub b.bottom b.top

def json (b : Bounds) : List Char :=
  Json.Value.printObject (Edge.all.map fun e => (e.name, Decimal.ofInt (b.edge e).toInt))

def key (b : Bounds) : String :=
  "\x7b\"left\":" ++ Word.text b.left ++ ",\"top\":" ++ Word.text b.top ++ ",\"right\":" ++
    Word.text b.right ++ ",\"bottom\":" ++ Word.text b.bottom ++ "\x7d"

def debug (b : Bounds) : String :=
  "Bounds \x7b left: " ++ Word.text b.left ++ ", top: " ++ Word.text b.top ++ ", right: " ++
    Word.text b.right ++ ", bottom: " ++ Word.text b.bottom ++ " \x7d"

end Bounds

end ScreenScript.Node
