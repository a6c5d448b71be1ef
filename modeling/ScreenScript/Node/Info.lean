import ScreenScript.Node.Bounds
import ScreenScript.Node.Field
import ScreenScript.Text.Quoted

/-!
What a host says about one node of the screen, and its two texts: the JSON descriptor, and the form
shown for inspection.
-/

namespace ScreenScript.Node

structure Info where
  text : String := ""
  id : String := ""
  className : String := ""
  desc : String := ""
  packageName : String := ""
  bounds : Bounds := {}
  /-- The place among its siblings, -1 when unknown. -/
  indexInParent : Int64 := -1
  depth : Int64 := 0
  drawingOrder : Int64 := 0
  childCount : Int64 := 0
  clickable : Bool := false
  longClickable : Bool := false
  scrollable : Bool := false
  enabled : Bool := false
  checked : Bool := false
  selected : Bool := false
  focusable : Bool := false
  focused : Bool := false
  checkable : Bool := false
  editable : Bool := false
  visibleToUser : Bool := false
  children : List Info := []
  deriving Inhabited

namespace Info

def field (i : Info) : Field → String
  | .text => i.text
  | .desc => i.desc
  | .id => i.id
  | .className => i.className
  | .packageName => i.packageName

def flag (i : Info) : Flag → Bool
  | .clickable => i.clickable
  | .longClickable => i.longClickable
  | .scrollable => i.scrollable
  | .enabled => i.enabled
  | .checked => i.checked
  | .selected => i.selected
  | .focusable => i.focusable
  | .focused => i.focused
  | .checkable => i.checkable
  | .editable => i.editable
  | .visibleToUser => i.visibleToUser

def content (i : Info) : String :=
  if i.desc = "" then i.text else i.desc

def ownMembers (i : Info) : List (String × List Char) :=
  Field.written.map (fun f => ("_" ++ f.name, Json.Value.printString (i.field f))) ++
  [("bounds", i.bounds.json), ("_indexInParent", Decimal.ofInt i.indexInParent.toInt),
    ("_depth", Decimal.ofInt i.depth.toInt),
    ("_drawingOrder", Decimal.ofInt i.drawingOrder.toInt),
    ("childCount", Decimal.ofInt i.childCount.toInt)] ++
  Flag.all.map (fun f => (f.name, Json.Value.print (.bool (i.flag f))))

mutual

def json : Info → List Char
  | i@{ children, .. } =>
    Json.Value.printObject (ownMembers i ++
      if children.isEmpty then [] else [("_children", Json.Value.printArray (jsonAll children))])

def jsonAll : List Info → List (List Char)
  | [] => []
  | i :: is => json i :: jsonAll is

end

def descriptor (i : Info) : String :=
  String.ofList (json i)

def snake (s : String) : String :=
  String.ofList (s.toList.flatMap fun c =>
    if 'A' ≤ c ∧ c ≤ 'Z' then ['_', Char.ofNat (c.toNat + 32)] else [c])

def ownParts (i : Info) : List (String × String) :=
  Field.written.map (fun f => (snake f.name, Text.quoted (i.field f))) ++
  [("bounds", i.bounds.debug), ("index_in_parent", Word.text i.indexInParent),
    ("depth", Word.text i.depth), ("drawing_order", Word.text i.drawingOrder),
    ("child_count", Word.text i.childCount)] ++
  Flag.all.map (fun f => (snake f.name, if i.flag f then "true" else "false"))

mutual

def debug : Info → String
  | i@{ children, .. } =>
    "NodeInfo \x7b " ++ ", ".intercalate ((ownParts i).map fun p => p.1 ++ ": " ++ p.2) ++
      ", children: [" ++ ", ".intercalate (debugAll children) ++ "] \x7d"

def debugAll : List Info → List String
  | [] => []
  | i :: is => debug i :: debugAll is

end

def display (i : Info) : String :=
  "UiNode(className=" ++ Text.quoted i.className ++ ", text=" ++ Text.quoted i.text ++ ", id=" ++
    Text.quoted i.id ++ ", desc=" ++ Text.quoted i.desc ++ ", bounds=[" ++
    ",".intercalate (Edge.all.map fun e => Word.text (i.bounds.edge e)) ++ "])"

end Info

end ScreenScript.Node
