import ScreenScript.Script.Api.Selectors

/-!
Nodes in scripts. What a node says of itself is read as a property or by a call; everything else is
a call of the host.
-/

namespace ScreenScript.Script.Api

open Script.Action Node

def nodeNumbers : List (String × (Info → Int64)) :=
  [("depth", (·.depth)), ("drawingOrder", (·.drawingOrder)), ("indexInParent", (·.indexInParent)),
    ("childCount", (·.childCount)), ("left", (·.bounds.left)), ("top", (·.bounds.top)),
    ("right", (·.bounds.right)), ("bottom", (·.bounds.bottom)), ("width", (·.bounds.width)),
    ("height", (·.bounds.height)), ("centerX", (·.bounds.centerX)),
    ("centerY", (·.bounds.centerY))]

def nodeProperty? (i : Info) (name : String) : Option Value :=
  match Field.all.find? (·.name = name) with
  | some f => some (.string (i.field f))
  | none => match Flag.all.find? (·.name = name) with
    | some f => some (.bool (i.flag f))
    | none =>
      if name = "content" then some (.string i.content)
      else (nodeNumbers.find? (·.1 = name)).map fun e => .int (e.2 i)

def boundsMap (b : Bounds) : Value :=
  .map [("bottom", .int b.bottom), ("centerX", .int b.centerX), ("centerY", .int b.centerY),
    ("height", .int b.height), ("left", .int b.left), ("right", .int b.right),
    ("top", .int b.top), ("width", .int b.width)]

def typeInto (i : Info) (s : String) : Action Value := do
  yes (setText (← read).config.settleDelayMs i s)

def nodeMethod? (i : Info) (name : String) (args : List Value) : Option (Action Value) :=
  match args with
  | [] =>
    match name with
    | "to_string" | "toString" => some (pure (.string i.display))
    | "to_debug" => some (pure (.string i.debug))
    | "bounds" => some (pure (boundsMap i.bounds))
    | "cachedChildren" => some (pure (.ofNodes (cachedChildren i)))
    | "click" => some (yes (click i))
    | "longClick" => some (yes (longClick i))
    | "scrollForward" => some (yes (scrollForward i))
    | "scrollBackward" => some (yes (scrollBackward i))
    | "parent" => some (node? (parent i))
    | "children" => some (nodes (children i))
    | "firstChild" => some (node? (firstChild i))
    | "lastChild" => some (node? (lastChild i))
    | "nextSibling" => some (node? (nextSibling i))
    | "previousSibling" => some (node? (previousSibling i))
    | _ => (nodeProperty? i name).map pure
  | [.int n] =>
    match name with
    | "child" => some (node? (child i n))
    | "sibling" => some (node? (sibling i n))
    | _ => none
  | [.int dx, .int dy] => if name = "clickBounds" then some (yes (clickBounds i dx dy)) else none
  | [.string s] => if name = "setText" then some (typeInto i s) else none
  | [.selector h] =>
    match name with
    | "find" => some (send h nodes (find i))
    | "findOne" => some (send h node? (findOne i))
    | _ => none
  | _ => none

end ScreenScript.Script.Api
