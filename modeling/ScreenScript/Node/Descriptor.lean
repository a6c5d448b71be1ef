import ScreenScript.Node.Info

/-!
Reading descriptors. A value is first read as each of the types a part of a descriptor may have; a
descriptor is then put together from the readings of its members. There are two routes to the
readings, one over the written tree and one over JSON values, and one assembly for both.
-/

namespace ScreenScript.Node

/-- What a value reads as under each type; `null` reads as the absence of a number, and as the
default of every other type. -/
structure Reading where
  text : Option String
  number : Option (Option Binary64)
  flag : Option Bool
  bounds : Option Bounds
  children : Option (List Info)

namespace Bounds

def coordinate (r : Option (Option Binary64)) : Option Int64 :=
  r.map fun x => (x.map Binary64.toWord).getD 0

def edgeOf (es : List (Edge × Option (Option Binary64))) (e : Edge) : Option Int64 :=
  match es.find? (·.1 = e) with
  | some (_, r) => coordinate r
  | none => some 0

/-- Puts a rectangle together; an edge may be given once. -/
def ofEdges (es : List (Edge × Option (Option Binary64))) : Option Bounds :=
  if (es.map (·.1)).Nodup then do
    let left ← edgeOf es .left
    let top ← edgeOf es .top
    let right ← edgeOf es .right
    let bottom ← edgeOf es .bottom
    pure { left, top, right, bottom }
  else none

def ofOrder (rs : List (Option (Option Binary64))) : Option Bounds :=
  if rs.length ≤ 4 then ofEdges (Edge.all.zip rs) else none

def edgeOfKey? (k : String) : Option Edge :=
  Edge.all.find? fun e => e.name = k

end Bounds

inductive Slot where
  | field (f : Field)
  | bounds
  | indexInParent
  | depth
  | drawingOrder
  | childCount
  | flag (f : Flag)
  | children
  deriving DecidableEq

namespace Slot

def all : List Slot :=
  Field.written.map field ++ [bounds, indexInParent, depth, drawingOrder, childCount] ++
    Flag.all.map flag ++ [children]

def keys : Slot → List String
  | field f => ["_" ++ f.name, f.name]
  | bounds => ["bounds"]
  | indexInParent => ["_indexInParent", "indexInParent"]
  | depth => ["_depth", "depth"]
  | drawingOrder => ["_drawingOrder", "drawingOrder"]
  | childCount => ["childCount", "_childCount"]
  | flag f => [f.name]
  | children => ["_children", "children"]

def ofKey? (k : String) : Option Slot :=
  all.find? fun s => s.keys.contains k

end Slot

namespace Info

def part {α : Type} (rs : List (Slot × Reading)) (s : Slot) (read : Reading → Option α)
    (default : α) : Option α :=
  match rs.find? (·.1 = s) with
  | some (_, r) => read r
  | none => some default

def textPart (rs : List (Slot × Reading)) (f : Field) : Option String :=
  part rs (.field f) (·.text) ""

def flagPart (rs : List (Slot × Reading)) (f : Flag) : Option Bool :=
  part rs (.flag f) (·.flag) false

def numberPart (rs : List (Slot × Reading)) (s : Slot) (default : Int64) : Option Int64 :=
  part rs s (fun r => r.number.map fun x => (x.map Binary64.toWord).getD default) default

/-- Puts a description together. A part may be given once, under either spelling. -/
def ofReadings (rs : List (Slot × Reading)) : Option Info :=
  if (rs.map (·.1)).Nodup then do
    let text ← textPart rs .text
    let id ← textPart rs .id
    let className ← textPart rs .className
    let desc ← textPart rs .desc
    let packageName ← textPart rs .packageName
    let bounds ← part rs .bounds (·.bounds) {}
    let indexInParent ← numberPart rs .indexInParent (-1)
    let depth ← numberPart rs .depth 0
    let drawingOrder ← numberPart rs .drawingOrder 0
    let childCount ← numberPart rs .childCount 0
    let clickable ← flagPart rs .clickable
    let longClickable ← flagPart rs .longClickable
    let scrollable ← flagPart rs .scrollable
    let enabled ← flagPart rs .enabled
    let checked ← flagPart rs .checked
    let selected ← flagPart rs .selected
    let focusable ← flagPart rs .focusable
    let focused ← flagPart rs .focused
    let checkable ← flagPart rs .checkable
    let editable ← flagPart rs .editable
    let visibleToUser ← flagPart rs .visibleToUser
    let children ← part rs .children (·.children) []
    pure { text, id, className, desc, packageName, bounds, indexInParent, depth, drawingOrder,
           childCount, clickable, longClickable, scrollable, enabled, checked, selected, focusable,
           focused, checkable, editable, visibleToUser, children }
  else none

end Info

namespace Reading

def textOfValue : Json.Value → Option String
  | .null => some ""
  | .string s => some s
  | _ => none

def numberOfValue : Json.Value → Option (Option Binary64)
  | .null => some none
  | .number n => some (some n.toReal)
  | _ => none

def flagOfValue : Json.Value → Option Bool
  | .null => some false
  | .bool b => some b
  | _ => none

def boundsOfValue : Json.Value → Option Bounds
  | .null => some {}
  | .array vs => Bounds.ofOrder (vs.map numberOfValue)
  | .object ms => Bounds.ofEdges (ms.filterMap fun (k, v) =>
      (Bounds.edgeOfKey? k).map fun e => (e, numberOfValue v))
  | _ => none

end Reading

namespace Info

mutual

def ofValue? : Json.Value → Option Info
  | .object ms => ofReadings (readings ms)
  | _ => none

def ofValues : List Json.Value → List Info
  | [] => []
  | v :: vs =>
    match ofValue? v with
    | some i => i :: ofValues vs
    | none => ofValues vs

def childrenOf : Json.Value → Option (List Info)
  | .null => some []
  | .array vs => some (ofValues vs)
  | _ => none

def readings : List (String × Json.Value) → List (Slot × Reading)
  | [] => []
  | (k, v) :: ms =>
    match Slot.ofKey? k with
    | some s =>
      (s, ⟨Reading.textOfValue v, Reading.numberOfValue v, Reading.flagOfValue v,
        Reading.boundsOfValue v, childrenOf v⟩) :: readings ms
    | none => readings ms

end

end Info

namespace Reading

def textOfWritten : Json.Written → Option String
  | .null => some ""
  | .string s => s
  | _ => none

def numberOfWritten : Json.Written → Option (Option Binary64)
  | .null => some none
  | .number n => n.number?.map fun n => some n.toReal
  | _ => none

def flagOfWritten : Json.Written → Option Bool
  | .null => some false
  | .bool b => some b
  | _ => none

/-- Edges among written members; a key that is no text spoils them all. -/
def edgesOfWritten :
    List (Option String × Json.Written) → Option (List (Edge × Option (Option Binary64)))
  | [] => some []
  | (none, _) :: _ => none
  | (some k, w) :: ms => do
    let es ← edgesOfWritten ms
    pure (match Bounds.edgeOfKey? k with
      | some e => (e, numberOfWritten w) :: es
      | none => es)

def boundsOfWritten : Json.Written → Option Bounds
  | .null => some {}
  | .array ws => Bounds.ofOrder (ws.map numberOfWritten)
  | .object ms => (edgesOfWritten ms).bind Bounds.ofEdges
  | _ => none

/-- The items are JSON values two levels below the top. -/
def childrenOfWritten : Json.Written → Option (List Info)
  | .null => some []
  | .array ws => (Json.Value.ofItems? (Json.maxDepth - 2) ws).map Info.ofValues
  | _ => none

def ofWritten (w : Json.Written) : Reading :=
  ⟨textOfWritten w, numberOfWritten w, flagOfWritten w, boundsOfWritten w, childrenOfWritten w⟩

def ofMembers : List (Option String × Json.Written) → Option (List (Slot × Reading))
  | [] => some []
  | (none, _) :: _ => none
  | (some k, w) :: ms => do
    let rs ← ofMembers ms
    pure (match Slot.ofKey? k with
      | some s => (s, ofWritten w) :: rs
      | none => rs)

end Reading

namespace Info

def ofWritten? : Json.Written → Option Info
  | .object ms => (Reading.ofMembers ms).bind ofReadings
  | .array ws =>
    if ws.length ≤ Slot.all.length then ofReadings (Slot.all.zip (ws.map Reading.ofWritten))
    else none
  | _ => none

def parse? (s : String) : Option Info :=
  (Json.Written.parse? s).bind ofWritten?

end Info

namespace Bounds

def parse? (s : String) : Option Bounds :=
  match Json.Written.parse? s with
  | some (.array ws) => ofOrder (ws.map Reading.numberOfWritten)
  | some (.object ms) => (Reading.edgesOfWritten ms).bind ofEdges
  | _ => none

end Bounds

end ScreenScript.Node
