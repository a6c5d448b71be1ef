import ScreenScript.Host.Answer
import ScreenScript.Host.Program
import ScreenScript.Host.Verb
import ScreenScript.Selector.Condition

/-!
What can be done with a node through the host. A node has no identity but its rectangle: whatever is
asked about it is asked under the key of that rectangle.
-/

namespace ScreenScript

def Program.callBool (verb : String) (args : List String) : Program Bool := do
  pure (Answer.bool (← call verb args))

def Program.callText (verb : String) (args : List String) : Program String := do
  pure (Answer.text (← call verb args))

def Program.callInteger (verb : String) (args : List String) (default : Int64) :
    Program Int64 := do
  pure (Answer.integer (← call verb args) default)

def Program.callJson (verb : String) (args : List String) : Program (Option Json.Value) := do
  pure ((← call verb args).bind Answer.json?)

namespace Node

open Program Selector

def key (i : Info) : String := i.bounds.key

def tap (verb : String) (x y : Int64) : Program Bool :=
  callBool verb [Word.text x, Word.text y]

def clickBounds (i : Info) (dx dy : Int64) : Program Bool :=
  tap Verb.click (Word.saturatingAdd i.bounds.centerX dx) (Word.saturatingAdd i.bounds.centerY dy)

def click (i : Info) : Program Bool :=
  clickBounds i 0 0

def longClick (i : Info) : Program Bool :=
  tap Verb.longClick i.bounds.centerX i.bounds.centerY

/-- The pause in milliseconds before text is typed, where nothing else is said. -/
def usualSettle : Nat := 100

/-- Taps the node so that it has the focus, waits for the screen to settle, and types. -/
def setText (settle : Nat) (i : Info) (text : String) : Program Bool := do
  let _ ← click i
  pause settle done
  callBool Verb.setText [text]

def askOne (verb : String) (args : List String) : Program (Option Info) := do
  pure (Answer.node? (← call verb args))

def askMany (verb : String) (args : List String) : Program (List Info) := do
  pure (Answer.nodes (← call verb args))

def parent (i : Info) : Program (Option Info) :=
  askOne Verb.nodeParent [key i]

def children (i : Info) : Program (List Info) :=
  askMany Verb.nodeChildren [key i]

/-- The child at a place; no call is made for a negative one. -/
def child (i : Info) (index : Int64) : Program (Option Info) :=
  if index < 0 then pure none
  else do pure (← children i)[index.toInt.toNat]?

def firstChild (i : Info) : Program (Option Info) := do
  pure (← children i).head?

def lastChild (i : Info) : Program (Option Info) := do
  pure (← children i).getLast?

/-- The sibling at a place; the host knows what a negative one means. -/
def sibling (i : Info) (index : Int64) : Program (Option Info) :=
  askOne Verb.nodeSibling [key i, Word.text index]

/-- Nothing when the node's own place is unknown, or is the last a word can hold. -/
def nextSibling (i : Info) : Program (Option Info) :=
  if i.indexInParent < 0 then pure none
  else match Word.add? i.indexInParent 1 with
  | some n => sibling i n
  | none => pure none

def previousSibling (i : Info) : Program (Option Info) :=
  if i.indexInParent < 1 then pure none
  else sibling i (i.indexInParent - 1)

def find (i : Info) (cs : List Condition) : Program (List Info) :=
  askMany Verb.nodeFind [key i, Condition.jsonAll cs]

def findOne (i : Info) (cs : List Condition) : Program (Option Info) := do
  pure (← find i cs).head?

def scrollForward (i : Info) : Program Bool :=
  callBool Verb.nodeScrollForward [key i]

def scrollBackward (i : Info) : Program Bool :=
  callBool Verb.nodeScrollBackward [key i]

def cachedChildren (i : Info) : List Info :=
  i.children

end Node

end ScreenScript
