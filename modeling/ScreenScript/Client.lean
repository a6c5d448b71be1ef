import ScreenScript.Host.World
import ScreenScript.Selector.Store
import ScreenScript.Selector.Terminal

/-!
Programs that use the bridge, selectors and nodes directly, without scripts. They do one thing after
another, and hold the handles of selectors they were given on the way.
-/

namespace ScreenScript

open Node Selector

inductive Reply where
  | nothing
  | flag (b : Bool)
  | answer (a : Option String)
  | text (s : String)
  | integer (n : Int64)
  | json (v : Option Json.Value)
  | node (i : Option Info)
  | nodes (is : List Info)
  /-- The place of a handle among those the client was given. -/
  | handle (place : Nat)
  | state (conditions : List Condition) (text debug : String)

namespace Client

inductive Form where
  | raw
  | flag
  | text
  | integer (default : Int64)
  | json

def Form.program (verb : String) (args : List String) : Form → Program Reply
  | raw => do pure (.answer (← Program.call verb args))
  | flag => do pure (.flag (← Program.callBool verb args))
  | text => do pure (.text (← Program.callText verb args))
  | integer default => do pure (.integer (← Program.callInteger verb args default))
  | json => do pure (.json (← Program.callJson verb args))

inductive Terminal where
  | findOne
  | findOnce (index : Int64)
  | findAll
  | waitFor (ms : Int64)
  | present
  | click
  | longClick
  | setText (text : String)
  | scrollForward
  | scrollBackward

def Terminal.program (cs : List Condition) : Terminal → Program Reply
  | findOne => do pure (.node (← Selector.findOne cs))
  | findOnce index => do pure (.node (← Selector.findOnce cs index))
  | findAll => do pure (.nodes (← Selector.findAll cs))
  | waitFor ms => do pure (.node (← Selector.waitFor cs ms))
  | present => do pure (.flag (← Selector.present cs))
  | click => do pure (.flag (← Selector.click cs))
  | longClick => do pure (.flag (← Selector.longClick cs))
  | setText text => do pure (.flag (← Selector.setText cs text))
  | scrollForward => do pure (.flag (← Selector.scrollForward cs))
  | scrollBackward => do pure (.flag (← Selector.scrollBackward cs))

inductive Command where
  | click
  | clickBounds (dx dy : Int64)
  | longClick
  | setText (text : String)
  | parent
  | children
  | child (index : Int64)
  | firstChild
  | lastChild
  | sibling (index : Int64)
  | nextSibling
  | previousSibling
  | scrollForward
  | scrollBackward

/-- `settle` is the pause in milliseconds before text is typed. -/
def Command.program (settle : Nat) (i : Info) : Command → Program Reply
  | click => do pure (.flag (← Node.click i))
  | clickBounds dx dy => do pure (.flag (← Node.clickBounds i dx dy))
  | longClick => do pure (.flag (← Node.longClick i))
  | setText text => do pure (.flag (← Node.setText settle i text))
  | parent => do pure (.node (← Node.parent i))
  | children => do pure (.nodes (← Node.children i))
  | child index => do pure (.node (← Node.child i index))
  | firstChild => do pure (.node (← Node.firstChild i))
  | lastChild => do pure (.node (← Node.lastChild i))
  | sibling index => do pure (.node (← Node.sibling i index))
  | nextSibling => do pure (.node (← Node.nextSibling i))
  | previousSibling => do pure (.node (← Node.previousSibling i))
  | scrollForward => do pure (.flag (← Node.scrollForward i))
  | scrollBackward => do pure (.flag (← Node.scrollBackward i))

/-- Handles are given by their place. Nodes are values: one that came from another, or from the host,
is like any other. -/
inductive Operation where
  | call (form : Form) (verb : String) (args : List String)
  | release
  | attached
  | create
  | share (s : Nat)
  | push (s : Nat) (k : Kind) (value : String)
  | flag (s : Nat) (k : Kind) (on : Bool)
  | number (s : Nat) (k : Kind) (n : Int64)
  | state (s : Nat)
  | same (s t : Nat)
  | holds (s : Nat) (i : Info)
  | terminal (s : Nat) (t : Terminal)
  | materialize (raw : Option String)
  | command (i : Info) (c : Command)
  | find (i : Info) (s : Nat)
  | findOne (i : Info) (s : Nat)
  | cachedChildren (i : Info)

end Client

structure Client (σ : Type) where
  host : Host σ
  world : World σ
  settle : Nat := Node.usualSettle
  /-- How many calls may be under way within each other. -/
  depth : Nat := World.maxReentry
  store : Store := {}
  patterns : Pattern.Cache := default
  /-- The handles it was given, the first first. -/
  handles : List Handle := []

namespace Client

variable {σ : Type}

def program? (c : Client σ) : Operation → Option (Program Reply)
  | .call form verb args => some (form.program verb args)
  | .terminal s t => (c.handles[s]?).map fun h => t.program (c.store.conditions h)
  | .command i command => some (command.program c.settle i)
  | .find i s => (c.handles[s]?).map fun h => do
    pure (.nodes (← Node.find i (c.store.conditions h)))
  | .findOne i s => (c.handles[s]?).map fun h => do
    pure (.node (← Node.findOne i (c.store.conditions h)))
  | _ => none

def give (c : Client σ) (h : Handle) : Reply × Client σ :=
  (.handle c.handles.length, { c with handles := c.handles ++ [h] })

def through (c : Client σ) (s : Nat) (f : Handle → Reply × Client σ) : Reply × Client σ :=
  match c.handles[s]? with
  | some h => f h
  | none => (.nothing, c)

def append (c : Client σ) (s : Nat) (f : Store → Handle → Store) : Reply × Client σ :=
  c.through s fun h => { c with store := f c.store h }.give h

def alone (c : Client σ) : Operation → Reply × Client σ
  | .release => (.nothing, { c with world := c.world.detach })
  | .attached => (.flag c.world.attached, c)
  | .create =>
    let (h, store) := c.store.create
    { c with store }.give h
  | .share s => c.through s c.give
  | .push s k value => c.append s fun store h => store.push h ⟨k, value⟩
  | .flag s k on => c.append s fun store h => store.flag h k on
  | .number s k n => c.append s fun store h => store.number h k n
  | .state s => c.through s fun h =>
    (.state (c.store.conditions h) (c.store.text h) (c.store.debug h), c)
  | .same s t => c.through s fun h => c.through t fun k => (.flag (h == k), c)
  | .holds s i => c.through s fun h =>
    let (b, patterns) := Condition.holdAll i (c.store.conditions h) c.patterns
    (.flag b, { c with patterns })
  | .materialize raw => (.node (Answer.node? raw), c)
  | .cachedChildren i => (.nodes (Node.cachedChildren i), c)
  | _ => (.nothing, c)

def perform (c : Client σ) (op : Operation) : Reply × Client σ :=
  match c.program? op with
  | some p =>
    let (r, w) := World.run c.host p c.world c.depth
    (r, { c with world := w })
  | none => c.alone op

end Client

end ScreenScript
