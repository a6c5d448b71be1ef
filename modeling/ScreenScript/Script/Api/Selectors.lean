import ScreenScript.Script.Api.Basic
import ScreenScript.Selector.Terminal

/-!
Selectors in scripts: functions that make one, methods that append a condition, and what is asked of
the host with one. Every kind of condition names a function and a method.
-/

namespace ScreenScript.Script.Api

open Script.Action Selector

/-- The condition a call appends, if any; nothing where the operands do not fit the kind. -/
def condition? (k : Kind) (operands : List Value) : Option (Option Condition) :=
  match k, operands with
  | .text .., [.string v] => some (some ⟨k, v⟩)
  | .flag _, [] => some (some ⟨k, Store.flagValue true⟩)
  | .flag _, [.bool on] => some (some ⟨k, Store.flagValue on⟩)
  | .depth, [] => some none
  | .depth, [.int n] => some (some ⟨k, Word.text n⟩)
  | .drawingOrder, [] => some none
  | .drawingOrder, [.int n] => some (some ⟨k, Word.text n⟩)
  | _, _ => none

def newSelector : Action Handle :=
  modifyGet fun s =>
    let (h, selectors) := s.selectors.create
    (h, { s with selectors })

def append (h : Handle) (c : Option Condition) : Action Value := do
  match c with
  | some c => modify fun s => { s with selectors := s.selectors.push h c }
  | none => pure ()
  pure (.selector h)

def conditionCall (k : Kind) (args : List Value) : Option (Action Value) :=
  match args with
  | .selector h :: operands => (condition? k operands).map (append h)
  | operands => (condition? k operands).map fun c => do append (← newSelector) c

def conditions (h : Handle) : Action (List Condition) := do
  pure ((← get).selectors.conditions h)

def send {α : Type} (h : Handle) (reply : Program α → Action Value)
    (terminal : List Condition → Program α) : Action Value := do
  reply (terminal (← conditions h))

/-- The longest wait in milliseconds a call without a time asks for. -/
def usualWait (c : Config) : Int64 := Word.clamp c.defaultWaitTimeoutMs

def satisfies (h : Handle) (i : Node.Info) : Action Bool := do
  let cs ← conditions h
  modifyGet fun s =>
    let (b, patterns) := Condition.holdAll i cs s.patterns
    (b, { s with patterns })

def selectorMethod? (h : Handle) (name : String) (args : List Value) : Option (Action Value) :=
  match args with
  | [] =>
    match name with
    | "to_string" | "toString" => some do pure (.string ((← get).selectors.text h))
    | "to_debug" => some do pure (.string ("Selector(" ++ (← get).selectors.text h ++ ")"))
    | "conditions" => some do pure (.int (Int64.ofNat (← conditions h).length))
    | "findOne" => some (send h node? findOne)
    | "findOnce" => some (send h node? (findOnce · 0))
    | "findAll" | "find" => some (send h nodes findAll)
    | "waitFor" => some do send h node? (waitFor · (usualWait (← read).config))
    | "exists" => some (send h yes present)
    | "click" => some (send h yes click)
    | "longClick" => some (send h yes longClick)
    | "scrollForward" => some (send h yes scrollForward)
    | "scrollBackward" => some (send h yes scrollBackward)
    | _ => none
  | [.int n] =>
    match name with
    | "findOnce" => some (send h node? (findOnce · n))
    | "waitFor" => some (send h node? (waitFor · n))
    | _ => none
  | [.string s] => if name = "setText" then some (send h yes (setText · s)) else none
  | [.node i] => if name = "matches" then some do pure (.bool (← satisfies h i)) else none
  | _ => none

def satisfying (h : Handle) : List Value → Action (List Value)
  | [] => pure []
  | .node i :: vs => do
    if ← satisfies h i then pure (.node i :: (← satisfying h vs)) else satisfying h vs
  | _ :: vs => satisfying h vs

def firstSatisfying (h : Handle) : List Value → Action Value
  | [] => pure .unit
  | .node i :: vs => do
    if ← satisfies h i then pure (.node i) else firstSatisfying h vs
  | _ :: vs => firstSatisfying h vs

def searchMethod? (vs : List Value) (name : String) (args : List Value) : Option (Action Value) :=
  match args with
  | [.selector h] =>
    match name with
    | "find" => some do pure (.array (← satisfying h vs))
    | "findOne" => some (firstSatisfying h vs)
    | _ => none
  | _ => none

end ScreenScript.Script.Api
