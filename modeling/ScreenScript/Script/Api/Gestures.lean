import ScreenScript.Script.Api.Basic

/-!
Taps and gestures at coordinates. Their arguments are checked before the host is called, and the
coordinates are taken from the declared size of the screen to that of the device.
-/

namespace ScreenScript.Script.Api

open Script.Action

def coordinate? : Value → Option Int64
  | .int n => some n
  | .float x => some x.toWord
  | _ => none

def point? : Value → Option (Int64 × Int64)
  | .array [x, y] => do
    let x ← coordinate? x
    let y ← coordinate? y
    pure (x, y)
  | _ => none

def jsonWord (n : Int64) : Json.Value := .number (.whole n.toInt)

def jsonPoint (s : Session) (p : Int64 × Int64) : Json.Value :=
  let (x, y) := s.point p.1 p.2
  .array [jsonWord x, jsonWord y]

def jsonPoints (s : Session) : List Value → Except ArgumentFault (List Json.Value)
  | [] => .ok []
  | v :: vs =>
    match point? v with
    | some p => (jsonPoints s vs).map (jsonPoint s p :: ·)
    | none => .error (.badPoint v)

def stroke (s : Session) (numbers : List Int64) (points : List Value) :
    Except ArgumentFault Json.Value :=
  if points.length < 2 then .error (.tooFewPoints points.length)
  else (jsonPoints s points).map fun ps => .array (numbers.map jsonWord ++ ps)

def leadingNumbers : List Value → List Int64 × List Value
  | .int n :: vs =>
    let (ns, rest) := leadingNumbers vs
    (n :: ns, rest)
  | vs => ([], vs)

/-- A stroke among several begins with a duration, or with a delay and a duration. -/
def strokeOf (s : Session) (v : Value) : Except ArgumentFault Json.Value :=
  match v with
  | .array items =>
    match leadingNumbers items with
    | ([duration], points) => stroke s [duration] points
    | ([delay, duration], points) => stroke s [delay, duration] points
    | _ => .error (.badStroke v)
  | _ => .error (.badStroke v)

def strokesOf (s : Session) : List Value → Except ArgumentFault (List Json.Value)
  | [] => .ok []
  | v :: vs =>
    match strokeOf s v with
    | .ok j => (strokesOf s vs).map (j :: ·)
    | .error f => .error f

def sendGesture (verb : String) (payload : Except ArgumentFault Json.Value) (p : Position) :
    Action Value :=
  match payload with
  | .ok j => ask verb [j.text]
  | .error f => refuse f p

def gesture (duration : Int64) (points : List Value) (p : Position) : Action Value := do
  sendGesture Verb.gesture (stroke (← get) [duration] points) p

def gestures (strokes : List Value) (p : Position) : Action Value := do
  sendGesture Verb.gestures ((strokesOf (← get) strokes).map .array) p

def atPoint (verb : String) (x y : Int64) (more : List String) : Action Value := do
  let (x, y) := (← get).point x y
  ask verb ([Word.text x, Word.text y] ++ more)

def swipe (x₁ y₁ x₂ y₂ : Int64) (more : List String) : Action Value := do
  let (x, y) := (← get).point x₂ y₂
  atPoint Verb.swipe x₁ y₁ ([Word.text x, Word.text y] ++ more)

def factor (device declared : Int64) : Binary64 :=
  (Binary64.ofInt device.toInt).div (Binary64.ofInt declared.toInt)

def deviceSize : Program (Int64 × Int64) := do
  let width ← Program.callInteger Verb.deviceWidth [] 0
  let height ← Program.callInteger Verb.deviceHeight [] 0
  pure (width, height)

def unknownSize : Log.Event :=
  { level := .debug, target := "automate::engine"
    message := "device size unknown; coordinates left unscaled" }

def setScreenMetrics (width height : Int64) (p : Position) : Action Value := do
  if width ≤ 0 ∨ height ≤ 0 then refuse (.badSize width height) p
  else
    let (w, h) ← guarded deviceSize
    if 0 < w ∧ 0 < h then
      modify fun s => { s with scale := some ⟨factor w width, factor h height⟩ }
    else
      perform (.note unknownSize fun _ => .done ())
      modify fun s => { s with scale := none }
    pure .unit

def gestureCall? (name : String) (args : List Value) (p : Position) : Option (Action Value) :=
  match args with
  | [] =>
    if [Verb.swipeUp, Verb.swipeDown, Verb.swipeLeft, Verb.swipeRight].contains name then
      some (ask name [])
    else none
  | [.int x, .int y] =>
    match name with
    | "click" => some (atPoint Verb.click x y [])
    | "longClick" => some (atPoint Verb.longClick x y [])
    | "setScreenMetrics" => some (setScreenMetrics x y p)
    | _ => none
  | [.int x, .int y, .int d] =>
    if name = "press" then some (atPoint Verb.press x y [Word.text d]) else none
  | [.int x₁, .int y₁, .int x₂, .int y₂] =>
    if name = "swipe" then some (swipe x₁ y₁ x₂ y₂ []) else none
  | [.int x₁, .int y₁, .int x₂, .int y₂, .int d] =>
    if name = "swipe" then some (swipe x₁ y₁ x₂ y₂ [Word.text d]) else none
  | [.array strokes] => if name = "gestures" then some (gestures strokes p) else none
  | [.int d, .array points] => if name = "gesture" then some (gesture d points p) else none
  | [.int d, .array a, .array b] =>
    if name = "gesture" then some (gesture d [.array a, .array b] p) else none
  | [.int d, .array a, .array b, .array c] =>
    if name = "gesture" then some (gesture d [.array a, .array b, .array c] p) else none
  | _ => none

end ScreenScript.Script.Api
