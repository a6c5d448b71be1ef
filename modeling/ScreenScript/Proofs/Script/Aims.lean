import ScreenScript.Host.World
import ScreenScript.Script.Api

/-!
Gestures apart from the screen they are made on. What is to be done, and at which points, is told
from the arguments alone; a session only tells where on the device the points are.
-/

namespace ScreenScript.Script

open Script.Action

theorem get_bind_apply {α : Type} (k : Session → Action α) (c : Context) (s : Session) :
    (get >>= k) c s = k s c s :=
  rfl

def Session.rescale (s : Session) (k : Option Scale) : Session :=
  { s with scale := k }

/-- Where on the device a point is that a script names. -/
def mapped (k : Option Scale) (q : Int64 × Int64) : Int64 × Int64 :=
  Session.point { scale := k } q.1 q.2

theorem mapped_none (q : Int64 × Int64) : mapped none q = q := rfl

/-- What is to be done, with points as a script names them. -/
inductive Gesture where
  /-- The coordinates are arguments of their own. -/
  | touch (verb : String) (points : List (Int64 × Int64)) (more : List String)
  | stroke (numbers : List Int64) (points : List (Int64 × Int64))
  | strokes (ss : List (List Int64 × List (Int64 × Int64)))

namespace Gesture

def pointValue (q : Int64 × Int64) : Json.Value :=
  .array [Api.jsonWord q.1, Api.jsonWord q.2]

def strokeValue (k : Option Scale) (numbers : List Int64) (points : List (Int64 × Int64)) :
    Json.Value :=
  .array (numbers.map Api.jsonWord ++ points.map fun q => pointValue (mapped k q))

/-- What the host is asked for on a device of some scale. -/
def call (k : Option Scale) : Gesture → Call
  | touch verb points more =>
    ⟨verb, (points.flatMap fun q => [Word.text (mapped k q).1, Word.text (mapped k q).2]) ++ more⟩
  | stroke numbers points => ⟨Verb.gesture, [(strokeValue k numbers points).text]⟩
  | strokes ss =>
    ⟨Verb.gestures, [(Json.Value.array (ss.map fun t => strokeValue k t.1 t.2)).text]⟩

def points? : List Value → Except ArgumentFault (List (Int64 × Int64))
  | [] => .ok []
  | v :: vs =>
    match Api.point? v with
    | some q => (points? vs).map (q :: ·)
    | none => .error (.badPoint v)

def path? (points : List Value) : Except ArgumentFault (List (Int64 × Int64)) :=
  if points.length < 2 then .error (.tooFewPoints points.length) else points? points

def stroke? (v : Value) : Except ArgumentFault (List Int64 × List (Int64 × Int64)) :=
  match v with
  | .array items =>
    match Api.leadingNumbers items with
    | ([duration], points) => (path? points).map ([duration], ·)
    | ([delay, duration], points) => (path? points).map ([delay, duration], ·)
    | _ => .error (.badStroke v)
  | _ => .error (.badStroke v)

def strokes? : List Value → Except ArgumentFault (List (List Int64 × List (Int64 × Int64)))
  | [] => .ok []
  | v :: vs =>
    match stroke? v with
    | .ok t => (strokes? vs).map (t :: ·)
    | .error f => .error f

end Gesture

def aim (g : Gesture) : Action Value := do
  let s ← get
  Api.ask (g.call s.scale).verb (g.call s.scale).args

theorem aim_apply (g : Gesture) (c : Context) (s : Session) :
    aim g c s = Api.ask (g.call s.scale).verb (g.call s.scale).args c s :=
  get_bind_apply _ c s

def aimOr (g : Except ArgumentFault Gesture) (p : Position) : Action Value :=
  match g with
  | .ok g => aim g
  | .error f => Api.refuse f p

namespace Api

open Gesture

theorem atPoint_eq (verb : String) (x y : Int64) (more : List String) :
    atPoint verb x y more = aim (.touch verb [(x, y)] more) := rfl

theorem swipe_eq (x₁ y₁ x₂ y₂ : Int64) (more : List String) :
    swipe x₁ y₁ x₂ y₂ more = aim (.touch Verb.swipe [(x₁, y₁), (x₂, y₂)] more) := by
  funext c s
  unfold swipe
  rw [aim_apply, get_bind_apply]
  dsimp only
  rw [atPoint_eq, aim_apply]
  rfl

theorem jsonPoints_eq (s : Session) (vs : List Value) : jsonPoints s vs =
    (points? vs).map (·.map fun q => pointValue (mapped s.scale q)) := by
  induction vs with
  | nil => rfl
  | cons v vs ih =>
    rw [jsonPoints, points?, ih]
    cases point? v with
    | none => rfl
    | some q => cases points? vs <;> rfl

theorem stroke_eq (s : Session) (numbers : List Int64) (points : List Value) :
    stroke s numbers points = (path? points).map (strokeValue s.scale numbers) := by
  rw [stroke, path?, jsonPoints_eq]
  split
  · rfl
  · cases points? points <;> rfl

theorem strokeOf_eq (s : Session) (v : Value) :
    strokeOf s v = (stroke? v).map fun t => strokeValue s.scale t.1 t.2 := by
  cases v with
  | array items =>
    simp only [strokeOf, stroke?, stroke_eq]
    rcases leadingNumbers items with ⟨_ | ⟨n, _ | ⟨m, _ | ⟨l, ns⟩⟩⟩, points⟩
    · rfl
    · dsimp only
      cases path? points <;> rfl
    · dsimp only
      cases path? points <;> rfl
    · rfl
  | _ => rfl

theorem strokesOf_eq (s : Session) (vs : List Value) : strokesOf s vs =
    (strokes? vs).map (·.map fun t => strokeValue s.scale t.1 t.2) := by
  induction vs with
  | nil => rfl
  | cons v vs ih =>
    rw [strokesOf, strokes?, strokeOf_eq, ih]
    cases stroke? v with
    | error f => rfl
    | ok t => cases strokes? vs <;> rfl

theorem gesture_eq (duration : Int64) (points : List Value) (p : Position) :
    gesture duration points p = aimOr ((path? points).map (.stroke [duration])) p := by
  funext c s
  change sendGesture Verb.gesture (stroke s [duration] points) p c s = _
  rw [stroke_eq]
  cases path? points with
  | error f => rfl
  | ok qs => exact (aim_apply (.stroke [duration] qs) c s).symm

theorem gestures_eq (vs : List Value) (p : Position) :
    gestures vs p = aimOr ((strokes? vs).map .strokes) p := by
  funext c s
  change sendGesture Verb.gestures ((strokesOf s vs).map .array) p c s = _
  rw [strokesOf_eq]
  cases strokes? vs with
  | error f => rfl
  | ok ss => exact (aim_apply (.strokes ss) c s).symm

end Api

end ScreenScript.Script
