import ScreenScript.Client

/-!
What a client makes of the answers of the host.
-/

namespace ScreenScript

namespace Program

variable {α β : Type}

/-- The outcome is read off the last answer, which is `a` so far. -/
def Reads (read : Option String → α) : Option String → Program α → Prop
  | a, done r => r = read a
  | _, ask _ _ next => ∀ b, Reads read b (next b)
  | a, poll next => ∀ b, Reads read a (next b)
  | a, pause _ next => Reads read a (next ())
  | a, emit _ next => Reads read a (next ())
  | a, note _ next => Reads read a (next ())

theorem Reads.map {read : Option String → α} {a : Option String} {p : Program α}
    (hp : p.Reads read a) (f : α → β) :
    (p.bind fun r => done (f r)).Reads (fun b => f (read b)) a := by
  induction p generalizing a with
  | done r => exact congrArg f hp
  | ask _ _ _ ih => exact fun b => ih b (hp b)
  | poll _ ih => exact fun b => ih b (hp b)
  | pause _ _ ih => exact ih () hp
  | emit _ _ ih => exact ih () hp
  | note _ _ ih => exact ih () hp

end Program

namespace Node

theorem child_reads (i : Info) (index : Int64) :
    (child i index).Reads (fun a => (Answer.nodes a)[index.toInt.toNat]?) none := by
  unfold child
  by_cases hneg : index < 0
  · rw [if_pos hneg]
    rfl
  · rw [if_neg hneg]
    intro a
    rfl

theorem nextSibling_reads (i : Info) : (nextSibling i).Reads Answer.node? none := by
  unfold nextSibling
  by_cases hunknown : i.indexInParent < 0
  · rw [if_pos hunknown]
    rfl
  rw [if_neg hunknown]
  cases Word.add? i.indexInParent 1 with
  | none => rfl
  | some n =>
    intro a
    rfl

theorem previousSibling_reads (i : Info) : (previousSibling i).Reads Answer.node? none := by
  unfold previousSibling
  by_cases hfirst : i.indexInParent < 1
  · rw [if_pos hfirst]
    rfl
  · rw [if_neg hfirst]
    intro a
    rfl

end Node

namespace Client

open Node

def Form.read (a : Option String) : Form → Reply
  | raw => .answer a
  | flag => .flag (Answer.bool a)
  | text => .text (Answer.text a)
  | integer default => .integer (Answer.integer a default)
  | json => .json (a.bind Answer.json?)

namespace Terminal

def verb : Terminal → String
  | findOne => Verb.selectorFindOne
  | findOnce _ => Verb.selectorFindOnce
  | findAll => Verb.selectorFindAll
  | waitFor _ => Verb.selectorWaitFor
  | present => Verb.selectorExists
  | click => Verb.selectorClick
  | longClick => Verb.selectorLongClick
  | setText _ => Verb.selectorSetText
  | scrollForward => Verb.selectorScrollForward
  | scrollBackward => Verb.selectorScrollBackward

def extra : Terminal → List String
  | findOnce index => [Word.text index]
  | waitFor ms => [Word.text ms]
  | setText text => [text]
  | _ => []

def read (a : Option String) : Terminal → Reply
  | findOne | findOnce _ | waitFor _ => .node (Answer.node? a)
  | findAll => .nodes (Answer.nodes a)
  | _ => .flag (Answer.bool a)

theorem program_eq (t : Terminal) (cs : List Selector.Condition) :
    t.program cs = .ask t.verb (Selector.Condition.jsonAll cs :: t.extra) fun a =>
      .done (t.read a) := by
  cases t <;> rfl

end Terminal

def Command.read (a : Option String) : Command → Reply
  | children => .nodes (Answer.nodes a)
  | child index => .node (Answer.nodes a)[index.toInt.toNat]?
  | firstChild => .node (Answer.nodes a).head?
  | lastChild => .node (Answer.nodes a).getLast?
  | parent | sibling _ | nextSibling | previousSibling => .node (Answer.node? a)
  | _ => .flag (Answer.bool a)

theorem Command.reads (settle : Nat) (i : Info) (c : Command) :
    (c.program settle i).Reads (fun a => c.read a) none := by
  cases c with
  | child index => exact (child_reads i index).map Reply.node
  | nextSibling => exact (nextSibling_reads i).map Reply.node
  | previousSibling => exact (previousSibling_reads i).map Reply.node
  | setText text =>
    -- The answer to the tap is not looked at.
    intro a b
    rfl
  | _ =>
    intro a
    rfl

variable {σ : Type}

theorem perform_of_program (c : Client σ) {op : Operation} {p : Program Reply}
    (hp : c.program? op = some p) :
    c.perform op = ((World.run c.host p c.world c.depth).1,
      { c with world := (World.run c.host p c.world c.depth).2 }) := by
  simp only [perform, hp]

theorem perform_of_none (c : Client σ) {op : Operation} (hp : c.program? op = none) :
    c.perform op = c.alone op := by
  simp only [perform, hp]

def after (c : Client σ) (ops : List Operation) : Client σ :=
  ops.foldl (fun c op => (c.perform op).2) c

end Client

end ScreenScript
