import ScreenScript.Proofs.Host.Outcomes
import ScreenScript.Proofs.Host.Turns

/-!
Programs that ask for the same things, and end in related ways.
-/

namespace ScreenScript

namespace Program

variable {α β γ δ : Type}

inductive Lockstep (P : α → β → Prop) : Program α → Program β → Prop
  | done {a : α} {b : β} (h : P a b) : Lockstep P (.done a) (.done b)
  | ask (verb : String) (args : List String) {p : Option String → Program α}
      {q : Option String → Program β} (h : ∀ r, Lockstep P (p r) (q r)) :
      Lockstep P (.ask verb args p) (.ask verb args q)
  | poll {p : Bool → Program α} {q : Bool → Program β} (h : ∀ b, Lockstep P (p b) (q b)) :
      Lockstep P (.poll p) (.poll q)
  | pause (ms : Nat) {p : Unit → Program α} {q : Unit → Program β}
      (h : Lockstep P (p ()) (q ())) : Lockstep P (.pause ms p) (.pause ms q)
  | emit (m : Message) {p : Unit → Program α} {q : Unit → Program β}
      (h : Lockstep P (p ()) (q ())) : Lockstep P (.emit m p) (.emit m q)
  | note (e : Log.Event) {p : Unit → Program α} {q : Unit → Program β}
      (h : Lockstep P (p ()) (q ())) : Lockstep P (.note e p) (.note e q)

namespace Lockstep

variable {P : α → β → Prop} {Q : γ → δ → Prop} {p : Program α} {q : Program β}

theorem refl {P : α → α → Prop} (hP : ∀ a, P a a) (p : Program α) : Lockstep P p p := by
  induction p with
  | done a => exact .done (hP a)
  | ask verb args _ ih => exact .ask verb args ih
  | poll _ ih => exact .poll ih
  | pause ms _ ih => exact .pause ms (ih ())
  | emit m _ ih => exact .emit m (ih ())
  | note e _ ih => exact .note e (ih ())

theorem mono {R : α → β → Prop} (h : Lockstep P p q) (hPR : ∀ a b, P a b → R a b) :
    Lockstep R p q := by
  induction h with
  | done h => exact .done (hPR _ _ h)
  | ask verb args _ ih => exact .ask verb args ih
  | poll _ ih => exact .poll ih
  | pause ms _ ih => exact .pause ms ih
  | emit m _ ih => exact .emit m ih
  | note e _ ih => exact .note e ih

theorem bind (h : Lockstep P p q) {f : α → Program γ} {g : β → Program δ}
    (hfg : ∀ a b, P a b → Lockstep Q (f a) (g b)) : Lockstep Q (p.bind f) (q.bind g) := by
  induction h with
  | done h => exact hfg _ _ h
  | ask verb args _ ih => exact .ask verb args ih
  | poll _ ih => exact .poll ih
  | pause ms _ ih => exact .pause ms ih
  | emit m _ ih => exact .emit m ih
  | note e _ ih => exact .note e ih

theorem eq {p q : Program α} (h : Lockstep Eq p q) : p = q := by
  induction h with
  | done h => rw [h]
  | ask verb args _ ih => rw [funext ih]
  | poll _ ih => rw [funext ih]
  | pause ms _ ih => exact congrArg (Program.pause ms) (funext fun _ => ih)
  | emit m _ ih => exact congrArg (Program.emit m) (funext fun _ => ih)
  | note e _ ih => exact congrArg (Program.note e) (funext fun _ => ih)

theorem meet {r : Program γ} {Q : δ → γ → Prop} {q : Program δ}
    {P : α → γ → Prop} {p : Program α} (h : Lockstep P p r) (h' : Lockstep Q q r) :
    Lockstep (fun a d => ∃ b, P a b ∧ Q d b) p q := by
  induction h generalizing q with
  | done h =>
    cases h' with
    | done h' => exact .done ⟨_, h, h'⟩
  | ask verb args _ ih =>
    cases h' with
    | ask _ _ h' => exact .ask verb args fun r => ih r (h' r)
  | poll _ ih =>
    cases h' with
    | poll h' => exact .poll fun b => ih b (h' b)
  | pause ms _ ih =>
    cases h' with
    | pause _ h' => exact .pause ms (ih h')
  | emit m _ ih =>
    cases h' with
    | emit _ h' => exact .emit m (ih h')
  | note e _ ih =>
    cases h' with
    | note _ h' => exact .note e (ih h')

theorem ensures (h : Lockstep P p q) : p.Ensures fun a => ∃ b, P a b := by
  induction h with
  | done h => exact ⟨_, h⟩
  | ask _ _ _ ih => exact ih
  | poll _ ih => exact ih
  | pause _ _ ih => exact ih
  | emit _ _ ih => exact ih
  | note _ _ ih => exact ih

theorem run {σ : Type} (h : Lockstep P p q) (host : Host σ) (w : World σ) (depth : Nat) :
    P (World.run host p w depth).1 (World.run host q w depth).1 ∧
      (World.run host q w depth).2 = (World.run host p w depth).2 := by
  induction h generalizing w with
  | done h => exact ⟨h, rfl⟩
  | ask verb args _ ih => exact ih _ _
  | poll _ ih => exact ih _ w
  | pause ms _ ih => exact ih (w.wait ms)
  | emit m _ ih => exact ih (w.emit m)
  | note e _ ih => exact ih (w.note e)

end Lockstep

end Program

end ScreenScript
