import ScreenScript.Host.World

/-!
What holds of the outcome of a program whatever the world answers.
-/

namespace ScreenScript

namespace Program

variable {α β : Type}

def Ensures (P : α → Prop) : Program α → Prop
  | done a => P a
  | ask _ _ next => ∀ r, Ensures P (next r)
  | poll next => ∀ b, Ensures P (next b)
  | pause _ next => Ensures P (next ())
  | emit _ next => Ensures P (next ())
  | note _ next => Ensures P (next ())

theorem Ensures.mono {P Q : α → Prop} {p : Program α} (hp : p.Ensures P) (h : ∀ a, P a → Q a) :
    p.Ensures Q := by
  induction p with
  | done a => exact h a hp
  | ask _ _ _ ih => exact fun r => ih r (hp r)
  | poll _ ih => exact fun b => ih b (hp b)
  | pause _ _ ih => exact ih () hp
  | emit _ _ ih => exact ih () hp
  | note _ _ ih => exact ih () hp

theorem Ensures.and {P Q : α → Prop} {p : Program α} (hp : p.Ensures P) (hq : p.Ensures Q) :
    p.Ensures fun a => P a ∧ Q a := by
  induction p with
  | done a => exact ⟨hp, hq⟩
  | ask _ _ _ ih => exact fun r => ih r (hp r) (hq r)
  | poll _ ih => exact fun b => ih b (hp b) (hq b)
  | pause _ _ ih => exact ih () hp hq
  | emit _ _ ih => exact ih () hp hq
  | note _ _ ih => exact ih () hp hq

theorem Ensures.bind {P : α → Prop} {Q : β → Prop} {p : Program α} {f : α → Program β}
    (hp : p.Ensures P) (hf : ∀ a, P a → (f a).Ensures Q) : (p.bind f).Ensures Q := by
  induction p with
  | done a => exact hf a hp
  | ask _ _ _ ih => exact fun r => ih r (hp r)
  | poll _ ih => exact fun b => ih b (hp b)
  | pause _ _ ih => exact ih () hp
  | emit _ _ ih => exact ih () hp
  | note _ _ ih => exact ih () hp

theorem ensures_true (p : Program α) : p.Ensures fun _ => True := by
  induction p with
  | done a => trivial
  | ask _ _ _ ih => exact ih
  | poll _ ih => exact ih
  | pause _ _ ih => exact ih ()
  | emit _ _ ih => exact ih ()
  | note _ _ ih => exact ih ()

theorem Ensures.run {σ : Type} {P : α → Prop} {p : Program α} (hp : p.Ensures P) (h : Host σ)
    (w : World σ) : P (World.run h p w).1 := by
  induction p generalizing w with
  | done a => exact hp
  | ask _ _ _ ih => exact ih _ (hp _) _
  | poll _ ih => exact ih _ (hp _) _
  | pause _ _ ih => exact ih _ hp _
  | emit _ _ ih => exact ih _ hp _
  | note _ _ ih => exact ih _ hp _

end Program

end ScreenScript
