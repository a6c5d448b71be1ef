import ScreenScript.Proofs.Host.Turns

/-!
Programs that do nothing but look at the interrupt flag, and programs that do nothing else but make
one call.
-/

namespace ScreenScript

namespace Program

variable {α β : Type}

/-- The program only looks at the flag, and its outcome is in `P` if it only sees what `seen`
allows. -/
def Still (seen : Bool → Prop) (P : α → Prop) : Program α → Prop
  | done a => P a
  | poll next => ∀ b, seen b → Still seen P (next b)
  | _ => False

/-- The same, but that the program may end with a call of `x`, after which it only looks at the flag,
whatever it sees. -/
def Once (seen : Bool → Prop) (x : Call) (P : α → Prop) : Program α → Prop
  | done a => P a
  | poll next => ∀ b, seen b → Once seen x P (next b)
  | ask verb args next =>
    ⟨verb, args⟩ = x ∧ ∀ a, (next a).Still (fun _ => True) (fun _ => True)
  | _ => False

variable {seen : Bool → Prop} {x : Call} {P : α → Prop} {Q : β → Prop} {p : Program α}
  {f : α → Program β}

theorem Still.mono {R : α → Prop} (hp : p.Still seen P) (h : ∀ a, P a → R a) :
    p.Still seen R := by
  induction p with
  | done a => exact h a hp
  | poll next ih => exact fun b hb => ih b (hp b hb)
  | _ => exact hp.elim

theorem Still.bind (hp : p.Still seen P) (hf : ∀ a, P a → (f a).Still seen Q) :
    (p.bind f).Still seen Q := by
  induction p with
  | done a => exact hf a hp
  | poll next ih => exact fun b hb => ih b (hp b hb)
  | _ => exact hp.elim

theorem Once.mono {R : α → Prop} (hp : p.Once seen x P) (h : ∀ a, P a → R a) :
    p.Once seen x R := by
  induction p with
  | done a => exact h a hp
  | poll next ih => exact fun b hb => ih b (hp b hb)
  | ask verb args next ih => exact hp
  | _ => exact hp.elim

theorem Once.bind (hp : p.Once seen x P) (hf : ∀ a, P a → (f a).Once seen x Q)
    (hend : ∀ a, (f a).Still (fun _ => True) (fun _ => True)) : (p.bind f).Once seen x Q := by
  induction p with
  | done a => exact hf a hp
  | poll next ih => exact fun b hb => ih b (hp b hb)
  | ask verb args next ih => exact ⟨hp.1, fun a => (hp.2 a).bind fun b _ => hend b⟩
  | _ => exact hp.elim

end Program

namespace World

variable {σ α : Type} {seen : Bool → Prop} {x : Call} {P : α → Prop} {p : Program α}

theorem run_still (hp : p.Still seen P) (h : Host σ) (w : World σ) (hw : seen w.pending)
    (depth : Nat) : P (run h p w depth).1 ∧ (run h p w depth).2 = w := by
  induction p with
  | done a => exact ⟨hp, rfl⟩
  | poll next ih => exact ih _ (hp _ hw)
  | _ => exact hp.elim

end World

end ScreenScript
