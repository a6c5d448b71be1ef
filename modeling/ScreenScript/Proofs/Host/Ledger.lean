import ScreenScript.Proofs.Host.Bisimulation

/-!
Hosts with numbers that write down the calls they receive. They answer as they do without the ledger,
and it holds the calls of a run under the number of the host that the run is for.
-/

namespace ScreenScript

/-- Who received which call, the last first. -/
abbrev Ledger := List (Nat × Call)

namespace Reaction

variable {σ : Type}

def beside : Reaction σ → Reaction (σ × Ledger)
  | answer a => answer a
  | get next => get fun s => beside (next s.1)
  | put s next => get fun t => put (s, t.2) fun u => beside (next u)
  | interrupt next => interrupt fun u => beside (next u)
  | evaluate source name next => evaluate source name fun r => beside (next r)
  | call verb args next => call verb args fun a => beside (next a)
  | detach next => detach fun u => beside (next u)
  | note e next => note e fun u => beside (next u)

end Reaction

/-- The host under a number: it writes a call down before it answers. -/
def Host.numbered {σ : Type} (h : Host σ) (n : Nat) : Host (σ × Ledger) := fun verb args =>
  .get fun s => .put (s.1, (n, ⟨verb, args⟩) :: s.2) fun _ => (h verb args).beside

namespace World

variable {σ : Type} {n : Nat} {l : Ledger} {before : List Call}

/-- The world `w` keeps a ledger; all that was called since `l` was called of host `n`. -/
structure Booked (n : Nat) (l : Ledger) (before : List Call) (w : World (σ × Ledger))
    (v : World σ) : Prop where
  state : v.state = w.state.1
  attached : v.attached = w.attached
  pending : v.pending = w.pending
  deadline : w.deadline = none
  deadline' : v.deadline = none
  calls : ∃ new : Ledger, w.state.2 = new ++ l ∧ v.calls = new.map (·.2) ++ before ∧
    ∀ p ∈ new, p.1 = n

theorem booked_bisimilar : Bisimilar (Booked (σ := σ) n l before) where
  pending h := h.pending
  attached h := h.attached
  request h b := ⟨h.state, h.attached, rfl, h.deadline, h.deadline', h.calls⟩
  release h := ⟨h.state, rfl, h.pending, h.deadline, h.deadline', h.calls⟩
  wait h ms := by
    rw [wait_of_no_deadline h.deadline, wait_of_no_deadline h.deadline']
    exact ⟨h.state, h.attached, h.pending, h.deadline, h.deadline', h.calls⟩
  emit h m := ⟨h.state, h.attached, h.pending, h.deadline, h.deadline', h.calls⟩
  note h e e' := ⟨h.state, h.attached, h.pending, h.deadline, h.deadline', h.calls⟩

namespace Booked

theorem perform {inner : String → List String → World (σ × Ledger) →
      Option String × World (σ × Ledger)}
    {inner' : String → List String → World σ → Option String × World σ}
    (hi : ∀ verb args w v, Booked n l before w v →
      Agree (Booked n l before) (inner verb args w) (inner' verb args v)) (r : Reaction σ)
    {w : World (σ × Ledger)} {v : World σ} (h : Booked n l before w v) :
    Agree (Booked n l before) (World.perform inner r.beside w)
      (World.perform inner' r v) := by
  induction r generalizing w v with
  | answer a => exact ⟨rfl, h⟩
  | get next ih =>
    simp only [Reaction.beside, World.perform, h.state]
    exact ih _ h
  | put s next ih =>
    exact ih _ ⟨rfl, h.attached, h.pending, h.deadline, h.deadline', h.calls⟩
  | interrupt next ih => exact ih _ (booked_bisimilar.request h true)
  | evaluate source name next ih => exact ih _ h
  | call verb args next ih =>
    obtain ⟨ha, hw⟩ := hi verb args w v h
    simp only [Reaction.beside, World.perform, ha]
    exact ih _ hw
  | detach next ih => exact ih _ (booked_bisimilar.detach h)
  | note e next ih => exact ih _ (booked_bisimilar.note h e e)

end Booked

theorem booked_mirror (h : Host σ) : Mirrors (Booked n l before) (h.numbered n) h := by
  intro inner inner' hi verb args w v hwv
  apply Booked.perform hi (h verb args)
  obtain ⟨new, hledger, hcalls, hnew⟩ := hwv.calls
  refine ⟨hwv.state, hwv.attached, hwv.pending, hwv.deadline, hwv.deadline',
    (n, ⟨verb, args⟩) :: new, congrArg (List.cons _) hledger, congrArg (List.cons _) hcalls, ?_⟩
  exact List.forall_mem_cons.mpr ⟨rfl, hnew⟩

end World

end ScreenScript
