import ScreenScript.Proofs.Host.Turns

/-!
Two worlds, perhaps of hosts with different states, that no program can tell apart. What programs and
hosts may do is checked once for a relation between worlds, and holds of whole runs then.
-/

namespace ScreenScript.World

variable {σ τ α : Type}

/-- A relation that is kept by everything that happens to a world but calls of the host. -/
structure Bisimilar (R : World σ → World τ → Prop) : Prop where
  pending : ∀ {w v}, R w v → v.pending = w.pending
  attached : ∀ {w v}, R w v → v.attached = w.attached
  request : ∀ {w v}, R w v → ∀ b, R { w with pending := b } { v with pending := b }
  release : ∀ {w v}, R w v → R { w with attached := false } { v with attached := false }
  wait : ∀ {w v}, R w v → ∀ ms, R (w.wait ms) (v.wait ms)
  emit : ∀ {w v}, R w v → ∀ m, R (w.emit m) (v.emit m)
  note : ∀ {w v}, R w v → ∀ e e', R (w.note e) (v.note e')

def Agree (R : World σ → World τ → Prop) (x : α × World σ) (y : α × World τ) : Prop :=
  y.1 = x.1 ∧ R x.2 y.2

/-- The host `h'` answers like `h` in related worlds, if the calls they make are answered alike. -/
def Mirrors (R : World σ → World τ → Prop) (h : Host σ) (h' : Host τ) : Prop :=
  ∀ (inner : String → List String → World σ → Option String × World σ)
    (inner' : String → List String → World τ → Option String × World τ),
    (∀ verb args w v, R w v → Agree R (inner verb args w) (inner' verb args v)) →
    ∀ verb args w v, R w v → Agree R (perform inner (h verb args) (w.announce verb args))
      (perform inner' (h' verb args) (v.announce verb args))

namespace Bisimilar

variable {R : World σ → World τ → Prop}

theorem detach (hR : Bisimilar R) {w : World σ} {v : World τ} (h : R w v) :
    R w.detach v.detach := by
  have ha := hR.attached h
  unfold World.detach
  cases hw : w.attached with
  | true =>
    rw [ha, hw]
    exact hR.note (hR.release h) _ _
  | false =>
    rw [ha, hw]
    exact h

theorem call (hR : Bisimilar R) {h : Host σ} {h' : Host τ} (hh : Mirrors R h h') (depth : Nat)
    (verb : String) (args : List String) (w : World σ) (v : World τ) (hwv : R w v) :
    Agree R (w.call h depth verb args) (v.call h' depth verb args) := by
  induction depth generalizing verb args w v with
  | zero => exact ⟨rfl, hwv⟩
  | succ depth ih =>
    have ha : v.attached = w.attached := hR.attached hwv
    cases hw : w.attached with
    | true =>
      obtain ⟨e, he⟩ := call_of_attached h depth verb args w hw
      obtain ⟨e', he'⟩ := call_of_attached h' depth verb args v (ha.trans hw)
      obtain ⟨hr, hrw⟩ := hh _ _ ih verb args w v hwv
      rw [he, he']
      exact ⟨hr, hR.note hrw e e'⟩
    | false =>
      obtain ⟨e, he⟩ := call_of_detached h depth verb args w hw
      obtain ⟨e', he'⟩ := call_of_detached h' depth verb args v (ha.trans hw)
      rw [he, he']
      exact ⟨rfl, hR.note hwv e e'⟩

theorem run (hR : Bisimilar R) {h : Host σ} {h' : Host τ} (hh : Mirrors R h h') (p : Program α)
    {w : World σ} {v : World τ} (hwv : R w v) : Agree R (World.run h p w) (World.run h' p v) := by
  -- A program learns of the world through answers and the flag; what else it does stays related.
  induction p generalizing w v with
  | done a => exact ⟨rfl, hwv⟩
  | ask verb args next ih =>
    obtain ⟨ha, hw⟩ := hR.call hh maxReentry verb args w v hwv
    simp only [World.run, ha]
    exact ih _ hw
  | poll next ih =>
    simp only [World.run, hR.pending hwv]
    exact ih _ hwv
  | pause ms next ih => exact ih _ (hR.wait hwv ms)
  | emit m next ih => exact ih _ (hR.emit hwv m)
  | note e next ih => exact ih _ (hR.note hwv e e)

end Bisimilar

/-- Related worlds have the same host state, and each receives the calls that the other does. -/
structure Shared (R : World σ → World σ → Prop) : Prop extends Bisimilar R where
  state : ∀ {w v}, R w v → v.state = w.state
  put : ∀ {w v}, R w v → ∀ s, R { w with state := s } { v with state := s }
  announce : ∀ {w v}, R w v → ∀ verb args, R (w.announce verb args) (v.announce verb args)

namespace Shared

variable {R : World σ → World σ → Prop}

theorem perform (hR : Shared R)
    {inner inner' : String → List String → World σ → Option String × World σ}
    (hi : ∀ verb args w v, R w v → Agree R (inner verb args w) (inner' verb args v))
    (r : Reaction σ) {w v : World σ} (h : R w v) :
    Agree R (World.perform inner r w) (World.perform inner' r v) := by
  induction r generalizing w v with
  | answer a => exact ⟨rfl, h⟩
  | get next ih =>
    simp only [World.perform, hR.state h]
    exact ih _ h
  | put s next ih => exact ih _ (hR.put h s)
  | interrupt next ih => exact ih _ (hR.request h true)
  | evaluate source name next ih => exact ih _ h
  | call verb args next ih =>
    obtain ⟨ha, hw⟩ := hi verb args w v h
    simp only [World.perform, ha]
    exact ih _ hw
  | detach next ih => exact ih _ (hR.detach h)
  | note e next ih => exact ih _ (hR.note h e e)

theorem mirrors (hR : Shared R) (h : Host σ) : Mirrors R h h :=
  fun _ _ hi verb args _ _ hwv => hR.perform hi (h verb args) (hR.announce hwv verb args)

end Shared

/-- Worlds that differ in the console, the clock, the notes, and in the calls before `new`. -/
structure Twins (before before' : List Call) (w v : World σ) : Prop where
  state : v.state = w.state
  attached : v.attached = w.attached
  pending : v.pending = w.pending
  deadline : w.deadline = none
  deadline' : v.deadline = none
  calls : ∃ new, w.calls = new ++ before ∧ v.calls = new ++ before'

theorem wait_of_no_deadline {w : World σ} (hd : w.deadline = none) (ms : Nat) :
    w.wait ms = { w with clock := w.clock + ms } := by
  simp only [wait, hd]

variable {before before' : List Call}

theorem twins_shared : Shared (Twins (σ := σ) before before') where
  pending h := h.pending
  attached h := h.attached
  request h b := ⟨h.state, h.attached, rfl, h.deadline, h.deadline', h.calls⟩
  release h := ⟨h.state, rfl, h.pending, h.deadline, h.deadline', h.calls⟩
  wait h ms := by
    rw [wait_of_no_deadline h.deadline, wait_of_no_deadline h.deadline']
    exact ⟨h.state, h.attached, h.pending, h.deadline, h.deadline', h.calls⟩
  emit h m := ⟨h.state, h.attached, h.pending, h.deadline, h.deadline', h.calls⟩
  note h e e' := ⟨h.state, h.attached, h.pending, h.deadline, h.deadline', h.calls⟩
  state h := h.state
  put h s := ⟨rfl, h.attached, h.pending, h.deadline, h.deadline', h.calls⟩
  announce h verb args := by
    obtain ⟨new, hw, hv⟩ := h.calls
    refine ⟨h.state, h.attached, h.pending, h.deadline, h.deadline', ⟨verb, args⟩ :: new, ?_, ?_⟩
    · exact congrArg (List.cons _) hw
    · exact congrArg (List.cons _) hv

end ScreenScript.World
