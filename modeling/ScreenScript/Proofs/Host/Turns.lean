import ScreenScript.Host.World

/-!
The calls a host receives during a run, one after the other, and whether it requested an interrupt
during each. Requests are read off the reactions of the host, not off the interrupt flag.
-/

namespace ScreenScript

/-- One call that reached the host, with the world after it. -/
structure Turn (σ : Type) where
  call : Call
  after : World σ
  interrupted : Bool

theorem Program.bind_bind {α β γ : Type} (p : Program α) (f : α → Program β) (g : β → Program γ) :
    (p.bind f).bind g = p.bind fun a => (f a).bind g := by
  induction p with
  | done a => rfl
  | ask verb args next ih => exact congrArg _ (funext ih)
  | poll next ih => exact congrArg _ (funext ih)
  | pause ms next ih => exact congrArg _ (funext ih)
  | emit m next ih => exact congrArg _ (funext ih)
  | note e next ih => exact congrArg _ (funext ih)

namespace World

variable {σ α β : Type}

def announce (w : World σ) (verb : String) (args : List String) : World σ :=
  { w with calls := ⟨verb, args⟩ :: w.calls }.note
    { level := .trace, target := bridgeTarget, message := "host call"
      fields := [("verb", Text.quoted verb), ("argc", toString args.length)] }

/-- Whether a reaction requests an interrupt. `inner` answers the calls the host makes while it is
being called, and `asks` tells whether an interrupt is requested during them. -/
def requests (inner : String → List String → World σ → Option String × World σ)
    (asks : String → List String → World σ → Bool) : Reaction σ → World σ → Bool
  | .answer _, _ => false
  | .get next, w => requests inner asks (next w.state) w
  | .put s next, w => requests inner asks (next ()) { w with state := s }
  | .interrupt _, _ => true
  | .evaluate _ _ next, w => requests inner asks (next (.error .busy)) w
  | .call verb args next, w =>
    asks verb args w || requests inner asks (next (inner verb args w).1) (inner verb args w).2
  | .detach next, w => requests inner asks (next ()) w.detach
  | .note e next, w => requests inner asks (next ()) (w.note e)

/-- Whether the host requests an interrupt during a call, however deep in calls of its own. -/
def interrupts (h : Host σ) : Nat → String → List String → World σ → Bool
  | 0, _, _, _ => false
  | depth + 1, verb, args, w =>
    w.attached && requests (call h depth) (interrupts h depth) (h verb args) (w.announce verb args)

def turn (h : Host σ) (verb : String) (args : List String) (w : World σ) : Turn σ :=
  { call := ⟨verb, args⟩, after := (w.call h maxReentry verb args).2
    interrupted := interrupts h maxReentry verb args w }

/-- The turns of a run. A host that was released has none. -/
def turns (h : Host σ) : Program α → World σ → List (Turn σ)
  | .done _, _ => []
  | .ask verb args next, w =>
    let (a, w') := w.call h maxReentry verb args
    if w.attached then w.turn h verb args :: turns h (next a) w' else turns h (next a) w'
  | .poll next, w => turns h (next w.pending) w
  | .pause ms next, w => turns h (next ()) (w.wait ms)
  | .emit m next, w => turns h (next ()) (w.emit m)
  | .note e next, w => turns h (next ()) (w.note e)

theorem run_bind (h : Host σ) (p : Program α) (f : α → Program β) (w : World σ) :
    run h (p.bind f) w = run h (f (run h p w).1) (run h p w).2 := by
  induction p generalizing w with
  | done a => rfl
  | ask verb args next ih => exact ih _ _
  | poll next ih => exact ih _ _
  | pause ms next ih => exact ih _ _
  | emit m next ih => exact ih _ _
  | note e next ih => exact ih _ _

theorem turns_bind (h : Host σ) (p : Program α) (f : α → Program β) (w : World σ) :
    turns h (p.bind f) w = turns h p w ++ turns h (f (run h p w).1) (run h p w).2 := by
  induction p generalizing w with
  | done a => rfl
  | ask verb args next ih =>
    simp only [Program.bind, turns, run, ih]
    split <;> rfl
  | poll next ih => exact ih _ _
  | pause ms next ih => exact ih _ _
  | emit m next ih => exact ih _ _
  | note e next ih => exact ih _ _

theorem run_map (h : Host σ) (p : Program α) (f : α → β) (w : World σ) :
    run h (p.bind fun a => .done (f a)) w = (f (run h p w).1, (run h p w).2) ∧
      turns h (p.bind fun a => .done (f a)) w = turns h p w :=
  ⟨run_bind h p _ w, (turns_bind h p _ w).trans (List.append_nil _)⟩

theorem wait_eq (w : World σ) (ms : Nat) : ∃ clock pending deadline notes,
    w.wait ms = { w with clock, pending, deadline, notes } := by
  unfold wait
  dsimp only
  split
  · split
    · exact ⟨_, _, _, _, rfl⟩
    · exact ⟨_, _, _, _, rfl⟩
  · exact ⟨_, _, _, _, rfl⟩

theorem detach_eq (w : World σ) : ∃ attached notes, w.detach = { w with attached, notes } := by
  unfold detach
  split
  · exact ⟨_, _, rfl⟩
  · exact ⟨_, _, rfl⟩

theorem pending_perform {inner : String → List String → World σ → Option String × World σ}
    {asks : String → List String → World σ → Bool}
    (hi : ∀ verb args w, (inner verb args w).2.pending = (w.pending || asks verb args w))
    (r : Reaction σ) (w : World σ) :
    (perform inner r w).2.pending = (w.pending || requests inner asks r w) := by
  induction r generalizing w with
  | answer a => simp [perform, requests]
  | get next ih => exact ih _ _
  | put s next ih => exact ih _ _
  | interrupt next ih => simp [perform, requests, ih]
  | evaluate source name next ih => exact ih _ _
  | call verb args next ih => simp [perform, requests, ih, hi, Bool.or_assoc]
  | detach next ih =>
    obtain ⟨attached, notes, hd⟩ := w.detach_eq
    simp [perform, requests, ih, hd]
  | note e next ih => exact ih _ _

theorem call_of_attached (h : Host σ) (depth : Nat) (verb : String) (args : List String)
    (w : World σ) (ha : w.attached = true) :
    ∃ e, w.call h (depth + 1) verb args =
      ((perform (call h depth) (h verb args) (w.announce verb args)).1,
        (perform (call h depth) (h verb args) (w.announce verb args)).2.note e) :=
  ⟨_, if_pos ha⟩

theorem call_of_detached (h : Host σ) (depth : Nat) (verb : String) (args : List String)
    (w : World σ) (ha : w.attached = false) :
    ∃ e, w.call h (depth + 1) verb args = (none, w.note e) :=
  ⟨_, if_neg (by rw [ha]; exact Bool.false_ne_true)⟩

theorem pending_call (h : Host σ) (depth : Nat) (verb : String) (args : List String) (w : World σ) :
    (w.call h depth verb args).2.pending = (w.pending || interrupts h depth verb args w) := by
  -- A reaction at one depth calls back at the depth below.
  induction depth generalizing verb args w with
  | zero => simp [call, interrupts]
  | succ depth ih =>
    cases ha : w.attached with
    | true =>
      obtain ⟨e, he⟩ := call_of_attached h depth verb args w ha
      rw [he]
      simp only [interrupts, ha, Bool.true_and]
      exact pending_perform ih (h verb args) (w.announce verb args)
    | false =>
      obtain ⟨e, he⟩ := call_of_detached h depth verb args w ha
      simp [he, interrupts, ha, note]

theorem deadline_perform {inner : String → List String → World σ → Option String × World σ}
    (hi : ∀ verb args w, (inner verb args w).2.deadline = w.deadline) (r : Reaction σ)
    (w : World σ) : (perform inner r w).2.deadline = w.deadline := by
  induction r generalizing w with
  | answer a => rfl
  | get next ih => exact ih _ _
  | put s next ih => exact ih _ _
  | interrupt next ih => exact ih _ _
  | evaluate source name next ih => exact ih _ _
  | call verb args next ih => exact (ih _ _).trans (hi verb args w)
  | detach next ih =>
    obtain ⟨attached, notes, hd⟩ := w.detach_eq
    rw [perform, ih, hd]
  | note e next ih => exact ih _ _

theorem deadline_call (h : Host σ) (depth : Nat) (verb : String) (args : List String)
    (w : World σ) : (w.call h depth verb args).2.deadline = w.deadline := by
  induction depth generalizing verb args w with
  | zero => rfl
  | succ depth ih =>
    cases ha : w.attached with
    | true =>
      obtain ⟨e, he⟩ := call_of_attached h depth verb args w ha
      rw [he]
      exact deadline_perform ih (h verb args) (w.announce verb args)
    | false =>
      obtain ⟨e, he⟩ := call_of_detached h depth verb args w ha
      rw [he]
      rfl

theorem deadline_run (h : Host σ) (p : Program α) (w : World σ) (hd : w.deadline = none) :
    (run h p w).2.deadline = none := by
  induction p generalizing w with
  | done a => exact hd
  | ask verb args next ih => exact ih _ _ ((deadline_call h maxReentry verb args w).trans hd)
  | poll next ih => exact ih _ _ hd
  | pause ms next ih =>
    have hw : (w.wait ms).deadline = none := by simp [wait, hd]
    exact ih _ _ hw
  | emit m next ih => exact ih _ _ hd
  | note e next ih => exact ih _ _ hd

theorem interrupts_of_detached (h : Host σ) (depth : Nat) (verb : String) (args : List String)
    (w : World σ) (ha : w.attached = false) : interrupts h depth verb args w = false := by
  cases depth with
  | zero => rfl
  | succ depth => simp [interrupts, ha]

theorem pending_run (h : Host σ) (p : Program α) (w : World σ) (hd : w.deadline = none) :
    (run h p w).2.pending = (w.pending || (turns h p w).any (·.interrupted)) := by
  induction p generalizing w with
  | done a => simp [run, turns]
  | ask verb args next ih =>
    have hc := ih (w.call h maxReentry verb args).1 (w.call h maxReentry verb args).2
      ((deadline_call h maxReentry verb args w).trans hd)
    rw [pending_call] at hc
    simp only [run, turns, hc]
    cases ha : w.attached with
    | true => simp [turn, Bool.or_assoc]
    | false => simp [interrupts_of_detached h maxReentry verb args w ha]
  | poll next ih => exact ih _ _ hd
  | pause ms next ih =>
    have hw : w.wait ms = { w with clock := w.clock + ms } := by simp [wait, hd]
    simp only [run, turns, hw]
    exact ih () { w with clock := w.clock + ms } hd
  | emit m next ih => exact ih _ _ hd
  | note e next ih => exact ih _ _ hd

theorem calls_of_detached (h : Host σ) (depth : Nat) (verb : String) (args : List String)
    (w : World σ) (ha : w.attached = false) : (w.call h depth verb args).2.calls = w.calls := by
  cases depth with
  | zero => rfl
  | succ depth =>
    obtain ⟨e, he⟩ := call_of_detached h depth verb args w ha
    rw [he]
    rfl

def received (calls : List Call) (ts : List (Turn σ)) : List Call :=
  (ts.getLast?.map (·.after.calls)).getD calls

theorem received_cons (calls : List Call) (t : Turn σ) (ts : List (Turn σ)) :
    received calls (t :: ts) = received t.after.calls ts := by
  cases ts <;> simp [received, List.getLast?_cons]

theorem calls_run (h : Host σ) (p : Program α) (w : World σ) :
    (run h p w).2.calls = received w.calls (turns h p w) := by
  induction p generalizing w with
  | done a => rfl
  | ask verb args next ih =>
    simp only [run, turns, ih]
    split
    · rw [received_cons]
      rfl
    · rename_i ha
      rw [calls_of_detached h maxReentry verb args w (by simpa using ha)]
  | poll next ih => exact ih _ _
  | pause ms next ih =>
    obtain ⟨clock, pending, deadline, notes, hw⟩ := w.wait_eq ms
    simp only [run, turns, ih, hw]
  | emit m next ih => exact ih _ _
  | note e next ih => exact ih _ _

end World

end ScreenScript
