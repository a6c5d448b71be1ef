import ScreenScript.Proofs.Engine.History
import ScreenScript.Proofs.Host.Ledger

namespace ScreenScript.Engine

open World

variable {σ τ : Type}

def result (e : Engine σ) : Operation σ → Option (Option (Except EvalError String))
  | .evaluate source name => some (e.evaluate source name).1
  | _ => none

def results (e : Engine σ) : List (Operation σ) → List (Option (Option (Except EvalError String)))
  | [] => []
  | op :: ops => e.result op :: (e.perform op).results ops

/-- Engines with the same session, in worlds that `R` relates. -/
structure Parted (R : World σ → World τ → Prop) (e : Engine σ) (f : Engine τ) : Prop where
  config : f.config = e.config
  bound : f.bound = e.bound
  world : R e.world f.world

theorem evaluateIn_parted {R : World σ → World τ → Prop} (hR : Bisimilar R) {e : Engine σ}
    {f : Engine τ} (hef : Parted R e f) {h : Host σ} {h' : Host τ} (hh : Mirrors R h h')
    (s : Script.Session) (source name : String) :
    (f.evaluateIn ⟨h', s⟩ source name).1 = (e.evaluateIn ⟨h, s⟩ source name).1 ∧
      Parted R (e.evaluateIn ⟨h, s⟩ source name).2 (f.evaluateIn ⟨h', s⟩ source name).2 ∧
      ∃ s', (e.evaluateIn ⟨h, s⟩ source name).2.runtime = some ⟨h, s'⟩ ∧
        (f.evaluateIn ⟨h', s⟩ source name).2.runtime = some ⟨h', s'⟩ := by
  have hpending := hR.pending hef.world
  cases hp : e.world.pending with
  | true =>
    rw [evaluateIn_of_pending _ hp, evaluateIn_of_pending _ (hpending.trans hp)]
    have hstarted := hR.note hef.world (started name) (started name)
    exact ⟨rfl, ⟨hef.config, hef.bound, hR.note (hR.request hstarted false) _ _⟩, s, rfl, rfl⟩
  | false =>
    have hq : evaluation f.config f.bound source name s =
        evaluation e.config e.bound source name s := by rw [hef.config, hef.bound]
    obtain ⟨hout, hworld, s', he, hf⟩ :=
      evaluateIn_bisimilar hR hef.world hp ⟨h, s⟩ ⟨h', s⟩ hh source name hq
    refine ⟨hout, ⟨?_, ?_, hworld⟩, s', he, hf⟩
    · rw [evaluateIn_of_idle _ hp, evaluateIn_of_idle _ (hpending.trans hp)]
      exact hef.config
    · rw [evaluateIn_of_idle _ hp, evaluateIn_of_idle _ (hpending.trans hp)]
      exact hef.bound

/-- Engines that differ in the console, the clock, the notes, and in what was called before. -/
structure Twin (before before' : List Call) (e f : Engine σ) : Prop
    extends Parted (Twins before before') e f where
  runtime : f.runtime = e.runtime

namespace Twin

variable {before before' : List Call} {e f : Engine σ}

theorem evaluate (h : Twin before before' e f) (source name : String) :
    (f.evaluate source name).1 = (e.evaluate source name).1 ∧
      Twin before before' (e.evaluate source name).2 (f.evaluate source name).2 := by
  unfold Engine.evaluate
  rw [h.runtime]
  cases hrt : e.runtime with
  | none => exact ⟨rfl, h⟩
  | some rt =>
    obtain ⟨hout, hparted, s, he, hf⟩ :=
      evaluateIn_parted twins_shared.toBisimilar h.toParted (twins_shared.mirrors rt.host) rt.session
        source name
    exact ⟨hout, hparted, hf.trans he.symm⟩

theorem destroy (h : Twin before before' e f) : Twin before before' e.destroy f.destroy := by
  unfold Engine.destroy
  rw [h.runtime]
  cases hrt : e.runtime with
  | none => exact h
  | some rt => exact ⟨⟨h.config, h.bound, twins_shared.note (twins_shared.detach h.world) _ _⟩, rfl⟩

theorem perform (h : Twin before before' e f) (op : Operation σ) :
    f.result op = e.result op ∧ Twin before before' (e.perform op) (f.perform op) := by
  cases op with
  | install host =>
    have hd := h.destroy
    have hw := hd.world
    exact ⟨rfl, ⟨hd.config, hd.bound,
      ⟨hw.state, rfl, rfl, hw.deadline, hw.deadline', hw.calls⟩⟩, rfl⟩
  | evaluate source name =>
    obtain ⟨hout, htwin⟩ := h.evaluate source name
    exact ⟨congrArg some hout, htwin⟩
  | interrupt => exact ⟨rfl, ⟨h.config, h.bound, twins_shared.request h.world true⟩, h.runtime⟩
  | destroy => exact ⟨rfl, h.destroy⟩
  | setSink sink =>
    have hw := h.world
    exact ⟨rfl, ⟨h.config, h.bound,
      ⟨hw.state, hw.attached, hw.pending, hw.deadline, hw.deadline', hw.calls⟩⟩, h.runtime⟩
  | alter state =>
    have hw := h.world
    exact ⟨rfl, ⟨h.config, h.bound,
      ⟨rfl, hw.attached, hw.pending, hw.deadline, hw.deadline', hw.calls⟩⟩, h.runtime⟩

theorem after (h : Twin before before' e f) (ops : List (Operation σ)) :
    f.results ops = e.results ops ∧ Twin before before' (e.after ops) (f.after ops) := by
  induction ops generalizing e f with
  | nil => exact ⟨rfl, h⟩
  | cons op ops ih =>
    obtain ⟨hresult, htwin⟩ := h.perform op
    obtain ⟨hresults, hafter⟩ := ih htwin
    exact ⟨by rw [results, results, hresult, hresults], hafter⟩

end Twin

def fresh (config : Config) (bound : Nat) (state : σ) (host : Host σ) : Engine σ :=
  { ofConfig config state with bound }.install host

theorem twin_install {e : Engine σ} (hd : e.world.deadline = none) (host : Host σ) :
    Twin e.world.calls [] (e.install host) (fresh e.config e.bound e.world.state host) := by
  obtain ⟨attached, notes, he⟩ := e.destroy_eq
  unfold fresh install
  rw [he]
  exact ⟨⟨rfl, rfl, ⟨rfl, rfl, rfl, hd, rfl, [], rfl, rfl⟩⟩, rfl⟩

/-- The number of the host an engine has after an operation with number `n`. -/
def holder (n : Nat) (current : Option Nat) : Operation σ → Option Nat
  | .install _ => some n
  | .destroy => none
  | _ => current

def holderAfter (n : Nat) (current : Option Nat) : List (Operation σ) → Option Nat
  | [] => current
  | op :: ops => holderAfter (n + 1) (holder n current op) ops

def installed (ops : List (Operation σ)) : Option Nat :=
  holderAfter 0 none ops

def Operation.addressee (current : Option Nat) : Operation σ → Option Nat
  | .evaluate _ _ => current
  | _ => none

/-- The operation on hosts that keep a ledger, which is `l` now. -/
def Operation.booked (n : Nat) (l : Ledger) : Operation σ → Operation (σ × Ledger)
  | .install host => .install (host.numbered n)
  | .evaluate source name => .evaluate source name
  | .interrupt => .interrupt
  | .destroy => .destroy
  | .setSink sink => .setSink sink
  | .alter state => .alter (state, l)

def bookedAfter (n : Nat) (e : Engine (σ × Ledger)) : List (Operation σ) → Engine (σ × Ledger)
  | [] => e
  | op :: ops => bookedAfter (n + 1) (e.perform (op.booked n e.world.state.2)) ops

/-- What the hosts wrote down in a history. Each has the place of its installation for a number. -/
def ledger (config : Config) (bound : Nat) (state : σ) (ops : List (Operation σ)) : Ledger :=
  (bookedAfter 0 { ofConfig config (state, []) with bound } ops).world.state.2

structure Booking (current : Option Nat) (e : Engine (σ × Ledger)) (f : Engine σ) : Prop where
  config : f.config = e.config
  bound : f.bound = e.bound
  state : f.world.state = e.world.state.1
  attached : f.world.attached = e.world.attached
  pending : f.world.pending = e.world.pending
  deadline : e.world.deadline = none
  deadline' : f.world.deadline = none
  runtime : match current with
    | some n => ∃ h s, e.runtime = some ⟨Host.numbered h n, s⟩ ∧ f.runtime = some ⟨h, s⟩
    | none => e.runtime = none ∧ f.runtime = none

namespace Booking

variable {current : Option Nat} {e : Engine (σ × Ledger)} {f : Engine σ}

theorem ofParted {n : Nat} {h : Host σ} {l : Ledger} {before : List Call}
    (hef : Parted (Booked n l before) e f) {s : Script.Session}
    (he : e.runtime = some ⟨h.numbered n, s⟩) (hf : f.runtime = some ⟨h, s⟩) :
    Booking (some n) e f :=
  ⟨hef.config, hef.bound, hef.world.state, hef.world.attached, hef.world.pending,
    hef.world.deadline, hef.world.deadline', h, s, he, hf⟩

theorem parted (hef : Booking current e f) (n : Nat) :
    Parted (Booked n e.world.state.2 f.world.calls) e f :=
  ⟨hef.config, hef.bound, ⟨hef.state, hef.attached, hef.pending, hef.deadline, hef.deadline',
    [], rfl, rfl, by simp⟩⟩

theorem evaluate (hef : Booking current e f) (source name : String) :
    Booking current (e.evaluate source name).2 (f.evaluate source name).2 ∧
      ∃ new : Ledger, (e.evaluate source name).2.world.state.2 = new ++ e.world.state.2 ∧
        (f.evaluate source name).2.world.calls = new.map (·.2) ++ f.world.calls ∧
        ∀ p ∈ new, current = some p.1 := by
  cases current with
  | none =>
    obtain ⟨he, hf⟩ := hef.runtime
    have hee : e.evaluate source name = (some (.error .notInitialized), e) := by
      simp only [Engine.evaluate, he]
    have hff : f.evaluate source name = (some (.error .notInitialized), f) := by
      simp only [Engine.evaluate, hf]
    rw [hee, hff]
    exact ⟨hef, [], rfl, rfl, by simp⟩
  | some n =>
    obtain ⟨h, s, he, hf⟩ := hef.runtime
    rw [evaluate_of_runtime he, evaluate_of_runtime hf]
    obtain ⟨-, hparted, s', he', hf'⟩ :=
      evaluateIn_parted booked_bisimilar (hef.parted n) (booked_mirror h) s source name
    obtain ⟨new, hledger, hcalls, hnew⟩ := hparted.world.calls
    exact ⟨ofParted hparted he' hf', new, hledger, hcalls,
      fun p hp => congrArg some (hnew p hp).symm⟩

theorem destroy (hef : Booking current e f) : Booking none e.destroy f.destroy := by
  obtain ⟨attached, notes, he⟩ := e.destroy_eq
  obtain ⟨attached', notes', hf⟩ := f.destroy_eq
  -- A host that is destroyed is detached in both engines; with none there is nothing to detach.
  have hattached : f.destroy.world.attached = e.destroy.world.attached := by
    cases current with
    | none =>
      obtain ⟨hre, hrf⟩ := hef.runtime
      simp only [Engine.destroy, hre, hrf, hef.attached]
    | some n =>
      obtain ⟨h, s, hre, hrf⟩ := hef.runtime
      simp only [Engine.destroy, hre, hrf]
      exact (booked_bisimilar.detach (hef.parted n).world).attached
  rw [he, hf] at hattached ⊢
  exact ⟨hef.config, hef.bound, hef.state, hattached, hef.pending, hef.deadline, hef.deadline',
    rfl, rfl⟩

theorem destroy_calls (e : Engine σ) : e.destroy.world.calls = e.world.calls ∧
    e.destroy.world.state = e.world.state := by
  obtain ⟨attached, notes, he⟩ := e.destroy_eq
  rw [he]
  exact ⟨rfl, rfl⟩

theorem perform (hef : Booking current e f) (n : Nat) (op : Operation σ) :
    Booking (holder n current op) (e.perform (op.booked n e.world.state.2)) (f.perform op) ∧
      ∃ new : Ledger,
        (e.perform (op.booked n e.world.state.2)).world.state.2 = new ++ e.world.state.2 ∧
        (f.perform op).world.calls = new.map (·.2) ++ f.world.calls ∧
        ∀ p ∈ new, op.addressee current = some p.1 := by
  cases op with
  | install host =>
    have hd := hef.destroy
    exact ⟨⟨hd.config, hd.bound, hd.state, rfl, rfl, hd.deadline, hd.deadline', host, {}, rfl, rfl⟩,
      [], congrArg Prod.snd (destroy_calls e).2, (destroy_calls f).1, by simp⟩
  | evaluate source name => exact hef.evaluate source name
  | interrupt =>
    exact ⟨⟨hef.config, hef.bound, hef.state, hef.attached, rfl, hef.deadline, hef.deadline',
      hef.runtime⟩, [], rfl, rfl, by simp⟩
  | destroy =>
    exact ⟨hef.destroy, [], congrArg Prod.snd (destroy_calls e).2, (destroy_calls f).1, by simp⟩
  | setSink sink =>
    exact ⟨⟨hef.config, hef.bound, hef.state, hef.attached, hef.pending, hef.deadline,
      hef.deadline', hef.runtime⟩, [], rfl, rfl, by simp⟩
  | alter state =>
    exact ⟨⟨hef.config, hef.bound, rfl, hef.attached, hef.pending, hef.deadline, hef.deadline',
      hef.runtime⟩, [], rfl, rfl, by simp⟩

theorem after (hef : Booking current e f) (n : Nat) (ops : List (Operation σ)) :
    Booking (holderAfter n current ops) (bookedAfter n e ops) (f.after ops) := by
  induction ops generalizing n current e f with
  | nil => exact hef
  | cons op ops ih => exact ih (hef.perform n op).1 (n + 1)

end Booking

theorem booking_history (config : Config) (bound : Nat) (state : σ) (ops : List (Operation σ)) :
    Booking (installed ops) (bookedAfter 0 { ofConfig config (state, []) with bound } ops)
      (history config bound state ops) := by
  apply Booking.after
  exact ⟨rfl, rfl, rfl, rfl, rfl, rfl, rfl, ⟨rfl, rfl⟩⟩

theorem bookedAfter_snoc (n : Nat) (e : Engine (σ × Ledger)) (ops : List (Operation σ))
    (op : Operation σ) : bookedAfter n e (ops ++ [op]) =
      (bookedAfter n e ops).perform
        (op.booked (n + ops.length) (bookedAfter n e ops).world.state.2) := by
  induction ops generalizing n e with
  | nil => rfl
  | cons o ops ih =>
    rw [List.cons_append, bookedAfter, ih, bookedAfter, List.length_cons]
    congr 2
    omega

/-- Whatever happened to an engine, once it is initialized it gives the results, makes the calls and
leaves the host in the state that a new engine would. And each operation adds to the calls what the
host that is installed writes down: nothing, unless it is an evaluation and there is such a host. -/
theorem fresh_start_and_isolation (config : Config) (bound : Nat) (state : σ)
    (past : List (Operation σ)) :
    (∀ host later,
      let e := (history config bound state past).install host
      let f := fresh config bound (history config bound state past).world.state host
      e.results later = f.results later ∧
        (e.after later).world.state = (f.after later).world.state ∧
        (e.after later).world.calls = (f.after later).world.calls ++ e.world.calls) ∧
    ∀ op, ∃ new : Ledger,
      ledger config bound state (past ++ [op]) = new ++ ledger config bound state past ∧
      (history config bound state (past ++ [op])).world.calls =
        new.map (·.2) ++ (history config bound state past).world.calls ∧
      ∀ p ∈ new, op.addressee (installed past) = some p.1 := by
  constructor
  · intro host later e f
    have htwin := twin_install (deadline_history config bound state past) host
    rw [config_history, bound_history] at htwin
    obtain ⟨hresults, hafter⟩ := htwin.after later
    obtain ⟨new, hcalls, hcalls'⟩ := hafter.world.calls
    refine ⟨hresults.symm, hafter.world.state.symm, ?_⟩
    -- The ledgers of the two runs part only in what lies behind: the past, and nothing.
    have hbefore : e.world.calls = (history config bound state past).world.calls :=
      (Booking.destroy_calls _).1
    rw [hbefore, hcalls, hcalls', List.append_nil]
  · intro op
    obtain ⟨-, new, hledger, hcalls, hnew⟩ :=
      (booking_history config bound state past).perform past.length op
    refine ⟨new, ?_, ?_, hnew⟩
    · unfold ledger
      rw [bookedAfter_snoc, Nat.zero_add]
      exact hledger
    · rw [history, after, List.foldl_append]
      exact hcalls

end ScreenScript.Engine
