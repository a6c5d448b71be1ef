import ScreenScript.Engine
import ScreenScript.Proofs.Host.Notes
import ScreenScript.Proofs.Script.Places

/-!
What happens to an engine from its start on, and the calls its host receives on the way.
-/

namespace ScreenScript.Engine

open Script

variable {σ : Type}

/-- What can happen to an engine that is not running a script. -/
inductive Operation (σ : Type) where
  | install (host : Host σ)
  | evaluate (source name : String)
  | interrupt
  | destroy
  | setSink (sink : Option Nat)
  /-- The state of the hosts changes without the engine. -/
  | alter (state : σ)

def Operation.stays : Operation σ → Bool
  | .install _ => false
  | .destroy => false
  | _ => true

def perform (e : Engine σ) : Operation σ → Engine σ
  | .install host => e.install host
  | .evaluate source name => (e.evaluate source name).2
  | .interrupt => e.interrupt
  | .destroy => e.destroy
  | .setSink sink => e.setSink sink
  | .alter state => { e with world := { e.world with state } }

def after (e : Engine σ) (ops : List (Operation σ)) : Engine σ :=
  ops.foldl perform e

def history (config : Config) (bound : Nat) (state : σ) (ops : List (Operation σ)) : Engine σ :=
  { ofConfig config state with bound }.after ops

def okText? (r : Option (Except EvalError String)) : Option String :=
  match r with
  | some (.ok text) => some text
  | _ => none

theorem okText?_some {r : Option (Except EvalError String)} {text : String}
    (h : okText? r = some text) : r = some (.ok text) := by
  unfold okText? at h
  split at h
  · cases h
    rfl
  · cases h

def turns (e : Engine σ) (source name : String) : List (Turn σ) :=
  match e.runtime with
  | some rt =>
    if e.world.pending then []
    else
      World.turns rt.host (evaluation e.config e.bound source name rt.session)
        (e.world.note (started name))
  | none => []

/-- The calls that scripts make while the operations take place. -/
def asked (e : Engine σ) : List (Operation σ) → List Call
  | [] => []
  | op :: ops =>
    (match op with
      | .evaluate source name => (e.turns source name).map (·.call)
      | _ => []) ++ (e.perform op).asked ops

theorem evaluate_of_runtime {e : Engine σ} {rt : Runtime σ} (hrt : e.runtime = some rt)
    (source name : String) : e.evaluate source name = e.evaluateIn rt source name := by
  simp only [evaluate, hrt]

theorem evaluateIn_of_pending {e : Engine σ} (rt : Runtime σ) (hp : e.world.pending = true)
    (source name : String) : e.evaluateIn rt source name =
      (some (.error .cancelled), { e with
        runtime := some rt
        world := { e.world.note (started name) with pending := false }.note
          (failed name .cancelled) }) := by
  have hp' : (e.world.note (started name)).pending = true := hp
  simp only [evaluateIn, hp', if_true]
  rfl

theorem evaluateIn_of_idle {e : Engine σ} (rt : Runtime σ) (hp : e.world.pending = false)
    (source name : String) : e.evaluateIn rt source name =
      let out := World.run rt.host (evaluation e.config e.bound source name rt.session)
        (e.world.note (started name))
      (out.1.1, { e with
        runtime := some { rt with session := out.1.2 }
        world := noteFailure name out.1.1 { out.2 with pending := false } }) := by
  have hp' : ¬(e.world.note (started name)).pending = true := by simp [World.note, hp]
  simp only [evaluateIn, hp']
  rfl

/-- The runtime, the statements and the session that a source starts with, if it is run. -/
def start? (e : Engine σ) (source : String) : Option (Runtime σ × List Stmt × Session) :=
  match e.runtime with
  | none => none
  | some rt =>
    if e.world.pending then none
    else
      match Parser.parse (limits e.config) rt.session.afterPeriod source with
      | .error _ => none
      | .ok (script, afterPeriod) =>
        let t := Simplify.script e.config.maxStringSize rt.session script
        some (rt, t.body, prepare rt.session t afterPeriod)

/-- Whether the source, or a function that it finds, calls `eval`. -/
def evals (e : Engine σ) (source : String) : Bool :=
  (e.start? source).any fun start =>
    stmtsEvals start.2.1 || start.2.2.functions.any (·.evals)

theorem evals_of_start {e : Engine σ} {source : String}
    {start : Runtime σ × List Stmt × Session} (h : e.start? source = some start) :
    (stmtsEvals start.2.1 = true → e.evals source = true) ∧
      ∀ f ∈ start.2.2.functions, f.evals = true → e.evals source = true := by
  unfold evals
  rw [h, Option.any_some, Bool.or_eq_true, List.any_eq_true]
  exact ⟨.inl, fun f hf ha => .inr ⟨f, hf, ha⟩⟩

theorem of_start {e : Engine σ} {source : String} {start : Runtime σ × List Stmt × Session}
    (h : e.start? source = some start) :
    e.runtime = some start.1 ∧ e.world.pending = false ∧
      start.2.2.selectors = start.1.session.selectors ∧
      ∀ name, evaluation e.config e.bound source name start.1.session =
        run e.config e.bound source name start.2.1 start.2.2 := by
  unfold start? at h
  cases hrt : e.runtime with
  | none => simp [hrt] at h
  | some rt =>
    cases hp : e.world.pending with
    | true => simp [hrt, hp] at h
    | false =>
      simp only [hrt, hp, Bool.false_eq_true, if_false] at h
      cases hparse : Parser.parse (limits e.config) rt.session.afterPeriod source with
      | error f => simp [hparse] at h
      | ok out =>
        simp only [hparse, Option.some.injEq] at h
        subst h
        refine ⟨rfl, rfl, rfl, fun name => ?_⟩
        simp only [evaluation, hparse]

theorem of_no_start {e : Engine σ} {source : String} {rt : Runtime σ} (hrt : e.runtime = some rt)
    (hp : e.world.pending = false) (h : e.start? source = none) :
    ∃ f : SyntaxFault, ∀ name, evaluation e.config e.bound source name rt.session =
      .done (some (.error (syntaxError source name f)),
        { rt.session with afterPeriod := f.afterPeriod }) := by
  unfold start? at h
  simp only [hrt, hp, Bool.false_eq_true, if_false] at h
  cases hparse : Parser.parse (limits e.config) rt.session.afterPeriod source with
  | error f =>
    refine ⟨f, fun name => ?_⟩
    simp only [evaluation, hparse]
  | ok out => simp [hparse] at h

theorem noteFailure_alike (name : String) (r : Option (Except EvalError String)) (w : World σ) :
    w.Alike (noteFailure name r w) := by
  unfold noteFailure
  split
  · exact ⟨_, rfl⟩
  · exact ⟨_, rfl⟩

section

open World

variable {τ : Type} {R : World σ → World τ → Prop}

theorem noteFailure_bisimilar (hR : Bisimilar R) {w : World σ} {v : World τ} (h : R w v)
    (name : String) (r : Option (Except EvalError String)) :
    R (noteFailure name r w) (noteFailure name r v) := by
  unfold noteFailure
  split
  · exact hR.note h _ _
  · exact h

theorem evaluateIn_bisimilar (hR : Bisimilar R) {e : Engine σ} {f : Engine τ}
    (hef : R e.world f.world) (hidle : e.world.pending = false) (rt : Runtime σ) (rt' : Runtime τ)
    (hh : Mirrors R rt.host rt'.host) (source name : String)
    (hq : evaluation f.config f.bound source name rt'.session =
      evaluation e.config e.bound source name rt.session) :
    (f.evaluateIn rt' source name).1 = (e.evaluateIn rt source name).1 ∧
      R (e.evaluateIn rt source name).2.world (f.evaluateIn rt' source name).2.world ∧
      ∃ s, (e.evaluateIn rt source name).2.runtime = some { rt with session := s } ∧
        (f.evaluateIn rt' source name).2.runtime = some { rt' with session := s } := by
  have hidle' : f.world.pending = false := (hR.pending hef).trans hidle
  obtain ⟨hout, hworld⟩ := hR.run hh (evaluation e.config e.bound source name rt.session)
    (hR.note hef (started name) (started name))
  rw [evaluateIn_of_idle _ hidle, evaluateIn_of_idle _ hidle', hq]
  dsimp only
  rw [hout]
  exact ⟨rfl, noteFailure_bisimilar hR (hR.request hworld false) name _, _, rfl, rfl⟩

end

theorem pending_evaluateIn (e : Engine σ) (rt : Runtime σ) (source name : String) :
    (e.evaluateIn rt source name).2.world.pending = false := by
  cases hp : e.world.pending with
  | true => rw [evaluateIn_of_pending rt hp]; rfl
  | false => rw [evaluateIn_of_idle rt hp]; exact (noteFailure_alike _ _ _).pending_eq

theorem destroy_eq (e : Engine σ) : ∃ attached notes,
    e.destroy = { e with runtime := none, world := { e.world with attached, notes } } := by
  unfold destroy
  split
  · obtain ⟨attached, notes, hd⟩ := e.world.detach_eq
    exact ⟨attached, _, by simp only [World.note, hd]; rfl⟩
  · rename_i h
    exact ⟨_, _, by rw [← h]⟩

theorem config_evaluate (e : Engine σ) (source name : String) :
    (e.evaluate source name).2.config = e.config := by
  unfold evaluate
  split <;> rfl

theorem config_destroy (e : Engine σ) : e.destroy.config = e.config := by
  obtain ⟨attached, notes, he⟩ := e.destroy_eq
  rw [he]

theorem runtime_destroy (e : Engine σ) : e.destroy.runtime = none := by
  obtain ⟨attached, notes, he⟩ := e.destroy_eq
  rw [he]

theorem deadline_destroy (e : Engine σ) : e.destroy.world.deadline = e.world.deadline := by
  obtain ⟨attached, notes, he⟩ := e.destroy_eq
  rw [he]

theorem pending_destroy (e : Engine σ) : e.destroy.world.pending = e.world.pending := by
  obtain ⟨attached, notes, he⟩ := e.destroy_eq
  rw [he]

theorem config_perform (e : Engine σ) (op : Operation σ) : (e.perform op).config = e.config := by
  cases op with
  | install host => exact config_destroy e
  | evaluate source name => exact config_evaluate e source name
  | interrupt => rfl
  | destroy => exact config_destroy e
  | setSink sink => rfl
  | alter state => rfl

theorem config_after (e : Engine σ) (ops : List (Operation σ)) :
    (e.after ops).config = e.config := by
  induction ops generalizing e with
  | nil => rfl
  | cons op ops ih => exact (ih _).trans (config_perform e op)

theorem config_history (config : Config) (bound : Nat) (state : σ) (ops : List (Operation σ)) :
    (history config bound state ops).config = config :=
  config_after _ ops

theorem bound_perform (e : Engine σ) (op : Operation σ) : (e.perform op).bound = e.bound := by
  have hdestroy : e.destroy.bound = e.bound := by
    obtain ⟨attached, notes, he⟩ := e.destroy_eq
    rw [he]
  cases op with
  | install host => exact hdestroy
  | evaluate source name =>
    change (e.evaluate source name).2.bound = e.bound
    unfold evaluate
    split <;> rfl
  | interrupt => rfl
  | destroy => exact hdestroy
  | setSink sink => rfl
  | alter state => rfl

theorem bound_history (config : Config) (bound : Nat) (state : σ) (ops : List (Operation σ)) :
    (history config bound state ops).bound = bound := by
  suffices ∀ e : Engine σ, (e.after ops).bound = e.bound from this _
  induction ops with
  | nil => exact fun e => rfl
  | cons op ops ih => exact fun e => (ih _).trans (bound_perform e op)

theorem deadline_evaluate {e : Engine σ} (hd : e.world.deadline = none) (source name : String) :
    (e.evaluate source name).2.world.deadline = none := by
  cases hrt : e.runtime with
  | none => simpa only [evaluate, hrt] using hd
  | some rt =>
    rw [evaluate_of_runtime hrt]
    cases hp : e.world.pending with
    | true => rw [evaluateIn_of_pending rt hp]; exact hd
    | false =>
      rw [evaluateIn_of_idle rt hp]
      exact (noteFailure_alike _ _ _).deadline_eq.trans (World.deadline_run rt.host _ _ hd)

theorem deadline_perform {e : Engine σ} (hd : e.world.deadline = none) (op : Operation σ) :
    (e.perform op).world.deadline = none := by
  cases op with
  | install host => exact (deadline_destroy e).trans hd
  | evaluate source name => exact deadline_evaluate hd source name
  | interrupt => exact hd
  | destroy => exact (deadline_destroy e).trans hd
  | setSink sink => exact hd
  | alter state => exact hd

theorem deadline_after {e : Engine σ} (hd : e.world.deadline = none) (ops : List (Operation σ)) :
    (e.after ops).world.deadline = none := by
  induction ops generalizing e with
  | nil => exact hd
  | cons op ops ih => exact ih (deadline_perform hd op)

theorem deadline_history (config : Config) (bound : Nat) (state : σ) (ops : List (Operation σ)) :
    (history config bound state ops).world.deadline = none :=
  deadline_after rfl ops

theorem pending_evaluate {e : Engine σ} (hp : e.world.pending = false) (source name : String) :
    (e.evaluate source name).2.world.pending = false := by
  cases hrt : e.runtime with
  | none => simpa only [evaluate, hrt] using hp
  | some rt =>
    rw [evaluate_of_runtime hrt]
    exact pending_evaluateIn e rt source name

theorem pending_perform {e : Engine σ} (hp : e.world.pending = false) {op : Operation σ}
    (hop : op ≠ .interrupt) : (e.perform op).world.pending = false := by
  cases op with
  | install host => rfl
  | evaluate source name => exact pending_evaluate hp source name
  | interrupt => exact absurd rfl hop
  | destroy => exact (pending_destroy e).trans hp
  | setSink sink => exact hp
  | alter state => exact hp

theorem calls_evaluate (e : Engine σ) (source name : String) :
    (e.evaluate source name).2.world.calls =
      World.received e.world.calls (e.turns source name) := by
  unfold turns
  cases hrt : e.runtime with
  | none => simp only [evaluate, hrt]; rfl
  | some rt =>
    rw [evaluate_of_runtime hrt]
    cases hp : e.world.pending with
    | true => rw [evaluateIn_of_pending rt hp]; rfl
    | false =>
      rw [evaluateIn_of_idle rt hp]
      exact (noteFailure_alike _ _ _).calls_eq.trans (World.calls_run rt.host _ _)

end ScreenScript.Engine
