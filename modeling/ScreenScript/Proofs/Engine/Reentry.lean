import ScreenScript.Proofs.Engine.History

namespace ScreenScript

namespace World

variable {σ : Type}

def answered (w : World σ) (verb : String) (a : Option String) : World σ :=
  w.note { level := .trace, target := bridgeTarget, message := "host call returned"
           fields := [("verb", Text.quoted verb),
             ("answered", if a.isSome then "true" else "false")] }

def unanswered (w : World σ) (verb : String) : World σ :=
  w.note { level := .debug, target := bridgeTarget, message := "no host capability installed"
           fields := [("verb", Text.quoted verb)] }

theorem call_succ (h : Host σ) (depth : Nat) (verb : String) (args : List String) (w : World σ) :
    w.call h (depth + 1) verb args =
      if w.attached then
        let (a, w) := perform (call h depth) (h verb args) (w.announce verb args)
        (a, w.answered verb a)
      else (none, w.unanswered verb) :=
  rfl

end World

namespace Engine

variable {σ α : Type}

/-- An evaluation that a host asked for while it was being called. -/
structure Attempt (σ : Type) where
  source : String
  name : String
  before : Engine σ
  result : Option (Except EvalError String)
  after : Engine σ

def Attempt.Refused (t : Attempt σ) : Prop :=
  t.result = some (.error .busy) ∧ t.after = t.before

/-- An engine as it is while it runs. The session of its runtime is not to be read when `held`. -/
structure Live (σ : Type) where
  engine : Engine σ
  held : Bool := false
  /-- The last first. -/
  attempts : List (Attempt σ) := []

namespace Live

def inWorld (l : Live σ) (w : World σ) : Live σ :=
  { l with engine := { l.engine with world := w } }

def attempted (l : Live σ) (t : Attempt σ) : Live σ :=
  { l with attempts := t :: l.attempts }

/-- Carries out a reaction. `inner` answers the calls of the host, and `again` evaluates for it. -/
def perform (inner : String → List String → Live σ → Option String × Live σ)
    (again : String → String → Live σ → Option (Except EvalError String) × Live σ) :
    Reaction σ → Live σ → Option String × Live σ
  | .answer a, l => (a, l)
  | .get next, l => perform inner again (next l.engine.world.state) l
  | .put s next, l => perform inner again (next ()) (l.inWorld { l.engine.world with state := s })
  | .interrupt next, l =>
    perform inner again (next ()) (l.inWorld { l.engine.world with pending := true })
  | .evaluate source name next, l =>
    let (result, m) := again source name l
    let m := m.attempted { source, name, before := l.engine, result, after := m.engine }
    match result with
    | some r => perform inner again (next r) m
    | none => (none, m)
  | .call verb args next, l =>
    let (a, l) := inner verb args l
    perform inner again (next a) l
  | .detach next, l => perform inner again (next ()) (l.inWorld l.engine.world.detach)
  | .note e next, l => perform inner again (next ()) (l.inWorld (l.engine.world.note e))

def run (call : String → List String → Live σ → Option String × Live σ) :
    Program α → Live σ → α × Live σ
  | .done a, l => (a, l)
  | .ask verb args next, l =>
    let (a, l) := call verb args l
    run call (next a) l
  | .poll next, l => run call (next l.engine.world.pending) l
  | .pause ms next, l => run call (next ()) (l.inWorld (l.engine.world.wait ms))
  | .emit m next, l => run call (next ()) (l.inWorld (l.engine.world.emit m))
  | .note e next, l => run call (next ()) (l.inWorld (l.engine.world.note e))

def start (l : Live σ) (name : String) : Live σ :=
  { l with held := true }.inWorld (l.engine.world.note (started name))

def finish (l : Live σ) (rt : Runtime σ) (name : String)
    (out : Option (Except EvalError String) × Script.Session) :
    Option (Except EvalError String) × Live σ :=
  (out.1, { l with
    held := false
    engine := { l.engine with
      runtime := some { rt with session := out.2 }
      world := noteFailure name out.1 { l.engine.world with pending := false } } })

/-- An evaluation in which hosts are reached through `call`. It gets no further than the lock when
another has the session. -/
def evaluateBy (call : Host σ → String → List String → Live σ → Option String × Live σ)
    (source name : String) (l : Live σ) : Option (Except EvalError String) × Live σ :=
  match l.engine.runtime with
  | none => (some (.error .notInitialized), l)
  | some rt =>
    if l.held then (some (.error .busy), l)
    else
      let p := evaluation l.engine.config l.engine.bound source name rt.session
      let l := l.start name
      if l.engine.world.pending then l.finish rt name (some (.error .cancelled), rt.session)
      else
        let (out, l) := run (call rt.host) p l
        l.finish rt name out

def callBy (call : Host σ → String → List String → Live σ → Option String × Live σ)
    (h : Host σ) (verb : String) (args : List String) (l : Live σ) : Option String × Live σ :=
  if l.engine.world.attached then
    let (a, l) := perform (call h) (evaluateBy call) (h verb args)
      (l.inWorld (l.engine.world.announce verb args))
    (a, l.inWorld (l.engine.world.answered verb a))
  else (none, l.inWorld (l.engine.world.unanswered verb))

def call : Nat → Host σ → String → List String → Live σ → Option String × Live σ
  | 0 => fun _ _ _ l => (none, l)
  | depth + 1 => callBy (call depth)

def evaluate (source name : String) (l : Live σ) : Option (Except EvalError String) × Live σ :=
  evaluateBy (call World.maxReentry) source name l

end Live

/-- The engine `e` runs in the world `w`, and has refused what it was asked for meanwhile. -/
structure Running (e : Engine σ) (w : World σ) (l : Live σ) : Prop where
  engine : l.engine = { e with world := w }
  held : l.held = true
  refused : ∀ t ∈ l.attempts, t.Refused

def Running.Ends (e : Engine σ) (x : α × World σ) (y : α × Live σ) : Prop :=
  y.1 = x.1 ∧ Running e x.2 y.2

namespace Running

variable {e : Engine σ} {w : World σ} {l : Live σ}

theorem world_eq (h : Running e w l) : l.engine.world = w := by
  rw [h.engine]

theorem inWorld (h : Running e w l) (v : World σ) : Running e v (l.inWorld v) where
  engine := by simp only [Live.inWorld, h.engine]
  held := h.held
  refused := h.refused

theorem attempted (h : Running e w l) {t : Attempt σ} (ht : t.Refused) :
    Running e w (l.attempted t) where
  engine := h.engine
  held := h.held
  refused := List.forall_mem_cons.mpr ⟨ht, h.refused⟩

theorem evaluateBy {rt : Runtime σ} (hrt : e.runtime = some rt) (h : Running e w l)
    (call : Host σ → String → List String → Live σ → Option String × Live σ)
    (source name : String) : l.evaluateBy call source name = (some (.error .busy), l) := by
  have hl : l.engine.runtime = some rt := by rw [h.engine]; exact hrt
  simp only [Live.evaluateBy, hl, h.held, if_true]

theorem perform {rt : Runtime σ} (hrt : e.runtime = some rt)
    {inner : String → List String → World σ → Option String × World σ}
    {inner' : String → List String → Live σ → Option String × Live σ}
    (hi : ∀ verb args w l, Running e w l → Ends e (inner verb args w) (inner' verb args l))
    (call : Host σ → String → List String → Live σ → Option String × Live σ)
    (r : Reaction σ) (h : Running e w l) :
    Ends e (World.perform inner r w) (Live.perform inner' (Live.evaluateBy call) r l) := by
  induction r generalizing w l with
  | answer a => exact ⟨rfl, h⟩
  | get next ih =>
    simp only [World.perform, Live.perform, h.world_eq]
    exact ih _ h
  | put s next ih =>
    simp only [World.perform, Live.perform, h.world_eq]
    exact ih () (h.inWorld _)
  | interrupt next ih =>
    simp only [World.perform, Live.perform, h.world_eq]
    exact ih () (h.inWorld _)
  | evaluate source name next ih =>
    simp only [World.perform, Live.perform, h.evaluateBy hrt]
    exact ih _ (h.attempted ⟨rfl, rfl⟩)
  | call verb args next ih =>
    obtain ⟨ha, hw⟩ := hi verb args w l h
    simp only [World.perform, Live.perform, ha]
    exact ih _ hw
  | detach next ih =>
    simp only [World.perform, Live.perform, h.world_eq]
    exact ih () (h.inWorld _)
  | note e next ih =>
    simp only [World.perform, Live.perform, h.world_eq]
    exact ih () (h.inWorld _)

theorem call {rt : Runtime σ} (hrt : e.runtime = some rt) (depth : Nat) (host : Host σ)
    (verb : String) (args : List String) (w : World σ) (l : Live σ) (h : Running e w l) :
    Ends e (w.call host depth verb args) (Live.call depth host verb args l) := by
  -- A reaction at one depth calls back, and would evaluate, at the depth below.
  induction depth generalizing verb args w l with
  | zero => exact ⟨rfl, h⟩
  | succ depth ih =>
    rw [World.call_succ]
    simp only [Live.call, Live.callBy, h.world_eq]
    split
    · obtain ⟨ha, hw⟩ := perform hrt ih (Live.call depth) (host verb args)
        (h.inWorld (w.announce verb args))
      simp only [ha, hw.world_eq]
      exact ⟨rfl, hw.inWorld _⟩
    · exact ⟨rfl, h.inWorld _⟩

theorem run {rt : Runtime σ} (hrt : e.runtime = some rt) (host : Host σ) (p : Program α)
    (h : Running e w l) :
    Ends e (World.run host p w) (Live.run (Live.call World.maxReentry host) p l) := by
  induction p generalizing w l with
  | done a => exact ⟨rfl, h⟩
  | ask verb args next ih =>
    obtain ⟨ha, hw⟩ := call hrt World.maxReentry host verb args w l h
    simp only [World.run, Live.run, ha]
    exact ih _ hw
  | poll next ih =>
    simp only [World.run, Live.run, h.world_eq]
    exact ih _ h
  | pause ms next ih =>
    simp only [World.run, Live.run, h.world_eq]
    exact ih () (h.inWorld _)
  | emit m next ih =>
    simp only [World.run, Live.run, h.world_eq]
    exact ih () (h.inWorld _)
  | note e next ih =>
    simp only [World.run, Live.run, h.world_eq]
    exact ih () (h.inWorld _)

end Running

theorem running_start (e : Engine σ) (name : String) :
    Running e (e.world.note (started name)) (Live.start { engine := e } name) where
  engine := rfl
  held := rfl
  refused := by simp [Live.start, Live.inWorld]

theorem Running.finish {e : Engine σ} {w : World σ} {l : Live σ} (h : Running e w l)
    (rt : Runtime σ) (name : String) (out : Option (Except EvalError String) × Script.Session) :
    l.finish rt name out = (out.1, {
      engine := { e with
        runtime := some { rt with session := out.2 }
        world := noteFailure name out.1 { w with pending := false } }
      attempts := l.attempts }) := by
  simp only [Live.finish, h.engine]

theorem evaluate_live (e : Engine σ) (source name : String) :
    ∃ ts, (∀ t ∈ ts, t.Refused) ∧ Live.evaluate source name { engine := e } =
      ((e.evaluate source name).1, { engine := (e.evaluate source name).2, attempts := ts }) := by
  cases hrt : e.runtime with
  | none => exact ⟨[], by simp, by simp only [Live.evaluate, Live.evaluateBy, evaluate, hrt]⟩
  | some rt =>
    have hstart := running_start e name
    rw [evaluate_of_runtime hrt]
    simp only [Live.evaluate, Live.evaluateBy, hrt, Bool.false_eq_true, if_false, hstart.world_eq]
    cases hp : e.world.pending with
    | true =>
      have hp' : (e.world.note (started name)).pending = true := hp
      rw [if_pos hp', evaluateIn_of_pending rt hp, hstart.finish]
      exact ⟨_, hstart.refused, rfl⟩
    | false =>
      have hp' : ¬(e.world.note (started name)).pending = true := by simp [World.note, hp]
      obtain ⟨hr, hend⟩ :=
        hstart.run hrt rt.host (evaluation e.config e.bound source name rt.session)
      rw [if_neg hp', evaluateIn_of_idle rt hp]
      refine ⟨_, hend.refused, ?_⟩
      rw [hr, hend.finish]

end Engine

/-- The reaction goes on as after a refusal wherever it asks for an evaluation. -/
def Reaction.withoutAttempts {σ : Type} : Reaction σ → Reaction σ
  | .answer a => .answer a
  | .get next => .get fun s => (next s).withoutAttempts
  | .put s next => .put s fun u => (next u).withoutAttempts
  | .interrupt next => .interrupt fun u => (next u).withoutAttempts
  | .evaluate _ _ next => (next (.error .busy)).withoutAttempts
  | .call verb args next => .call verb args fun a => (next a).withoutAttempts
  | .detach next => .detach fun u => (next u).withoutAttempts
  | .note e next => .note e fun u => (next u).withoutAttempts

def Host.withoutAttempts {σ : Type} (h : Host σ) : Host σ :=
  fun verb args => (h verb args).withoutAttempts

namespace World

variable {σ α : Type}

theorem perform_withoutAttempts (inner : String → List String → World σ → Option String × World σ)
    (r : Reaction σ) (w : World σ) :
    perform inner r.withoutAttempts w = perform inner r w := by
  induction r generalizing w with
  | answer a => rfl
  | get next ih => exact ih _ _
  | put s next ih => exact ih _ _
  | interrupt next ih => exact ih _ _
  | evaluate source name next ih => exact ih _ _
  | call verb args next ih => exact ih _ _
  | detach next ih => exact ih _ _
  | note e next ih => exact ih _ _

theorem call_withoutAttempts (h : Host σ) (depth : Nat) :
    call h.withoutAttempts depth = call h depth := by
  induction depth with
  | zero => rfl
  | succ depth ih =>
    funext verb args w
    rw [call_succ, call_succ, ih]
    simp only [Host.withoutAttempts, perform_withoutAttempts]

theorem run_withoutAttempts (h : Host σ) (p : Program α) (w : World σ) :
    run h.withoutAttempts p w = run h p w := by
  induction p generalizing w with
  | done a => rfl
  | ask verb args next ih => simp only [run, call_withoutAttempts, ih]
  | poll next ih => exact ih _ _
  | pause ms next ih => exact ih _ _
  | emit m next ih => exact ih _ _
  | note e next ih => exact ih _ _

end World

namespace Engine

variable {σ α : Type}

def withoutAttempts (e : Engine σ) : Engine σ :=
  { e with runtime := e.runtime.map fun rt => { rt with host := rt.host.withoutAttempts } }

theorem evaluate_withoutAttempts (e : Engine σ) (source name : String) :
    e.withoutAttempts.evaluate source name =
      ((e.evaluate source name).1, (e.evaluate source name).2.withoutAttempts) := by
  cases hrt : e.runtime with
  | none => simp only [evaluate, withoutAttempts, hrt, Option.map_none]
  | some rt =>
    have hrt' : e.withoutAttempts.runtime =
        some { rt with host := rt.host.withoutAttempts } := by
      simp only [withoutAttempts, hrt, Option.map_some]
    rw [evaluate_of_runtime hrt, evaluate_of_runtime hrt']
    simp only [evaluateIn, withoutAttempts, World.run_withoutAttempts, Option.map_some]

namespace Live

theorem attempts_perform {inner : String → List String → Live σ → Option String × Live σ}
    (hi : ∀ verb args l, (inner verb args l).2.attempts = l.attempts)
    (again : String → String → Live σ → Option (Except EvalError String) × Live σ)
    (r : Reaction σ) (l : Live σ) :
    (perform inner again r.withoutAttempts l).2.attempts = l.attempts := by
  induction r generalizing l with
  | answer a => rfl
  | get next ih => exact ih _ _
  | put s next ih => exact ih _ _
  | interrupt next ih => exact ih _ _
  | evaluate source name next ih => exact ih _ _
  | call verb args next ih => exact (ih _ _).trans (hi verb args l)
  | detach next ih => exact ih _ _
  | note e next ih => exact ih _ _

theorem attempts_call (h : Host σ) (depth : Nat) (verb : String) (args : List String)
    (l : Live σ) : (call depth h.withoutAttempts verb args l).2.attempts = l.attempts := by
  induction depth generalizing verb args l with
  | zero => rfl
  | succ depth ih =>
    simp only [call, callBy]
    split
    · exact attempts_perform ih _ (h verb args) _
    · rfl

theorem attempts_run (h : Host σ) (depth : Nat) (p : Program α) (l : Live σ) :
    (run (call depth h.withoutAttempts) p l).2.attempts = l.attempts := by
  induction p generalizing l with
  | done a => rfl
  | ask verb args next ih => exact (ih _ _).trans (attempts_call h depth verb args l)
  | poll next ih => exact ih _ _
  | pause ms next ih => exact ih _ _
  | emit m next ih => exact ih _ _
  | note e next ih => exact ih _ _

theorem attempts_evaluate (e : Engine σ) (source name : String) :
    (evaluate source name { engine := e.withoutAttempts }).2.attempts = [] := by
  cases hrt : e.runtime with
  | none => simp only [evaluate, evaluateBy, withoutAttempts, hrt, Option.map_none]
  | some rt =>
    simp only [evaluate, evaluateBy, withoutAttempts, hrt, Option.map_some, Bool.false_eq_true,
      if_false]
    split
    · rfl
    · exact attempts_run rt.host _ _ _

end Live

/-- Whatever a host asks to be evaluated while it answers calls is refused, the engine being then as
it was before; and the evaluation ends as it does when the host asks for nothing. -/
theorem reentry_refused (e : Engine σ) (source name : String) :
    let live := Live.evaluate source name { engine := e }
    let alone := Live.evaluate source name { engine := e.withoutAttempts }
    (live.1, live.2.engine) = e.evaluate source name ∧ live.2.held = false ∧
      (∀ t ∈ live.2.attempts, t.Refused) ∧
      alone.1 = live.1 ∧ alone.2.engine = live.2.engine.withoutAttempts ∧
      alone.2.attempts = [] := by
  intro live alone
  obtain ⟨ts, hts, hlive⟩ := evaluate_live e source name
  obtain ⟨us, -, halone⟩ := evaluate_live e.withoutAttempts source name
  have hsame := evaluate_withoutAttempts e source name
  refine ⟨?_, ?_, ?_, ?_, ?_, Live.attempts_evaluate e source name⟩
  · exact congrArg (fun x => (x.1, x.2.engine)) hlive
  · exact congrArg (fun x => x.2.held) hlive
  · have hlog : live.2.attempts = ts := congrArg (fun x => x.2.attempts) hlive
    rw [hlog]
    exact hts
  · simp only [live, alone, hlive, halone, hsame]
  · simp only [live, alone, hlive, halone, hsame]

/-- A host that requests an interrupt and asks for two evaluations: both leave the request to the
script that is running. -/
example :
    let host : Host Unit := fun _ _ => .interrupt fun _ => .evaluate "home()" "x" fun _ =>
      .evaluate "let n = 1" "y" fun _ => .answer (some "true")
    let e := ((ofConfig {} ()).install host)
    let live := Live.evaluate "back(); recents()" "main" { engine := { e with bound := 100 } }
    live.2.engine.world.calls = [⟨Verb.back, []⟩] ∧
      live.2.attempts.map (fun t => (t.source, t.before.world.pending)) =
        [("let n = 1", true), ("home()", true)] := by
  decide +kernel

end Engine

end ScreenScript
