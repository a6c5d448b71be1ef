import ScreenScript.Proofs.Engine.History
import ScreenScript.Proofs.Script.Periods

namespace ScreenScript.Engine

open Script

variable {σ : Type}

/-- The results of sources evaluated one after the other, with what the host and the console have got
after each. -/
def answers (e : Engine σ) : List (String × String) →
    List (Option (Except EvalError String) × List Call × Console)
  | [] => []
  | (source, name) :: later =>
    let out := e.evaluate source name
    (out.1, out.2.world.calls, out.2.world.console) :: out.2.answers later

structure Parallel (e e' : Engine σ) : Prop where
  idle : e.world.pending = false
  world : e.world.Alike e'.world
  config : e'.config = e.config
  bound : e'.bound = e.bound

def withMark (rt : Runtime σ) (b : Bool) : Runtime σ :=
  { rt with session := { rt.session with afterPeriod := b } }

structure Marked (e e' : Engine σ) : Prop extends Parallel e e' where
  runtime : ∃ rt b, e.runtime = some rt ∧ e'.runtime = some (withMark rt b)

namespace Parallel

variable {e e' : Engine σ}

theorem idle' (h : Parallel e e') : e'.world.pending = false :=
  h.world.pending_eq.trans h.idle

theorem evaluateIn (h : Parallel e e') (rt rt' : Runtime σ) (hh : rt'.host = rt.host)
    (source name : String) (hq : evaluation e'.config e'.bound source name rt'.session =
      evaluation e.config e.bound source name rt.session) :
    (e'.evaluateIn rt' source name).1 = (e.evaluateIn rt source name).1 ∧
      Parallel (e.evaluateIn rt source name).2 (e'.evaluateIn rt' source name).2 ∧
      (e'.evaluateIn rt' source name).2.runtime = (e.evaluateIn rt source name).2.runtime := by
  have hmirrors : World.Mirrors World.Alike rt.host rt'.host :=
    hh ▸ World.Alike.shared.mirrors rt.host
  obtain ⟨hout, hworld, s, he, he'⟩ :=
    evaluateIn_bisimilar World.Alike.shared.toBisimilar h.world h.idle rt rt' hmirrors source name hq
  refine ⟨hout, ⟨pending_evaluateIn e rt source name, hworld, ?_, ?_⟩, ?_⟩
  · rw [evaluateIn_of_idle rt h.idle, evaluateIn_of_idle rt' h.idle']
    exact h.config
  · rw [evaluateIn_of_idle rt h.idle, evaluateIn_of_idle rt' h.idle']
    exact h.bound
  · rw [he, he', hh]

theorem answers (h : Parallel e e') (hrt : e'.runtime = e.runtime)
    (later : List (String × String)) : e'.answers later = e.answers later := by
  induction later generalizing e e' with
  | nil => rfl
  | cons src later ih =>
    obtain ⟨source, name⟩ := src
    have hs : (e'.evaluate source name).1 = (e.evaluate source name).1 ∧
        Parallel (e.evaluate source name).2 (e'.evaluate source name).2 ∧
        (e'.evaluate source name).2.runtime = (e.evaluate source name).2.runtime := by
      unfold evaluate
      rw [hrt]
      cases hrt' : e.runtime with
      | none => exact ⟨rfl, h, hrt⟩
      | some rt => exact h.evaluateIn rt rt rfl source name (by rw [h.config, h.bound])
    unfold Engine.answers
    dsimp only
    rw [hs.1, hs.2.1.world.calls_eq, hs.2.1.world.console_eq, ih hs.2.1 hs.2.2]

end Parallel

theorem evaluation_opening (config : Config) (bound : Nat) (source name : String) (s : Session)
    (hd : Lexer.opening (limits config).string source ≠ .reserved "debug") :
    (∀ b, evaluation config bound source name { s with afterPeriod := b } =
      evaluation config bound source name s) ∨
    ∃ r, ∃ t : Session, ∀ b, evaluation config bound source name { s with afterPeriod := b } =
      .done (r, { t with afterPeriod := b }) := by
  rcases Parser.parse_opening (limits config) source hd with ⟨r, hr⟩ | hok | ⟨c, p, hf⟩
  · refine .inl fun b => ?_
    unfold evaluation
    rw [hr, hr]
    cases r <;> rfl
  · refine .inr ⟨some (.ok (Value.unit.completion s.selectors)),
      { s.adopt [] with operations := 0 }, fun b => ?_⟩
    unfold evaluation
    rw [hok]
    rfl
  · refine .inr ⟨some (.error (syntaxError source name ⟨c, p, false⟩)), s, fun b => ?_⟩
    unfold evaluation
    rw [hf]
    rfl

namespace Marked

variable {e e' : Engine σ}

theorem evaluate (h : Marked e e') {source : String} (name : String)
    (hd : Lexer.opening (limits e.config).string source ≠ .reserved "debug") :
    (e'.evaluate source name).1 = (e.evaluate source name).1 ∧
      Marked (e.evaluate source name).2 (e'.evaluate source name).2 := by
  obtain ⟨rt, b, hrt, hrt'⟩ := h.runtime
  rw [evaluate_of_runtime hrt, evaluate_of_runtime hrt']
  rcases evaluation_opening e.config e.bound source name rt.session hd with hq | ⟨r, t, hq⟩
  · obtain ⟨hr, hp, hrun⟩ := h.toParallel.evaluateIn rt (withMark rt b) rfl source name
      (by rw [h.config, h.bound]; exact hq b)
    refine ⟨hr, hp, ?_⟩
    rw [hrun, evaluateIn_of_idle rt h.idle]
    exact ⟨_, _, rfl, rfl⟩
  · have hq₁ := hq rt.session.afterPeriod
    have hq₂ := hq b
    have he₁ := evaluateIn_of_idle rt h.idle source name
    have he₂ := evaluateIn_of_idle (withMark rt b) h.idle' source name
    rw [show rt.session = { rt.session with afterPeriod := rt.session.afterPeriod } from rfl, hq₁]
      at he₁
    rw [show (withMark rt b).session = { rt.session with afterPeriod := b } from rfl, h.config,
      h.bound, hq₂] at he₂
    rw [he₁, he₂]
    have hstarted := h.world.note (started name) (started name)
    have hw := noteFailure_bisimilar World.Alike.shared.toBisimilar
      (World.Alike.shared.request hstarted false) name r
    exact ⟨rfl, ⟨(noteFailure_alike _ _ _).pending_eq, hw, rfl, rfl⟩, _, _, rfl, rfl⟩

theorem answers (h : Marked e e') (later : List (String × String))
    (hd : ∀ p ∈ later, Lexer.opening (limits e.config).string p.1 ≠ .reserved "debug") :
    e'.answers later = e.answers later := by
  induction later generalizing e e' with
  | nil => rfl
  | cons src later ih =>
    obtain ⟨source, name⟩ := src
    simp only [List.mem_cons, forall_eq_or_imp] at hd
    obtain ⟨hr, hm⟩ := h.evaluate name hd.1
    have hc : (e.evaluate source name).2.config = e.config := config_evaluate e source name
    unfold Engine.answers
    dsimp only
    rw [hr, hm.world.calls_eq, hm.world.console_eq, ih hm (by rw [hc]; exact hd.2)]

end Marked

theorem evaluate_debug (e : Engine σ) (rt : Runtime σ) (hrt : e.runtime = some rt)
    (hp : e.world.pending = false) :
    (e.evaluate "debug debug" "").1 = some (.error (syntaxError "debug debug" ""
      (if rt.session.afterPeriod then ⟨.missing ";" "to terminate this statement", ⟨1, 7⟩, false⟩
        else ⟨.reserved "debug", ⟨1, 1⟩, false⟩))) := by
  rw [evaluate_of_runtime hrt, evaluateIn_of_idle rt hp]
  unfold evaluation
  rw [Parser.parse_debug]
  rfl

theorem evaluate_of_fault {e : Engine σ} {rt : Runtime σ} (hrt : e.runtime = some rt)
    (hp : e.world.pending = false) {source : String} (name : String) {f : SyntaxFault}
    (hf : Parser.parse (limits e.config) rt.session.afterPeriod source = .error f) :
    e.turns source name = [] ∧
      e.evaluate source name = (some (.error (syntaxError source name f)), { e with
        runtime := some (withMark rt f.afterPeriod)
        world := (e.world.note (started name)).note
          (failed name (syntaxError source name f)) }) := by
  have hq : evaluation e.config e.bound source name rt.session =
      .done (some (.error (syntaxError source name f)),
        { rt.session with afterPeriod := f.afterPeriod }) := by
    unfold evaluation
    rw [hf]
  refine ⟨?_, ?_⟩
  · unfold turns
    rw [hrt]
    dsimp only
    rw [hp, hq]
    rfl
  · rw [evaluate_of_runtime hrt, evaluateIn_of_idle rt hp, hq]
    have hw : { e.world.note (started name) with pending := false } =
        e.world.note (started name) := by
      rw [← hp]
      rfl
    dsimp only [World.run, noteFailure]
    rw [hw]
    rfl

/-- A source that does not compile makes no call and prints nothing. It leaves its mark on later
evaluations exactly if the compiler stopped right after a period and the session had not ended with
one, or the other way round; and even then on none before the first that opens with `debug`. -/
theorem trace_of_failed_compilation (e : Engine σ) (rt : Runtime σ) (hrt : e.runtime = some rt)
    (hp : e.world.pending = false) (source name : String) (f : SyntaxFault)
    (hf : Parser.parse (limits e.config) rt.session.afterPeriod source = .error f) :
    let e' := (e.evaluate source name).2
    (e.evaluate source name).1 = some (.error (syntaxError source name f)) ∧
    e.turns source name = [] ∧
    e'.world.calls = e.world.calls ∧ e'.world.console = e.world.console ∧
    e'.world.state = e.world.state ∧
    e'.runtime =
      some { rt with session := { rt.session with afterPeriod := f.afterPeriod } } ∧
    ((∀ later, e'.answers later = e.answers later) ↔ f.afterPeriod = rt.session.afterPeriod) ∧
    ∀ later, (∀ p ∈ later, Lexer.opening (limits e.config).string p.1 ≠ .reserved "debug") →
      e'.answers later = e.answers later := by
  obtain ⟨ht, he⟩ := evaluate_of_fault hrt hp name hf
  rw [he]
  have hpar : Parallel e { e with
      runtime := some (withMark rt f.afterPeriod)
      world := (e.world.note (started name)).note
        (failed name (syntaxError source name f)) } := ⟨hp, ⟨_, rfl⟩, rfl, rfl⟩
  refine ⟨rfl, ht, rfl, rfl, rfl, rfl, ⟨fun hl => ?_, fun hm => ?_⟩, fun later hd => ?_⟩
  · -- The word `debug` twice tells a session after a period from any other.
    have hres := congrArg (fun as => as.head?.map (·.1)) (hl [("debug debug", "")])
    simp only [answers, List.head?_cons, Option.map_some, evaluate_debug e rt hrt hp,
      evaluate_debug _ (withMark rt f.afterPeriod) rfl hpar.idle'] at hres
    revert hres
    dsimp only [withMark]
    generalize f.afterPeriod = b
    generalize rt.session.afterPeriod = b'
    cases b <;> cases b' <;> simp [syntaxError, errorAt]
  · refine hpar.answers ?_
    rw [hrt, withMark, hm]
  · exact Marked.answers ⟨hpar, rt, f.afterPeriod, hrt, rfl⟩ later hd

theorem period_leaves_trace :
    let e : Engine Unit := history {} 100 () [.install fun _ _ => .answer none]
    let e' := (e.evaluate "x." "a").2
    ¬(∀ later, e'.answers later = e.answers later) ∧
      e'.answers [("home()", "b")] = e.answers [("home()", "b")] := by
  intro e e'
  have htrace := trace_of_failed_compilation e { host := fun _ _ => .answer none } rfl rfl "x." "a"
    ⟨.propertyExpected, ⟨1, 3⟩, true⟩ rfl
  have ⟨_, _, _, _, _, _, hiff, hother⟩ := htrace
  refine ⟨fun hall => ?_, hother [("home()", "b")] (by decide +kernel)⟩
  have hm := hiff.mp hall
  cases hm

end ScreenScript.Engine
