import ScreenScript.Proofs.Engine.Locations
import ScreenScript.Proofs.Script.Simulation

namespace ScreenScript.Engine

open Script

variable {σ : Type}

def starts (e : Engine σ) : Operation σ → Option (List Function)
  | .evaluate source _ =>
    match e.runtime with
    | none => none
    | some rt =>
      if e.world.pending then none
      else match Parser.parse (limits e.config) rt.session.afterPeriod source with
        | .error _ => none
        | .ok (script, _) =>
          some (Simplify.script e.config.maxStringSize rt.session script).functions
  | _ => none

def definitions (e : Engine σ) : List (Operation σ) → List (List Function)
  | [] => []
  | op :: ops => (e.starts op).toList ++ (e.perform op).definitions ops

def latest (sources : List (List Function)) : Table := fun name arity =>
  sources.reverse.findSome? fun fs => fs.find? (·.is name arity)

/-- Runs a body in which a table tells what the calls run. -/
def runBy (table : Table) (config : Config) (bound : Nat) (source name : String)
    (body : List Stmt) (s : Session) : Program (Option (Except EvalError String) × Session) :=
  ((evaluatorBy table bound).stmts body { config } s).bind fun (r, s) =>
    .done (outcome source name s r, s)

def evaluationBy (table : Table) (config : Config) (bound : Nat) (source name : String)
    (s : Session) : Program (Option (Except EvalError String) × Session) :=
  match Parser.parse (limits config) s.afterPeriod source with
  | .error f =>
    .done (some (.error (syntaxError source name f)), { s with afterPeriod := f.afterPeriod })
  | .ok (script, afterPeriod) =>
    let script := Simplify.script config.maxStringSize s script
    runBy table config bound source name script.body (prepare s script afterPeriod)

def evaluateBy (table : Table) (e : Engine σ) (source name : String) :
    Option (Except EvalError String) × Engine σ :=
  match e.runtime with
  | none => (some (.error .notInitialized), e)
  | some rt =>
    let w := e.world.note (started name)
    let ((r, session), w) :=
      if w.pending then ((some (.error .cancelled), rt.session), w)
      else World.run rt.host (evaluationBy table e.config e.bound source name rt.session) w
    (r, { e with
      runtime := some { rt with session }
      world := noteFailure name r { w with pending := false } })

theorem latest_snoc (sources : List (List Function)) (fs : List Function) (name : String)
    (arity : Nat) : latest (sources ++ [fs]) name arity =
      (fs.find? (·.is name arity)).or (latest sources name arity) := by
  unfold latest
  rw [List.reverse_append, List.reverse_singleton, List.singleton_append, List.findSome?_cons]
  cases fs.find? (·.is name arity) <;> rfl

theorem is_iff {f : Function} {name : String} {arity : Nat} :
    f.is name arity = true ↔ f.name = name ∧ f.params.length = arity := by
  simp only [Function.is, Bool.and_eq_true, decide_eq_true_eq]

theorem function?_adopt (s : Session) (fs : List Function) (name : String) (arity : Nat) :
    (s.adopt fs).function? name arity =
      (fs.find? (·.is name arity)).or (s.function? name arity) := by
  unfold Session.function? Session.adopt
  dsimp only
  rw [List.find?_append]
  cases hnew : fs.find? (·.is name arity) with
  | some f => rfl
  | none =>
    rw [Option.none_or, Option.none_or, List.find?_filter]
    congr 1
    funext f
    -- A function of this name and arity is not replaced by any of the new ones.
    by_cases hf : f.is name arity
    · obtain ⟨rfl, rfl⟩ := is_iff.mp hf
      have hany : fs.any (·.is f.name f.params.length) = false := by
        simpa only [List.any_eq_false, List.find?_eq_none] using hnew
      rw [hany, hf]
      rfl
    · simp only [hf, Bool.false_eq_true, and_false, decide_false]

def Finds (s : Session) (sources : List (List Function)) : Prop :=
  ∀ name arity, s.function? name arity = latest sources name arity

theorem Finds.prepare {s : Session} {sources : List (List Function)} (h : Finds s sources)
    (t : Compiled) (afterPeriod : Bool) :
    Finds (prepare s t afterPeriod) (sources ++ [t.functions]) := by
  intro name arity
  rw [latest_snoc, ← h]
  exact function?_adopt s t.functions name arity

theorem Finds.of_functions {s t : Session} {sources : List (List Function)} (h : Finds s sources)
    (hst : t.functions = s.functions) : Finds t sources := by
  intro name arity
  rw [← h, Session.function?, Session.function?, hst]

theorem run_eq_runBy {s : Session} {sources : List (List Function)} (h : Finds s sources)
    (config : Config) (bound : Nat) (source name : String) (body : List Stmt) :
    run config bound source name body s =
      runBy (latest sources) config bound source name body s := by
  let m : Pace := { move := id, functions := s.functions, exact := True }
  have htable : m.table = latest sources := by
    funext name arity
    rw [← h, Pace.table, Session.function?]
    exact (congrArg (Option.map · _) (funext Function.moved_id)).trans Option.map_id'
  have hstep := Evaluator.stmts_inStep (evaluator_keepsPace m bound) s.names body { config } s s
    (.inl trivial) ⟨⟨rfl, rfl, rfl, rfl⟩, rfl, fun _ => rfl⟩ rfl
  rw [htable, movedStmts_id] at hstep
  have hsame : (evaluator bound).stmts body { config } s =
      (evaluatorBy (latest sources) bound).stmts body { config } s := by
    refine (hstep.mono ?_).eq
    rintro ⟨x, t⟩ ⟨y, u⟩ ⟨hmeets, hparallel, -⟩
    obtain rfl : u = t := hparallel.same trivial
    cases hmeets with
    | ok hv => rw [hv]
    | error e => rw [e.moved_id]
  unfold run runBy
  rw [hsame]

theorem evaluation_eq_evaluationBy {s : Session} {sources : List (List Function)}
    (h : Finds s sources) (config : Config) (bound : Nat) (source name : String)
    (later : List (List Function))
    (hlater : ∀ script b, Parser.parse (limits config) s.afterPeriod source = .ok (script, b) →
      later = [(Simplify.script config.maxStringSize s script).functions]) :
    evaluation config bound source name s =
      evaluationBy (latest (sources ++ later)) config bound source name s := by
  unfold evaluation evaluationBy
  cases hparse : Parser.parse (limits config) s.afterPeriod source with
  | error f => rfl
  | ok out =>
    obtain ⟨script, b⟩ := out
    rw [hlater script b hparse]
    exact run_eq_runBy (h.prepare _ b) config bound source name _

theorem starts_of_pending {e : Engine σ} (hp : e.world.pending = true) (source name : String) :
    e.starts (.evaluate source name) = none := by
  unfold starts
  cases e.runtime with
  | none => rfl
  | some rt => exact if_pos hp

theorem starts_of_idle {e : Engine σ} {rt : Runtime σ} (hrt : e.runtime = some rt)
    (hp : e.world.pending = false) (source name : String) : e.starts (.evaluate source name) =
      match Parser.parse (limits e.config) rt.session.afterPeriod source with
      | .error _ => none
      | .ok (script, _) =>
        some (Simplify.script e.config.maxStringSize rt.session script).functions := by
  simp only [starts, hrt, hp, Bool.false_eq_true, if_false]

theorem finds_evaluation {s : Session} {sources : List (List Function)} (h : Finds s sources)
    (host : Host σ) (config : Config) (bound : Nat) (source name : String) (w : World σ) :
    Finds (World.run host (evaluation config bound source name s) w).1.2 (sources ++
      match Parser.parse (limits config) s.afterPeriod source with
      | .error _ => []
      | .ok (script, _) => [(Simplify.script config.maxStringSize s script).functions]) := by
  unfold evaluation
  cases Parser.parse (limits config) s.afterPeriod source with
  | error f =>
    rw [List.append_nil]
    exact h.of_functions rfl
  | ok out =>
    -- Whatever the run ends with, it leaves the functions alone.
    exact (h.prepare _ out.2).of_functions (functions_run host config bound source name _ _ w)

theorem finds_perform {e : Engine σ} {rt : Runtime σ} {sources : List (List Function)}
    (hrt : e.runtime = some rt) (h : Finds rt.session sources) {op : Operation σ}
    (hop : op.stays = true) : ∃ rt', (e.perform op).runtime = some rt' ∧
      Finds rt'.session (sources ++ (e.starts op).toList) := by
  cases op with
  | install host => cases hop
  | destroy => cases hop
  | interrupt => exact ⟨rt, hrt, (List.append_nil sources).symm ▸ h⟩
  | setSink sink => exact ⟨rt, hrt, (List.append_nil sources).symm ▸ h⟩
  | alter state => exact ⟨rt, hrt, (List.append_nil sources).symm ▸ h⟩
  | evaluate source name =>
    change ∃ rt', (e.evaluate source name).2.runtime = some rt' ∧ _
    rw [evaluate_of_runtime hrt]
    cases hp : e.world.pending with
    | true =>
      rw [evaluateIn_of_pending rt hp, starts_of_pending hp]
      exact ⟨rt, rfl, (List.append_nil sources).symm ▸ h⟩
    | false =>
      rw [evaluateIn_of_idle rt hp, starts_of_idle hrt hp]
      refine ⟨_, rfl, ?_⟩
      have hfinds := finds_evaluation h rt.host e.config e.bound source name
        (e.world.note (started name))
      revert hfinds
      cases Parser.parse (limits e.config) rt.session.afterPeriod source <;> exact id

theorem finds_after {e : Engine σ} {rt : Runtime σ} {sources : List (List Function)}
    (hrt : e.runtime = some rt) (h : Finds rt.session sources) {ops : List (Operation σ)}
    (hops : ∀ op ∈ ops, op.stays = true) : ∃ rt', (e.after ops).runtime = some rt' ∧
      Finds rt'.session (sources ++ e.definitions ops) := by
  induction ops generalizing e rt sources with
  | nil => exact ⟨rt, hrt, (List.append_nil sources).symm ▸ h⟩
  | cons op ops ih =>
    rw [List.forall_mem_cons] at hops
    obtain ⟨rt', hrt', h'⟩ := finds_perform hrt h hops.1
    rw [definitions, ← List.append_assoc]
    exact ih hrt' h' hops.2

theorem definitions_snoc (e : Engine σ) (ops : List (Operation σ)) (op : Operation σ) :
    e.definitions (ops ++ [op]) = e.definitions ops ++ ((e.after ops).starts op).toList := by
  induction ops generalizing e with
  | nil => exact List.append_nil _
  | cons o ops ih =>
    rw [List.cons_append, definitions, definitions, ih, List.append_assoc]
    rfl

theorem evaluate_eq_evaluateBy {e : Engine σ} {rt : Runtime σ} {sources : List (List Function)}
    (hrt : e.runtime = some rt) (h : Finds rt.session sources) (source name : String) :
    e.evaluate source name =
      e.evaluateBy (latest (sources ++ (e.starts (.evaluate source name)).toList)) source name := by
  rw [evaluate_of_runtime hrt]
  unfold evaluateIn evaluateBy
  rw [hrt]
  dsimp only
  cases hp : e.world.pending with
  | true =>
    have hp' : (e.world.note (started name)).pending = true := hp
    rw [if_pos hp', if_pos hp']
  | false =>
    have hp' : ¬(e.world.note (started name)).pending = true := Bool.eq_false_iff.mp hp
    rw [if_neg hp', if_neg hp', evaluation_eq_evaluationBy h e.config e.bound source name _ ?_]
    intro script b hparse
    rw [starts_of_idle hrt hp, hparse]
    rfl

/-- In whatever source the call stands, it runs the function of the latest source that was started
since the host was installed and that defines one of the name and number of arguments, or none if
there is no such source. -/
theorem calls_run_latest_definition (config : Config) (bound : Nat) (state : σ)
    (before : List (Operation σ)) (host : Host σ) (since : List (Operation σ))
    (hsince : ∀ op ∈ since, op.stays = true) :
    let e := (history config bound state before).install host
    (∃ rt, (e.after since).runtime = some rt ∧ ∀ f arity,
      rt.session.function? f arity = latest (e.definitions since) f arity) ∧
    ∀ source name, (e.after since).evaluate source name =
      (e.after since).evaluateBy (latest (e.definitions (since ++ [.evaluate source name])))
        source name := by
  intro e
  have hnew : Finds ({} : Session) [] := fun _ _ => rfl
  have hhost : e.runtime = some { host } := rfl
  obtain ⟨rt, hrt, hfinds⟩ := finds_after hhost hnew hsince
  rw [List.nil_append] at hfinds
  refine ⟨⟨rt, hrt, hfinds⟩, fun source name => ?_⟩
  rw [definitions_snoc]
  exact evaluate_eq_evaluateBy hrt hfinds source name

/-- A source that fails counts, and one that is refused does not. -/
theorem redefined_function_called :
    let since : List (Operation Unit) := [
      .evaluate "fn f() \x7b 1 \x7d fn g() \x7b f() \x7d" "a",
      .evaluate "fn f() \x7b 2 \x7d throw 0" "b",
      .interrupt,
      .evaluate "fn f() \x7b 3 \x7d" "c"]
    let e := (history {} 100 () []).install (fun _ _ => .answer none)
    let table := latest (e.definitions (since ++ [.evaluate "g()" "d"]))
    (∀ op ∈ since, op.stays = true) ∧
      ((e.after since).evaluateBy table "g()" "d").1 = some (.ok "2") := by
  intro since e table
  have hsince : ∀ op ∈ since, op.stays = true := by decide
  have hrun := (calls_run_latest_definition {} 100 () [] (fun _ _ => .answer none) since hsince).2
    "g()" "d"
  have hvalue : ((e.after since).evaluate "g()" "d").1 = some (.ok "2") :=
    okText?_some (by decide +kernel)
  exact ⟨hsince, (congrArg (·.1) hrun).symm.trans hvalue⟩

end ScreenScript.Engine
