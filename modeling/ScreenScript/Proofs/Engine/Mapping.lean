import ScreenScript.Proofs.Engine.Functions
import ScreenScript.Proofs.Script.Gestures
import ScreenScript.Proofs.Script.Plans

namespace ScreenScript.Engine

open Script

variable {σ : Type}

/-- `P` tells what the evaluation does, on whatever screen it starts: of all that it asks for, only
where its gestures go is different on another screen. -/
def Plans (config : Config) (bound : Nat) (source name : String) (s : Session)
    (P : Plan (Option (Except EvalError String) × Session)) : Prop :=
  ∀ k, evaluation config bound source name (s.rescale k) =
    (P.program k).bind fun ((r, t), k') => .done (r, t.rescale k')

def runs? (e : Engine σ) : Operation σ → Option (Runtime σ × String × String)
  | .evaluate source name =>
    match e.runtime with
    | none => none
    | some rt => if e.world.pending then none else some (rt, source, name)
  | _ => none

inductive Logged : Engine σ → List (Operation σ) → List Mark → Prop
  | nil {e : Engine σ} : Logged e [] []
  | idle {e : Engine σ} {op : Operation σ} {ops : List (Operation σ)} {ms : List Mark}
    (hop : e.runs? op = none) (hops : Logged (e.perform op) ops ms) : Logged e (op :: ops) ms
  | run {e : Engine σ} {op : Operation σ} {ops : List (Operation σ)} {ms : List Mark}
    {rt : Runtime σ} {source name : String} {P : Plan (Option (Except EvalError String) × Session)}
    (hop : e.runs? op = some (rt, source, name))
    (hP : Plans e.config e.bound source name rt.session P)
    (hops : Logged (e.perform op) ops ms) :
    Logged e (op :: ops) (P.marks rt.host rt.session.scale (e.world.note (started name)) ++ ms)

theorem exists_plan_run (config : Config) (bound : Nat) (source name : String) (body : List Stmt)
    (s : Session) : ∃ P : Plan (Option (Except EvalError String) × Session), ∀ k,
      run config bound source name body (s.rescale k) =
        (P.program k).bind fun ((r, t), k') => .done (r, t.rescale k') := by
  obtain ⟨P, hP⟩ := (any_body_yields bound body).planned { config } s
  refine ⟨P.bind fun o => .done (outcome source name o.session o.result, o.session), fun k => ?_⟩
  have hk := hP k
  dsimp only at hk
  rw [run, hk, Plan.program_bind, Program.bind_bind, Program.bind_bind]
  rfl

theorem exists_plan (config : Config) (bound : Nat) (source name : String) (s : Session) :
    ∃ P, Plans config bound source name s P := by
  -- A source is compiled alike on every screen.
  have hparse (k : Option Scale) : Parser.parse (limits config) (s.rescale k).afterPeriod source =
      Parser.parse (limits config) s.afterPeriod source := rfl
  cases hout : Parser.parse (limits config) s.afterPeriod source with
  | error f =>
    refine ⟨.done (some (.error (syntaxError source name f)),
      { s with afterPeriod := f.afterPeriod }), fun k => ?_⟩
    rw [evaluation, hparse, hout]
    rfl
  | ok out =>
    let script := Simplify.script config.maxStringSize s out.1
    obtain ⟨P, hP⟩ :=
      exists_plan_run config bound source name script.body (prepare s script out.2)
    refine ⟨P, fun k => ?_⟩
    rw [evaluation, hparse, hout]
    exact hP k

theorem exists_log (e : Engine σ) (ops : List (Operation σ)) : ∃ ms, Logged e ops ms := by
  induction ops generalizing e with
  | nil => exact ⟨[], .nil⟩
  | cons op ops ih =>
    obtain ⟨ms, hms⟩ := ih (e.perform op)
    cases hop : e.runs? op with
    | none => exact ⟨ms, .idle hop hms⟩
    | some run =>
      obtain ⟨P, hP⟩ := exists_plan e.config e.bound run.2.1 run.2.2 run.1.session
      exact ⟨_, .run hop hP hms⟩

theorem of_runs? {e : Engine σ} {op : Operation σ} {rt : Runtime σ} {source name : String}
    (hop : e.runs? op = some (rt, source, name)) :
    op = .evaluate source name ∧ e.runtime = some rt ∧ e.world.pending = false := by
  cases op with
  | evaluate source' name' =>
    rw [runs?] at hop
    cases hrt : e.runtime with
    | none => simp [hrt] at hop
    | some rt' =>
      cases hp : e.world.pending with
      | true => simp [hrt, hp] at hop
      | false =>
        simp only [hrt, hp, Bool.false_eq_true, if_false, Option.some.injEq, Prod.mk.injEq] at hop
        obtain ⟨rfl, rfl, rfl⟩ := hop
        exact ⟨rfl, rfl, rfl⟩
  | _ => cases hop

theorem idle_perform {e : Engine σ} {op : Operation σ} (hop : e.runs? op = none)
    (hstays : op.stays = true) (ops : List (Operation σ)) :
    (e.perform op).runtime = e.runtime ∧ e.asked (op :: ops) = (e.perform op).asked ops := by
  cases op with
  | install host => cases hstays
  | destroy => cases hstays
  | interrupt => exact ⟨rfl, rfl⟩
  | setSink sink => exact ⟨rfl, rfl⟩
  | alter state => exact ⟨rfl, rfl⟩
  | evaluate source name =>
    rw [runs?] at hop
    rw [asked, turns]
    cases hrt : e.runtime with
    | none =>
      refine ⟨?_, rfl⟩
      simp only [perform, evaluate, hrt]
    | some rt =>
      cases hp : e.world.pending with
      | false => simp [hrt, hp] at hop
      | true =>
        refine ⟨?_, rfl⟩
        rw [perform, evaluate_of_runtime hrt, evaluateIn_of_pending rt hp]

theorem run_perform {e : Engine σ} {op : Operation σ} {rt : Runtime σ} {source name : String}
    (hop : e.runs? op = some (rt, source, name))
    {P : Plan (Option (Except EvalError String) × Session)}
    (hP : Plans e.config e.bound source name rt.session P) (ops : List (Operation σ)) :
    let ms := P.marks rt.host rt.session.scale (e.world.note (started name))
    (∃ s, (e.perform op).runtime = some { rt with session := s } ∧
      s.scale = mapping rt.session.scale ms) ∧
    e.asked (op :: ops) = ms.filterMap Mark.call? ++ (e.perform op).asked ops := by
  intro ms
  obtain ⟨rfl, hrt, hp⟩ := of_runs? hop
  have hplan : evaluation e.config e.bound source name rt.session =
      (P.program rt.session.scale).bind fun ((r, t), k') => .done (r, t.rescale k') :=
    hP rt.session.scale
  constructor
  · rw [perform, evaluate_of_runtime hrt, evaluateIn_of_idle rt hp, hplan, World.run_bind]
    exact ⟨_, rfl, P.scale_run rt.host _ _⟩
  · rw [asked, ← P.calls_turns]
    simp only [turns, hrt, hp, hplan, World.turns_bind, World.turns, List.append_nil,
      Bool.false_eq_true, if_false]

theorem logged_after {e : Engine σ} {ops : List (Operation σ)} {ms : List Mark}
    (hlog : Logged e ops ms) {rt : Runtime σ} (hrt : e.runtime = some rt)
    (hops : ∀ op ∈ ops, op.stays = true) :
    (∃ rt', (e.after ops).runtime = some rt' ∧
      rt'.session.scale = mapping rt.session.scale ms) ∧
    Mapped rt.session.scale ms ∧ e.asked ops = ms.filterMap Mark.call? := by
  induction hlog generalizing rt with
  | nil => exact ⟨⟨rt, hrt, rfl⟩, .nil, rfl⟩
  | @idle e op ops ms hop _ ih =>
    rw [List.forall_mem_cons] at hops
    obtain ⟨hruntime, hasked⟩ := idle_perform hop hops.1 ops
    rw [hasked]
    exact ih (hruntime.trans hrt) hops.2
  | @run e op ops ms rt' source name P hop hP _ ih =>
    rw [List.forall_mem_cons] at hops
    obtain ⟨⟨s, hruntime, hscale⟩, hasked⟩ := run_perform hop hP ops
    obtain ⟨-, hrt', -⟩ := of_runs? hop
    obtain rfl : rt' = rt := Option.some.inj (hrt'.symm.trans hrt)
    -- What comes next starts with the scale that this source has left.
    obtain ⟨hafter, hmapped, hcalls⟩ := ih hruntime hops.2
    rw [hscale] at hafter hmapped
    rw [mapping_append, hasked, hcalls, List.filterMap_append]
    exact ⟨hafter, (P.mapped_marks _ _ _).append hmapped, rfl⟩

/-- In all sources that are run on a host, a gesture through points that the script names goes where
the last declaration tells that came to its end, and to the points themselves if there is none. No
other call has to do with it. A declaration that is refused asks for nothing, and one that is refused
or cut short leaves the scale as it was. -/
theorem gestures_mapped_by_last_declaration (config : Config) (bound : Nat) (state : σ)
    (before : List (Operation σ)) (host : Host σ) (since : List (Operation σ))
    (hsince : ∀ op ∈ since, op.stays = true) :
    let e := (history config bound state before).install host
    (∃ ms, Logged e since ms) ∧
    (∀ ms, Logged e since ms →
      (∃ rt, (e.after since).runtime = some rt ∧ rt.session.scale = mapping none ms) ∧
      Mapped none ms ∧ e.asked since = ms.filterMap Mark.call?) ∧
    (∀ q, mapped none q = q) ∧
    (∀ name args g, Aims name args g → ∀ p, Api.function? name args p = some (aim g)) ∧
    (∀ g c s w, w.pending = false → Delivers host (aim g) c s w (g.call s.scale)) ∧
    (∀ name args p a, Api.function? name args p = some a → Concerns name args p a) ∧
    (∀ v, ((∃ i, v = .node i) ∨ ∃ h, v = .selector h) → ∀ name args p a,
      Api.function? name (v :: args) p = some a → Blind a) ∧
    (∀ v name a, Api.property? v name = some a → Blind a) ∧
    ∀ width height p, ∃ a, Api.function? "setScreenMetrics" [.int width, .int height] p = some a ∧
      ∀ c s w, if width ≤ 0 ∨ height ≤ 0 then Refuses host a c s w (.badSize width height) p
        else (World.run host (a c s) w).1 =
          if w.pending ∨ (World.run host Api.deviceSize w).2.pending then
            (.error (.failed (.terminated Failure.cancelToken)), s)
          else (.ok .unit, s.rescale
            (Scale.between? (width, height) (World.run host Api.deviceSize w).1)) := by
  intro e
  have hhost : e.runtime = some { host } := rfl
  refine ⟨exists_log e since, fun ms hms => logged_after hms hhost hsince, mapped_none,
    fun _ _ _ => Api.function?_aims, fun g _ _ _ hw => .of_aim hw g,
    fun name args p => Api.function?_concerns name args p,
    fun v hv name args p => Api.method_blind hv name args p,
    fun v name => Api.property?_blind v name, fun width height p =>
    ⟨_, function?_setScreenMetrics width height p, fun c s w => ?_⟩⟩
  split
  · next hsize =>
    simp only [Api.setScreenMetrics, if_pos hsize]
    exact .of_refuse _ p
  · next hsize => exact run_setScreenMetrics hsize

/-- The declaration of the first source outlives one that is cut short and one that is refused. -/
theorem declaration_outlives_failed_ones :
    let host : Host Bool := fun verb _ => .get fun cuts =>
      if verb = Verb.deviceWidth then .answer (some "1080")
      else if verb = Verb.deviceHeight then
        if cuts then .interrupt fun _ => .answer (some "1920") else .answer (some "1920")
      else .answer (some "true")
    let since : List (Operation Bool) := [
      .evaluate "setScreenMetrics(540, 960); click(10, 20)" "a", .alter true,
      .evaluate "setScreenMetrics(100, 100)" "b",
      .evaluate "setScreenMetrics(0, 5)" "c",
      .evaluate "click(10, 20)" "d"]
    let e := (history {} 100 false []).install host
    let calls : List Call := [⟨Verb.deviceWidth, []⟩, ⟨Verb.deviceHeight, []⟩,
      ⟨Verb.click, ["20", "40"]⟩, ⟨Verb.deviceWidth, []⟩, ⟨Verb.deviceHeight, []⟩,
      ⟨Verb.click, ["20", "40"]⟩]
    (∀ op ∈ since, op.stays = true) ∧
      ∃ ms, Logged e since ms ∧ Mapped none ms ∧ ms.filterMap Mark.call? = calls := by
  intro host since e calls
  have hsince : ∀ op ∈ since, op.stays = true := by decide
  have hcalls : e.asked since = calls := by decide +kernel
  obtain ⟨⟨ms, hms⟩, hall, -⟩ :=
    gestures_mapped_by_last_declaration {} 100 false [] host since hsince
  obtain ⟨-, hmapped, hasked⟩ := hall ms hms
  exact ⟨hsince, ms, hms, hmapped, hasked.symm.trans hcalls⟩

end ScreenScript.Engine
