import ScreenScript.Proofs.Engine.History
import ScreenScript.Proofs.Script.Joining

namespace ScreenScript.Engine

open Script Simplify

variable {σ : Type}

/-- How an evaluation starts that is not refused. -/
structure Start (e : Engine σ) (source : String) where
  rt : Runtime σ
  script : Compiled
  afterPeriod : Bool
  ready : e.runtime = some rt
  idle : e.world.pending = false
  parsed : Parser.parse (limits e.config) rt.session.afterPeriod source = .ok (script, afterPeriod)

namespace Start

variable {e : Engine σ} {source : String} (x : e.Start source)

def known : Known := knownOf e.config.maxStringSize x.rt.session

def body : List Stmt := Simplify.body x.known x.script.body

def session : Session :=
  prepare x.rt.session (Simplify.script e.config.maxStringSize x.rt.session x.script) x.afterPeriod

def run (w : World σ) : (Except Stop Value × Session) × World σ :=
  World.run x.rt.host ((evaluator e.bound).stmts x.body { config := e.config } x.session) w

/-- The last statement is reached and has a value, and no request for an interrupt was kept back. -/
def Completes (name : String) : Prop :=
  (∃ v, (x.run (e.world.note (started name))).1.1 = .ok v) ∧
    (x.run (e.world.note (started name))).2.pending = false

end Start

def unplaced : EvalError → EvalError
  | .script err => .script { message := err.message, sourceName := "", stack := err.stack }
  | err => err

def report (r : Option (Except EvalError String)) : Option (Except EvalError String) :=
  r.map (Except.mapError unplaced)

/-- What happened to the hosts and in the console is the same, and scripts find the same variables
and functions. -/
structure Resembles (e f : Engine σ) : Prop where
  world : e.world.Alike f.world
  runtime : ∃ rt session, e.runtime = some rt ∧ f.runtime = some { rt with session } ∧
    rt.session.Sees session ∧ session.functions = rt.session.functions

theorem Start.evaluate {e : Engine σ} {source : String} (x : e.Start source) (name : String) :
    let out := x.run (e.world.note (started name))
    let r := outcome source name out.1.2 out.1.1
    e.evaluate source name = (r, { e with
      runtime := some { x.rt with session := out.1.2 }
      world := noteFailure name r { out.2 with pending := false } }) := by
  have hevaluation : evaluation e.config e.bound source name x.rt.session =
      ((evaluator e.bound).stmts x.body { config := e.config } x.session).bind fun r =>
        .done (outcome source name r.2 r.1, r.2) := by
    unfold evaluation
    rw [x.parsed]
    rfl
  rw [evaluate_of_runtime x.ready, evaluateIn_of_idle x.rt x.idle, hevaluation, World.run_bind]
  rfl

def Start.next {e : Engine σ} {source : String} (x : e.Start source) (name : String)
    {later : String} {script : Compiled} {afterPeriod : Bool}
    (h : Parser.parse (limits e.config)
      (x.run (e.world.note (started name))).1.2.afterPeriod later = .ok (script, afterPeriod)) :
    (e.evaluate source name).2.Start later where
  rt := { x.rt with session := (x.run (e.world.note (started name))).1.2 }
  script
  afterPeriod
  ready := by rw [x.evaluate]
  idle := pending_evaluate x.idle source name
  parsed := by
    rw [config_evaluate]
    exact h

theorem Start.outcome_eq {e : Engine σ} {source : String} (x : e.Start source) (name : String) :
    let out := x.run (e.world.note (started name))
    (e.evaluate source name).1 = outcome source name out.1.2 out.1.1 := by
  intro out
  rw [x.evaluate]

theorem Start.session_plain {e : Engine σ} {source : String} (x : e.Start source)
    (h : x.script.functions = []) :
    x.rt.session.Sees x.session ∧ x.session.functions = x.rt.session.functions := by
  refine ⟨⟨rfl, rfl, rfl, rfl⟩, ?_⟩
  unfold session prepare Session.adopt Simplify.script
  simp [h]

theorem Start.rt_eq {e : Engine σ} {a c : String} (x : e.Start a) (z : e.Start c) : z.rt = x.rt :=
  Option.some.inj (z.ready.symm.trans x.ready)

theorem Start.sessions_plain {e : Engine σ} {a c : String} (x : e.Start a) (z : e.Start c)
    (hx : x.script.functions = []) (hz : z.script.functions = []) :
    x.session.Sees z.session ∧ z.session.functions = x.session.functions := by
  obtain ⟨hxs, hxf⟩ := x.session_plain hx
  obtain ⟨hzs, hzf⟩ := z.session_plain hz
  rw [x.rt_eq z] at hzs hzf
  exact ⟨hxs.symm.trans hzs, hzf.trans hxf.symm⟩

theorem unplaced_failureError (source name source' name' : String) (f : Position → Position)
    (g : Failure) :
    unplaced (failureError source' name' (g.moved f)) = unplaced (failureError source name g) := by
  unfold failureError
  rw [Failure.core_moved, Failure.stack_moved]
  cases g.core with
  | error c p => rfl
  | terminated token => rfl

theorem report_moved (source name source' name' : String) (s : Session)
    (f : Position → Position) (e : Stop) :
    report (outcome source' name' s (.error (e.moved f))) =
      report (outcome source name s (.error e)) := by
  cases e with
  | failed g =>
    have herror := unplaced_failureError source name source' name' f g
    exact congrArg (fun err => some (Except.error err)) herror
  | _ => rfl

theorem report_echo {r r' : Except Stop Value} (h : Echo r r') {s s' : Session} (hs : s.Sees s')
    (source name source' name' : String) :
    report (outcome source' name' s' r') = report (outcome source name s r) := by
  have hsession : outcome source' name' s' r' = outcome source' name' s r' := by
    unfold outcome
    rw [hs.selectors]
  rw [hsession]
  cases h with
  | ok v => rfl
  | @error e e' h =>
    rw [← report_moved source' name' source' name' s erase e', h, report_moved]

theorem Start.resembles {e f : Engine σ} {b c : String} (y : e.Start b) (z : f.Start c)
    (hhost : z.rt.host = y.rt.host) {nameB nameC : String}
    (hsees : (y.run (e.world.note (started nameB))).1.2.Sees
      (z.run (f.world.note (started nameC))).1.2)
    (hfunctions : (z.run (f.world.note (started nameC))).1.2.functions =
      (y.run (e.world.note (started nameB))).1.2.functions)
    (hworld : (y.run (e.world.note (started nameB))).2.Alike
      (z.run (f.world.note (started nameC))).2) :
    Resembles (e.evaluate b nameB).2 (f.evaluate c nameC).2 := by
  rw [y.evaluate, z.evaluate]
  refine ⟨?_, _, _, rfl, ?_, hsees, hfunctions⟩
  · have hcleared := World.Alike.shared.request hworld false
    exact (noteFailure_alike _ _ _).symm.trans (hcleared.trans (noteFailure_alike _ _ _))
  · dsimp only
    rw [hhost]

theorem Start.evaluate_of_completes {e : Engine σ} {source name : String} (x : e.Start source)
    {v : Value} {s : Session} {w : World σ}
    (hx : x.run (e.world.note (started name)) = ((.ok v, s), w)) (hp : w.pending = false) :
    e.evaluate source name = (some (.ok (v.completion s.selectors)),
      { e with runtime := some { x.rt with session := s }, world := w }) := by
  have hclear : { w with pending := false } = w := by
    cases w
    cases hp
    rfl
  rw [x.evaluate, hx]
  dsimp only [outcome, noteFailure]
  rw [hclear]

theorem run_kept {h : Host σ} {n : Nat} {kept rest : List Stmt} {c : Context} {s s' : Session}
    {w w' : World σ} {v : Value} (hpure : ∀ s ∈ rest, s.isPure = true)
    (hrun : World.run h ((evaluator n).stmts (kept ++ rest) c s) w = ((.ok v, s'), w')) :
    ∃ u t, World.run h ((evaluator n).stmts kept c s) w = ((.ok u, t), w') ∧ t.Counts s' := by
  by_cases hrest : rest = []
  · rw [hrest, List.append_nil] at hrun
    exact ⟨v, s', hrun, .refl s'⟩
  · rw [Evaluator.stmts_append _ _ hrest] at hrun
    generalize hkept : World.run h ((evaluator n).stmts kept c s) w = out
    obtain ⟨⟨r, t⟩, w₁⟩ := out
    cases r with
    | error e =>
      rw [(run_bind_error _ hkept).1] at hrun
      cases hrun
    | ok u =>
      rw [(run_bind_ok _ hkept).1] at hrun
      have hidle := Evaluator.stmts_idle (evaluator_idlesPure n) (pureStmts_of_forall hpure)
      obtain ⟨hcounts, hworld⟩ := World.run_still (hidle c t) h w₁ trivial World.maxReentry
      rw [hrun] at hcounts hworld
      obtain rfl : w' = w₁ := hworld
      exact ⟨u, t, rfl, hcounts⟩

theorem run_echo (h : Host σ) (n : Nat) {xs ys : List Stmt}
    (hxs : movedStmts erase ys = movedStmts erase xs) {c : Context}
    (hc : c.config.maxOperations = 0) {s t : Session} (hst : s.Sees t)
    (hf : t.functions = s.functions) {w w' : World σ} (hw : w.Alike w') :
    let out := World.run h ((evaluator n).stmts xs c s) w
    let out' := World.run h ((evaluator n).stmts ys c t) w'
    Echoes out.1 out'.1 ∧ out.2.Alike out'.2 := by
  obtain ⟨hechoes, hworld⟩ := (stmts_echo n hxs hc hst hf).run h w World.maxReentry
  obtain ⟨hsame, halike⟩ := World.Alike.shared.run (World.Alike.shared.mirrors h)
    ((evaluator n).stmts ys c t) hw
  rw [← hsame] at hechoes
  rw [hworld] at halike
  exact ⟨hechoes, halike⟩

theorem run_joined (h : Host σ) (n : Nat) {kept rest ys kept' last : List Stmt}
    (hpure : ∀ s ∈ rest, s.isPure = true) (hkept : movedStmts erase kept' = movedStmts erase kept)
    (hlast : movedStmts erase last = movedStmts erase ys) (hys : ys ≠ []) {c : Context}
    (hc : c.config.maxOperations = 0) {s s₁ s₂ t : Session} {w w₁ w₂ w' : World σ} {v : Value}
    (hfirst : World.run h ((evaluator n).stmts (kept ++ rest) c s) w = ((.ok v, s₁), w₁))
    (hst : s.Sees t) (hf : t.functions = s.functions) (hw : w.Alike w')
    (hs₂ : s₁.Sees s₂) (hf₂ : s₂.functions = s₁.functions) (hw₂ : w₁.Alike w₂) :
    let second := World.run h ((evaluator n).stmts ys c s₂) w₂
    let whole := World.run h ((evaluator n).stmts (kept' ++ last) c t) w'
    Echoes second.1 whole.1 ∧ second.2.Alike whole.2 := by
  intro second whole
  have hne : last ≠ [] := by
    rintro rfl
    rw [movedStmts_eq, movedStmts_eq] at hlast
    exact hys (List.map_eq_nil_iff.mp hlast.symm)
  obtain ⟨u, s', hrun, m, rfl⟩ := run_kept hpure hfirst
  obtain ⟨hechoes, halike⟩ := run_echo h n hkept hc hst hf hw
  rw [hrun] at hechoes halike
  generalize hrun' : World.run h ((evaluator n).stmts kept' c t) w' = out at hechoes halike
  obtain ⟨⟨r, t'⟩, w₁'⟩ := out
  obtain ⟨hends, hsees, hfunctions⟩ := hechoes
  cases hends
  have hwhole : whole = World.run h ((evaluator n).stmts last c t') w₁' := by
    change World.run h ((evaluator n).stmts (kept' ++ last) c t) w' = _
    rw [Evaluator.stmts_append _ _ hne, (run_bind_ok _ hrun').1]
  have hstart : s₂.Sees t' :=
    hs₂.symm.trans ⟨hsees.scope, hsees.selectors, hsees.patterns, hsees.scale⟩
  rw [hwhole]
  exact run_echo h n hlast hc hstart (hfunctions.trans hf₂.symm) (hw₂.symm.trans halike)

theorem Start.knows {e : Engine σ} {source name : String} (x : e.Start source) {xs : List String}
    (hxs : ∀ y ∈ xs, y ∉ unsettled x.body) {v : Value} {s : Session} {w : World σ}
    (hx : x.run (e.world.note (started name)) = ((.ok v, s), w)) :
    Agree xs (learnAll x.known x.body) (knownOf e.config.maxStringSize s) ∧
      ∀ t ∈ x.body, t.endsFlow = false := by
  have hstart : Agree xs x.known (knownOf e.config.maxStringSize x.session) :=
    ⟨rfl, fun _ _ => rfl⟩
  have hgives := (agree_stmts e.bound x.body { config := e.config } hstart hxs).run x.rt.host
    (e.world.note (started name))
  change Gives _ (x.run (e.world.note (started name))).1 at hgives
  rw [hx] at hgives
  exact hgives v rfl

theorem Start.body_pieces {e e₁ : Engine σ} {a b c name : String} (x : e.Start a) (y : e₁.Start b)
    (z : e.Start c) {v : Value} {s : Session} {w : World σ}
    (hx : x.run (e.world.note (started name)) = ((.ok v, s), w)) (hconfig : e₁.config = e.config)
    (hy : y.rt.session = s)
    (hjoined : movedStmts erase z.script.body =
      movedStmts erase x.script.body ++ movedStmts erase y.script.body)
    (hnames : ∀ n ∈ stmtsNames y.script.body, n ∉ unsettled x.body) :
    (y.body = [] → movedStmts erase z.body = movedStmts erase x.body) ∧
    (y.body ≠ [] → ∃ kept rest kept' last, x.body = kept ++ rest ∧
      (∀ s ∈ rest, s.isPure = true) ∧ z.body = kept' ++ last ∧
      movedStmts erase kept' = movedStmts erase kept ∧
      movedStmts erase last = movedStmts erase y.body) := by
  obtain ⟨hagree, hflow⟩ := x.knows hnames hx
  have hknown : y.known = knownOf e.config.maxStringSize s := by
    rw [Start.known, hconfig, hy]
  have hz : z.body = Simplify.body x.known z.script.body := by
    rw [Start.body, Start.known, Start.known, x.rt_eq z]
  rw [← hknown] at hagree
  rw [hz]
  exact body_joined hjoined hflow hagree

theorem echoes_pieces {e e₁ : Engine σ} {a b c nameA nameB nameC : String}
    (hunlimited : e.config.maxOperations = 0) (x : e.Start a)
    (he₁ : (e.evaluate a nameA).2 = e₁) (y : e₁.Start b) (z : e.Start c)
    (hx : x.script.functions = []) (hy : y.script.functions = []) (hz : z.script.functions = [])
    (hjoined : movedStmts erase z.script.body =
      movedStmts erase x.script.body ++ movedStmts erase y.script.body)
    (hcompletes : x.Completes nameA)
    (hnames : ∀ n ∈ stmtsNames y.script.body, n ∉ unsettled x.body) :
    let first := x.run (e.world.note (started nameA))
    let second := y.run (e₁.world.note (started nameB))
    let whole := z.run (e.world.note (started nameC))
    z.rt.host = y.rt.host ∧ second.1.2.Sees whole.1.2 ∧
      whole.1.2.functions = second.1.2.functions ∧ second.2.Alike whole.2 ∧
      (y.body ≠ [] → Echo second.1.1 whole.1.1) ∧
      (y.body = [] → second.1.1 = .ok .unit ∧ Echoes first.1 whole.1) := by
  intro first second whole
  obtain ⟨⟨v, hv⟩, hp⟩ := hcompletes
  obtain ⟨s, w, hfirst⟩ : ∃ s w, x.run (e.world.note (started nameA)) = ((.ok v, s), w) :=
    ⟨_, _, Prod.ext (Prod.ext hv rfl) rfl⟩
  rw [hfirst] at hp
  rw [x.evaluate_of_completes hfirst hp] at he₁
  subst he₁
  have hyrt : y.rt = { x.rt with session := s } := (Option.some.inj y.ready).symm
  have hyhost : y.rt.host = x.rt.host := by rw [hyrt]
  have hzhost : z.rt.host = y.rt.host := by rw [hyhost, x.rt_eq z]
  obtain ⟨hz₀, hzf⟩ := x.sessions_plain z hx hz
  have hy₀ : s.Sees y.session ∧ y.session.functions = s.functions := by
    have hplain := y.session_plain hy
    rwa [hyrt] at hplain
  have hbegun : (e.world.note (started nameA)).Alike (e.world.note (started nameC)) :=
    .note ⟨_, rfl⟩ _ _
  have hsession : y.rt.session = s := by rw [hyrt]
  obtain ⟨hnone, hsome⟩ := x.body_pieces y z hfirst rfl hsession hjoined hnames
  have hsecond : second = World.run x.rt.host ((evaluator e.bound).stmts y.body
      { config := e.config } y.session) (w.note (started nameB)) := by
    rw [← hyhost]
    rfl
  have hwhole : whole = World.run x.rt.host ((evaluator e.bound).stmts z.body
      { config := e.config } z.session) (e.world.note (started nameC)) := by
    rw [← x.rt_eq z]
    rfl
  refine ⟨hzhost, ?_⟩
  by_cases hlast : y.body = []
  · have hnothing : second = ((.ok .unit, y.session), w.note (started nameB)) := by
      rw [hsecond, hlast]
      rfl
    have hechoes : Echoes (x.run (e.world.note (started nameA))).1 whole.1 ∧
        (x.run (e.world.note (started nameA))).2.Alike whole.2 := by
      rw [hwhole]
      exact run_echo x.rt.host e.bound (hnone hlast) hunlimited hz₀ hzf hbegun
    rw [hfirst] at hechoes
    obtain ⟨hends, halike⟩ := hechoes
    have hdenoted : (w.note (started nameB)).Alike w := ⟨w.notes, rfl⟩
    rw [hnothing]
    refine ⟨hy₀.1.symm.trans hends.sees, hends.functions.trans hy₀.2.symm, hdenoted.trans halike,
      fun h => absurd hlast h, fun _ => ⟨rfl, ?_⟩⟩
    change Echoes (x.run (e.world.note (started nameA))).1 whole.1
    rw [hfirst]
    exact hends
  · obtain ⟨kept, rest, kept', last, hxbody, hpure, hzbody', hkept, hlast'⟩ := hsome hlast
    have hfirst' : World.run x.rt.host ((evaluator e.bound).stmts (kept ++ rest)
        { config := e.config } x.session) (e.world.note (started nameA)) = ((.ok v, s), w) := by
      rw [← hxbody]
      exact hfirst
    have hnoted : w.Alike (w.note (started nameB)) := ⟨_, rfl⟩
    obtain ⟨hechoes, halike⟩ := run_joined x.rt.host e.bound hpure hkept hlast' hlast hunlimited
      hfirst' hz₀ hzf hbegun hy₀.1 hy₀.2 hnoted
    rw [hsecond, hwhole, hzbody']
    exact ⟨hechoes.sees, hechoes.functions, halike, fun _ => hechoes.ends, fun h => absurd h hlast⟩

/-- Without a limit of operations, a source that completes and then another do what one source does
that consists of the statements of both: the hosts receive the same calls, the console the same
messages, and the same variables are left. The second source has the value of the one source, and
fails if that fails, unless nothing is left of it to be run. None of the sources defines functions, and
the second names no constant of the first whose value is not known before that runs. -/
theorem pieces_run_as_one (config : Config) (bound : Nat) (state : σ) (ops : List (Operation σ))
    (hunlimited : config.maxOperations = 0) (a b c nameA nameB nameC : String) :
    let e := history config bound state ops
    let e₁ := (e.evaluate a nameA).2
    ∀ (x : e.Start a) (y : e₁.Start b) (z : e.Start c),
      x.script.functions = [] → y.script.functions = [] → z.script.functions = [] →
      movedStmts erase z.script.body =
        movedStmts erase x.script.body ++ movedStmts erase y.script.body →
      x.Completes nameA → (∀ n ∈ stmtsNames y.script.body, n ∉ unsettled x.body) →
      let pieces := e₁.evaluate b nameB
      let whole := e.evaluate c nameC
      Resembles pieces.2 whole.2 ∧
        (y.body ≠ [] → report whole.1 = report pieces.1) ∧
        (y.body = [] → pieces.1 = some (.ok "undefined") ∧ whole.1 = (e.evaluate a nameA).1) := by
  intro e e₁ x y z hx hy hz hjoined hcompletes hnames pieces whole
  have hconfig : e.config.maxOperations = 0 := by
    rw [config_history]
    exact hunlimited
  obtain ⟨hhost, hsees, hfunctions, hworld, hsome, hnone⟩ := echoes_pieces hconfig x rfl y z hx hy
    hz hjoined hcompletes hnames
  refine ⟨y.resembles z hhost hsees hfunctions hworld, fun h => ?_, fun h => ?_⟩
  · change report (e.evaluate c nameC).1 = report (e₁.evaluate b nameB).1
    rw [y.outcome_eq, z.outcome_eq]
    exact report_echo (hsome h) hsees b nameB c nameC
  · obtain ⟨hunit, hends⟩ := hnone h
    obtain ⟨⟨v, hv⟩, -⟩ := hcompletes
    have hv' : (z.run (e.world.note (started nameC))).1.1 = .ok v := (hv ▸ hends.ends).eq_ok
    constructor
    · exact (y.outcome_eq nameB).trans (by rw [hunit]; rfl)
    · change (e.evaluate c nameC).1 = _
      rw [x.outcome_eq, z.outcome_eq, hv, hv']
      exact congrArg (fun t => some (Except.ok (v.completion t))) hends.sees.selectors

/-- The declaration of a variable with a number, and the use of a variable. Unlike statements at
large, these can be compared. -/
inductive Plain where
  | declared (x : String) (n : Int64) (place start : Position)
  | used (x : String) (place : Position)
  deriving DecidableEq

namespace Plain

def stmt : Plain → Stmt
  | declared x n p q => .declare x (.constant (.int n) p) false q
  | used x p => .expr (.var x p)

def ofStmt? : Stmt → Option Plain
  | .declare x (.constant (.int n) p) false q => some (declared x n p q)
  | .expr (.var x p) => some (used x p)
  | _ => none

def ofStmts? : List Stmt → Option (List Plain)
  | [] => some []
  | s :: ss => (ofStmt? s).bind fun v => (ofStmts? ss).map (v :: ·)

def ofParsed? : Except SyntaxFault (Compiled × Bool) → Option (List Plain)
  | .ok (⟨body, []⟩, false) => ofStmts? body
  | _ => none

theorem ofStmt?_some {s : Stmt} {v : Plain} (h : ofStmt? s = some v) : s = v.stmt := by
  unfold ofStmt? at h
  split at h <;> cases h <;> rfl

theorem ofStmts?_some {ss : List Stmt} {vs : List Plain} (h : ofStmts? ss = some vs) :
    ss = vs.map stmt := by
  induction ss generalizing vs with
  | nil =>
    cases h
    rfl
  | cons s ss ih =>
    obtain ⟨v, hv, hvs⟩ := Option.bind_eq_some_iff.mp h
    obtain ⟨vs, hss, rfl⟩ := Option.map_eq_some_iff.mp hvs
    rw [List.map_cons, ← ofStmt?_some hv, ← ih hss]

theorem ofParsed?_some {r : Except SyntaxFault (Compiled × Bool)} {vs : List Plain}
    (h : ofParsed? r = some vs) : r = .ok (⟨vs.map stmt, []⟩, false) := by
  unfold ofParsed? at h
  split at h
  · rw [ofStmts?_some h]
  · cases h

end Plain

theorem variable_in_next_piece :
    let e := history {} 100 () [.install (fun _ _ => .answer none)]
    let e₁ := (e.evaluate "let x = 1" "a").2
    ∃ (x : e.Start "let x = 1") (y : e₁.Start "x") (z : e.Start "let x = 1; x"),
      x.script.functions = [] ∧ y.script.functions = [] ∧ z.script.functions = [] ∧
      movedStmts erase z.script.body =
        movedStmts erase x.script.body ++ movedStmts erase y.script.body ∧
      x.Completes "a" ∧ (∀ n ∈ stmtsNames y.script.body, n ∉ unsettled x.body) ∧
      y.body ≠ [] ∧ Resembles (e₁.evaluate "x" "b").2 (e.evaluate "let x = 1; x" "c").2 ∧
      report (e.evaluate "let x = 1; x" "c").1 = report (e₁.evaluate "x" "b").1 := by
  intro e e₁
  let declaration : Stmt := .declare "x" (.constant (.int 1) ⟨1, 9⟩) false ⟨1, 1⟩
  have hfirst : Parser.parse (limits {}) false "let x = 1" = .ok (⟨[declaration], []⟩, false) := by
    exact Plain.ofParsed?_some (show _ = some [.declared "x" 1 ⟨1, 9⟩ ⟨1, 1⟩] by decide +kernel)
  have hsecond : Parser.parse (limits {}) false "x" =
      .ok (⟨[.expr (.var "x" ⟨1, 1⟩)], []⟩, false) := by
    exact Plain.ofParsed?_some (show _ = some [.used "x" ⟨1, 1⟩] by decide +kernel)
  have hwhole : Parser.parse (limits {}) false "let x = 1; x" =
      .ok (⟨[declaration, .expr (.var "x" ⟨1, 12⟩)], []⟩, false) := by
    exact Plain.ofParsed?_some
      (show _ = some [.declared "x" 1 ⟨1, 9⟩ ⟨1, 1⟩, .used "x" ⟨1, 12⟩] by decide +kernel)
  let x : e.Start "let x = 1" := ⟨_, _, _, rfl, rfl, hfirst⟩
  have hcompletes : x.Completes "a" := ⟨⟨.unit, rfl⟩, rfl⟩
  have hperiod : (x.run (e.world.note (started "a"))).1.2.afterPeriod = false := rfl
  let y : e₁.Start "x" := x.next "a" (hperiod ▸ hsecond)
  let z : e.Start "let x = 1; x" := ⟨_, _, _, rfl, rfl, hwhole⟩
  have hsettled : unsettled x.body = [] := rfl
  have hnames : ∀ n ∈ stmtsNames y.script.body, n ∉ unsettled x.body := by
    intro n _
    rw [hsettled]
    exact List.not_mem_nil
  have hstays (k : Known) : Simplify.body k [.expr (.var "x" ⟨1, 1⟩)] ≠ [] := by
    cases hx : known? k "x" <;>
      simp [Simplify.body, tidy, stmts, stmt, expr, hx, flatten, reachable, effective, Stmt.endsFlow]
  have hy : y.body ≠ [] := hstays y.known
  obtain ⟨hresembles, hreport, -⟩ := pieces_run_as_one {} 100 ()
    [.install (fun _ _ => .answer none)] rfl _ _ _ "a" "b" "c" x y z rfl rfl rfl rfl hcompletes hnames
  exact ⟨x, y, z, rfl, rfl, rfl, rfl, hcompletes, hnames, hy, hresembles, hreport hy⟩

/-- What is known of constants when the second source is compiled saves it a check that the one source
makes. A source of which nothing is left has no value, and a constant may not be assigned where it is
declared. An interrupt that a text kept back is forgotten with the first source. -/
theorem pieces_differ_from_whole :
    let e := history {} 100 () [.install (fun _ _ => .answer none : Host Unit)]
    let pieces (a b : String) := ((e.evaluate a "a").2.evaluate b "b").1
    let whole (c : String) := (e.evaluate c "c").1
    (whole "let t = true; const k = t; let x = 5" = some (.ok "undefined") ∧
      pieces "let t = true; const k = t; let x = 5" "k && x" = some (.ok "5") ∧
      ∃ err, whole "let t = true; const k = t; let x = 5; k && x" = some (.error err)) ∧
    (pieces "5" "" = some (.ok "undefined") ∧ whole "5" = some (.ok "5")) ∧
    (pieces "const k = 1" "if false \x7b k = 2 \x7d" = some (.ok "undefined") ∧
      ∃ err, whole "const k = 1; if false \x7b k = 2 \x7d" = some (.error err)) ∧
    let host : Host Unit := fun verb _ =>
      if verb = Verb.click then .interrupt fun _ => .answer none else .answer none
    let f := history {} 100 () [.install host]
    let a := "try \x7b eval(\"click(1, 2)\") \x7d catch \x7b\x7d "
    (f.evaluate a "a").1 = some (.ok "undefined") ∧
      ((f.evaluate a "a").2.evaluate "home()" "b").1 = some (.ok "false") ∧
      ∃ err, (f.evaluate (a ++ "home()") "c").1 = some (.error err) := by
  intro e pieces whole
  have hfails {r : Option (Except EvalError String)} (h : (r.any fun x => !x.isOk) = true) :
      ∃ err, r = some (.error err) := by
    match r with
    | some (.error err) => exact ⟨err, rfl⟩
  refine ⟨⟨okText?_some ?_, okText?_some ?_, hfails ?_⟩, ⟨okText?_some ?_, okText?_some ?_⟩,
    ⟨okText?_some ?_, hfails ?_⟩, okText?_some ?_, okText?_some ?_, hfails ?_⟩
  all_goals decide +kernel

end ScreenScript.Engine
