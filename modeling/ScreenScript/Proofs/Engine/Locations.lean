import ScreenScript.Proofs.Engine.History
import ScreenScript.Proofs.Script.Evaluation
import ScreenScript.Proofs.Script.Failures
import ScreenScript.Proofs.Script.Parsing
import ScreenScript.Proofs.Script.Simplifying

namespace ScreenScript.Engine

open Script Text

variable {σ : Type}

/-- A function as the compilation of a source leaves it behind in some session. -/
def Defines (config : Config) (source : String) (g : Function) : Prop :=
  ∃ b script b' s, Parser.parse (limits config) b source = .ok (script, b') ∧
    g ∈ (Simplify.script config.maxStringSize s script).functions

abbrev OnLine (source : String) (p : Position) : Prop := HasLine source.toList p.line

def onLines (source : String) : Allowed := { place := OnLine source }

abbrev PastEnd (source : String) (p : Position) : Prop :=
  p.line = (lines source.toList).length + 1

theorem parse_located (config : Config) (b : Bool) (source : String) :
    match Parser.parse (limits config) b source with
    | .ok (script, _) =>
      StmtsWithin (onLines source) script.body ∧ ∀ f ∈ script.functions, f.Within (onLines source)
    | .error f => OnLine source f.pos ∨ PastEnd source f.pos := by
  have hseen : ∀ t ∈ Lexer.tokens (limits config).string b source,
      Parser.Seen (onLines source) (PastEnd source) t := fun t ht =>
    ⟨Lexer.tokens_located (limits config).string b source t ht, fun _ _ => trivial⟩
  exact Parser.parse_keeps trivial (limits config) b source hseen

theorem simplified_located (config : Config) {source : String} (s : Session) {t : Compiled}
    (hb : StmtsWithin (onLines source) t.body)
    (hf : ∀ f ∈ t.functions, f.Within (onLines source)) :
    let script := Simplify.script config.maxStringSize s t
    StmtsWithin (onLines source) script.body ∧ ∀ f ∈ script.functions, f.Within (onLines source) :=
  Simplify.script_within (Simplify.Known.fits_of_text _ fun _ => trivial) hb hf

theorem Defines.within {config : Config} {source : String} {g : Function}
    (h : Defines config source g) : g.Within (onLines source) := by
  obtain ⟨b, script, b', s, hp, hg⟩ := h
  have hl := parse_located config b source
  rw [hp] at hl
  exact (simplified_located _ s hl.1 hl.2).2 g hg

theorem mem_adopt {s : Session} {fs : List Function} {g : Function}
    (h : g ∈ (s.adopt fs).functions) : g ∈ fs ∨ g ∈ s.functions := by
  rcases List.mem_append.mp h with hg | hg
  · exact .inl hg
  · exact .inr ((List.mem_filter.mp hg).1)

theorem body_sound (bound : Nat) {place : Position → Prop} (known : Function → Prop)
    {body : List Stmt} (hb : ∀ p ∈ stmtsPlaces body, place p) :
    Sound (fun _ => True) known True false place ((evaluator bound).stmts body) :=
  (body_yields .any (fun _ _ _ => trivial) bound ⟨hb, fun _ _ => trivial, fun _ => trivial⟩).sound

theorem functions_run (h : Host σ) (config : Config) (bound : Nat) (source name : String)
    (body : List Stmt) (s : Session) (w : World σ) :
    (World.run h (run config bound source name body s) w).1.2.functions = s.functions := by
  unfold run
  rw [World.run_bind]
  exact ((((any_body_yields bound body).settles s fun _ _ => trivial) { config }).run h w).functions

theorem functions_evaluation (h : Host σ) (config : Config) (bound : Nat) (source name : String)
    (s : Session) (w : World σ) :
    ∀ g ∈ (World.run h (evaluation config bound source name s) w).1.2.functions,
      g ∈ s.functions ∨ Defines config source g := by
  unfold evaluation
  split
  · exact fun g hg => .inl hg
  · rename_i script b hp
    rw [functions_run]
    intro g hg
    rcases mem_adopt hg with hg | hg
    · exact .inr ⟨_, _, _, _, hp, hg⟩
    · exact .inl hg

def Traced (e : Engine σ) (ops : List (Operation σ)) : Prop :=
  ∀ rt, e.runtime = some rt → ∀ g ∈ rt.session.functions,
    ∃ source name, .evaluate source name ∈ ops ∧ Defines e.config source g

namespace Traced

variable {e : Engine σ} {ops : List (Operation σ)}

theorem of_none (h : e.runtime = none) : Traced e ops := by
  intro rt hrt
  rw [h] at hrt
  cases hrt

theorem of_runtime {e' : Engine σ} (h : Traced e ops) (hrt : e'.runtime = e.runtime)
    (hc : e'.config = e.config) : Traced e' ops := by
  intro rt hrt'
  rw [hc]
  exact h rt (hrt.symm.trans hrt')

theorem more (h : Traced e ops) (op : Operation σ) : Traced e (ops ++ [op]) := by
  intro rt hrt g hg
  obtain ⟨source, name, hm, hd⟩ := h rt hrt g hg
  exact ⟨source, name, List.mem_append_left _ hm, hd⟩

theorem evaluate (h : Traced e ops) (source name : String) :
    Traced (e.evaluate source name).2 (ops ++ [.evaluate source name]) := by
  cases hrt : e.runtime with
  | none => exact of_none (by simp only [Engine.evaluate, hrt])
  | some rt =>
    rw [evaluate_of_runtime hrt]
    cases hp : e.world.pending with
    | true =>
      rw [evaluateIn_of_pending rt hp]
      exact (h.more _).of_runtime hrt.symm rfl
    | false =>
      rw [evaluateIn_of_idle rt hp]
      intro rt' hrt' g hg
      cases hrt'
      rcases functions_evaluation rt.host e.config e.bound source name rt.session _ g hg with
        hg | hd
      · exact h.more _ rt hrt g hg
      · exact ⟨source, name, by simp, hd⟩

theorem perform (h : Traced e ops) (op : Operation σ) : Traced (e.perform op) (ops ++ [op]) := by
  cases op with
  | install host =>
    intro rt hrt
    cases hrt
    exact nofun
  | evaluate source name => exact h.evaluate source name
  | interrupt => exact (h.more _).of_runtime rfl rfl
  | destroy => exact of_none (runtime_destroy e)
  | setSink sink => exact (h.more _).of_runtime rfl rfl
  | alter state => exact (h.more _).of_runtime rfl rfl

theorem after (h : Traced e ops) (later : List (Operation σ)) :
    Traced (e.after later) (ops ++ later) := by
  induction later generalizing e ops with
  | nil =>
    rw [List.append_nil]
    exact h
  | cons op later ih =>
    rw [List.append_cons]
    exact ih (h.perform op)

end Traced

theorem traced_history (config : Config) (bound : Nat) (state : σ) (ops : List (Operation σ)) :
    Traced (history config bound state ops) ops := by
  have hnew : Traced { ofConfig config state with bound } [] := .of_none rfl
  exact hnew.after ops

theorem errorAt_eq {source name message : String} {p : Position} {stack : List String}
    {err : ScriptError} (h : errorAt source name message p stack = .script err) :
    err.line = some p.line ∧ err.col = some p.col ∧ err.sourceName = name ∧
      err.excerpt = some (Excerpt.text source p.line p.col) ∧ err.stack = stack := by
  cases h
  exact ⟨rfl, rfl, rfl, rfl, rfl⟩

theorem outcome_script {source name : String} {s : Session} {r : Except Stop Value}
    {err : ScriptError} (h : outcome source name s r = some (.error (.script err))) :
    ∃ f c p, r = .error (.failed f) ∧ f.core = .error c p ∧
      errorAt source name c.message p f.stack = .script err := by
  match r with
  | .ok v => cases h
  | .error (.returned v) => cases h
  | .error (.finished v) => cases h
  | .error (.left ends) => cases h
  | .error .exhausted => cases h
  | .error (.failed f) =>
    simp only [outcome, failureError, Option.some.injEq, Except.error.injEq] at h
    cases hf : f.core with
    | error c p =>
      rw [hf] at h
      exact ⟨f, c, p, rfl, hf, h⟩
    | terminated token =>
      rw [hf] at h
      dsimp only at h
      split at h <;> cases h

theorem error_of_run {h : Host σ} {config : Config} {bound : Nat} {source name : String}
    {body : List Stmt} {s : Session} {w : World σ} {err : ScriptError} {place : Position → Prop}
    (hb : ∀ p ∈ stmtsPlaces body, place p)
    (herr : (World.run h (run config bound source name body s) w).1.1 =
      some (.error (.script err))) :
    ∃ c p, errorAt source name c p err.stack = .script err ∧
      (place p ∨ ∃ g ∈ s.functions, err.stack.head? = some g.name ∧ p ∈ g.places) := by
  unfold run at herr
  rw [World.run_bind] at herr
  obtain ⟨f, c, p, hf, hcore, he⟩ := outcome_script herr
  have hs := body_sound bound (· ∈ s.functions) hb
  have hatt := (((hs.settles s (fun _ hg => hg) { config }).run h w).failure f hf).place
  have hstack := (errorAt_eq he).2.2.2.2
  rw [← hstack] at he
  refine ⟨c.message, p, he, ?_⟩
  rw [hstack]
  rcases hatt c p hcore with ⟨_, hp⟩ | ⟨g, hg, hn, hp⟩
  · exact .inl hp
  · exact .inr ⟨g, hg, hn, hp⟩

/-- What an evaluation reports is at a place of the source, past its end, or at a place of a function
kept in the session. -/
theorem error_of_evaluation {h : Host σ} {config : Config} {bound : Nat} {source name : String}
    {s : Session} {w : World σ} {err : ScriptError}
    (herr : (World.run h (evaluation config bound source name s) w).1.1 =
      some (.error (.script err))) :
    ∃ c p, errorAt source name c p err.stack = .script err ∧
      (OnLine source p ∨
        (∃ b f, Parser.parse (limits config) b source = .error f ∧ f.pos = p ∧
          PastEnd source p) ∨
        ∃ g ∈ s.functions, err.stack.head? = some g.name ∧ p ∈ g.places) := by
  have hl := parse_located config s.afterPeriod source
  unfold evaluation at herr
  cases hparse : Parser.parse (limits config) s.afterPeriod source with
  | error f =>
    rw [hparse] at herr hl
    have he : syntaxError source name f = .script err := by
      simpa only [World.run, Option.some.injEq, Except.error.injEq] using herr
    have hstack := (errorAt_eq he).2.2.2.2
    refine ⟨f.cause.message, f.pos, by rw [hstack]; exact he, ?_⟩
    exact hl.imp id fun hend => .inl ⟨_, f, hparse, rfl, hend⟩
  | ok out =>
    obtain ⟨script, b⟩ := out
    rw [hparse] at herr hl
    obtain ⟨hbody, hfunctions⟩ := simplified_located config s hl.1 hl.2
    obtain ⟨c, p, he, hp⟩ := error_of_run hbody.places herr
    refine ⟨c, p, he, ?_⟩
    rcases hp with hp | ⟨g, hg, hn, hp⟩
    · exact .inl hp
    · rcases mem_adopt hg with hg | hg
      · -- A function adopted just now is one of the source.
        exact .inl ((hfunctions g hg).places p hp)
      · exact .inr (.inr ⟨g, hg, hn, hp⟩)

/-- The place of a script error is one of the source, but that a source may fail to compile past its
end, and that a function kept from an earlier source fails at a place of that one. A text that is
run by `eval` has places of its own; within `try` none of them is reported, and there are no others
here. -/
theorem script_error_location (config : Config) (bound : Nat) (state : σ)
    (ops : List (Operation σ)) (source name : String) (err : ScriptError)
    (herr : ((history config bound state ops).evaluate source name).1 =
      some (.error (.script err))) :
    ∃ p : Position, err.line = some p.line ∧ err.col = some p.col ∧ err.sourceName = name ∧
      err.excerpt = some (Excerpt.text source p.line p.col) ∧
      (Excerpt.Quotes source (Excerpt.text source p.line p.col) p.line p.col ↔
        HasLine source.toList p.line) ∧
      (HasLine source.toList p.line ∨
        (∃ b f, Parser.parse (limits config) b source = .error f ∧ f.pos = p ∧
          p.line = (lines source.toList).length + 1) ∨
        ∃ g earlier name', .evaluate earlier name' ∈ ops ∧ Defines config earlier g ∧
          err.stack.head? = some g.name ∧ p ∈ g.places ∧ HasLine earlier.toList p.line) := by
  have htraced := traced_history config bound state ops
  have hconfig := config_history config bound state ops
  generalize history config bound state ops = e at herr htraced hconfig
  cases hrt : e.runtime with
  | none => simp [evaluate, hrt] at herr
  | some rt =>
    rw [evaluate_of_runtime hrt] at herr
    cases hp : e.world.pending with
    | true =>
      rw [evaluateIn_of_pending rt hp] at herr
      cases herr
    | false =>
      rw [evaluateIn_of_idle rt hp] at herr
      obtain ⟨c, p, he, hplace⟩ := error_of_evaluation herr
      obtain ⟨hline, hcol, hname, hexcerpt, -⟩ := errorAt_eq he
      refine ⟨p, hline, hcol, hname, hexcerpt, Excerpt.quotes_iff source p.line p.col, ?_⟩
      rw [hconfig] at hplace
      refine hplace.imp id fun hplace => hplace.imp id ?_
      rintro ⟨g, hg, hn, hp⟩
      obtain ⟨earlier, name', hop, hd⟩ := htraced rt hrt g hg
      rw [hconfig] at hd
      exact ⟨g, earlier, name', hop, hd, hn, hp, hd.within.places p hp⟩

def scriptError? : Option (Except EvalError String) → Option ScriptError
  | some (.error (.script err)) => some err
  | _ => none

theorem scriptError?_some {r : Option (Except EvalError String)} {err : ScriptError}
    (h : scriptError? r = some err) : r = some (.error (.script err)) := by
  unfold scriptError? at h
  split at h
  · cases h
    rfl
  · cases h

theorem kept_function_misplaced :
    let ops : List (Operation Unit) :=
      [.install fun _ _ => .answer none,
        .evaluate "\n\n\nfn f() \x7b throw 1 \x7d" "a"]
    let e := history {} 100 () ops
    ∃ err p, (e.evaluate "f()" "b").1 = some (.error (.script err)) ∧
      err.sourceName = "b" ∧ err.line = some p.line ∧
      ¬Excerpt.Quotes "f()" (Excerpt.text "f()" p.line p.col) p.line p.col ∧
      ((∃ b f, Parser.parse (limits {}) b "f()" = .error f ∧ f.pos = p ∧
          p.line = (lines "f()".toList).length + 1) ∨
        ∃ g earlier name', .evaluate earlier name' ∈ ops ∧ Defines {} earlier g ∧
          err.stack.head? = some g.name ∧ p ∈ g.places ∧ HasLine earlier.toList p.line) := by
  intro ops e
  let err : ScriptError :=
    { message := "1", sourceName := "b", line := some 4, col := some 10, excerpt := some ""
      stack := ["f"] }
  have herr : (e.evaluate "f()" "b").1 = some (.error (.script err)) :=
    scriptError?_some (by decide +kernel)
  obtain ⟨p, hline, -, hname, -, hquotes, hplace⟩ :=
    script_error_location {} 100 () ops "f()" "b" err herr
  have hp : p.line = 4 := (Option.some.inj hline).symm
  have hno : ¬HasLine "f()".toList p.line := by
    rw [hp]
    unfold HasLine
    decide
  exact ⟨err, p, herr, hname, hline, fun hq => hno (hquotes.mp hq), hplace.resolve_left hno⟩

end ScreenScript.Engine
