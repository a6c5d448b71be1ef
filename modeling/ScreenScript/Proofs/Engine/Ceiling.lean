import ScreenScript.Proofs.Engine.Isolation
import ScreenScript.Proofs.Script.Bounded
import ScreenScript.Proofs.Script.Concatenation
import ScreenScript.Proofs.Script.Parsing
import ScreenScript.Proofs.Script.Simplifying
import Mathlib.Data.String.Basic

namespace ScreenScript

namespace Script

/-- Texts of at most `limit` bytes, texts that were there before, and what becomes of them when
characters are replaced. -/
inductive Formed (limit : Nat) (before : List String) : String → Prop
  | short {t : String} : t.utf8ByteSize ≤ limit → Formed limit before t
  | old {t : String} : t ∈ before → Formed limit before t
  | replaced {t : String} (i : Nat) (c : Char) : Formed limit before t →
    Formed limit before (String.ofList (t.toList.set i c))

theorem length_le_utf8ByteSize (t : String) : t.length ≤ t.utf8ByteSize := by
  rw [← String.ofList_toList (s := t), String.utf8ByteSize_ofList, String.length_ofList]
  induction t.toList with
  | nil => exact Nat.zero_le _
  | cons c cs ih =>
    have hpos := Char.utf8Size_pos c
    rw [List.length_cons, String.utf8Len_cons]
    omega

namespace Formed

variable {limit : Nat} {before : List String} {t : String}

theorem ceiling (hlimit : limit ≠ 0) (before : List String) : Ceiling limit (Formed limit before) :=
  ⟨hlimit, fun _ => .short, fun _ i c => .replaced i c⟩

theorem trans {earlier : List String} (ht : Formed limit before t)
    (h : ∀ u ∈ before, Formed limit earlier u) : Formed limit earlier t := by
  induction ht with
  | short hsize => exact .short hsize
  | old hmem => exact h _ hmem
  | replaced i c _ ih => exact .replaced i c ih

theorem length_le (ht : Formed limit [] t) : t.length ≤ limit := by
  induction ht with
  | short hsize => exact (length_le_utf8ByteSize _).trans hsize
  | old hmem => cases hmem
  | replaced i c _ ih => rwa [String.length_ofList, List.length_set, String.length_toList]

end Formed

end Script

namespace Engine

open Script

variable {σ : Type} {ok : String → Prop}

/-- The run of a source, before it is said what is reported of it; the fault if there is none. -/
def execution (config : Config) (bound : Nat) (source : String) (s : Session) :
    Except SyntaxFault (Program (Except Stop Value × Session)) :=
  match Parser.parse (limits config) s.afterPeriod source with
  | .error f => .error f
  | .ok (script, afterPeriod) =>
    let script := Simplify.script config.maxStringSize s script
    .ok ((evaluator bound).stmts script.body { config } (prepare s script afterPeriod))

theorem evaluation_eq (config : Config) (bound : Nat) (source name : String) (s : Session) :
    evaluation config bound source name s = match execution config bound source s with
      | .error f =>
        .done (some (.error (syntaxError source name f)), { s with afterPeriod := f.afterPeriod })
      | .ok p => p.bind fun (r, s) => .done (outcome source name s r, s) := by
  unfold evaluation execution
  cases Parser.parse (limits config) s.afterPeriod source with
  | error f => rfl
  | ok out => rfl

def anywhere (ok : String → Prop) : Allowed := { place := fun _ => True, text := ok }

/-- Statements without `eval`. -/
def withoutEval (ok : String → Prop) : Allowed := { anywhere ok with eval := False }

theorem withoutEval_of_anywhere {body : List Stmt} (hbody : StmtsWithin (anywhere ok) body)
    (h : stmtsEvals body = false) : StmtsWithin (withoutEval ok) body :=
  ⟨hbody.places, hbody.texts, fun hb => Bool.false_ne_true (h ▸ hb)⟩

/-- Neither the source nor a function that it finds calls `eval`. -/
def WithoutEval (config : Config) (source : String) (s : Session) : Prop :=
  ∀ script mark, Parser.parse (limits config) s.afterPeriod source = .ok (script, mark) →
    let t := Simplify.script config.maxStringSize s script
    stmtsEvals t.body = false ∧ ∀ f ∈ (prepare s t mark).functions, f.evals = false

theorem withoutEval_of_runtime {e : Engine σ} {rt : Runtime σ} (hrt : e.runtime = some rt)
    (hp : e.world.pending = false) {source : String} (h : e.evals source = false) :
    WithoutEval e.config source rt.session := by
  intro script mark hparse
  simp only [evals, start?, hrt, hp, hparse, Bool.false_eq_true, if_false, Option.any_some,
    Bool.or_eq_false_iff, List.any_eq_false, Bool.not_eq_true] at h
  exact h

theorem parse_within {config : Config} (hok : Ceiling config.memoryLimit ok) {b b' : Bool}
    {source : String} {script : Compiled}
    (hp : Parser.parse (limits config) b source = .ok (script, b')) :
    StmtsWithin (anywhere ok) script.body ∧ ∀ f ∈ script.functions, f.Within (anywhere ok) := by
  have hseen : ∀ t ∈ Lexer.tokens config.memoryLimit b source,
      Parser.Seen (anywhere ok) (fun _ => True) t := fun t ht =>
    ⟨.inl trivial, fun s hs =>
      hok.short s (Lexer.tokens_short config.memoryLimit b source t ht hok.limited s hs)⟩
  have hkeeps := Parser.parse_keeps trivial (limits config) b source hseen
  rw [hp] at hkeeps
  exact hkeeps

theorem knownOf_fits {limit : Nat} (hok : Ceiling limit ok) {s : Session} (hs : s.Within ok) :
    (Simplify.knownOf limit s).Fits (anywhere ok) := by
  constructor
  · intro x v hv
    rcases List.mem_append.mp hv with hv | hv
    · obtain ⟨y, hy, hyv⟩ := List.mem_map.mp hv
      obtain ⟨-, hyv⟩ := Prod.mk.injEq .. ▸ hyv
      split at hyv
      · cases hyv
        exact hs.scope y hy
      · cases hyv
    · obtain ⟨n, -, hn⟩ := List.mem_map.mp hv
      cases hn
      exact Value.within_namespaceObject
  · intro v hv
    -- What simplifying computes in advance it keeps only if it is well below the limit.
    have hle : (Operator.size v).string ≤ limit := by
      have := hok.limited
      simp only [Simplify.knownOf] at hv
      omega
    exact (Value.within_of_size hle).mono hok.short

theorem execution_bounded {config : Config} (hok : Ceiling config.memoryLimit ok) {bound : Nat}
    {source : String} {s : Session} (hs : s.Within ok)
    {p : Program (Except Stop Value × Session)} (hp : execution config bound source s = .ok p)
    (heval : WithoutEval config source s) :
    p.Ensures (Ends ok (·.evals = false) (Value.Within ok)) := by
  unfold execution at hp
  split at hp
  · cases hp
  · rename_i script afterPeriod hparse
    obtain ⟨hbody, hfunctions⟩ := parse_within hok hparse
    have hsimple := Simplify.script_within (knownOf_fits hok hs) hbody hfunctions
    cases hp
    have heval' := heval script afterPeriod hparse
    have hyields : Yields ok (·.evals = false) False false (fun _ => True) (Value.Within ok)
        ((evaluator bound).stmts _) :=
      body_yields hok.closed (fun _ (hf : _ = false) h => Bool.false_ne_true (hf ▸ h)) bound
        (withoutEval_of_anywhere hsimple.1 heval'.1)
    refine hyields.bounded hok _ _ rfl ⟨⟨hs.scope, fun f hf => ?_⟩, heval'.2⟩
    rcases List.mem_append.mp hf with hf | hf
    · exact (hsimple.2 f hf).2
    · exact hs.functions f (List.mem_filter.mp hf).1

def endValue? : Except Stop Value → Option Value
  | .ok v => some v
  | .error (.returned v) => some v
  | .error (.finished v) => some v
  | .error (.left _) => some .unit
  | .error (.failed _) => none
  | .error .exhausted => none

theorem outcome_ok {source name text : String} {s : Session} {r : Except Stop Value}
    (h : outcome source name s r = some (.ok text)) :
    ∃ v, endValue? r = some v ∧ text = v.completion s.selectors := by
  match r with
  | .ok v => exact ⟨v, rfl, by cases h; rfl⟩
  | .error (.returned v) => exact ⟨v, rfl, by cases h; rfl⟩
  | .error (.finished v) => exact ⟨v, rfl, by cases h; rfl⟩
  | .error (.left _) => exact ⟨.unit, rfl, by cases h; rfl⟩
  | .error (.failed f) => cases h
  | .error .exhausted => cases h

theorem endValue?_within {r : Except Stop Value} {s : Session}
    (hr : Ends ok (·.evals = false) (Value.Within ok) (r, s)) {v : Value}
    (hv : endValue? r = some v) :
    v.Within ok := by
  match r with
  | .ok v => cases hv; exact hr.1
  | .error (.returned v) => cases hv; exact hr.1
  | .error (.finished v) => cases hv; exact hr.1
  | .error (.left _) => cases hv; exact Value.within_unit
  | .error (.failed f) => cases hv
  | .error .exhausted => cases hv

def Oversize (r : Option (Except EvalError String)) : Prop :=
  ∃ err, r = some (.error (.script err)) ∧ err.message = (Cause.tooLarge .string).message

theorem outcome_oversize {f : Failure} (hf : f.Oversize) (source name : String) (s : Session) :
    Oversize (outcome source name s (.error (.failed f))) := by
  obtain ⟨p, hp⟩ := hf
  change Oversize (some (.error (failureError source name f)))
  unfold failureError
  rw [hp]
  exact ⟨_, rfl, rfl⟩

theorem session_of_ends {r : Except Stop Value} {s : Session}
    (hr : Ends ok (·.evals = false) (Value.Within ok) (r, s)) (source name : String) :
    s.Within ok ∨ Oversize (outcome source name s r) ∧ s.Spilt ok := by
  match r with
  | .ok v => exact .inl hr.2.within
  | .error (.returned v) => exact .inl hr.2.within
  | .error (.finished v) => exact .inl hr.2.within
  | .error (.left _) => exact .inl hr.within
  | .error (.failed f) => 
    refine hr.imp (·.within) fun ⟨⟨p, hp⟩, hs⟩ => ⟨outcome_oversize ⟨p, ?_⟩ source name s, hs⟩
    rw [hp]
    rfl
  | .error .exhausted => exact .inl hr.within

def value? (e : Engine σ) (source name : String) : Option Value :=
  match e.runtime with
  | some rt =>
    if e.world.pending then none
    else
      match execution e.config e.bound source rt.session with
      | .error _ => none
      | .ok p => endValue? (World.run rt.host p (e.world.note (started name))).1.1
  | none => none

def texts (e : Engine σ) : List String :=
  match e.runtime with
  | some rt => rt.session.texts
  | none => []

theorem texts_of_runtime {e : Engine σ} {rt : Runtime σ} (h : e.runtime = some rt) :
    e.texts = rt.session.texts := by
  simp only [texts, h]

theorem texts_of_none {e : Engine σ} (h : e.runtime = none) : e.texts = [] := by
  simp only [texts, h]

structure Kept (ok : String → Prop) (v? : Option Value) (r : Option (Except EvalError String))
    (s : Session) : Prop where
  value : ∀ text, r = some (.ok text) → ∃ v, v? = some v ∧ text = v.completion s.selectors
  within : ∀ v, v? = some v → v.Within ok
  session : s.Within ok ∨ Oversize r ∧ s.Spilt ok

theorem Kept.idle {r : Option (Except EvalError String)} (hr : ∀ text, r ≠ some (.ok text))
    {s : Session} (hs : s.Within ok) : Kept ok none r s where
  value text h := absurd h (hr text)
  within v h := by cases h
  session := .inl hs

theorem execution_kept {config : Config} (hok : Ceiling config.memoryLimit ok) (bound : Nat)
    {source : String} (name : String) {s : Session} (hs : s.Within ok)
    (heval : WithoutEval config source s) (h : Host σ) (w : World σ) :
    let out := (World.run h (evaluation config bound source name s) w).1
    Kept ok (match execution config bound source s with
      | .error _ => none
      | .ok p => endValue? (World.run h p w).1.1) out.1 out.2 := by
  rw [evaluation_eq]
  cases hp : execution config bound source s with
  | error f => exact .idle (by simp [World.run]) (hs.of_same rfl rfl)
  | ok p =>
    have hends := (execution_bounded hok hs hp heval).run h w
    dsimp only
    rw [World.run_bind]
    exact ⟨fun text h => outcome_ok h, fun v hv => endValue?_within hends hv,
      session_of_ends hends source name⟩

theorem evaluate_kept {e : Engine σ} (hok : Ceiling e.config.memoryLimit ok)
    (he : ∀ t ∈ e.texts, ok t) {source : String} (heval : e.evals source = false)
    (name : String) :
    ∃ s, (e.evaluate source name).2.texts = s.texts ∧
      Kept ok (e.value? source name) (e.evaluate source name).1 s := by
  cases hrt : e.runtime with
  | none =>
    have hv : e.value? source name = none := by simp only [value?, hrt]
    have hout : e.evaluate source name = (some (.error .notInitialized), e) := by
      simp only [evaluate, hrt]
    rw [hv, hout]
    refine ⟨{}, texts_of_none hrt, .idle (by simp) ⟨List.forall_mem_nil _, List.forall_mem_nil _⟩⟩
  | some rt =>
    have hs : rt.session.Within ok := Session.within_iff.mpr (texts_of_runtime hrt ▸ he)
    rw [evaluate_of_runtime hrt]
    cases hp : e.world.pending with
    | true =>
      have hv : e.value? source name = none := by simp only [value?, hrt, hp, if_true]
      rw [hv, evaluateIn_of_pending rt hp]
      exact ⟨rt.session, rfl, .idle (by simp) hs⟩
    | false =>
      have hkept := execution_kept hok e.bound name hs (withoutEval_of_runtime hrt hp heval) rt.host
        (e.world.note (started name))
      rw [evaluateIn_of_idle rt hp]
      refine ⟨_, rfl, ?_⟩
      simp only [value?, hrt, hp, Bool.false_eq_true, if_false]
      exact hkept

def evalsIn (e : Engine σ) : Operation σ → Bool
  | .evaluate source _ => e.evals source
  | _ => false

def evalsAmong (e : Engine σ) : List (Operation σ) → Bool
  | [] => false
  | op :: ops => e.evalsIn op || (e.perform op).evalsAmong ops

theorem perform_within {e : Engine σ} (hok : Ceiling e.config.memoryLimit ok)
    (he : ∀ t ∈ e.texts, ok t) {op : Operation σ} (heval : e.evalsIn op = false)
    (hop : ∀ r, e.result op = some r → ¬Oversize r) : ∀ t ∈ (e.perform op).texts, ok t := by
  cases op with
  | install host => exact List.forall_mem_nil _
  | evaluate source name =>
    obtain ⟨s, htexts, hkept⟩ := evaluate_kept hok he heval name
    have hs := hkept.session.resolve_right fun h => hop _ rfl h.1
    rw [show (e.perform (.evaluate source name)).texts = s.texts from htexts]
    exact Session.within_iff.mp hs
  | interrupt => exact he
  | destroy =>
    rw [show (e.perform .destroy).texts = [] from texts_of_none (runtime_destroy e)]
    exact List.forall_mem_nil _
  | setSink sink => exact he
  | alter state => exact he

theorem after_within {e : Engine σ} (hok : Ceiling e.config.memoryLimit ok)
    (he : ∀ t ∈ e.texts, ok t) {ops : List (Operation σ)} (heval : e.evalsAmong ops = false)
    (hops : ∀ r, some r ∈ e.results ops → ¬Oversize r) : ∀ t ∈ (e.after ops).texts, ok t := by
  induction ops generalizing e with
  | nil => exact he
  | cons op ops ih =>
    -- The limit is part of the configuration, which no operation changes.
    rw [evalsAmong, Bool.or_eq_false_iff] at heval
    refine ih (config_perform e op ▸ hok) (perform_within hok he heval.1 fun r hr => ?_) heval.2
      fun r hr => ?_
    · exact hops r (List.mem_cons.mpr (.inl hr.symm))
    · exact hops r (List.mem_cons_of_mem _ hr)

/-- With a limit on memory, and as long as no evaluation calls `eval` and none fails for too long a
text, texts have at most as many bytes as the limit says, and more only where a character was
replaced by a longer one; they never have more characters. An evaluation adds to the texts that are
there, and yields, nothing but such texts; one that fails for too long a text may leave one text
that it made longer. With any limit but zero too long a sum of texts is refused, and what is refused
is reported as an error of the script: of all that catches, only a text that is run drops it. -/
theorem memory_ceiling (config : Config) (hlimit : config.memoryLimit ≠ 0) (bound : Nat) (state : σ)
    (past : List (Operation σ)) :
    let limit := config.memoryLimit
    let start := { ofConfig config state with bound }
    let e := history config bound state past
    (start.evalsAmong past = false → (∀ r, some r ∈ start.results past → ¬Oversize r) →
      ∀ t ∈ e.texts, Formed limit [] t ∧ t.length ≤ limit) ∧
    (∀ source name, e.evals source = false →
      (∀ text, (e.evaluate source name).1 = some (.ok text) → ∃ v selectors,
        e.value? source name = some v ∧ text = v.completion selectors ∧
          ∀ t ∈ v.texts, Formed limit e.texts t) ∧
      ((∀ t ∈ (e.evaluate source name).2.texts, Formed limit e.texts t) ∨
        Oversize (e.evaluate source name).1 ∧ ∃ old more, Formed limit e.texts old ∧
          ∀ t ∈ (e.evaluate source name).2.texts, Formed limit e.texts t ∨ t = old ++ more)) ∧
    (∀ g : Evaluator, g.Concatenates) ∧
    ∀ f : Failure, f.Oversize →
      ∀ source name s, Oversize (outcome source name s (.error (.failed f))) := by
  intro limit start e
  refine ⟨fun heval hpast t ht => ?_, fun source name heval => ?_, Evaluator.concatenates,
    fun f hf source name s => outcome_oversize hf source name s⟩
  · have hformed : Formed limit [] t :=
      after_within (Formed.ceiling hlimit []) (List.forall_mem_nil _) heval hpast t ht
    exact ⟨hformed, hformed.length_le⟩
  · have hok : Ceiling e.config.memoryLimit (Formed limit e.texts) := by
      rw [config_history]
      exact Formed.ceiling hlimit e.texts
    obtain ⟨s, htexts, hkept⟩ := evaluate_kept hok (fun _ => .old) heval name
    rw [htexts]
    refine ⟨fun text htext => ?_, ?_⟩
    · obtain ⟨v, hv, hcompletion⟩ := hkept.value text htext
      exact ⟨v, _, hv, hcompletion, hkept.within v hv⟩
    · refine hkept.session.imp Session.within_iff.mp fun ⟨hover, old, more, hold, hs⟩ => ?_
      exact ⟨hover, old, more, hold, Session.within_iff.mp hs⟩

def oversize? (r : Option (Except EvalError String)) : Bool :=
  match r with
  | some (.error (.script err)) => err.message = (Cause.tooLarge .string).message
  | _ => false

theorem oversize?_of {r : Option (Except EvalError String)} (h : Oversize r) :
    oversize? r = true := by
  obtain ⟨err, rfl, hmessage⟩ := h
  exact decide_eq_true hmessage

/-- Four bytes are enough for "abc" and "abcd", and "abc2345" stays behind all the same; a text that
is run leaves it without a word. -/
theorem four_byte_ceiling :
    let config : Config := { memoryLimit := 4 }
    let past : List (Operation Unit) :=
      [.install fun _ _ => .answer none, .evaluate "let s = \"ab\" + 'c'" "a"]
    let e := history config 100 () past
    config.memoryLimit ≠ 0 ∧ e.texts = ["abc"] ∧ (∀ t ∈ e.texts, Formed 4 [] t ∧ t.length ≤ 4) ∧
      (∃ v selectors, e.value? "s + \"d\"" "b" = some v ∧ "abcd" = v.completion selectors ∧
        ∀ t ∈ v.texts, Formed 4 e.texts t) ∧
      ((e.evaluate "s += 2345" "b").2.texts = ["abc2345"] ∧
        Oversize (e.evaluate "s += 2345" "b").1) ∧
      let run := "s += 1; try \x7b eval(\"s+=2\") \x7d catch \x7b\x7d"
      e.evals run = true ∧ (e.evaluate run "b").2.texts = ["abc12"] ∧
        (e.evaluate run "b").1 = some (.ok "undefined") := by
  intro config past e
  have hlimit : config.memoryLimit ≠ 0 := by decide
  obtain ⟨hheld, hnext, -, -⟩ := memory_ceiling config hlimit 100 () past
  have hpast : ({ ofConfig config () with bound := 100 } : Engine Unit).evalsAmong past = false ∧
      ∀ r, some r ∈ results { ofConfig config () with bound := 100 } past → ¬Oversize r := by
    refine ⟨by decide +kernel, fun r hr hover => ?_⟩
    have hall : (results { ofConfig config () with bound := 100 } past).all
        (fun r => !r.any oversize?) = true := by decide +kernel
    have hr := List.all_eq_true.mp hall _ hr
    rw [Option.any_some, oversize?_of hover] at hr
    cases hr
  have htexts : e.texts = ["abc"] := by decide +kernel
  have hafter : (e.evaluate "s += 2345" "b").2.texts = ["abc2345"] := by decide +kernel
  have hformed := hheld hpast.1 hpast.2
  refine ⟨hlimit, htexts, hformed, ?_, ⟨hafter, ?_⟩, ?_⟩
  · exact (hnext "s + \"d\"" "b" (by decide +kernel)).1 "abcd" (okText?_some (by decide +kernel))
  · refine ((hnext "s += 2345" "b" (by decide +kernel)).2.resolve_left fun hnew => ?_).1
    have hlong := hnew "abc2345" (by rw [hafter]; exact List.mem_singleton_self _)
    have hshort := (hlong.trans fun u hu => (hformed u hu).1).length_le
    exact absurd hshort (by decide)
  · exact ⟨by decide +kernel, by decide +kernel, okText?_some (by decide +kernel)⟩

end Engine

end ScreenScript
