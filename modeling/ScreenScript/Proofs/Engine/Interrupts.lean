import ScreenScript.Proofs.Engine.History
import ScreenScript.Proofs.Script.Interrupts

namespace ScreenScript.Engine

open Script

variable {σ : Type}

theorem outcome_cancelled_iff (source name : String) (s : Session) (r : Except Stop Value) :
    outcome source name s r = some (.error .cancelled) ↔ Cancels r := by
  match r with
  | .ok v => simp [outcome, Cancels]
  | .error (.returned v) => simp [outcome, Cancels]
  | .error (.finished v) => simp [outcome, Cancels]
  | .error (.left ends) => simp [outcome, Cancels]
  | .error .exhausted => simp [outcome, Cancels]
  | .error (.failed f) =>
    cases hf : f.core with
    | error c p => simp [outcome, Cancels, failureError, errorAt, hf]
    | terminated token => simp [outcome, Cancels, failureError, hf]

theorem course_run {runs : Prop} (h : Host σ) (config : Config) (bound : Nat)
    (source name : String) {body : List Stmt} {s : Session}
    (hbody : stmtsEvals body = true → runs)
    (hfunctions : ∀ f ∈ s.functions, f.evals = true → runs) {w : World σ}
    (hp : w.pending = false) (hd : w.deadline = none) :
    let p := run config bound source name body s
    ((World.run h p w).1.1 = some (.error .cancelled) →
      ∃ t ∈ World.turns h p w, t.interrupted = true) ∧
    ((∃ t ∈ World.turns h p w, t.interrupted = true) →
      Halted (World.turns h p w) ∧ (¬runs → (World.run h p w).1.1 = some (.error .cancelled))) := by
  intro p
  have hyields : Yields (fun _ => True) (fun f => f.evals = true → runs) runs false
      (fun _ => True) (Value.Within fun _ => True) ((evaluator bound).stmts body) :=
    body_yields .any (fun _ hf => hf) bound ⟨fun _ _ => trivial, fun _ _ => trivial, hbody⟩
  have hmap : World.run h p w = _ ∧ World.turns h p w = _ := World.run_map h _ _ w
  rw [hmap.1, hmap.2]
  dsimp only
  rw [outcome_cancelled_iff]
  have hcourse := Course.of_yields (h := h) hyields { config } s w hfunctions hd
  refine ⟨fun hc => ?_, hcourse.cut hp⟩
  by_contra hn
  exact hcourse.calm hp (fun t hm => Bool.eq_false_iff.mpr fun hi => hn ⟨t, hm, hi⟩) hc

theorem course_evaluate {e : Engine σ} {rt : Runtime σ} (hrt : e.runtime = some rt)
    (hp : e.world.pending = false) (hd : e.world.deadline = none) (source name : String) :
    ((e.evaluate source name).1 = some (.error .cancelled) →
      ∃ t ∈ e.turns source name, t.interrupted = true) ∧
    ((∃ t ∈ e.turns source name, t.interrupted = true) → Halted (e.turns source name) ∧
      (e.evals source = false → (e.evaluate source name).1 = some (.error .cancelled))) := by
  rw [evaluate_of_runtime hrt, evaluateIn_of_idle rt hp]
  simp only [turns, hrt, hp]
  cases hs : e.start? source with
  | none =>
    obtain ⟨f, hf⟩ := of_no_start hrt hp hs
    rw [hf name]
    simp [World.run, World.turns, syntaxError, errorAt]
  | some start =>
    obtain ⟨hrt', -, -, hevaluation⟩ := of_start hs
    obtain rfl : start.1 = rt := by simpa [hrt'] using hrt
    rw [hevaluation name, ← Bool.not_eq_true]
    obtain ⟨hbody, hfunctions⟩ := evals_of_start hs
    exact course_run _ e.config e.bound source name hbody hfunctions hp hd

def interruptingOn (verb : String) (answer : String → Option String) : Host Unit := fun v _ =>
  if v = verb then .interrupt fun _ => .answer (some "true") else .answer (answer v)

/-- After a request the host receives nothing more, but for the second call of typing into a node and
of declaring the size of the screen: these two look at the flag before both calls and after both, and
make the second whatever the host did during the first. -/
theorem calls_after_interrupt (config : Config) (bound : Nat) (state : σ)
    (ops : List (Operation σ)) :
    let e := history config bound state ops
    (∀ source name,
      (e.evaluate source name).2.world.calls =
        World.received e.world.calls (e.turns source name) ∧
      ∀ before t rest, e.turns source name = before ++ t :: rest → t.interrupted = true →
        rest = [] ∨ ∃ u, rest = [u] ∧ Paired t.call u.call) ∧
    ∀ (h : Host σ) (c : Context) (s : Session) (w : World σ) (p : Position),
      w.attached = true → w.pending = false →
      (∀ i text, (w.turn h Verb.click (centre i)).after.attached = true →
        ∃ a u, Api.function? "setText" [.node i, .string text] p = some a ∧
          World.turns h (a c s) w = [w.turn h Verb.click (centre i), u] ∧
          u.call = ⟨Verb.setText, [text]⟩) ∧
      ∀ width height : Int64, 0 < width → 0 < height →
        (w.turn h Verb.deviceWidth []).after.attached = true →
        ∃ a u, Api.function? "setScreenMetrics" [.int width, .int height] p = some a ∧
          World.turns h (a c s) w = [w.turn h Verb.deviceWidth [], u] ∧
          u.call = ⟨Verb.deviceHeight, []⟩ := by
  intro e
  have hd : e.world.deadline = none := deadline_history config bound state ops
  refine ⟨?_, ?_⟩
  · intro source name
    refine ⟨calls_evaluate e source name, fun before t rest hts ht => ?_⟩
    have hm : t ∈ e.turns source name := by simp [hts]
    cases hrt : e.runtime with
    | none => simp [turns, hrt] at hm
    | some rt =>
      cases hp : e.world.pending with
      | true => simp [turns, hrt, hp] at hm
      | false =>
        have hhalted := ((course_evaluate hrt hp hd source name).2 ⟨t, hm, ht⟩).1
        exact hhalted.after_interrupted before rest ht hts
  · intro h c s w p hw hp
    refine ⟨?_, ?_⟩
    · intro i text ha
      obtain ⟨u, hu, hcall⟩ := turns_setText h c.config.settleDelayMs i text hw ha
      exact ⟨_, u, function?_setText i text p, (turns_typeInto h i text c s hp).trans hu, hcall⟩
    · intro width height hwidth hheight ha
      obtain ⟨u, hu, hcall⟩ := turns_deviceSize h hw ha
      exact ⟨_, u, function?_setScreenMetrics width height p,
        (turns_setScreenMetrics h hwidth hheight p c s hp).trans hu, hcall⟩

theorem setText_after_interrupt :
    let host := interruptingOn Verb.click fun _ => some "\x7b\"_text\":\"a\"\x7d"
    let e := history {} 100 () [.install host]
    (∃ before t rest, e.turns "text(\"a\").findOne().setText(\"x\")" "main" = before ++ t :: rest ∧
      t.interrupted = true ∧ rest.map (·.call) = [⟨Verb.setText, ["x"]⟩] ∧
      (rest = [] ∨ ∃ u, rest = [u] ∧ Paired t.call u.call)) ∧
    ∃ a u, Api.function? "setText" [.node {}, .string "x"] ⟨1, 1⟩ = some a ∧
      World.turns host (a { config := {} } {}) e.world =
        [e.world.turn host Verb.click (centre {}), u] ∧ u.call = ⟨Verb.setText, ["x"]⟩ := by
  intro host e
  have hall := calls_after_interrupt {} 100 () [.install host]
  refine ⟨?_, (hall.2 host { config := {} } {} e.world ⟨1, 1⟩ rfl rfl).1 {} "x" rfl⟩
  let ts := e.turns "text(\"a\").findOne().setText(\"x\")" "main"
  have hcalls : (ts.drop 1).map (fun t => (t.call, t.interrupted)) =
      [(⟨Verb.click, ["0", "0"]⟩, true), (⟨Verb.setText, ["x"]⟩, false)] := by
    decide +kernel
  obtain ⟨t, rest, hdrop, ht, hrest⟩ := List.map_eq_cons_iff.mp hcalls
  have hts : ts = ts.take 1 ++ t :: rest := by
    rw [← hdrop, List.take_append_drop]
  have hi : t.interrupted = true := congrArg Prod.snd ht
  have hrest' : rest.map (·.call) = [⟨Verb.setText, ["x"]⟩] := by
    have h := congrArg (List.map Prod.fst) hrest
    rw [List.map_map] at h
    exact h
  exact ⟨ts.take 1, t, rest, hts, hi, hrest', (hall.1 _ _).2 (ts.take 1) t rest hts hi⟩

end ScreenScript.Engine
