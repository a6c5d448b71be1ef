import ScreenScript.Proofs.Script.Evaluation
import ScreenScript.Proofs.Script.Failures

/-!
What becomes of a running script when the host requests an interrupt.
-/

namespace ScreenScript.Script

open Script.Action

variable {σ α β : Type}

/-- Two calls without a look at the interrupt flag between them. -/
inductive Paired : Call → Call → Prop
  | typing (x y text : String) : Paired ⟨Verb.click, [x, y]⟩ ⟨Verb.setText, [text]⟩
  | size : Paired ⟨Verb.deviceWidth, []⟩ ⟨Verb.deviceHeight, []⟩

/-- Turns that end soon after the first request of an interrupt. -/
inductive Halted : List (Turn σ) → Prop
  | last {t : Turn σ} : t.interrupted = true → Halted [t]
  | paired {t u : Turn σ} : Paired t.call u.call → t.interrupted = true → Halted [t, u]
  | later {t : Turn σ} {ts : List (Turn σ)} : t.interrupted = false → Halted ts → Halted (t :: ts)

def Cancels (r : Except Stop α) : Prop :=
  ∃ f token, r = .error (.failed f) ∧ f.core = .terminated token ∧ token ≠ Failure.exitToken

namespace Halted

theorem append {ts us : List (Turn σ)} (hts : ∀ t ∈ ts, t.interrupted = false) (hus : Halted us) :
    Halted (ts ++ us) := by
  induction ts with
  | nil => exact hus
  | cons t ts ih =>
    simp only [List.mem_cons, forall_eq_or_imp] at hts
    exact .later hts.1 (ih hts.2)

theorem after_interrupted {ts : List (Turn σ)} (h : Halted ts) (us vs : List (Turn σ))
    {t : Turn σ} (ht : t.interrupted = true) (hts : ts = us ++ t :: vs) :
    vs = [] ∨ ∃ u, vs = [u] ∧ Paired t.call u.call := by
  -- `us` ends before the first request or at it: what follows the request is read off the
  -- constructor, and what comes before it was not interrupted, against `ht`.
  induction h generalizing us with
  | last h₁ =>
    cases us with
    | nil =>
      simp only [List.nil_append, List.cons.injEq] at hts
      exact .inl hts.2.symm
    | cons u us => simp at hts
  | paired hp h₁ =>
    cases us with
    | nil =>
      simp only [List.nil_append, List.cons.injEq] at hts
      obtain ⟨rfl, rfl⟩ := hts
      exact .inr ⟨_, rfl, hp⟩
    | cons u us =>
      simp only [List.cons_append, List.cons.injEq] at hts
      cases us with
      | nil =>
        simp only [List.nil_append, List.cons.injEq] at hts
        exact .inl hts.2.2.symm
      | cons v us => simp at hts
  | later h₁ _ ih =>
    cases us with
    | nil =>
      simp only [List.nil_append, List.cons.injEq] at hts
      rw [hts.1, ht] at h₁
      cases h₁
    | cons u us =>
      simp only [List.cons_append, List.cons.injEq] at hts
      exact ih us hts.2

end Halted

namespace Cancels

theorem error_iff {s : Stop} : Cancels (.error s : Except Stop α) ↔
    Cancels (.error s : Except Stop β) := by
  simp [Cancels]

theorem not_ok (v : α) : ¬Cancels (.ok v) := by
  rintro ⟨f, token, h, -⟩
  cases h

theorem not_error {c : Cause} {p : Position} :
    ¬Cancels (.error (.failed (.error c p)) : Except Stop α) := by
  rintro ⟨f, token, h, hf, -⟩
  cases h
  cases hf

theorem not_stop {s : Stop} (hs : ∀ f, s ≠ .failed f) : ¬Cancels (.error s : Except Stop α) := by
  rintro ⟨f, token, h, -⟩
  cases h
  exact hs f rfl

theorem not_exit :
    ¬Cancels (.error (.failed (.terminated Failure.exitToken)) : Except Stop α) := by
  rintro ⟨f, token, h, hf, ht⟩
  cases h
  cases hf
  exact ht rfl

theorem cancelled : Cancels (.error (.failed (.terminated Failure.cancelToken)) : Except Stop α) :=
  ⟨_, _, rfl, rfl, by decide⟩

theorem outOf_iff (f : Failure) (name : String) (p : Position) :
    Cancels (.error (.failed (f.outOf name p)) : Except Stop α) ↔
      Cancels (.error (.failed f) : Except Stop α) := by
  cases f with
  | error c q => cases hc : c.isSystemic <;> simp [Cancels, Failure.outOf, Failure.core, hc]
  | terminated token => rfl
  | inFunction n g => simp [Cancels, Failure.outOf, Failure.core]
  | inModule g => simp [Cancels, Failure.outOf, Failure.core]

theorem callOutcome_iff (name : String) (p : Position) (r : Except Stop Value) :
    Cancels (Evaluator.callOutcome name p r) ↔ Cancels r := by
  match r with
  | .error (.returned v) => simp [Evaluator.callOutcome, Cancels]
  | .error (.failed f) => exact outOf_iff f name p
  | .ok v => rfl
  | .error (.finished v) => rfl
  | .error (.left ends) => rfl
  | .error .exhausted => rfl

theorem round_iff (r : Except Stop Value) : Cancels (match r with
    | .ok _ => .ok true
    | .error (.left ends) => .ok (!ends)
    | .error e => .error e : Except Stop Bool) ↔ Cancels r := by
  match r with
  | .error (.left ends) => simp [Cancels]
  | .ok v => simp [Cancels]
  | .error (.failed f) => exact error_iff
  | .error (.returned v) => exact error_iff
  | .error (.finished v) => exact error_iff
  | .error .exhausted => exact error_iff

theorem handled_iff {f : Failure} (hf : ¬Cancels (.error (.failed f) : Except Stop α))
    (r : Except Stop Value) : Cancels (Evaluator.handled f r) ↔ Cancels r := by
  unfold Evaluator.handled
  split
  · simp [Cancels]
  · rename_i p
    refine iff_of_false ?_ not_error
    cases f with
    | error c q => exact not_error
    | _ => exact fun hc => hf (error_iff.mp hc)
  · rfl

theorem not_heard (r : Except Stop Value) : ¬Cancels (Evaluator.heard r) := by
  rintro ⟨f, token, h, -⟩
  exact heard_ne_failed f r h

end Cancels

variable (h : Host σ)

/-- What a run does. The host receives nothing if an interrupt was requested before, and soon nothing
any more once it requests one. That cancels the run, unless a text that is run drops it, and
nothing else does. -/
structure Course (runs : Prop) (p : Program (Except Stop α × Session)) (w : World σ) : Prop where
  still : w.pending = true → World.turns h p w = []
  calm : w.pending = false → (∀ t ∈ World.turns h p w, t.interrupted = false) →
    ¬Cancels (World.run h p w).1.1
  cut : w.pending = false → (∃ t ∈ World.turns h p w, t.interrupted = true) →
    Halted (World.turns h p w) ∧ (¬runs → Cancels (World.run h p w).1.1)

namespace Course

variable {h} {runs : Prop}

theorem quiet {p : Program (Except Stop α × Session)} {w : World σ}
    (ht : World.turns h p w = []) (hr : w.pending = false → ¬Cancels (World.run h p w).1.1) :
    Course h runs p w :=
  ⟨fun _ => ht, fun hp _ => hr hp, fun _ ⟨t, hm, _⟩ => by simp [ht] at hm⟩

theorem done {r : Except Stop α} {s : Session} {w : World σ} (hr : ¬Cancels r) :
    Course h runs (.done (r, s)) w :=
  quiet rfl fun _ => hr

theorem congr {p : Program (Except Stop α × Session)} {q : Program (Except Stop β × Session)}
    {w : World σ} (hp : Course h runs p w) (ht : World.turns h q w = World.turns h p w)
    (hr : Cancels (World.run h q w).1.1 ↔ Cancels (World.run h p w).1.1) : Course h runs q w := by
  obtain ⟨hstill, hcalm, hcut⟩ := hp
  rw [← ht] at hstill hcalm hcut
  rw [← hr] at hcalm hcut
  exact ⟨hstill, hcalm, hcut⟩

/-- A run that goes on with `q` after `p`. -/
theorem next {γ : Type} {p : Program (Except Stop α × Session)}
    {q : Program (Except Stop β × Session)} {x : Program (Except Stop γ × Session)} {w w' : World σ}
    (hd : w.deadline = none) (hp : Course h runs p w) (hw : (World.run h p w).2 = w')
    (hn : ¬Cancels (World.run h p w).1.1) (hq : Course h runs q w')
    (ht : World.turns h x w = World.turns h p w ++ World.turns h q w')
    (hr : Cancels (World.run h x w).1.1 ↔ Cancels (World.run h q w').1.1) :
    Course h runs x w := by
  have hpend := World.pending_run h p w hd
  rw [hw] at hpend
  refine ⟨fun hset => ?_, fun hclear hall => ?_, fun hclear hany => ?_⟩
  · rw [hset, Bool.true_or] at hpend
    rw [ht, hp.still hset, hq.still hpend, List.append_nil]
  · rw [ht] at hall
    rw [List.forall_mem_append] at hall
    have hclear' : w'.pending = false := by
      rw [hpend, hclear, Bool.false_or, List.any_eq_false]
      exact fun t hm => Bool.eq_false_iff.mp (hall.1 t hm)
    exact hr.not.mpr (hq.calm hclear' hall.2)
  · cases hi : (World.turns h p w).any (·.interrupted) with
    -- Whatever asks for something after a request finds the flag set.
    | true =>
      rw [hi, Bool.or_true] at hpend
      obtain ⟨hhalted, hcancels⟩ := hp.cut hclear (List.any_eq_true.mp hi)
      rw [ht, hq.still hpend, List.append_nil]
      exact ⟨hhalted, fun hruns => absurd (hcancels hruns) hn⟩
    | false =>
      rw [hi, hclear, Bool.or_false] at hpend
      rw [List.any_eq_false] at hi
      obtain ⟨t, hm, hti⟩ := hany
      rw [ht, List.mem_append] at hm
      have hm' := hm.resolve_left fun hm => hi t hm hti
      obtain ⟨hhalted, hcancels⟩ := hq.cut hpend ⟨t, hm', hti⟩
      rw [ht, hr]
      exact ⟨hhalted.append fun t hm => Bool.eq_false_iff.mpr (hi t hm), hcancels⟩

theorem bind {a : Action α} {f : α → Action β} {c : Context} {s : Session} {w : World σ}
    (hd : w.deadline = none) (ha : Course h runs (a c s) w)
    (hf : ∀ v s' (w' : World σ), World.run h (a c s) w = ((.ok v, s'), w') →
      w'.deadline = none → Course h runs (f v c s') w') :
    Course h runs ((a >>= f) c s) w := by
  have hd' := World.deadline_run h (a c s) w hd
  generalize hw : World.run h (a c s) w = out at hd'
  obtain ⟨⟨r, s'⟩, w'⟩ := out
  cases r with
  | ok v =>
    obtain ⟨hr, ht⟩ := run_bind_ok f hw
    refine next hd ha (by rw [hw]) ?_ (hf v s' w' hw hd') ht (by rw [hr])
    rw [hw]
    exact Cancels.not_ok v
  | error e =>
    obtain ⟨hr, ht⟩ := run_bind_error f hw
    refine congr ha ht ?_
    rw [hr, hw]
    exact Cancels.error_iff

theorem map {p : Program (Except Stop α × Session)} {g : Except Stop α → Except Stop β}
    {f : Session → Session} {w : World σ} (hg : ∀ r, Cancels (g r) ↔ Cancels r)
    (hp : Course h runs p w) : Course h runs (p.bind fun (r, s) => .done (g r, f s)) w := by
  obtain ⟨hr, ht⟩ := World.run_map h p (fun (r, s) => (g r, f s)) w
  exact congr hp ht (by rw [hr]; exact hg _)

theorem caught {a b : Action Value} {c : Context} {s : Session} {w : World σ}
    (hd : w.deadline = none) (ha : Course h runs (a c s) w)
    (hbare : ∀ f, (World.run h (a c s) w).1.1 = .error (.failed f) →
      ∀ token, f.core = .terminated token → f = .terminated token)
    (hb : ∀ s' (w' : World σ), (World.run h (a c s) w).1.2 = s' → w'.deadline = none →
      Course h runs (b c s') w') : Course h runs (Evaluator.caught a b c s) w := by
  have hd' := World.deadline_run h (a c s) w hd
  generalize hw : World.run h (a c s) w = out at hd' hbare hb
  obtain ⟨⟨r, s'⟩, w'⟩ := out
  rcases catchable_or r with ⟨f, rfl, hf⟩ | hr
  · obtain ⟨hrun, ht⟩ := run_caught b hw hf
    have hn : ¬Cancels (.error (.failed f) : Except Stop Value) := by
      rintro ⟨g, token, hg, hcore, -⟩
      cases hg
      rw [hbare f rfl token hcore] at hf
      cases hf
    refine next hd ha (by rw [hw]) (by rwa [hw]) (hb s' w' rfl hd') ht ?_
    rw [hrun]
    exact Cancels.handled_iff hn _
  · obtain ⟨hrun, ht⟩ := run_uncaught b hw hr
    exact congr ha ht (by rw [hrun, hw])

theorem heard (hruns : runs) {a : Action Value} {c : Context} {s : Session} {w : World σ}
    (ha : Course h runs (a c s) w) :
    Course h runs ((a c s).bind fun (r, s) => .done (Evaluator.heard r, s)) w := by
  obtain ⟨hr, ht⟩ := World.run_map h (a c s) (fun (r, s) => (Evaluator.heard r, s)) w
  refine ⟨fun hset => ht.trans (ha.still hset), fun _ _ => ?_, fun hclear hany => ?_⟩
  · rw [hr]
    exact Cancels.not_heard _
  · rw [ht] at hany ⊢
    exact ⟨(ha.cut hclear hany).1, absurd hruns⟩

theorem heed {c : Context} {s : Session} {w : World σ} : Course h runs (Action.heed c s) w := by
  rw [heed_apply]
  refine quiet rfl fun hp => ?_
  simp only [World.run, hp]
  exact Cancels.not_ok ()

end Course

theorem halted_of_two {t u : Turn σ} {b₁ b₂ : Bool} (hp : Paired t.call u.call)
    (hi : ∃ v ∈ (if b₁ then [t] else []) ++ (if b₂ then [u] else []), v.interrupted = true) :
    Halted ((if b₁ then [t] else []) ++ (if b₂ then [u] else [])) := by
  cases b₁ with
  | false =>
    cases b₂ with
    | false => simp at hi
    | true => exact .last (by simpa using hi)
  | true =>
    cases b₂ with
    | false => exact .last (by simpa using hi)
    | true =>
      cases ht : t.interrupted with
      | true => exact .paired hp ht
      | false => exact .later ht (.last (by simpa [ht] using hi))

theorem turns_ask (verb : String) (args : List String) (next : Option String → Program α)
    (w : World σ) : World.turns h (.ask verb args next) w =
      (if w.attached then [w.turn h verb args] else []) ++
        World.turns h (next (w.call h World.maxReentry verb args).1)
          (w.call h World.maxReentry verb args).2 := by
  simp only [World.turns]
  split <;> rfl

theorem setText_eq (settle : Nat) (i : Node.Info) (text : String) :
    Node.setText settle i text =
      .ask Verb.click [Word.text (Word.saturatingAdd i.bounds.centerX 0),
        Word.text (Word.saturatingAdd i.bounds.centerY 0)] fun _ => .pause settle fun _ =>
      .ask Verb.setText [text] fun r => .done (Answer.bool r) :=
  rfl

theorem deviceSize_eq : Api.deviceSize = .ask Verb.deviceWidth [] fun r =>
    .ask Verb.deviceHeight [] fun r' => .done (Answer.integer r 0, Answer.integer r' 0) :=
  rfl

theorem Section.halted {q : Program α} (hq : Section q) (w : World σ)
    (hi : ∃ t ∈ World.turns h q w, t.interrupted = true) : Halted (World.turns h q w) := by
  cases hq with
  | silent a => simp [World.turns] at hi
  | call verb args f =>
    rw [turns_ask] at hi ⊢
    cases ha : w.attached with
    | true => exact .last (by simpa [ha, World.turns] using hi)
    | false => simp [ha, World.turns] at hi
  | typing settle i text =>
    rw [setText_eq, turns_ask] at hi ⊢
    simp only [World.turns.eq_4, turns_ask, World.turns.eq_1, List.append_nil] at hi ⊢
    exact halted_of_two (.typing _ _ _) hi
  | size =>
    rw [deviceSize_eq, turns_ask] at hi ⊢
    simp only [turns_ask, World.turns.eq_1, List.append_nil] at hi ⊢
    exact halted_of_two .size hi

theorem turns_guarded (q : Program α) (c : Context) (s : Session) {w : World σ}
    (hp : w.pending = false) : World.turns h (guarded q c s) w = World.turns h q w := by
  unfold guarded
  rw [heed_bind, World.turns, hp, if_neg Bool.false_ne_true, perform_bind, World.turns_bind]
  simp only [heed_bind, World.turns]
  split
  · exact List.append_nil _
  · exact List.append_nil _

theorem cancels_guarded {q : Program α} {c : Context} {s : Session} {w : World σ}
    (hp : w.pending = false) (hd : w.deadline = none) :
    Cancels (World.run h (guarded q c s) w).1.1 ↔
      ∃ t ∈ World.turns h q w, t.interrupted = true := by
  have hpend := World.pending_run h q w hd
  rw [hp, Bool.false_or] at hpend
  -- The second look finds the flag set exactly if one of these turns was interrupted.
  rw [guarded_apply, World.run, hp, if_neg Bool.false_ne_true, World.run_bind, World.run, hpend,
    ← List.any_eq_true]
  cases (World.turns h q w).any (·.interrupted) with
  | true => exact iff_of_true Cancels.cancelled rfl
  | false => exact iff_of_false (Cancels.not_ok _) Bool.false_ne_true

namespace Course

variable {h} {runs : Prop}

theorem guarded {q : Program α} (hq : Section q) {c : Context} {s : Session} {w : World σ}
    (hd : w.deadline = none) : Course h runs (Action.guarded q c s) w := by
  refine ⟨fun hp => ?_, fun hp hall => ?_, fun hp hany => ?_⟩
  · rw [guarded_apply, World.turns, hp]
    rfl
  · rw [turns_guarded h q c s hp] at hall
    rw [cancels_guarded h hp hd]
    rintro ⟨t, hm, hi⟩
    exact absurd hi (Bool.eq_false_iff.mp (hall t hm))
  · rw [turns_guarded h q c s hp] at hany ⊢
    exact ⟨hq.halted h w hany, fun _ => (cancels_guarded h hp hd).mpr hany⟩

theorem ask (verb : String) (args : List String) {c : Context} {s : Session} {w : World σ}
    (hd : w.deadline = none) : Course h runs (Api.ask verb args c s) w :=
  bind hd (guarded (.call verb args Answer.bool) hd) fun _ _ _ _ _ => done (Cancels.not_ok _)

theorem declare (width height : Int64) (p : Position) {c : Context} {s : Session} {w : World σ}
    (hd : w.deadline = none) : Course h runs (Api.setScreenMetrics width height p c s) w := by
  unfold Api.setScreenMetrics
  split
  · exact done Cancels.not_error
  · refine bind hd (guarded .size hd) fun size s w _ _ => ?_
    dsimp only
    split
    · exact done (Cancels.not_ok _)
    · exact quiet rfl fun _ => Cancels.not_ok _

theorem of_checkSize (v : Value) (p : Position) (c : Context) (s : Session) {w : World σ} :
    Course h runs (Evaluator.checkSize v p c s) w := by
  rcases checkSize_cases v p c s with ⟨-, hc⟩ | ⟨m, -, hc⟩
  · rw [hc]
    exact done (Cancels.not_ok _)
  · rw [hc]
    exact done Cancels.not_error

theorem of_yields {known : Function → Prop} {inner : Bool} {place : Position → Prop}
    {Q : α → Prop} {a : Action α} (ha : Yields (fun _ => True) known runs inner place Q a) :
    ∀ (c : Context) (s : Session) (w : World σ), (∀ f ∈ s.functions, known f) →
      w.deadline = none → Course h runs (a c s) w := by
  -- Of all steps only `guarded` has turns of its own, also where it asks for a gesture or a size.
  induction ha with
  | pure _ =>
    intro c s w _ _
    exact done (Cancels.not_ok _)
  | bind hy _ iha ihf =>
    intro c s w hs hd
    refine bind hd (iha c s w hs hd) fun v s' w' hw hd' => ?_
    have hended := (hy.settles s hs c).run h w
    rw [hw] at hended
    refine ihf v (hended.value v rfl) c s' w' ?_ hd'
    rw [hended.functions]
    exact hs
  | weaken _ _ ih => exact ih
  | look _ _ ih =>
    intro c s w hs hd
    exact ih s s.within_any hs c s w hs hd
  | read =>
    intro c s w _ _
    exact done (Cancels.not_ok _)
  | fits v _ =>
    intro c s w _ _
    exact of_checkSize v _ c s
  | store pl more _ _ =>
    intro c s w _ _
    exact of_checkSize _ _ c _
  | fail _ =>
    intro c s w _ _
    exact done Cancels.not_error
  | leave hs =>
    intro c s w _ _
    exact done (Cancels.not_stop hs.ne_failed)
  | exit =>
    intro c s w _ _
    exact done Cancels.not_exit
  | heed =>
    intro c s w _ _
    exact heed
  | guarded hq =>
    intro c s w _ hd
    exact guarded hq hd
  | aim g =>
    intro c s w _ hd
    rw [aim_apply]
    exact ask _ _ hd
  | declare width height _ =>
    intro c s w _ hd
    exact declare width height _ hd
  | pause ms =>
    intro c s w _ _
    exact quiet rfl fun _ => Cancels.not_ok _
  | emit m =>
    intro c s w _ _
    exact quiet rfl fun _ => Cancels.not_ok _
  | note e =>
    intro c s w _ _
    exact quiet rfl fun _ => Cancels.not_ok _
  | change _ _ =>
    intro c s w _ _
    exact done (Cancels.not_ok _)
  | native _ _ ih => exact ih
  | property _ _ ih => exact ih
  | afterwards _ _ ih =>
    intro c s w hs hd
    exact map (fun _ => Iff.rfl) (ih c s w hs hd)
  | deeper _ _ ih =>
    intro c s w hs hd
    exact ih _ s w hs hd
  | round _ ih =>
    intro c s w hs hd
    exact map (f := id) Cancels.round_iff (ih c s w hs hd)
  | call _ _ _ ih =>
    intro c s w hs hd
    exact map (f := id) (Cancels.callOutcome_iff _ _) (ih c s w hs hd)
  | caught hy _ iha ihb =>
    intro c s w hs hd
    have hended := (hy.settles s hs c).run h w
    refine caught hd (iha c s w hs hd) (fun f hf => (hended.failure f hf).bare) ?_
    rintro s' w' rfl hd'
    refine ihb c _ w' ?_ hd'
    rw [hended.functions]
    exact hs
  | parsed _ _ _ =>
    intro c s w _ _
    exact done (Cancels.not_ok _)
  | heard hruns _ ih =>
    intro c s w hs hd
    exact heard hruns (ih c s w hs hd)

end Course

theorem turns_bind_quiet {a : Action α} {f : α → Action β} {c : Context} {s : Session}
    {w : World σ} (hf : ∀ v s w, World.turns h (f v c s) w = []) :
    World.turns h ((a >>= f) c s) w = World.turns h (a c s) w := by
  rw [bind_apply, World.turns_bind]
  split
  · rw [hf, List.append_nil]
  · exact List.append_nil _

def centre (i : Node.Info) : List String :=
  [Word.text (Word.saturatingAdd i.bounds.centerX 0),
    Word.text (Word.saturatingAdd i.bounds.centerY 0)]

theorem turns_setText (settle : Nat) (i : Node.Info) (text : String) {w : World σ}
    (hw : w.attached = true) (ha : (w.turn h Verb.click (centre i)).after.attached = true) :
    ∃ u, World.turns h (Node.setText settle i text) w = [w.turn h Verb.click (centre i), u] ∧
      u.call = ⟨Verb.setText, [text]⟩ := by
  have hs (v : World σ) : (v.wait settle).attached = v.attached := by
    obtain ⟨clock, pending, deadline, notes, hw⟩ := v.wait_eq settle
    rw [hw]
  refine ⟨((w.turn h Verb.click (centre i)).after.wait settle).turn h Verb.setText [text], ?_, rfl⟩
  have ht := turns_ask h Verb.setText [text] (fun r => .done (Answer.bool r))
    ((w.turn h Verb.click (centre i)).after.wait settle)
  rw [hs, ha, if_pos rfl] at ht
  rw [setText_eq, turns_ask, hw, if_pos rfl]
  exact congrArg _ ht

theorem turns_deviceSize {w : World σ} (hw : w.attached = true)
    (ha : (w.turn h Verb.deviceWidth []).after.attached = true) :
    ∃ u, World.turns h Api.deviceSize w = [w.turn h Verb.deviceWidth [], u] ∧
      u.call = ⟨Verb.deviceHeight, []⟩ := by
  refine ⟨(w.turn h Verb.deviceWidth []).after.turn h Verb.deviceHeight [], ?_, rfl⟩
  have ht (r : Option String) := turns_ask h Verb.deviceHeight []
    (fun r' => .done (Answer.integer r 0, Answer.integer r' 0))
    (w.turn h Verb.deviceWidth []).after
  rw [deviceSize_eq, turns_ask, hw, if_pos rfl]
  simp only [ha, if_pos] at ht
  exact congrArg _ (ht _)

theorem function?_setText (i : Node.Info) (text : String) (p : Position) :
    Api.function? "setText" [.node i, .string text] p = some (Api.typeInto i text) := by
  have hk : Selector.Kind.ofName? "setText" = none := by decide
  simp [Api.function?, hk, Api.method?, Api.nodeMethod?]

theorem function?_setScreenMetrics (width height : Int64) (p : Position) :
    Api.function? "setScreenMetrics" [.int width, .int height] p =
      some (Api.setScreenMetrics width height p) := by
  have hk : Selector.Kind.ofName? "setScreenMetrics" = none := by decide
  simp [Api.function?, hk, Api.method?, Api.global?, Api.gestureCall?]

theorem turns_typeInto (i : Node.Info) (text : String) (c : Context) (s : Session) {w : World σ}
    (hp : w.pending = false) : World.turns h (Api.typeInto i text c s) w =
      World.turns h (Node.setText c.config.settleDelayMs i text) w := by
  have hr : Api.typeInto i text c s =
    (guarded (Node.setText c.config.settleDelayMs i text) >>= fun b => pure (.bool b)) c s := rfl
  rw [hr, turns_bind_quiet h fun _ _ _ => rfl]
  exact turns_guarded h _ c s hp

theorem turns_setScreenMetrics {width height : Int64} (hw : 0 < width) (hh : 0 < height)
    (p : Position) (c : Context) (s : Session) {w : World σ} (hp : w.pending = false) :
    World.turns h (Api.setScreenMetrics width height p c s) w =
      World.turns h Api.deviceSize w := by
  have hn : ¬(width ≤ 0 ∨ height ≤ 0) := by
    rw [not_or, Int64.not_le, Int64.not_le]
    exact ⟨hw, hh⟩
  unfold Api.setScreenMetrics
  rw [if_neg hn, turns_bind_quiet h, turns_guarded h _ c s hp]
  intro ⟨a, b⟩ s w
  dsimp only
  split <;> rfl

end ScreenScript.Script
