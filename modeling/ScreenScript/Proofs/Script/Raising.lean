import ScreenScript.Proofs.Script.Evaluation
import ScreenScript.Proofs.Script.Failures

/-!
Where in a script a failure is raised, and what becomes of it on its way out. It leaves the calls of
functions around it one by one, the innermost first. Handlers around it may catch it and throw it
once more, and nothing else that surrounds it changes it.
-/

namespace ScreenScript.Script

open Script.Action

variable {σ α β : Type}

namespace Failure

inductive Wrapper where
  | function (name : String)
  | module

namespace Wrapper

def around : Wrapper → Failure → Failure
  | function name, f => inFunction name f
  | module, f => inModule f

def function? : Wrapper → Option String
  | function name => some name
  | module => none

end Wrapper

/-- The failure inside some functions and modules, the outermost first. -/
def within (f : Failure) (ws : List Wrapper) : Failure :=
  ws.foldr Wrapper.around f

theorem core_within (f : Failure) (ws : List Wrapper) : (f.within ws).core = f.core := by
  induction ws with
  | nil => rfl
  | cons w ws ih =>
    cases w with
    | function name => exact ih
    | module => exact ih

/-- The failure outside some calls of functions, the outermost first. -/
def through (f : Failure) (calls : List (String × Position)) : Failure :=
  calls.foldr (fun x f => f.outOf x.1 x.2) f

theorem through_terminated (token : String) (calls : List (String × Position)) :
    (terminated token).through calls = terminated token := by
  induction calls with
  | nil => rfl
  | cons x calls ih =>
    simp only [through, List.foldr_cons] at ih ⊢
    rw [ih]
    rfl

theorem through_systemic {c : Cause} (hc : c.isSystemic = true) (p : Position)
    (calls : List (String × Position)) :
    (error c p).through calls = error c ((calls.head?.map (·.2)).getD p) := by
  induction calls with
  | nil => rfl
  | cons x calls ih =>
    simp only [through, List.foldr_cons] at ih ⊢
    rw [ih]
    simp only [outOf, hc, if_true]
    rfl

theorem through_error {c : Cause} (hc : c.isSystemic = false) (p : Position)
    (calls : List (String × Position)) :
    (error c p).through calls = (error c p).within (calls.map fun x => .function x.1) := by
  induction calls with
  | nil => rfl
  | cons x calls ih =>
    simp only [through, List.foldr_cons] at ih ⊢
    rw [ih]
    cases calls with
    | nil =>
      change (if c.isSystemic then _ else _) = _
      rw [hc]
      rfl
    | cons y calls => rfl

/-- The failure as it is thrown once more, outside some calls. The place stays with the innermost. -/
def again (f : Failure) (p : Position) : List (String × Position) → Failure
  | [] => f.rethrown p
  | _ :: _ => f

theorem through_again (f : Failure) (p : Position) (calls : List (String × Position))
    (hf : (f.through calls).isCatchable = true) :
    (f.again p calls).through calls = (f.through calls).rethrown p := by
  cases calls with
  | nil => rfl
  | cons x calls =>
    change ((f.through calls).outOf x.1 x.2).isCatchable = true at hf
    change (f.through calls).outOf x.1 x.2 = ((f.through calls).outOf x.1 x.2).rethrown p
    cases hg : f.through calls with
    | error c q =>
      cases hc : c.isSystemic with
      | true =>
        simp only [hg, outOf, hc, isCatchable, if_true] at hf
        cases hf
      | false => simp [outOf, hc, rethrown]
    | terminated token =>
      rw [hg] at hf
      cases hf
    | inFunction name g => rfl
    | inModule g => rfl

/-- A failure that no function was left with yet. -/
inductive Bare : Failure → Prop
  | error (c : Cause) (p : Position) : Bare (error c p)
  | exit : Bare (terminated exitToken)
  | cancel : Bare (terminated cancelToken)

theorem Bare.again {f : Failure} (hf : f.Bare) (p : Position) (calls : List (String × Position)) :
    (f.again p calls).Bare := by
  cases calls with
  | nil =>
    cases hf with
    | error c q => exact .error c p
    | exit => exact .exit
    | cancel => exact .cancel
  | cons x calls => exact hf

theorem Bare.eq_of_core {f : Failure} (hf : f.Bare) {calls : List (String × Position)} {c : Cause}
    {p : Position} (hc : c.isSystemic = false) (hcore : (f.through calls).core = .error c p) :
    f = Failure.error c p := by
  cases hf with
  | error c' q =>
    cases hc' : c'.isSystemic with
    | true =>
      rw [through_systemic hc'] at hcore
      cases hcore
      rw [hc] at hc'
      cases hc'
    | false =>
      rw [through_error hc', core_within] at hcore
      cases hcore
      rfl
  | exit =>
    rw [through_terminated] at hcore
    cases hcore
  | cancel =>
    rw [through_terminated] at hcore
    cases hcore

theorem Bare.of_through_thrown {f : Failure} (hf : f.Bare) {calls : List (String × Position)}
    {v : Value} {p : Position} (h : f.through calls = .error (.thrown v) p) :
    calls = [] ∧ f = .error (.thrown v) p := by
  have hthrown : f = .error (.thrown v) p := hf.eq_of_core rfl (by rw [h]; rfl)
  subst hthrown
  rw [through_error rfl] at h
  cases calls with
  | nil => exact ⟨rfl, rfl⟩
  | cons x calls => cases h

end Failure

/-- The step `a`, run from `c`, `s` and `w`, comes to raise `f` inside calls of the given functions
at the given places, the outermost first. No handler and no text that is run keeps it back. -/
inductive Raises (h : Host σ) : Failure → {α : Type} → List (String × Position) → Action α →
    Context → Session → World σ → Prop
  | here {α f c s w} : Raises h f [] (failWith (α := α) f) c s w
  | first {α β f calls c s w} {a : Action α} {k : α → Action β} :
    Raises h f calls a c s w → Raises h f calls (a >>= k) c s w
  | next {α β f calls c s w s' w' v} {a : Action α} {k : α → Action β} :
    World.run h (a c s) w = ((.ok v, s'), w') → Raises h f calls (k v) c s' w' →
    Raises h f calls (a >>= k) c s w
  | afterwards {α f calls c s w} (g : Session → Session) {a : Action α} :
    Raises h f calls a c s w → Raises h f calls (afterwards g a) c s w
  | deeper {α f calls c s w} (g : Context → Context) {a : Action α} :
    Raises h f calls a (g c) s w → Raises h f calls (withReader g a) c s w
  | round {f calls c s w} {a : Action Value} :
    Raises h f calls a c s w → Raises h f calls (Evaluator.round a) c s w
  | call {f calls c s w} (name : String) (p : Position) {a : Action Value} :
    Raises h f calls a c s w → Raises h f ((name, p) :: calls) (fun c s => (a c s).bind
      fun (r, s) => .done (Evaluator.callOutcome name p r, s)) c s w
  | uncaught {f calls c s w} {a b : Action Value} : (f.through calls).isCatchable = false →
    Raises h f calls a c s w → Raises h f calls (Evaluator.caught a b) c s w
  | handler {f g calls c s w s' w'} {a b : Action Value} :
    World.run h (a c s) w = ((.error (.failed g), s'), w') → g.isCatchable = true →
    (∀ p, f.through calls ≠ .error (.thrown .unit) p) → Raises h f calls b c s' w' →
    Raises h f calls (Evaluator.caught a b) c s w
  | again {f calls c s w s' w' p} {a b : Action Value} : (f.through calls).isCatchable = true →
    Raises h f calls a c s w →
    World.run h (a c s) w = ((.error (.failed (f.through calls)), s'), w') →
    Raises h (.error (.thrown .unit) p) [] b c s' w' →
    Raises h (f.again p calls) calls (Evaluator.caught a b) c s w

theorem handled_other {f g : Failure} (hg : ∀ p, g ≠ .error (.thrown .unit) p) :
    Evaluator.handled f (.error (.failed g)) = .error (.failed g) := by
  unfold Evaluator.handled
  split
  · rename_i heq
    cases heq
  · rename_i p heq
    cases heq
    exact absurd rfl (hg p)
  · rfl

theorem Raises.run {h : Host σ} {f : Failure} {calls : List (String × Position)} {a : Action α}
    {c : Context} {s : Session} {w : World σ} (hf : Raises h f calls a c s w) :
    ∃ s' w', World.run h (a c s) w = ((.error (.failed (f.through calls)), s'), w') := by
  induction hf with
  | here => exact ⟨_, _, rfl⟩
  | first _ ih =>
    obtain ⟨s', w', hr⟩ := ih
    exact ⟨s', w', (run_bind_error _ hr).1⟩
  | next ha _ ih =>
    obtain ⟨s', w', hr⟩ := ih
    exact ⟨s', w', (run_bind_ok _ ha).1.trans hr⟩
  | afterwards g _ ih =>
    obtain ⟨s', w', hr⟩ := ih
    refine ⟨g s', w', (World.run_bind h _ _ _).trans ?_⟩
    rw [hr]
    rfl
  | deeper g _ ih => exact ih
  | round _ ih =>
    obtain ⟨s', w', hr⟩ := ih
    refine ⟨s', w', (World.run_bind h _ _ _).trans ?_⟩
    rw [hr]
    rfl
  | call name p _ ih =>
    obtain ⟨s', w', hr⟩ := ih
    refine ⟨s', w', (World.run_bind h _ _ _).trans ?_⟩
    rw [hr]
    rfl
  | @uncaught _ _ _ _ _ _ b hf _ ih =>
    obtain ⟨s', w', hr⟩ := ih
    refine ⟨s', w', (run_uncaught b hr fun g hg => ?_).1⟩
    cases hg
    exact hf
  | @handler _ _ _ _ _ _ _ _ _ b ha hg hother _ ih =>
    obtain ⟨s', w', hr⟩ := ih
    refine ⟨s', w', (run_caught b ha hg).1.trans ?_⟩
    rw [hr]
    exact congrArg (fun r => ((r, s'), w')) (handled_other hother)
  | @again f calls _ _ _ _ _ p _ b hf _ ha _ _ ihb =>
    obtain ⟨s', w', hr⟩ := ihb
    refine ⟨s', w', (run_caught b ha hf).1.trans ?_⟩
    rw [hr, Failure.through_again f p calls hf]
    rfl

section

variable {h : Host σ} {c : Context} {s s' t : Session} {w w' u : World σ} {p : Position}

end

def Explained (h : Host σ) (a : Action α) (c : Context) (s : Session) (w : World σ) : Prop :=
  ∀ g, (World.run h (a c s) w).1.1 = .error (.failed g) →
    ∃ f calls, f.Bare ∧ Raises h f calls a c s w

namespace Explained

variable {h : Host σ} {c : Context} {s : Session} {w : World σ}

theorem of_ok {a : Action α} {v : α} (ha : (World.run h (a c s) w).1.1 = .ok v) :
    Explained h a c s w := by
  intro g hg
  rw [ha] at hg
  cases hg

theorem of_stop {e : Stop} (he : ∀ f, e ≠ .failed f) : Explained h (stop (α := α) e) c s w :=
  fun g hg => absurd (Except.error.inj hg) (he g)

theorem failWith {f : Failure} (hf : f.Bare) : Explained h (failWith (α := α) f) c s w :=
  fun _ _ => ⟨f, [], hf, .here⟩

theorem bind {a : Action α} {k : α → Action β} (ha : Explained h a c s w)
    (hk : ∀ v s' (w' : World σ), World.run h (a c s) w = ((.ok v, s'), w') →
      Explained h (k v) c s' w') : Explained h (a >>= k) c s w := by
  intro g hg
  generalize hw : World.run h (a c s) w = out at ha
  obtain ⟨⟨r, s'⟩, w'⟩ := out
  cases r with
  | ok v =>
    rw [(run_bind_ok k hw).1] at hg
    obtain ⟨f, calls, hf, hr⟩ := hk v s' w' hw g hg
    exact ⟨f, calls, hf, .next hw hr⟩
  | error e =>
    rw [(run_bind_error k hw).1] at hg
    have hfailed : e = .failed g := Except.error.inj hg
    obtain ⟨f, calls, hf, hr⟩ := ha g (by rw [hw, hfailed])
    exact ⟨f, calls, hf, .first hr⟩

theorem perform (q : Program α) : Explained h (perform q) c s w := by
  have hr := World.run_bind h q (fun a => .done ((.ok a, s) : Except Stop α × Session)) w
  exact of_ok (congrArg (·.1.1) hr)

theorem pure (v : α) : Explained h (pure v : Action α) c s w :=
  of_ok rfl

theorem heed : Explained h heed c s w := by
  refine .bind (.perform _) fun b s w _ => ?_
  cases b with
  | true => exact .failWith .cancel
  | false => exact .pure ()

theorem guarded (q : Program α) : Explained h (guarded q) c s w :=
  .bind .heed fun _ _ _ _ => .bind (.perform q) fun _ _ _ _ => .bind .heed fun _ _ _ _ => .pure _

theorem ask (verb : String) (args : List String) : Explained h (Api.ask verb args) c s w :=
  .bind (.guarded _) fun _ _ _ _ => .pure _

theorem modifyGet (g : Session → α × Session) : Explained h (modifyGet g : Action α) c s w :=
  of_ok rfl

theorem checkSize (v : Value) (p : Position) : Explained h (Evaluator.checkSize v p) c s w := by
  refine .bind (a := read) (of_ok rfl) fun config s w _ => ?_
  dsimp only
  split
  · exact .failWith (.error _ _)
  · exact .pure ()

theorem declare (width height : Int64) (p : Position) :
    Explained h (Api.setScreenMetrics width height p) c s w := by
  unfold Api.setScreenMetrics
  split
  · exact .failWith (.error _ _)
  · refine .bind (.guarded _) fun size s w _ => ?_
    dsimp only
    split
    · exact .bind (.modifyGet _) fun _ _ _ _ => .pure _
    · refine .bind (.perform _) fun _ _ _ _ => ?_
      exact .bind (.modifyGet _) fun _ _ _ _ => .pure _

theorem raises {a : Action α} (ha : Explained h a c s w) {g : Failure}
    (hg : (World.run h (a c s) w).1.1 = .error (.failed g)) :
    ∃ f calls, f.Bare ∧ Raises h f calls a c s w ∧ f.through calls = g := by
  obtain ⟨f, calls, hf, hr⟩ := ha g hg
  obtain ⟨s', w', hrun⟩ := hr.run
  rw [hrun] at hg
  cases hg
  exact ⟨f, calls, hf, hr, rfl⟩

theorem caught {a b : Action Value} (ha : Explained h a c s w)
    (hb : ∀ s' (w' : World σ), Explained h b c s' w') :
    Explained h (Evaluator.caught a b) c s w := by
  intro g hg
  generalize hw : World.run h (a c s) w = out
  obtain ⟨⟨r, s'⟩, w'⟩ := out
  rcases catchable_or r with ⟨f, rfl, hf⟩ | hr
  · rw [(run_caught b hw hf).1] at hg
    by_cases hunit : ∃ p, (World.run h (b c s') w').1.1 =
        .error (.failed (.error (.thrown .unit) p))
    -- The handler throws what it caught once more.
    · obtain ⟨p, hp⟩ := hunit
      obtain ⟨f, calls, hbare, hraises, rfl⟩ := ha.raises (congrArg (·.1.1) hw)
      obtain ⟨f', calls', hbare', hraises', hthrown⟩ := (hb s' w').raises hp
      obtain ⟨rfl, rfl⟩ := hbare'.of_through_thrown hthrown
      exact ⟨_, calls, hbare.again p calls, .again hf hraises hw hraises'⟩
    · have hb' := (failed_of_handled hg).resolve_right fun ⟨p, hp, _⟩ => hunit ⟨p, hp⟩
      obtain ⟨f', calls', hbare', hraises', rfl⟩ := (hb s' w').raises hb'
      refine ⟨f', calls', hbare', .handler hw hf (fun p hp => hunit ⟨p, ?_⟩) hraises'⟩
      rw [hb', hp]
  · rw [(run_uncaught b hw hr).1] at hg
    obtain ⟨f, calls, hbare, hraises, rfl⟩ := ha.raises ((congrArg (·.1.1) hw).trans hg)
    exact ⟨f, calls, hbare, .uncaught (hr _ hg) hraises⟩

theorem of_yields {known : Function → Prop} (hknown : ∀ f, known f) {inner : Bool}
    {place : Position → Prop} {Q : α → Prop} {a : Action α}
    (ha : Yields (fun _ => True) known runs inner place Q a) :
    ∀ (c : Context) (s : Session) (w : World σ), Explained h a c s w := by
  induction ha with
  | pure _ => exact fun c s w => .pure _
  | bind hy _ iha ihf =>
    intro c s w
    refine .bind (iha c s w) fun v s' w' hw => ?_
    have hended := (hy.settles s (fun f _ => hknown f) c).run h w
    exact ihf v (hended.value v (by rw [hw])) c s' w'
  | weaken _ _ ih => exact ih
  | look _ _ ih =>
    intro c s w
    refine .bind (a := get) (of_ok rfl) fun t s' w' hw => ?_
    exact ih t t.within_any (fun f _ => hknown f) c s' w'
  | read => exact fun c s w => of_ok rfl
  | fits v _ => exact fun c s w => .checkSize v _
  | store pl more _ _ =>
    exact fun c s w => .bind (.modifyGet _) fun _ _ _ _ => .checkSize _ _
  | fail _ => exact fun c s w => .failWith (.error _ _)
  | leave hs => exact fun c s w => .of_stop hs.ne_failed
  | exit => exact fun c s w => .failWith .exit
  | heed => exact fun c s w => .heed
  | guarded _ => exact fun c s w => .guarded _
  | aim g => exact fun c s w => .bind (a := get) (of_ok rfl) fun _ _ _ _ => .ask _ _
  | declare width height _ => exact fun c s w => .declare width height _
  | pause ms => exact fun c s w => .perform _
  | emit m => exact fun c s w => .perform _
  | note e => exact fun c s w => .perform _
  | change _ _ => exact fun c s w => .modifyGet _
  | native _ _ ih => exact ih
  | property _ _ ih => exact ih
  | @afterwards _ _ _ _ g a _ _ ih =>
    intro c s w f hf
    rw [Action.afterwards, World.run_bind] at hf
    obtain ⟨f, calls, hb, hr⟩ := ih c s w f hf
    exact ⟨f, calls, hb, .afterwards g hr⟩
  | @deeper _ _ _ _ g a _ _ ih =>
    intro c s w f hf
    obtain ⟨f, calls, hb, hr⟩ := ih (g c) s w f hf
    exact ⟨f, calls, hb, .deeper g hr⟩
  | @round _ _ _ a _ ih =>
    intro c s w f hf
    rw [Evaluator.round, World.run_bind] at hf
    obtain ⟨f, calls, hb, hr⟩ := ih c s w f (failed_of_round hf)
    exact ⟨f, calls, hb, .round hr⟩
  | call _ _ _ ih =>
    intro c s w f hf
    rw [World.run_bind] at hf
    obtain ⟨inner, hinner, -⟩ := failed_of_callOutcome hf
    obtain ⟨f, calls, hb, hr⟩ := ih c s w inner hinner
    exact ⟨f, _, hb, .call _ _ hr⟩
  | caught _ _ iha ihb => exact fun c s w => .caught (iha c s w) (ihb c)
  | parsed _ _ _ => exact fun c s w => of_ok rfl
  | heard _ _ _ =>
    intro c s w f hf
    rw [World.run_bind] at hf
    exact absurd hf (heard_ne_failed f _)

end Explained

end ScreenScript.Script
