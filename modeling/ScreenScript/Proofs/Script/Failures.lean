import ScreenScript.Proofs.Host.Outcomes
import ScreenScript.Proofs.Script.Runs

/-!
Where scripts fail: at a place of the script itself, or within the innermost function that the
failure names, at a place of that function. However they end, the functions stay.
-/

namespace ScreenScript.Script

open Script.Action

variable {α β : Type} {known : Function → Prop} {runs : Prop} {place : Position → Prop}

/-- An error outside all functions is at one of the places, and one within a function is at a place
of it. Nothing is around a termination. -/
structure Failure.Attributed (known : Function → Prop) (place : Position → Prop) (f : Failure) :
    Prop where
  place : ∀ c p, f.core = .error c p → (f.stack = [] ∧ place p) ∨
    ∃ g, known g ∧ f.stack.head? = some g.name ∧ p ∈ g.places
  bare : ∀ token, f.core = .terminated token → f = .terminated token

namespace Failure.Attributed

theorem error {p : Position} (hp : place p) (c : Cause) :
    (Failure.error c p).Attributed known place where
  place c p hc := by
    cases hc
    exact .inl ⟨rfl, hp⟩
  bare token ht := by cases ht

theorem terminated (token : String) : (Failure.terminated token).Attributed known place where
  place c p hc := by cases hc
  bare token ht := by
    cases ht
    rfl

theorem outOf {f : Failure} {g : Function} (hg : known g) {p : Position} (hp : place p)
    (hf : f.Attributed known (· ∈ g.places)) : (f.outOf g.name p).Attributed known place := by
  have hwrap (hne : ∀ token, f ≠ .terminated token) :
      (Failure.inFunction g.name f).Attributed known place := by
    refine ⟨fun c q hc => ?_, fun token ht => absurd (hf.bare token ht) (hne token)⟩
    rcases hf.place c q hc with ⟨hs, hq⟩ | ⟨k, hk, hs, hq⟩
    · exact .inr ⟨g, hg, by simp [stack, hs], hq⟩
    · exact .inr ⟨k, hk, by simp [stack, List.head?_append, hs], hq⟩
  cases f with
  | error c q =>
    cases hs : c.isSystemic with
    -- A systemic error is reported at the call, outside the function.
    | true =>
      simp only [Failure.outOf, hs, if_true]
      exact .error hp c
    | false =>
      simp only [Failure.outOf, hs]
      exact hwrap nofun
  | terminated token => exact .terminated token
  | inFunction n inner => exact hwrap nofun
  | inModule inner => exact hwrap nofun

theorem rethrown {f : Failure} (hf : f.Attributed known place) {p : Position} (hp : place p) :
    (f.rethrown p).Attributed known place := by
  cases f with
  | error c q => exact .error hp c
  | _ => exact hf

theorem here {c : Cause} {p : Position} (hf : (Failure.error c p).Attributed known place) :
    place p := by
  rcases hf.place c p rfl with ⟨-, hp⟩ | ⟨g, -, hstack, -⟩
  · exact hp
  · cases hstack

end Failure.Attributed

theorem failed_of_round {r : Except Stop Value} {f : Failure} (h : (match r with
    | .ok _ => .ok true
    | .error (.left ends) => .ok (!ends)
    | .error e => .error e : Except Stop Bool) = .error (.failed f)) :
    r = .error (.failed f) := by
  cases r with
  | ok v => cases h
  | error e =>
    cases e with
    | failed g =>
      cases h
      rfl
    | _ => cases h

theorem failed_of_callOutcome {name : String} {p : Position} {r : Except Stop Value}
    {f : Failure} (h : Evaluator.callOutcome name p r = .error (.failed f)) :
    ∃ g, r = .error (.failed g) ∧ f = g.outOf name p := by
  cases r with
  | ok v => cases h
  | error e =>
    cases e with
    | failed g =>
      cases h
      exact ⟨g, rfl, rfl⟩
    | _ => cases h

theorem failed_of_handled {f g : Failure} {r : Except Stop Value}
    (h : Evaluator.handled f r = .error (.failed g)) :
    r = .error (.failed g) ∨
      ∃ p, r = .error (.failed (.error (.thrown .unit) p)) ∧ g = f.rethrown p := by
  unfold Evaluator.handled at h
  split at h
  · cases h
  · rename_i p
    cases h
    exact .inr ⟨p, rfl, rfl⟩
  · exact .inl h

theorem heard_ne_failed (f : Failure) (r : Except Stop Value) :
    Evaluator.heard r ≠ .error (.failed f) := by
  unfold Evaluator.heard
  split
  · exact nofun
  · exact nofun
  · exact nofun
  · rename_i hr
    intro h
    exact hr _ h

/-- The end of a step that starts in `s` and yields values in `Q`. -/
structure Ended (known : Function → Prop) (place : Position → Prop) (Q : α → Prop) (s : Session)
    (out : Except Stop α × Session) : Prop where
  functions : out.2.functions = s.functions
  value : ∀ v, out.1 = .ok v → Q v
  failure : ∀ f, out.1 = .error (.failed f) → f.Attributed known place

namespace Ended

variable {Q : α → Prop} {R : β → Prop} {s t : Session}

theorem ok {v : α} (hs : t.functions = s.functions) (hv : Q v) :
    Ended known place Q s (.ok v, t) where
  functions := hs
  value w hw := by
    cases hw
    exact hv
  failure f hf := by cases hf

theorem error {e : Stop} (hs : t.functions = s.functions)
    (he : ∀ f, e = .failed f → f.Attributed known place) :
    Ended known place Q s (.error e, t) where
  functions := hs
  value v hv := by cases hv
  failure f hf := by
    cases hf
    exact he f rfl

theorem failed {f : Failure} (hs : t.functions = s.functions) (hf : f.Attributed known place) :
    Ended known place Q s (.error (.failed f), t) :=
  .error hs fun g hg => by
    cases hg
    exact hf

end Ended

def Settles (known : Function → Prop) (place : Position → Prop) (Q : α → Prop) (a : Action α)
    (s : Session) : Prop :=
  ∀ c, (a c s).Ensures (Ended known place Q s)

namespace Settles

variable {Q : α → Prop} {R : β → Prop} {s t : Session}

theorem bind {a : Action α} {k : α → Action β} (ha : Settles known place Q a s)
    (hk : ∀ v t, Q v → t.functions = s.functions → Settles known place R (k v) t) :
    Settles known place R (a >>= k) s := by
  intro c
  refine (ha c).bind fun out hout => ?_
  obtain ⟨r, t⟩ := out
  cases r with
  | ok v =>
    refine (hk v t (hout.value v rfl) hout.functions c).mono fun out h => ?_
    exact ⟨h.functions.trans hout.functions, h.value, h.failure⟩
  | error e =>
    refine .error hout.functions fun f hf => hout.failure f ?_
    rw [hf]

theorem checkSize (v : Value) {p : Position} (hp : place p) (hst : t.functions = s.functions)
    (c : Context) :
    (Evaluator.checkSize v p c t).Ensures (Ended known place (fun _ => True) s) := by
  rcases checkSize_cases v p c t with ⟨-, hc⟩ | ⟨m, -, hc⟩
  · rw [hc]
    exact .ok hst trivial
  · rw [hc]
    exact .failed hst (.error hp _)

theorem perform (q : Program α) : Settles known place (fun _ => True) (perform q) s :=
  fun _ => q.ensures_true.bind fun _ _ => .ok rfl trivial

theorem heed : Settles known place (fun _ => True) heed s := by
  intro c
  rw [heed_apply]
  intro b
  cases b with
  | true => exact .failed rfl (.terminated _)
  | false => exact .ok rfl trivial

theorem guarded (q : Program α) : Settles known place (fun _ => True) (guarded q) s := by
  refine .bind .heed fun _ t _ _ => .bind (.perform q) fun _ t _ _ => ?_
  exact .bind .heed fun _ t _ _ _ => .ok rfl trivial

theorem ask (verb : String) (args : List String) :
    Settles known place (fun _ => True) (Api.ask verb args) s :=
  .bind (.guarded _) fun _ _ _ _ _ => .ok rfl trivial

theorem aim (g : Gesture) : Settles known place (fun _ => True) (aim g) s := by
  intro c
  rw [aim_apply]
  exact Settles.ask _ _ c

theorem rescale (k : Option Scale) :
    Settles known place (fun _ => True) (modify fun s => s.rescale k) s :=
  fun _ => .ok rfl trivial

theorem declare (width height : Int64) {p : Position} (hp : width ≤ 0 ∨ height ≤ 0 → place p) :
    Settles known place (fun _ => True) (Api.setScreenMetrics width height p) s := by
  unfold Api.setScreenMetrics
  split
  · next hsize => exact fun _ => .failed rfl (.error (hp hsize) _)
  · refine .bind (.guarded _) fun size t _ _ => ?_
    dsimp only
    split
    · exact .bind (.rescale _) fun _ t _ _ _ => .ok rfl trivial
    · refine .bind (.perform _) fun _ t _ _ => .bind (.rescale _) fun _ t _ _ _ => ?_
      exact .ok rfl trivial

theorem caught {a b : Action Value} (ha : Settles known place (Value.Within fun _ => True) a s)
    (hb : ∀ t, t.functions = s.functions →
      Settles known place (Value.Within fun _ => True) b t) :
    Settles known place (Value.Within fun _ => True) (Evaluator.caught a b) s := by
  intro c
  refine (ha c).bind fun out hout => ?_
  obtain ⟨r, t⟩ := out
  match r with
  | .error (.failed f) =>
    dsimp only
    split
    · refine (hb t hout.functions c).bind fun out h => ?_
      refine ⟨h.functions.trans hout.functions, fun _ _ _ _ => trivial, fun g hg => ?_⟩
      rcases failed_of_handled hg with hr | ⟨p, hr, rfl⟩
      · exact h.failure g hr
      · exact (hout.failure f rfl).rethrown (h.failure _ hr).here
    · exact hout
  | .ok v => exact hout
  | .error (.returned v) => exact hout
  | .error (.finished v) => exact hout
  | .error (.left ends) => exact hout
  | .error .exhausted => exact hout

end Settles

theorem Yields.settles {inner : Bool} {Q : α → Prop} {a : Action α}
    (ha : Yields (fun _ => True) known runs inner place Q a) :
    ∀ s : Session, (∀ f ∈ s.functions, known f) → Settles known place Q a s := by
  induction ha with
  | pure hq => exact fun s _ _ => .ok rfl hq
  | bind _ _ iha ihf =>
    intro s hs
    refine (iha s hs).bind fun v t hv hst => ihf v hv t ?_
    -- The second part starts with the functions of the first, so they are known to it as well.
    rw [hst]
    exact hs
  | weaken _ hqr ih =>
    intro s hs c
    exact (ih s hs c).mono fun _ h => ⟨h.functions, fun v hv => hqr v (h.value v hv), h.failure⟩
  | look _ _ ih => exact fun s hs c => ih s s.within_any hs s hs c
  | read => exact fun s _ _ => .ok rfl trivial
  | fits v hp =>
    intro s _ c
    exact (Settles.checkSize v hp rfl c).mono fun _ h =>
      ⟨h.functions, fun _ _ _ _ => trivial, h.failure⟩
  | @store inner place p old pl more _ hp =>
    intro s _ c
    have hwrite : Keeping (fun _ => True) inner (pl.write · (.string (old ++ more))) :=
      .write pl fun _ _ => trivial
    exact Settles.checkSize _ hp (hwrite.functions s) c
  | fail hp => exact fun s _ _ => .failed rfl (.error hp _)
  | leave hstop => exact fun s _ _ => .error rfl fun f hf => absurd hf (hstop.ne_failed f)
  | exit => exact fun s _ _ => .failed rfl (.terminated _)
  | heed => exact fun _ _ => .heed
  | guarded _ => exact fun _ _ => .guarded _
  | aim g => exact fun _ _ => .aim g
  | declare width height hp => exact fun _ _ => .declare width height hp
  | pause ms => exact fun _ _ => .perform _
  | emit m => exact fun _ _ => .perform _
  | note e => exact fun _ _ => .perform _
  | change hg _ => exact fun s _ _ => .ok (hg.functions s) trivial
  | native _ _ ih => exact ih
  | property _ _ ih => exact ih
  | afterwards hg _ ih =>
    intro s hs c
    refine (ih s hs c).bind fun out h => ?_
    exact ⟨((hg _ fun _ => id).functions _).trans h.functions, h.value, h.failure⟩
  | deeper _ _ ih => exact fun s hs c => ih s hs _
  | round _ ih =>
    intro s hs c
    refine (ih s hs c).bind fun out h => ?_
    exact ⟨h.functions, fun _ _ => trivial, fun f hf => h.failure f (failed_of_round hf)⟩
  | call hg hp _ ih =>
    intro s hs c
    refine (ih s hs c).bind fun out h => ⟨h.functions, fun _ _ _ _ => trivial, fun f hf => ?_⟩
    obtain ⟨inner, hr, rfl⟩ := failed_of_callOutcome hf
    exact (h.failure inner hr).outOf hg hp
  | caught _ _ ih ihh =>
    intro s hs
    refine .caught (ih s hs) fun t ht => ihh t ?_
    rw [ht]
    exact hs
  | parsed text hruns hp =>
    refine fun s _ _ => .ok rfl fun xs hxs => statements?_within hp hxs fun _ _ _ => ?_
    exact ⟨fun _ _ => trivial, fun _ _ => trivial, fun _ => hruns⟩
  | heard _ _ ih =>
    intro s hs c
    refine (ih s hs c).bind fun out h => ?_
    exact ⟨h.functions, fun _ _ _ _ => trivial, fun f hf => absurd hf (heard_ne_failed f _)⟩

end ScreenScript.Script
