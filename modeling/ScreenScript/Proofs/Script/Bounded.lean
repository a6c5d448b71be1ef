import ScreenScript.Proofs.Host.Outcomes
import ScreenScript.Proofs.Script.Evaluation
import ScreenScript.Proofs.Script.Runs

/-!
What the limit on texts bounds. An assignment that puts something after a text stores the sum before
it looks at its size, so the failure that follows leaves a text that is too large behind.
-/

namespace ScreenScript.Script

open Script.Action

/-- All texts of a session are in `ok`, but for one that was made longer. -/
def Session.Spilt (ok : String → Prop) (s : Session) : Prop :=
  ∃ old more, ok old ∧ s.Within fun t => ok t ∨ t = old ++ more

structure Session.Fits (ok : String → Prop) (known : Function → Prop) (s : Session) : Prop where
  within : s.Within ok
  known : ∀ f ∈ s.functions, known f

def Failure.Oversize (f : Failure) : Prop :=
  ∃ p, f.core = .error (.tooLarge .string) p

def Halts (ok : String → Prop) (known : Function → Prop) (e : Stop) (s : Session) : Prop :=
  match e with
  | .failed f => s.Fits ok known ∨ (∃ p, f = .error (.tooLarge .string) p) ∧ s.Spilt ok
  | .returned v => v.Within ok ∧ s.Fits ok known
  | .finished v => v.Within ok ∧ s.Fits ok known
  | .left _ => s.Fits ok known
  | .exhausted => s.Fits ok known

def Ends {α : Type} (ok : String → Prop) (known : Function → Prop) (Q : α → Prop)
    (r : Except Stop α × Session) : Prop :=
  match r.1 with
  | .ok v => Q v ∧ r.2.Fits ok known
  | .error e => Halts ok known e r.2

/-- With the limit `limit`, a step that starts with texts in `ok` yields a value in `Q` and ends with
texts in `ok`. -/
def Bounded (limit : Nat) (ok : String → Prop) (known : Function → Prop) {α : Type} (Q : α → Prop)
    (a : Action α) : Prop :=
  ∀ c s, c.config.memoryLimit = limit → s.Fits ok known → (a c s).Ensures (Ends ok known Q)

/-- Texts within the limit are in `ok`, and so is a text in which a character is replaced: that is no
longer checked. -/
structure Ceiling (limit : Nat) (ok : String → Prop) : Prop where
  limited : limit ≠ 0
  short : ∀ t : String, t.utf8ByteSize ≤ limit → ok t
  replaced : ∀ (t : String) (i : Nat) (c : Char), ok t → ok (String.ofList (t.toList.set i c))

variable {limit : Nat} {ok : String → Prop} {known : Function → Prop} {α β : Type}

theorem Ceiling.closed (hok : Ceiling limit ok) : Closed ok :=
  ⟨hok.short "" (Nat.zero_le _), hok.replaced⟩

theorem Session.Fits.change {s : Session} (hs : s.Fits ok known) {inner : Bool}
    {g : Session → Session} (hg : Keeping ok inner g) : (g s).Fits ok known :=
  ⟨hg.within s hs.within, by rw [hg.functions s]; exact hs.known⟩

theorem excess?_none {size : Operator.Size} {stringLimit collectionLimit : Nat}
    (h : size.excess? stringLimit collectionLimit = none) :
    stringLimit = 0 ∨ size.string ≤ stringLimit := by
  unfold Operator.Size.excess? at h
  split_ifs at h with hs
  omega

namespace Bounded

theorem pure {Q : α → Prop} {a : α} (ha : Q a) : Bounded limit ok known Q (Pure.pure a) :=
  fun _ _ _ hs => ⟨ha, hs⟩

theorem bind {Q : α → Prop} {R : β → Prop} {a : Action α} {f : α → Action β}
    (ha : Bounded limit ok known Q a) (hf : ∀ v, Q v → Bounded limit ok known R (f v)) :
    Bounded limit ok known R (a >>= f) := by
  intro c s hc hs
  refine (ha c s hc hs).bind fun r hr => ?_
  obtain ⟨r, s'⟩ := r
  cases r with
  | ok v => exact hf v hr.1 c s' hc hr.2
  | error e => exact hr

theorem weaken {Q R : α → Prop} {a : Action α} (ha : Bounded limit ok known Q a)
    (h : ∀ v, Q v → R v) : Bounded limit ok known R a := by
  intro c s hc hs
  refine (ha c s hc hs).mono fun r hr => ?_
  obtain ⟨r, s'⟩ := r
  cases r with
  | ok v => exact ⟨h v hr.1, hr.2⟩
  | error e => exact hr

theorem leave {Q : α → Prop} {e : Stop} (he : e.Within ok) :
    Bounded limit ok known Q (stop e : Action α) := by
  intro c s _ hs
  change Halts ok known e s
  cases e with
  | failed f => cases he
  | returned v => exact ⟨he, hs⟩
  | finished v => exact ⟨he, hs⟩
  | left ends => exact hs
  | exhausted => exact hs

theorem failWith {Q : α → Prop} {f : Failure} : Bounded limit ok known Q (failWith f : Action α) :=
  fun _ _ _ hs => .inl hs

theorem perform (p : Program α) : Bounded limit ok known (fun _ => True) (perform p) := by
  intro c s _ hs
  exact p.ensures_true.bind fun a _ => ⟨trivial, hs⟩

theorem heed : Bounded limit ok known (fun _ => True) heed := by
  refine .bind (.perform _) fun b _ => ?_
  split
  · exact .failWith
  · exact .pure trivial

theorem guarded (p : Program α) : Bounded limit ok known (fun _ => True) (guarded p) :=
  .bind .heed fun _ _ => .bind (.perform p) fun _ _ => .bind .heed fun _ _ => .pure trivial

theorem ask (verb : String) (args : List String) :
    Bounded limit ok known (fun _ => True) (Api.ask verb args) :=
  .bind (.guarded _) fun _ _ => .pure trivial

theorem aim (g : Gesture) : Bounded limit ok known (fun _ => True) (aim g) := by
  intro c s hc hs
  rw [aim_apply]
  exact Bounded.ask _ _ c s hc hs

theorem rescale (k : Option Scale) :
    Bounded limit ok known (fun _ => True) (modify fun s => s.rescale k : Action Unit) :=
  fun _ _ _ hs => ⟨trivial, hs.within.of_same rfl rfl, hs.known⟩

theorem declare (width height : Int64) (p : Position) :
    Bounded limit ok known (fun _ => True) (Api.setScreenMetrics width height p) := by
  unfold Api.setScreenMetrics
  split
  · exact .failWith
  · refine .bind (.guarded _) fun size _ => ?_
    dsimp only
    split
    · exact .bind (.rescale _) fun _ _ => .pure trivial
    · exact .bind (.perform _) fun _ _ => .bind (.rescale _) fun _ _ => .pure trivial

theorem fits (hok : Ceiling limit ok) (v : Value) (p : Position) :
    Bounded limit ok known (fun _ => v.Within ok) (Evaluator.checkSize v p) := by
  intro c s hc hs
  rcases checkSize_cases v p c s with ⟨hsize, hcheck⟩ | ⟨m, -, hcheck⟩
  · rw [hcheck]
    have hlimit : c.config.maxStringSize = limit := hc
    rw [hlimit] at hsize
    have hle := (excess?_none hsize).resolve_left hok.limited
    exact ⟨(Value.within_of_size hle).mono hok.short, hs⟩
  · rw [hcheck]
    exact .inl hs

theorem store (hok : Ceiling limit ok) (pl : Place) {old : String} (more : String)
    (hold : ok old) (p : Position) : Bounded limit ok known (fun _ => True) (do
      Evaluator.writePlace pl (.string (old ++ more))
      Evaluator.checkSize (.string (old ++ more)) p) := by
  intro c s hc hs
  rw [store_apply, checkSize_string, hc]
  by_cases hlong : limit ≠ 0 ∧ limit < (old ++ more).utf8ByteSize
  · rw [if_pos hlong]
    -- The sum is in its place by the time it is refused.
    refine .inr ⟨⟨p, rfl⟩, old, more, hold, ?_⟩
    have hlonger : s.Within fun t => ok t ∨ t = old ++ more := hs.within.mono fun _ => .inl
    exact Place.write_within hlonger (Value.within_string.mpr (.inr rfl)) pl
  · rw [if_neg hlong]
    have hshort : ok (old ++ more) :=
      hok.short _ (Nat.le_of_not_lt fun hlt => hlong ⟨hok.limited, hlt⟩)
    have hwrite : Keeping ok false (pl.write · (.string (old ++ more))) :=
      .write pl (Value.within_string.mpr hshort)
    exact ⟨trivial, hs.change hwrite⟩

theorem afterwards {Q : α → Prop} {g : Session → Session} {a : Action α}
    (ha : Bounded limit ok known Q a)
    (hg : ∀ ok' : String → Prop, (∀ t, ok t → ok' t) → Keeping ok' false g) :
    Bounded limit ok known Q (afterwards g a) := by
  have hg' := hg ok fun _ h => h
  intro c s hc hs
  refine (ha c s hc hs).bind fun r hr => ?_
  obtain ⟨r, s'⟩ := r
  match r with
  | .ok v => exact ⟨hr.1, hr.2.change hg'⟩
  | .error (.failed f) =>
    refine hr.imp (·.change hg') fun ⟨hf, old, more, hold, hr⟩ => ?_
    exact ⟨hf, old, more, hold, (hg _ fun _ => .inl).within s' hr⟩
  | .error (.returned v) => exact ⟨hr.1, hr.2.change hg'⟩
  | .error (.finished v) => exact ⟨hr.1, hr.2.change hg'⟩
  | .error (.left ends) => exact hr.change hg'
  | .error .exhausted => exact hr.change hg'

theorem call {a : Action Value} (ha : Bounded limit ok known (Value.Within ok) a) (name : String)
    (p : Position) : Bounded limit ok known (Value.Within ok) fun c s =>
      (a c s).bind fun (r, s) => .done (Evaluator.callOutcome name p r, s) := by
  intro c s hc hs
  refine (ha c s hc hs).bind fun r hr => ?_
  obtain ⟨r, s'⟩ := r
  match r with
  | .ok v => exact hr
  | .error (.failed f) =>
    refine hr.imp id fun ⟨⟨q, hq⟩, hspilt⟩ => ⟨⟨p, ?_⟩, hspilt⟩
    -- It is systemic, so the function that is being called does not wrap it.
    rw [hq]
    rfl
  | .error (.returned v) => exact hr
  | .error (.finished v) => exact hr
  | .error (.left ends) => exact hr
  | .error .exhausted => exact hr

theorem round {Q : Value → Prop} {a : Action Value} (ha : Bounded limit ok known Q a) :
    Bounded limit ok known (fun _ => True) (Evaluator.round a) := by
  intro c s hc hs
  refine (ha c s hc hs).bind fun r hr => ?_
  obtain ⟨r, s'⟩ := r
  match r with
  | .ok v => exact ⟨trivial, hr.2⟩
  | .error (.failed f) => exact hr
  | .error (.returned v) => exact hr
  | .error (.finished v) => exact hr
  | .error (.left ends) => exact ⟨trivial, hr⟩
  | .error .exhausted => exact hr

theorem handled {f : Failure} {r : Except Stop Value} {s : Session}
    (hr : Ends ok known (Value.Within ok) (r, s)) :
    Ends ok known (Value.Within ok) (Evaluator.handled f r, s) := by
  unfold Evaluator.handled
  split
  · exact ⟨Value.within_unit, hr.2⟩
  · rename_i p
    rcases hr with hs | ⟨⟨q, hq⟩, -⟩
    · exact .inl hs
    · cases hq
  · exact hr

theorem caught {a b : Action Value} (ha : Bounded limit ok known (Value.Within ok) a)
    (hb : Bounded limit ok known (Value.Within ok) b) :
    Bounded limit ok known (Value.Within ok) (Evaluator.caught a b) := by
  intro c s hc hs
  refine (ha c s hc hs).bind fun r hr => ?_
  obtain ⟨r, s'⟩ := r
  match r with
  | .error (.failed f) =>
    dsimp only
    split
    · rename_i hf
      -- What can be caught is not that a text was too long.
      have hs' : s'.Fits ok known := by
        refine hr.resolve_right ?_
        rintro ⟨⟨p, rfl⟩, -⟩
        cases hf
      exact (hb c s' hc hs').bind fun r hr => handled hr
    · exact hr
  | .ok v => exact hr
  | .error (.returned v) => exact hr
  | .error (.finished v) => exact hr
  | .error (.left ends) => exact hr
  | .error .exhausted => exact hr

end Bounded

theorem Yields.bounded (hok : Ceiling limit ok) {inner : Bool} {place : Position → Prop}
    {Q : α → Prop} {a : Action α} (ha : Yields ok known False inner place Q a) :
    Bounded limit ok known Q a := by
  induction ha with
  | pure hq => exact .pure hq
  | bind _ _ iha ihf => exact .bind iha ihf
  | weaken _ hqr ih => exact ih.weaken hqr
  | look _ _ ih => exact fun c s hc hs => ih s hs.within hs.known c s hc hs
  | read => exact fun _ _ _ hs => ⟨trivial, hs⟩
  | fits v _ => exact .fits hok v _
  | store pl more hold _ => exact .store hok pl more hold _
  | fail _ => exact .failWith
  | leave hs => exact .leave hs
  | exit => exact .failWith
  | heed => exact .heed
  | guarded _ => exact .guarded _
  | aim g => exact .aim g
  | declare width height _ => exact .declare width height _
  | pause ms => exact .perform _
  | emit m => exact .perform _
  | note e => exact .perform _
  | change hg _ => exact fun _ _ _ hs => ⟨trivial, hs.change hg⟩
  | native _ _ ih => exact ih
  | property _ _ ih => exact ih
  | afterwards hg _ ih => exact ih.afterwards hg
  | deeper hg _ ih => exact fun c s hc hs => ih _ s ((congrArg _ (hg c)).trans hc) hs
  | round _ ih => exact ih.round
  | call _ _ _ ih => exact ih.call _ _
  | caught _ _ ih ihh => exact ih.caught ihh
  | parsed _ hruns _ => exact hruns.elim
  | heard hruns _ _ => exact hruns.elim

end ScreenScript.Script
