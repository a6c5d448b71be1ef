import ScreenScript.Proofs.Script.Aims
import ScreenScript.Proofs.Script.Sessions
import ScreenScript.Script.Evaluator

/-!
What evaluation is composed of. Every property of all runs of all scripts is an induction over these
steps: a script can do nothing else.
-/

namespace ScreenScript.Script

open Script.Action

/-- What a script lets a host do between two looks at the interrupt flag: at most one call, but for
typing into a node and for asking for the size of the device. -/
inductive Section : {α : Type} → Program α → Prop
  | silent {α : Type} (a : α) : Section (.done a)
  | call {α : Type} (verb : String) (args : List String) (f : Option String → α) :
    Section (.ask verb args fun r => .done (f r))
  | typing (settle : Nat) (i : Node.Info) (text : String) : Section (Node.setText settle i text)
  | size : Section Api.deviceSize

def Stop.Within (ok : String → Prop) : Stop → Prop
  | failed _ => False
  | returned v => v.Within ok
  | finished v => v.Within ok
  | left _ => True
  | exhausted => True

/-- A change of variables, or of what no script can see; it does not depend on the scale. Selectors
are changed by functions of the screen alone, where `inner` is true. -/
structure Keeping (ok : String → Prop) (inner : Bool) (g : Session → Session) : Prop where
  functions : ∀ s, (g s).functions = s.functions
  selectors : inner = false → ∀ s, (g s).selectors = s.selectors
  within : ∀ s, s.Within ok → (g s).Within ok
  rescale : ∀ s k, g (s.rescale k) = (g s).rescale k

/-- `a` is composed of the steps of an evaluation, fails at a place in `place` only unless a function
is being called, calls functions in `known` only, and yields values in `Q`. It adds no texts that
are not in `ok`, but where their size is checked: `fits` checks a value before it is used, and
`store` one that is there already. It runs texts only if `runs`. Of the scale only `aim` and
`declare` know. What reaches the host or the selectors is `inner` to a function or a property of the
screen. -/
inductive Yields (ok : String → Prop) (known : Function → Prop) (runs : Prop) :
    Bool → (Position → Prop) → {α : Type} → (α → Prop) → Action α → Prop
  | pure {inner place α Q} {a : α} : Q a → Yields ok known runs inner place Q (pure a)
  | bind {inner place α β Q R} {a : Action α} {f : α → Action β} :
    Yields ok known runs inner place Q a → (∀ v, Q v → Yields ok known runs inner place R (f v)) →
    Yields ok known runs inner place R (a >>= f)
  | weaken {inner place α Q R} {a : Action α} :
    Yields ok known runs inner place Q a → (∀ v, Q v → R v) → Yields ok known runs inner place R a
  | look {inner place α Q} {k : Session → Action α} : (∀ s m, k (s.rescale m) = k s) →
    (∀ s, s.Within ok → (∀ f ∈ s.functions, known f) → Yields ok known runs inner place Q (k s)) →
    Yields ok known runs inner place Q (get >>= k)
  | read {inner place} : Yields ok known runs inner place (fun _ => True) read
  | fits {inner place p} (v : Value) : place p →
    Yields ok known runs inner place (fun _ => v.Within ok) (Evaluator.checkSize v p)
  | store {inner place p old} (pl : Place) (more : String) : ok old → place p →
    Yields ok known runs inner place (fun _ => True) (do
      Evaluator.writePlace pl (.string (old ++ more))
      Evaluator.checkSize (.string (old ++ more)) p)
  | fail {inner place α Q c p} : place p → Yields ok known runs inner place Q (fail (α := α) c p)
  | leave {inner place α Q s} : s.Within ok → Yields ok known runs inner place Q (stop (α := α) s)
  | exit {place α Q} :
    Yields ok known runs true place Q (failWith (α := α) (.terminated Failure.exitToken))
  | heed {inner place} : Yields ok known runs inner place (fun _ => True) heed
  | guarded {place α} {q : Program α} : Section q →
    Yields ok known runs true place (fun _ => True) (guarded q)
  | aim {place} (g : Gesture) : Yields ok known runs true place (fun _ => True) (aim g)
  | declare {place p} (width height : Int64) : (width ≤ 0 ∨ height ≤ 0 → place p) →
    Yields ok known runs true place (fun _ => True) (Api.setScreenMetrics width height p)
  | pause {place} (ms : Nat) :
    Yields ok known runs true place (fun _ => True) (perform (.pause ms .done))
  | emit {place} (m : Message) :
    Yields ok known runs true place (fun _ => True) (perform (.emit m fun _ => .done ()))
  | note {place} (e : Log.Event) :
    Yields ok known runs true place (fun _ => True) (perform (.note e fun _ => .done ()))
  | change {inner place α} {g : Session → α × Session} : Keeping ok inner (fun s => (g s).2) →
    (∀ s m, (g (s.rescale m)).1 = (g s).1) →
    Yields ok known runs inner place (fun _ => True) (modifyGet g)
  | native {inner place Q name args p} {a : Action Value} : Api.function? name args p = some a →
    Yields ok known runs true place Q a → Yields ok known runs inner place Q a
  | property {inner place Q v name} {a : Action Value} : Api.property? v name = some a →
    Yields ok known runs true place Q a → Yields ok known runs inner place Q a
  | afterwards {inner place α Q} {g : Session → Session} {a : Action α} :
    (∀ ok' : String → Prop, (∀ t, ok t → ok' t) → Keeping ok' false g) →
    Yields ok known runs inner place Q a → Yields ok known runs inner place Q (afterwards g a)
  | deeper {inner place α Q} {g : Context → Context} {a : Action α} :
    (∀ c, (g c).config = c.config) → Yields ok known runs inner place Q a →
    Yields ok known runs inner place Q (withReader g a)
  | round {inner place Q} {a : Action Value} : Yields ok known runs inner place Q a →
    Yields ok known runs inner place (fun _ => True) (Evaluator.round a)
  | call {inner place f p} {a : Action Value} : known f → place p →
    Yields ok known runs inner (· ∈ f.places) (Value.Within ok) a →
    Yields ok known runs inner place (Value.Within ok) (fun c s => (a c s).bind fun (r, s) =>
      .done (Evaluator.callOutcome f.name p r, s))
  | caught {inner place} {a handler : Action Value} :
    Yields ok known runs inner place (Value.Within ok) a →
    Yields ok known runs inner place (Value.Within ok) handler →
    Yields ok known runs inner place (Value.Within ok) (Evaluator.caught a handler)
  | parsed {inner place p} (text : String) : runs → place p →
    Yields ok known runs inner place (fun ss => ∀ xs, ss = some xs →
      StmtsWithin ⟨place, ok, runs⟩ xs) (Evaluator.parseText text p)
  | heard {inner place} {a : Action Value} : runs →
    Yields ok known runs inner place (Value.Within ok) a →
    Yields ok known runs inner place (Value.Within ok) (fun c s => (a c s).bind fun (r, s) =>
      .done (Evaluator.heard r, s))

abbrev Sound (ok : String → Prop) (known : Function → Prop) (runs : Prop) (inner : Bool)
    (place : Position → Prop) {α : Type} (a : Action α) : Prop :=
  Yields ok known runs inner place (fun _ => True) a

theorem statements?_within {place : Allowed} {p : Position} (hp : place p) {c : Config}
    {text : String} {ss : List Stmt} (h : (Evaluator.statements? c text p).1 = some ss)
    (hbody : ∀ script mark, Parser.parse (limits c) false text = .ok (script, mark) →
      StmtsWithin ⟨fun _ => True, place.text, place.eval⟩ script.body) :
    StmtsWithin place ss := by
  unfold Evaluator.statements? at h
  split at h
  · rename_i script mark hparse
    split at h
    · cases h
      obtain ⟨-, htexts, hevals⟩ := hbody script mark hparse
      exact (stmts_within_moved _ _).mpr ⟨fun _ _ => hp, htexts, hevals⟩
    · cases h
  · cases h

theorem Stop.Within.ne_failed {ok : String → Prop} {s : Stop} (hs : s.Within ok) (f : Failure) :
    s ≠ .failed f := by
  rintro rfl
  exact hs

theorem Place.read_rescale (pl : Place) (s : Session) (k : Option Scale) :
    pl.read (s.rescale k) = pl.read s := by
  cases pl <;> rfl

theorem Place.isConstant_rescale (pl : Place) (s : Session) (k : Option Scale) :
    pl.isConstant (s.rescale k) = pl.isConstant s := by
  cases pl <;> rfl

theorem Place.write_rescale (pl : Place) (s : Session) (v : Value) (k : Option Scale) :
    pl.write (s.rescale k) v = (pl.write s v).rescale k := by
  cases pl <;> rfl

theorem Keeping.write {ok : String → Prop} {inner : Bool} (pl : Place) {v : Value}
    (hv : v.Within ok) :
    Keeping ok inner (pl.write · v) := by
  refine ⟨fun s => ?_, fun _ s => ?_, fun s hs => Place.write_within hs hv pl,
    fun s k => pl.write_rescale s v k⟩
  all_goals cases pl <;> rfl

theorem Keeping.of_same {ok : String → Prop} {inner : Bool} {g : Session → Session}
    (hg : ∀ s, (g s).scope = s.scope ∧ (g s).functions = s.functions)
    (hselectors : inner = false → ∀ s, (g s).selectors = s.selectors)
    (hrescale : ∀ s k, g (s.rescale k) = (g s).rescale k) : Keeping ok inner g :=
  ⟨fun s => (hg s).2, hselectors, fun s hs => hs.of_same (hg s).1 (hg s).2, hrescale⟩

namespace Yields

variable {ok : String → Prop} {known : Function → Prop} {runs : Prop} {inner : Bool}
  {place : Position → Prop} {α β : Type}

theorem value (a : α) : Sound ok known runs inner place (Pure.pure a) := .pure trivial

theorem sound {Q : α → Prop} {a : Action α} (ha : Yields ok known runs inner place Q a) :
    Sound ok known runs inner place a :=
  ha.weaken fun _ _ => trivial

theorem seq {Q : α → Prop} {R : β → Prop} {a : Action α} {f : α → Action β}
    (ha : Yields ok known runs inner place Q a)
    (hf : ∀ v, Yields ok known runs inner place R (f v)) :
    Yields ok known runs inner place R (a >>= f) :=
  ha.bind fun v _ => hf v

theorem check {R : β → Prop} {c : Prop} [Decidable c] {a : Action Unit} {k : Unit → Action β}
    (ha : Sound ok known runs inner place a) (hk : ∀ u, Yields ok known runs inner place R (k u)) :
    Yields ok known runs inner place R (if c then a >>= k else k ()) := by
  split
  · exact .seq ha hk
  · exact hk ()

theorem alter {g : Session → Session} (hg : Keeping ok inner g) :
    Sound ok known runs inner place (modify g) :=
  .change hg fun _ _ => rfl

theorem tick {p : Position} (hp : place p) : Sound ok known runs inner place (tick p) := by
  unfold Action.tick
  have hcount : Keeping ok inner fun s => { s with operations := s.operations + 1 } :=
    .of_same (fun _ => ⟨rfl, rfl⟩) (fun _ _ => rfl) fun _ _ => rfl
  refine .seq (.alter hcount) fun _ => .seq .read fun c => ?_
  exact .look (fun _ _ => rfl) fun s _ _ => .check (.fail hp) fun _ => .heed

theorem inScope {Q : α → Prop} {a : Action α} (ha : Yields ok known runs inner place Q a) :
    Yields ok known runs inner place Q (inScope a) := by
  unfold Action.inScope
  refine .look (fun _ _ => rfl) fun s _ _ => .afterwards (fun _ _ => ?_) ha
  exact ⟨fun _ => rfl, fun _ _ => rfl, fun _ hs => hs.rewind _, fun _ _ => rfl⟩

theorem isolated {Q : α → Prop} {vs : List Variable} (hvs : ∀ v ∈ vs, v.value.Within ok)
    {a : Action α} (ha : Yields ok known runs inner place Q a) :
    Yields ok known runs inner place Q (isolated vs a) := by
  unfold Action.isolated
  refine .look (fun _ _ => rfl) fun s hs _ => .seq (.alter ?_) fun _ => ?_
  · exact ⟨fun _ => rfl, fun _ _ => rfl, fun _ ht => ⟨hvs, ht.functions⟩,
      fun _ _ => rfl⟩
  · refine .afterwards (fun ok' h => ?_) (.deeper (fun _ => rfl) ha)
    exact ⟨fun _ => rfl, fun _ _ => rfl,
      fun _ ht => ⟨(hs.mono h).scope, ht.functions⟩, fun _ _ => rfl⟩

end Yields

/-- What a function of the language or the screen can tell of a session is the same in both. -/
structure Session.Sees (s t : Session) : Prop where
  scope : t.scope = s.scope
  selectors : t.selectors = s.selectors
  patterns : t.patterns = s.patterns
  scale : t.scale = s.scale

/-- What all functions but gestures can tell of a session is the same in both. -/
structure Session.Shows (s t : Session) : Prop where
  scope : t.scope = s.scope
  selectors : t.selectors = s.selectors
  patterns : t.patterns = s.patterns

theorem Session.Sees.shows {s t : Session} (h : s.Sees t) : s.Shows t :=
  ⟨h.scope, h.selectors, h.patterns⟩

theorem Session.shows_rescale (s : Session) (k : Option Scale) : s.Shows (s.rescale k) :=
  ⟨rfl, rfl, rfl⟩

/-- What functions of the language and the screen are composed of: they leave variables and functions
alone, fail at a place in `place` only, and may end the script with a value in `ended`. Those that
are not `mapping` have nothing to do with the scale, and those that are not `gathering` change no
selector. -/
inductive Native (ended : Value → Prop) (place : Position → Prop) :
    Bool → Bool → {α : Type} → Action α → Prop
  | value {mapping gathering α} (a : α) : Native ended place mapping gathering (pure a)
  | seq {mapping gathering α β} {a : Action α} {f : α → Action β} :
    Native ended place mapping gathering a →
    (∀ v, Native ended place mapping gathering (f v)) →
    Native ended place mapping gathering (a >>= f)
  | look {mapping gathering α} {k : Session → Action α} : (∀ s t, s.Shows t → k t = k s) →
    (∀ s, Native ended place mapping gathering (k s)) →
    Native ended place mapping gathering (get >>= k)
  | read {mapping gathering} : Native ended place mapping gathering read
  | fail {mapping gathering α c p} : place p →
    Native ended place mapping gathering (fail (α := α) c p)
  | finish {mapping gathering v} : ended v →
    Native ended place mapping gathering (stop (α := Value) (.finished v))
  | exit {mapping gathering α} :
    Native ended place mapping gathering (failWith (α := α) (.terminated Failure.exitToken))
  | heed {mapping gathering} : Native ended place mapping gathering heed
  | guarded {mapping gathering α} {q : Program α} : Section q →
    Native ended place mapping gathering (guarded q)
  | aim {gathering} (g : Gesture) : Native ended place true gathering (aim g)
  | declare {gathering p} (width height : Int64) : (width ≤ 0 ∨ height ≤ 0 → place p) →
    Native ended place true gathering (Api.setScreenMetrics width height p)
  | pause {mapping gathering} (ms : Nat) :
    Native ended place mapping gathering (perform (.pause ms .done))
  | emit {mapping gathering} (m : Message) :
    Native ended place mapping gathering (perform (.emit m fun _ => .done ()))
  | note {mapping gathering} (e : Log.Event) :
    Native ended place mapping gathering (perform (.note e fun _ => .done ()))
  | change {mapping gathering α} {g : Session → α × Session} :
    (∀ s, (g s).2.scope = s.scope ∧ (g s).2.functions = s.functions) →
    (gathering = false → ∀ s, (g s).2.selectors = s.selectors) →
    (∀ s t, s.Sees t → (g t).1 = (g s).1 ∧ (g s).2.Sees (g t).2) →
    (∀ s k, g (s.rescale k) = ((g s).1, (g s).2.rescale k)) →
    Native ended place mapping gathering (modifyGet g)

namespace Native

variable {ended : Value → Prop} {place : Position → Prop} {mapping gathering : Bool} {α : Type}

theorem alter {g : Session → Session}
    (hg : ∀ s, (g s).scope = s.scope ∧ (g s).functions = s.functions)
    (hselectors : gathering = false → ∀ s, (g s).selectors = s.selectors)
    (hs : ∀ s t, s.Sees t → (g s).Sees (g t))
    (hrescale : ∀ s k, g (s.rescale k) = (g s).rescale k) :
    Native ended place mapping gathering (modify g) :=
  .change hg hselectors (fun s t h => ⟨rfl, hs s t h⟩) fun s k => by rw [hrescale]

theorem sound {ok : String → Prop} {known : Function → Prop} {runs : Prop} {a : Action α}
    (ha : Native ended place mapping gathering a) (hended : ∀ v, ended v → v.Within ok) :
    Sound ok known runs true place a := by
  induction ha with
  | value a => exact .value a
  | seq _ _ iha ihf => exact .seq iha ihf
  | look hk _ ih => exact .look (fun s m => hk _ _ (s.shows_rescale m)) fun s _ _ => ih s
  | read => exact .read
  | fail hp => exact .fail hp
  | finish hv => exact .leave (hended _ hv)
  | exit => exact .exit
  | heed => exact .heed
  | guarded hq => exact .guarded hq
  | aim g => exact .aim g
  | declare width height hp => exact .declare width height hp
  | pause ms => exact .pause ms
  | emit m => exact .emit m
  | note e => exact .note e
  | change hg _ _ hrescale =>
    refine .change (.of_same hg nofun fun s k => ?_) fun s k => ?_
    · rw [hrescale]
    · rw [hrescale]

end Native

end ScreenScript.Script
