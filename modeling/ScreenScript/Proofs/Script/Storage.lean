import ScreenScript.Proofs.Script.Encoding
import ScreenScript.Proofs.Script.Runs
import ScreenScript.Script.Api

namespace ScreenScript.Script

open Script.Action World

abbrev Shelf (α : Type) := String → String → Option α

/-- What is asked of a store, the name of the store first. -/
inductive Request (α : Type) where
  | get (store key : String)
  | getOr (store key : String) (default : α)
  | put (store key : String) (v : α)
  | remove (store key : String)
  | contains (store key : String)
  | clear (store : String)

namespace Request

variable {α β : Type}

def map (f : α → β) : Request α → Request β
  | get store key => get store key
  | getOr store key default => getOr store key (f default)
  | put store key v => put store key (f v)
  | remove store key => remove store key
  | contains store key => contains store key
  | clear store => clear store

def shelve (m : Shelf α) : Request α → Shelf α
  | put s k v => fun store key => if s = store ∧ k = key then some v else m store key
  | remove s k => fun store key => if s = store ∧ k = key then none else m store key
  | clear s => fun store key => if s = store then none else m store key
  | _ => m

def call : Request String → Call
  | get store key => ⟨Verb.storageGet, [store, key]⟩
  | getOr store key _ => ⟨Verb.storageGet, [store, key]⟩
  | put store key text => ⟨Verb.storagePut, [store, key, text]⟩
  | remove store key => ⟨Verb.storageRemove, [store, key]⟩
  | contains store key => ⟨Verb.storageContains, [store, key]⟩
  | clear store => ⟨Verb.storageClear, [store]⟩

def name : Request Value → String
  | get _ _ => "get"
  | getOr _ _ _ => "get"
  | put _ _ _ => "put"
  | remove _ _ => "remove"
  | contains _ _ => "contains"
  | clear _ => "clear"

def arguments : Request Value → List Value
  | get store key => [.storage store, .string key]
  | getOr store key default => [.storage store, .string key, default]
  | put store key v => [.storage store, .string key, v]
  | remove store key => [.storage store, .string key]
  | contains store key => [.storage store, .string key]
  | clear store => [.storage store]

def reply (a : Option String) : Request Value → Value
  | get _ _ => (a.bind Api.storedValue?).getD .unit
  | getOr _ _ default => (a.bind Api.storedValue?).getD default
  | _ => .bool (Answer.bool a)

end Request

variable {σ α : Type}

def cancelled : Stop := .failed (.terminated Failure.cancelToken)

theorem run_guarded (h : Host σ) (q : Program α) (f : α → Value) (c : Context) (s : Session)
    (w : World σ) :
    World.run h ((guarded q >>= fun a => pure (f a) : Action Value) c s) w =
      if w.pending then ((.error cancelled, s), w)
      else
        let (a, w') := World.run h q w
        ((if w'.pending then .error cancelled else .ok (f a), s), w') := by
  rw [bind_apply, World.run_bind, guarded_apply, World.run]
  cases w.pending with
  | true => rfl
  | false =>
    simp only [Bool.false_eq_true, if_false, World.run_bind, World.run]
    cases (World.run h q w).2.pending <;> rfl

def Request.outcome (h : Host σ) (r : Request Value) (w : World σ) :
    Except Stop Value × World σ :=
  if w.pending then (.error cancelled, w)
  else
    let c := (r.map Value.encoded).call
    let (a, w') := w.call h maxReentry c.verb c.args
    (if w'.pending then .error cancelled else .ok (r.reply a), w')

theorem run_request (h : Host σ) (r : Request Value) (p : Position) (c : Context) (s : Session)
    (w : World σ) : ∃ a, Api.function? r.name r.arguments p = some a ∧
      World.run h (a c s) w = (((r.outcome h w).1, s), (r.outcome h w).2) := by
  cases r with
  | get store key =>
    refine ⟨Api.storedOr store key .unit, rfl, ?_⟩
    rw [Api.storedOr, run_guarded, Request.outcome]
    cases w.pending <;> rfl
  | getOr store key default =>
    refine ⟨Api.storedOr store key default, rfl, ?_⟩
    rw [Api.storedOr, run_guarded, Request.outcome]
    cases w.pending <;> rfl
  | _ =>
    refine ⟨Api.ask _ _, rfl, ?_⟩
    rw [Api.ask, Api.yes, run_guarded, Request.outcome]
    cases w.pending <;> rfl

structure Use where
  request : Request Value
  position : Position
  context : Context
  session : Session

namespace Use

def run (u : Use) (h : Host σ) (w : World σ) : (Except Stop Value × Session) × World σ :=
  match Api.function? u.request.name u.request.arguments u.position with
  | some a => World.run h (a u.context u.session) w
  | none => ((.ok .unit, u.session), w)

theorem run_eq (u : Use) (h : Host σ) (w : World σ) :
    u.run h w = (((u.request.outcome h w).1, u.session), (u.request.outcome h w).2) := by
  obtain ⟨a, ha, hrun⟩ := run_request h u.request u.position u.context u.session w
  rw [run, ha]
  exact hrun

end Use

/-- `texts` shows what a host keeps: it is told to put, to remove and to clear, and answers with what
is there. -/
structure Keeps (h : Host σ) (texts : σ → Shelf String) : Prop where
  attached : ∀ (r : Request String) (w : World σ), w.attached = true →
    (w.call h maxReentry r.call.verb r.call.args).2.attached = true
  found : ∀ (store key : String) (w : World σ), w.attached = true →
    (w.call h maxReentry Verb.storageGet [store, key]).1 = texts w.state store key
  kept : ∀ (r : Request String) (w : World σ), w.attached = true →
    texts (w.call h maxReentry r.call.verb r.call.args).2.state = r.shelve (texts w.state)

theorem Request.shelve_map {β : Type} (f : α → β) (r : Request α) (m : Shelf α) :
    (r.map f).shelve (fun store key => (m store key).map f) =
      fun store key => (r.shelve m store key).map f := by
  cases r with
  | put s k v =>
    funext store key
    simp only [map, shelve]
    split <;> rfl
  | remove s k =>
    funext store key
    simp only [map, shelve]
    split <;> rfl
  | clear s =>
    funext store key
    simp only [map, shelve]
    split <;> rfl
  | _ => rfl

/-- `m` is what scripts have put into stores that were empty. Between two uses anything may happen
that leaves alone what the host keeps, and a use that finds an interrupt is cancelled. -/
inductive Shelved (h : Host σ) (texts : σ → Shelf String) : Shelf Value → World σ → Prop
  | empty (w : World σ) (ha : w.attached = true)
      (hempty : ∀ store key, texts w.state store key = none) :
      Shelved h texts (fun _ _ => none) w
  | use {m : Shelf Value} {w : World σ} (hw : Shelved h texts m w) (u : Use) :
      Shelved h texts (if w.pending then m else u.request.shelve m) (u.run h w).2
  | meanwhile {m : Shelf Value} {w : World σ} (hw : Shelved h texts m w) (w' : World σ)
      (ha : w'.attached = w.attached) (htexts : texts w'.state = texts w.state) :
      Shelved h texts m w'

structure Stocked (texts : σ → Shelf String) (m : Shelf Value) (w : World σ) : Prop where
  attached : w.attached = true
  texts : texts w.state = fun store key => (m store key).map Value.encoded

theorem Stocked.use {h : Host σ} {texts : σ → Shelf String} (hh : Keeps h texts)
    {m : Shelf Value} {w : World σ} (hw : Stocked texts m w) (u : Use) :
    Stocked texts (if w.pending then m else u.request.shelve m) (u.run h w).2 := by
  rw [u.run_eq, Request.outcome]
  cases w.pending with
  | true => exact hw
  | false =>
    refine ⟨hh.attached _ w hw.attached, ?_⟩
    have hkept := hh.kept (u.request.map Value.encoded) w hw.attached
    rw [hw.texts, Request.shelve_map] at hkept
    exact hkept

theorem Shelved.stocked {h : Host σ} {texts : σ → Shelf String} (hh : Keeps h texts)
    {m : Shelf Value} {w : World σ} (hw : Shelved h texts m w) : Stocked texts m w := by
  induction hw with
  | empty w ha hempty => exact ⟨ha, funext fun s => funext (hempty s)⟩
  | use _ u ih => exact ih.use hh u
  | meanwhile _ w' ha htexts ih => exact ⟨ha.trans ih.attached, htexts.trans ih.texts⟩

theorem Stocked.found {h : Host σ} {texts : σ → Shelf String} (hh : Keeps h texts)
    {m : Shelf Value} {w : World σ} (hw : Stocked texts m w) {store key : String}
    (hstorable : ∀ v, m store key = some v → v.Storable ∧ v.levels ≤ 127) :
    (w.call h maxReentry Verb.storageGet [store, key]).1.bind Api.storedValue? =
      (m store key).bind Value.present? := by
  rw [hh.found store key w hw.attached, hw.texts]
  dsimp only
  cases hm : m store key with
  | none => rfl
  | some v =>
    obtain ⟨hv, hlevels⟩ := hstorable v hm
    rw [Option.map_some, Option.bind_some, Option.bind_some, Value.stored_encoded hv hlevels]

theorem outcome_eq (h : Host σ) (r : Request Value) (w : World σ) (v : Value)
    (hv : r.reply (w.call h maxReentry (r.map Value.encoded).call.verb
      (r.map Value.encoded).call.args).1 = v) :
    (r.outcome h w).1 = if (r.outcome h w).2.pending then .error cancelled else .ok v := by
  unfold Request.outcome
  cases hp : w.pending with
  | true => rw [if_pos rfl, hp, if_pos rfl]
  | false => simp only [Bool.false_eq_true, if_false, hv]

/-- What a script gets from a store is what was put there last under the key, and the default or the
unit where that is nothing, or the unit itself. An interrupt only cancels it. -/
theorem stores_give_back {h : Host σ} {texts : σ → Shelf String} (hh : Keeps h texts)
    {m : Shelf Value} {w : World σ} (hw : Shelved h texts m w) (store key : String)
    (hstorable : ∀ v, m store key = some v → v.Storable ∧ v.levels ≤ 127)
    (default : Option Value) (p : Position) (c : Context) (s : Session) :
    ∃ a, Api.function? "get" (.storage store :: .string key :: default.toList) p = some a ∧
      let (r, w') := World.run h (a c s) w
      r = (if w'.pending then .error cancelled
        else .ok (((m store key).bind Value.present?).getD (default.getD .unit)), s) := by
  have hfound := (hw.stocked hh).found hh hstorable
  cases default with
  | none =>
    obtain ⟨a, ha, hrun⟩ := run_request h (.get store key) p c s w
    have hresult := outcome_eq h (.get store key) w _ (congrArg (·.getD .unit) hfound)
    refine ⟨a, ha, ?_⟩
    rw [hrun]
    exact congrArg (·, s) hresult
  | some d =>
    obtain ⟨a, ha, hrun⟩ := run_request h (.getOr store key d) p c s w
    have hresult := outcome_eq h (.getOr store key d) w _ (congrArg (·.getD d) hfound)
    refine ⟨a, ha, ?_⟩
    rw [hrun]
    exact congrArg (·, s) hresult

theorem Shelved.pending {h : Host σ} {texts : σ → Shelf String} {m : Shelf Value} {w : World σ}
    (hw : Shelved h texts m w) (b : Bool) : Shelved h texts m { w with pending := b } :=
  hw.meanwhile _ rfl rfl

def shelfHost : Host (Shelf String) := fun verb args => .get fun m =>
  match args with
  | [store, key, text] => .put ((Request.put store key text).shelve m) fun _ => .answer (some "true")
  | [store, key] =>
    if verb = Verb.storageGet then .answer (m store key)
    else if verb = Verb.storageRemove then
      .put ((Request.remove store key).shelve m) fun _ => .answer (some "true")
    else .answer (some (if (m store key).isSome then "true" else "false"))
  | [store] => .put ((Request.clear store).shelve m) fun _ => .answer (some "true")
  | _ => .answer none

theorem shelfHost_keeps : Keeps shelfHost id where
  attached r w ha := by
    obtain ⟨e, he⟩ := call_of_attached shelfHost 999 r.call.verb r.call.args w ha
    have hdepth : maxReentry = 999 + 1 := rfl
    rw [hdepth, he]
    cases r <;> exact ha
  found store key w ha := by
    obtain ⟨e, he⟩ := call_of_attached shelfHost 999 Verb.storageGet [store, key] w ha
    have hdepth : maxReentry = 999 + 1 := rfl
    rw [hdepth, he]
    rfl
  kept r w ha := by
    obtain ⟨e, he⟩ := call_of_attached shelfHost 999 r.call.verb r.call.args w ha
    have hdepth : maxReentry = 999 + 1 := rfl
    rw [hdepth, he]
    cases r <;> rfl

/-- What an interrupted script could not replace is still there for the next one. -/
theorem nested_value_given_back :
    let v : Value := .map [("a", .array [.int (-1), .string "null", .unit]), ("b", .bool true)]
    let use (r : Request Value) : Use := ⟨r, default, { config := {} }, {}⟩
    let w : World (Shelf String) := { state := fun _ _ => none, console := { capacity := 0 } }
    let stored := ((use (.put "s" "k" v)).run shelfHost w).2
    let cleared := ((use (.clear "t")).run shelfHost stored).2
    let interrupted := { cleared with pending := true }
    let refused := ((use (.put "s" "k" (.int 2))).run shelfHost interrupted).2
    let quiet := { refused with pending := false }
    ∃ a, Api.function? "get" [.storage "s", .string "k"] default = some a ∧
      (World.run shelfHost (a { config := {} } {}) quiet).1 = (.ok v, {}) := by
  intro v use w stored cleared interrupted refused quiet
  have hempty : Shelved shelfHost id (fun _ _ => none) w := .empty w rfl fun _ _ => rfl
  have hstored : Shelved shelfHost id _ stored := hempty.use _
  have hcleared : Shelved shelfHost id _ cleared := hstored.use _
  have hinterrupted : Shelved shelfHost id _ interrupted := hcleared.pending true
  have hrefused : Shelved shelfHost id _ refused := hinterrupted.use _
  have hquiet : Shelved shelfHost id _ quiet := hrefused.pending false
  obtain ⟨m, hm, hquiet⟩ : ∃ m, m "s" "k" = some v ∧ Shelved shelfHost id m quiet := by
    refine ⟨_, ?_, hquiet⟩
    rfl
  have hstorable : ∀ u, m "s" "k" = some u → u.Storable ∧ u.levels ≤ 127 := by
    intro u hu
    have hkeys : ["a", "b"].Pairwise (· < ·) := by decide
    rw [hm] at hu
    cases hu
    exact ⟨⟨hkeys, ⟨trivial, trivial, trivial, trivial⟩, trivial, trivial⟩, by decide⟩
  obtain ⟨a, ha, hrun⟩ := stores_give_back shelfHost_keeps hquiet "s" "k" hstorable none default
    { config := {} } {}
  have hfunction : Api.storedOr "s" "k" .unit = a := Option.some.inj ha
  subst hfunction
  have hpending : (World.run shelfHost (Api.storedOr "s" "k" .unit { config := {} } {})
      quiet).2.pending = false := by decide +kernel
  dsimp only at hrun
  rw [hpending, hm] at hrun
  exact ⟨_, ha, hrun⟩

end ScreenScript.Script
