import ScreenScript.Proofs.Script.Chains
import ScreenScript.Proofs.Script.Evaluation
import ScreenScript.Proofs.Script.Failures

/-!
The calls of functions of the language and the screen that a run makes, in the order it makes them.
Whatever statements are around them, all turns with the host and all changes of selectors are
theirs.
-/

namespace ScreenScript.Script

open Script.Action Selector

variable {σ α β : Type}

/-- What a script asks of the language or the screen. -/
inductive Demand where
  | call (name : String) (args : List Value)
  | read (v : Value) (name : String)

namespace Demand

inductive Does : Demand → Action Value → Prop
  | call {name : String} {args : List Value} {p : Position} {a : Action Value}
    (ha : Api.function? name args p = some a) : Does (.call name args) a
  | read {v : Value} {name : String} {a : Action Value}
    (ha : Api.property? v name = some a) : Does (.read v name) a

inductive Makes : Demand → List Condition → Prop
  | new : Makes (.call "newSelector" []) []
  | factory {k : Kind} {vs : List Value} {cs : List Condition} (hk : Adds k vs cs) :
    Makes (.call k.name vs) cs

inductive Appends (h : Handle) : Demand → List Condition → Prop
  | condition {k : Kind} {vs : List Value} {cs : List Condition} (hk : Adds k vs cs) :
    Appends h (.call k.name (.selector h :: vs)) cs

inductive Sends (config : Config) (h : Handle) : Demand → Client.Terminal → Prop
  | terminal {name : String} {vs : List Value} {y : Client.Terminal} (hy : Asks config name vs y) :
    Sends config h (.call name (.selector h :: vs)) y

end Demand

inductive Appended (h : Handle) : List Demand → List Condition → Prop
  | nil : Appended h [] []
  | condition {r : Demand} {rs : List Demand} {cs ds : List Condition} (hr : r.Appends h cs)
    (hrs : Appended h rs ds) : Appended h (r :: rs) (cs ++ ds)
  | other {r : Demand} {rs : List Demand} {ds : List Condition} (hr : ∀ cs, ¬r.Appends h cs)
    (hrs : Appended h rs ds) : Appended h (r :: rs) ds

/-- A demand as it takes place: the world before it, its end and its turns with the host. -/
structure Act (σ : Type) where
  demand : Demand
  world : World σ
  result : Except Stop Value
  turns : List (Turn σ)

def Act.of (h : Host σ) (r : Demand) (a : Action Value) (c : Context) (s : Session)
    (w : World σ) : Act σ :=
  { demand := r, world := w, result := (World.run h (a c s) w).1.1
    turns := World.turns h (a c s) w }

/-- The run of `a` from `c`, `s` and `w` carries out these demands. Between them the host is not
called, and no selector is changed. -/
inductive Enacts (h : Host σ) : {α : Type} → Action α → Context → Session → World σ →
    List (Act σ) → Prop
  | still {α c s w} {a : Action α} (hturns : World.turns h (a c s) w = [])
    (hselectors : (World.run h (a c s) w).1.2.selectors = s.selectors) : Enacts h a c s w []
  | act {r a c s w} (ha : Demand.Does r a) : Enacts h a c s w [.of h r a c s w]
  | first {α β c s s' w w' e acts} {a : Action α} {k : α → Action β}
    (hrun : World.run h (a c s) w = ((.error e, s'), w')) (ha : Enacts h a c s w acts) :
    Enacts h (a >>= k) c s w acts
  | next {α β c s s' w w' v acts acts'} {a : Action α} {k : α → Action β}
    (hrun : World.run h (a c s) w = ((.ok v, s'), w')) (ha : Enacts h a c s w acts)
    (hk : Enacts h (k v) c s' w' acts') : Enacts h (a >>= k) c s w (acts ++ acts')
  | afterwards {α c s w acts} {g : Session → Session} {a : Action α}
    (hg : ∀ s, (g s).selectors = s.selectors) (ha : Enacts h a c s w acts) :
    Enacts h (afterwards g a) c s w acts
  | deeper {α c s w acts} {g : Context → Context} {a : Action α}
    (hg : (g c).config = c.config) (ha : Enacts h a (g c) s w acts) :
    Enacts h (withReader g a) c s w acts
  | round {c s w acts} {a : Action Value} (ha : Enacts h a c s w acts) :
    Enacts h (Evaluator.round a) c s w acts
  | call {c s w acts} (name : String) (p : Position) {a : Action Value}
    (ha : Enacts h a c s w acts) : Enacts h (fun c s => (a c s).bind
      fun (r, s) => .done (Evaluator.callOutcome name p r, s)) c s w acts
  | uncaught {c s s' w w' r acts} {a b : Action Value}
    (hrun : World.run h (a c s) w = ((r, s'), w'))
    (hr : ∀ f, r = .error (.failed f) → f.isCatchable = false) (ha : Enacts h a c s w acts) :
    Enacts h (Evaluator.caught a b) c s w acts
  | caught {c s s' w w' f acts acts'} {a b : Action Value}
    (hrun : World.run h (a c s) w = ((.error (.failed f), s'), w')) (hf : f.isCatchable = true)
    (ha : Enacts h a c s w acts) (hb : Enacts h b c s' w' acts') :
    Enacts h (Evaluator.caught a b) c s w (acts ++ acts')
  | heard {c s w acts} {a : Action Value} (ha : Enacts h a c s w acts) :
    Enacts h (fun c s => (a c s).bind fun (r, s) => .done (Evaluator.heard r, s)) c s w acts

/-- The acts take place one after the other, each with the selectors that the one before left. -/
inductive Threaded (h : Host σ) (config : Config) : Store → List (Act σ) → Store → Prop
  | nil (st : Store) : Threaded h config st [] st
  | cons {r : Demand} {a : Action Value} {c : Context} {s : Session} {w : World σ}
    {acts : List (Act σ)} {st : Store} (ha : r.Does a) (hc : c.config = config)
    (hacts : Threaded h config (World.run h (a c s) w).1.2.selectors acts st) :
    Threaded h config s.selectors (.of h r a c s w :: acts) st

theorem Enacts.turns {h : Host σ} {a : Action α} {c : Context} {s : Session} {w : World σ}
    {acts : List (Act σ)} (ha : Enacts h a c s w acts) :
    World.turns h (a c s) w = acts.flatMap Act.turns := by
  induction ha with
  | still hturns _ => exact hturns
  | act _ => exact (List.append_nil _).symm
  | first hrun _ ih => exact (run_bind_error _ hrun).2.trans ih
  | next hrun _ _ iha ihk =>
    rw [(run_bind_ok _ hrun).2, iha, ihk, List.flatMap_append]
  | afterwards _ _ ih => exact (World.run_map h _ _ _).2.trans ih
  | deeper _ _ ih => exact ih
  | round _ ih => exact (World.run_map h _ _ _).2.trans ih
  | call _ _ _ ih => exact (World.run_map h _ _ _).2.trans ih
  | @uncaught _ _ _ _ _ _ _ _ b hrun hr _ ih => exact (run_uncaught b hrun hr).2.trans ih
  | @caught _ _ _ _ _ _ _ _ _ b hrun hf _ _ iha ihb =>
    rw [(run_caught b hrun hf).2, iha, ihb, List.flatMap_append]
  | heard _ ih => exact (World.run_map h _ _ _).2.trans ih

theorem Threaded.append {h : Host σ} {config : Config} {st st' st'' : Store}
    {acts acts' : List (Act σ)} (ha : Threaded h config st acts st')
    (ha' : Threaded h config st' acts' st'') : Threaded h config st (acts ++ acts') st'' := by
  induction ha with
  | nil st => exact ha'
  | cons hdoes hc _ ih => exact .cons hdoes hc (ih ha')

namespace Enacts

variable {h : Host σ} {c : Context} {s : Session} {w : World σ}

theorem bind {a : Action α} {k : α → Action β} (ha : ∃ acts, Enacts h a c s w acts)
    (hk : ∀ v s' (w' : World σ), World.run h (a c s) w = ((.ok v, s'), w') →
      ∃ acts, Enacts h (k v) c s' w' acts) : ∃ acts, Enacts h (a >>= k) c s w acts := by
  obtain ⟨acts, ha⟩ := ha
  generalize hrun : World.run h (a c s) w = out
  obtain ⟨⟨r, s'⟩, w'⟩ := out
  cases r with
  | ok v =>
    obtain ⟨acts', hk⟩ := hk v s' w' hrun
    exact ⟨_, .next hrun ha hk⟩
  | error e => exact ⟨_, .first hrun ha⟩

theorem quiet {s' : Session} {w' : World σ} {v : α} {a : Action α} {k : α → Action β}
    {acts : List (Act σ)} (hrun : World.run h (a c s) w = ((.ok v, s'), w'))
    (hturns : World.turns h (a c s) w = []) (hselectors : s'.selectors = s.selectors)
    (hk : Enacts h (k v) c s' w' acts) : Enacts h (a >>= k) c s w acts :=
  .next hrun (.still hturns ((congrArg (·.1.2.selectors) hrun).trans hselectors)) hk

theorem checkSize (v : Value) (p : Position) : Enacts h (Evaluator.checkSize v p) c s w [] := by
  rcases checkSize_cases v p c s with ⟨-, hsize⟩ | ⟨m, -, hsize⟩
  · exact .still (by rw [hsize]; rfl) (by rw [hsize]; rfl)
  · exact .still (by rw [hsize]; rfl) (by rw [hsize]; rfl)

theorem heed : Enacts h heed c s w [] :=
  .still (by rw [heed_apply]; rfl) (by rw [heed_apply]; rfl)

end Enacts

def Spares (a : Action α) (s : Session) : Prop :=
  ∀ c, (a c s).Ensures fun out => out.2.selectors = s.selectors

namespace Spares

variable {s : Session}

theorem bind {a : Action α} {k : α → Action β} (ha : Spares a s) (hk : ∀ v t, Spares (k v) t) :
    Spares (a >>= k) s := by
  intro c
  refine (ha c).bind fun out hout => ?_
  obtain ⟨r, t⟩ := out
  cases r with
  | ok v => exact (hk v t c).mono fun _ h => h.trans hout
  | error e => exact hout

theorem pure (v : α) : Spares (pure v : Action α) s := fun _ => rfl

theorem perform (q : Program α) : Spares (perform q) s :=
  fun _ => q.ensures_true.bind fun _ _ => rfl

theorem heed : Spares heed s := by
  intro c
  rw [heed_apply]
  exact fun _ => rfl

theorem guarded (q : Program α) : Spares (guarded q) s :=
  .bind .heed fun _ _ => .bind (.perform q) fun _ _ => .bind .heed fun _ _ => .pure _

theorem aim (g : Gesture) : Spares (aim g) s := by
  intro c
  rw [aim_apply]
  exact Spares.bind (.guarded _) (fun _ _ => .pure _) c

theorem declare (width height : Int64) (p : Position) :
    Spares (Api.setScreenMetrics width height p) s := by
  unfold Api.setScreenMetrics
  split
  · exact fun _ => rfl
  · refine .bind (.guarded _) fun size t => ?_
    dsimp only
    split
    · exact .bind (fun _ => rfl) fun _ _ => .pure _
    · exact .bind (.perform _) fun _ _ => .bind (fun _ => rfl) fun _ _ => .pure _

end Spares

theorem Native.spares {ended : Value → Prop} {place : Position → Prop} {mapping : Bool}
    {a : Action α} (ha : Native ended place mapping false a) (s : Session) : Spares a s := by
  generalize hgathering : false = gathering at ha
  induction ha generalizing s with
  | value v => exact .pure v
  | seq _ _ iha ihf => exact .bind (iha s hgathering) fun v t => ihf v t hgathering
  | look _ _ ih => exact .bind (fun _ => rfl) fun t u => ih t u hgathering
  | read => exact fun _ => rfl
  | fail _ => exact fun _ => rfl
  | finish _ => exact fun _ => rfl
  | exit => exact fun _ => rfl
  | heed => exact .heed
  | guarded _ => exact .guarded _
  | aim g => exact .aim g
  | declare width height _ => exact .declare width height _
  | pause ms => exact .perform _
  | emit m => exact .perform _
  | note e => exact .perform _
  | change _ hselectors _ _ => exact fun _ => hselectors hgathering.symm s

theorem adds_of_condition? {k : Kind} {vs : List Value} {o : Option Condition}
    (h : Api.condition? k vs = some o) : Adds k vs o.toList := by
  cases k with
  | text f m =>
    match vs with
    | [.string v] =>
      cases h
      exact .text f m v
  | flag f =>
    match vs with
    | [] =>
      cases h
      exact .flag f
    | [.bool on] =>
      cases h
      exact .flagOf f on
  | depth =>
    match vs with
    | [] =>
      cases h
      exact .depth
    | [.int n] =>
      cases h
      exact .depthOf n
  | drawingOrder =>
    match vs with
    | [] =>
      cases h
      exact .drawingOrder
    | [.int n] =>
      cases h
      exact .drawingOrderOf n

theorem not_adds_selector {k : Kind} {h : Handle} {vs : List Value} {cs : List Condition} :
    ¬Adds k (.selector h :: vs) cs := by
  intro hk
  cases hk

theorem conditionCall_some {k : Kind} {args : List Value} {a : Action Value}
    (h : Api.conditionCall k args = some a) :
    (∃ cs, Adds k args cs) ∨ ∃ g vs cs, args = .selector g :: vs ∧ Adds k vs cs := by
  unfold Api.conditionCall at h
  split at h
  · obtain ⟨o, ho, -⟩ := Option.map_eq_some_iff.mp h
    exact .inr ⟨_, _, _, rfl, adds_of_condition? ho⟩
  · obtain ⟨o, ho, -⟩ := Option.map_eq_some_iff.mp h
    exact .inl ⟨_, adds_of_condition? ho⟩

theorem conditions_gather_of_ne (s : Session) {g h : Handle} (hne : g ≠ h)
    (cs : List Condition) :
    (s.gather g cs).selectors.conditions h = s.selectors.conditions h := by
  unfold Session.gather
  dsimp only
  generalize s.selectors = store
  induction cs generalizing store with
  | nil => rfl
  | cons d ds ih =>
    rw [List.foldl_cons, ih]
    exact store.conditions_push_of_ne d hne

namespace Demand

variable {r : Demand} {a : Action Value}

theorem Does.of_makes (hr : r.Does a) {cs : List Condition} (hcs : r.Makes cs) (c : Context)
    (s : Session) : a c s = .done (.ok (.selector s.selectors.create.1),
      s.created.gather s.selectors.create.1 cs) := by
  cases hcs with
  | new =>
    cases hr with
    | call ha =>
      cases ha
      rfl
  | factory hk =>
    cases hr with
    | @call _ _ p _ ha =>
      obtain ⟨o, rfl, hfactory⟩ := function_factory hk p
      rw [hfactory] at ha
      cases ha
      exact Evaluator.made_apply o c s

theorem Does.of_appends (hr : r.Does a) {h : Handle} {cs : List Condition} (hcs : r.Appends h cs)
    (c : Context) (s : Session) : a c s = .done (.ok (.selector h), s.gather h cs) := by
  cases hcs with
  | condition hk =>
    cases hr with
    | @call _ _ p _ ha =>
      obtain ⟨o, rfl, hcondition⟩ := function_condition hk h p
      rw [hcondition] at ha
      cases ha
      exact append_apply h o c s

theorem Does.spares (hr : r.Does a) (hmakes : ∀ cs, ¬r.Makes cs)
    (happends : ∀ h cs, ¬r.Appends h cs) (s : Session) : Spares a s := by
  cases hr with
  | @read v name _ ha =>
    have hnative : Native (fun _ => True) (fun _ => True) false false a :=
      Api.property?_native v name a ha
    exact hnative.spares s
  | @call name args p _ ha =>
    -- No condition is named like the function that makes an empty selector.
    have hcondition : (Kind.ofName? name).bind (fun k => Api.conditionCall k args) = none := by
      by_contra hne
      obtain ⟨b, hb⟩ := Option.ne_none_iff_exists'.mp hne
      obtain ⟨k, hk, hcall⟩ := Option.bind_eq_some_iff.mp hb
      obtain rfl := Kind.name_of_ofName? hk
      rcases conditionCall_some hcall with ⟨cs, hcs⟩ | ⟨g, vs, cs, rfl, hcs⟩
      · exact hmakes cs (.factory hcs)
      · exact happends g cs (.condition hcs)
    have hnew : ¬(name = "newSelector" ∧ args = []) := by
      rintro ⟨rfl, rfl⟩
      exact hmakes [] .new
    have hoffers : Offers (Native (fun _ => True) (fun _ => True) true false)
        (Api.function? name args p) := by
      unfold Api.function?
      rw [hcondition]
      refine (Api.method?_native name args).orElse ?_
      unfold Api.global?
      split
      · exact absurd ⟨rfl, rfl⟩ hnew
      · exact Api.unselecting_native name (fun _ _ => trivial) trivial
    exact (hoffers a ha).spares s

theorem not_appends_of_makes {cs : List Condition} (hcs : r.Makes cs) {h : Handle}
    (ds : List Condition) : ¬r.Appends h ds := by
  intro hds
  cases hds with
  | condition hk =>
    generalize hr : Demand.call _ _ = r at hcs
    cases hcs with
    | new => cases (Demand.call.inj hr).2
    | factory hk' =>
      cases (Demand.call.inj hr).2
      exact not_adds_selector hk'

theorem Appends.handle_eq {g h : Handle} {cs ds : List Condition} (hcs : r.Appends g cs)
    (hds : r.Appends h ds) : g = h := by
  cases hcs with
  | @condition _ vs _ hk =>
    generalize hr : Demand.call _ (Value.selector g :: vs) = r at hds
    cases hds with
    | condition hk' =>
      cases (Demand.call.inj hr).2
      rfl

theorem Does.appended {σ : Type} (hr : r.Does a) (host : Host σ) (c : Context) (s : Session)
    (w : World σ) {h : Handle} (hh : h < s.selectors.lists.size) :
    let st := (World.run host (a c s) w).1.2.selectors
    h < st.lists.size ∧ ∃ ds, Appended h [r] ds ∧
      st.conditions h = s.selectors.conditions h ++ ds := by
  intro st
  by_cases hmakes : ∃ cs, r.Makes cs
  · obtain ⟨cs, hcs⟩ := hmakes
    have hst : st = (s.created.gather s.selectors.create.1 cs).selectors := by
      simp only [st, hr.of_makes hcs c s, World.run]
    have hne : s.selectors.create.1 ≠ h := Nat.ne_of_gt hh
    refine ⟨?_, [], .other (not_appends_of_makes hcs) .nil, ?_⟩
    · rw [hst, size_gather]
      exact (Array.size_push _).symm ▸ Nat.lt_succ_of_lt hh
    · rw [hst, conditions_gather_of_ne _ hne, List.append_nil]
      exact s.selectors.conditions_create h
  · by_cases happends : ∃ g cs, r.Appends g cs
    · obtain ⟨g, cs, hcs⟩ := happends
      have hst : st = (s.gather g cs).selectors := by
        simp only [st, hr.of_appends hcs c s, World.run]
      rw [hst, size_gather]
      by_cases hg : g = h
      · subst hg
        exact ⟨hh, _, .condition hcs .nil, (List.append_nil cs).symm ▸ conditions_gather s hh cs⟩
      · refine ⟨hh, [], .other (fun ds hds => hg (hcs.handle_eq hds)) .nil, ?_⟩
        rw [conditions_gather_of_ne s hg, List.append_nil]
    · have hmakes' : ∀ cs, ¬r.Makes cs := fun cs hcs => hmakes ⟨cs, hcs⟩
      have happends' : ∀ g cs, ¬r.Appends g cs := fun g cs hcs => happends ⟨g, cs, hcs⟩
      have hst : st = s.selectors := (hr.spares hmakes' happends' s c).run host w
      rw [hst]
      exact ⟨hh, [], .other (happends' h) .nil, (List.append_nil _).symm⟩

end Demand

theorem Appended.append {h : Handle} {rs rs' : List Demand} {cs ds : List Condition}
    (hcs : Appended h rs cs) (hds : Appended h rs' ds) : Appended h (rs ++ rs') (cs ++ ds) := by
  induction hcs with
  | nil => exact hds
  | condition hr _ ih =>
    rw [List.append_assoc]
    exact .condition hr ih
  | other hr _ ih => exact .other hr ih

theorem Demand.Appends.unique {h : Handle} {r : Demand} {cs ds : List Condition}
    (hcs : r.Appends h cs) (hds : r.Appends h ds) : cs = ds := by
  cases hcs with
  | @condition k vs _ hk =>
    generalize hr : Demand.call k.name (Value.selector h :: vs) = r at hds
    cases hds with
    | @condition k' vs' _ hk' =>
      obtain ⟨hname, hargs⟩ := Demand.call.inj hr
      have hkind : k = k' := Option.some.inj
        ((Kind.ofName_name k).symm.trans ((congrArg _ hname).trans (Kind.ofName_name k')))
      cases hargs
      subst hkind
      obtain ⟨o, rfl, ho⟩ := condition_of_adds hk
      obtain ⟨o', rfl, ho'⟩ := condition_of_adds hk'
      rw [Option.some.inj (ho.symm.trans ho')]

theorem Appended.unique {h : Handle} {rs : List Demand} {cs ds : List Condition}
    (hcs : Appended h rs cs) (hds : Appended h rs ds) : cs = ds := by
  induction hcs generalizing ds with
  | nil =>
    cases hds
    rfl
  | condition hr _ ih =>
    cases hds with
    | condition hr' hrs' => rw [hr.unique hr', ih hrs']
    | other hr' _ => exact absurd hr (hr' _)
  | other hr _ ih =>
    cases hds with
    | condition hr' _ => exact absurd hr' (hr _)
    | other _ hrs' => exact ih hrs'

namespace Threaded

variable {host : Host σ} {config : Config} {st st' : Store} {acts : List (Act σ)}

theorem split {before after : List (Act σ)}
    (ht : Threaded host config st (before ++ after) st') :
    ∃ u, Threaded host config st before u ∧ Threaded host config u after st' := by
  induction before generalizing st with
  | nil => exact ⟨st, .nil st, ht⟩
  | cons x before ih =>
    cases ht with
    | cons ha hc hacts =>
      obtain ⟨u, hbefore, hafter⟩ := ih hacts
      exact ⟨u, .cons ha hc hbefore, hafter⟩

theorem appended (ht : Threaded host config st acts st') {h : Handle} (hh : h < st.lists.size) :
    ∃ ds, Appended h (acts.map Act.demand) ds ∧ st'.conditions h = st.conditions h ++ ds := by
  induction ht with
  | nil st => exact ⟨[], .nil, (List.append_nil _).symm⟩
  | @cons r a c s w acts st' ha _ _ ih =>
    obtain ⟨hh', ds, hds, hconditions⟩ := ha.appended host c s w hh
    obtain ⟨es, hes, hrest⟩ := ih hh'
    refine ⟨ds ++ es, hds.append hes, ?_⟩
    rw [hrest, hconditions, List.append_assoc]

theorem silent (ht : Threaded host config st acts st') {x : Act σ} (hx : x ∈ acts)
    (hbuilds : (∃ cs, x.demand.Makes cs) ∨ ∃ h cs, x.demand.Appends h cs) : x.turns = [] := by
  induction ht with
  | nil st => cases hx
  | @cons r a c s w acts st' ha _ _ ih =>
    rcases List.mem_cons.mp hx with rfl | hx
    · change World.turns host (a c s) w = []
      rcases hbuilds with ⟨cs, hcs⟩ | ⟨h, cs, hcs⟩
      · rw [ha.of_makes hcs]
        rfl
      · rw [ha.of_appends hcs]
        rfl
    · exact ih hx

theorem made {x : Act σ} (ht : Threaded host config st (x :: acts) st') {cs : List Condition}
    {h : Handle} (hcs : x.demand.Makes cs) (hx : x.result = .ok (.selector h)) :
    ∃ u : Store, h < u.lists.size ∧ u.conditions h = cs ∧ Threaded host config u acts st' := by
  cases ht with
  | @cons r a c s w _ _ ha _ hacts =>
    have hrun := ha.of_makes hcs c s
    have hresult : (World.run host (a c s) w).1.1 = .ok (.selector h) := hx
    rw [hrun] at hresult hacts
    cases hresult
    have hlt : s.selectors.create.1 < s.created.selectors.lists.size :=
      (Array.size_push _).symm ▸ Nat.lt_succ_self _
    refine ⟨_, ?_, ?_, hacts⟩
    · exact (size_gather s.created _ cs).symm ▸ hlt
    · rw [World.run, conditions_gather _ hlt, Evaluator.conditions_created, List.nil_append]

end Threaded

end ScreenScript.Script
