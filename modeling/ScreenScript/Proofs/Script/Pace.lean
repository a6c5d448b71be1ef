import ScreenScript.Proofs.Host.Lockstep
import ScreenScript.Proofs.Script.Callable
import ScreenScript.Proofs.Script.Moves
import ScreenScript.Proofs.Script.Runs

/-!
Steps of two evaluations that keep pace: they ask for the same, fail at places that correspond, and
see the same variables. The first of them finds functions in its session; what the second has there
does not matter.
-/

namespace ScreenScript.Script

open Script.Action

/-- How two evaluations compare: where the places of the first are moved to, the functions it has, and
whether both count the same operations. -/
structure Pace where
  move : Position → Position
  functions : List Function
  exact : Prop

/-- Where operations are not counted the same they are not limited. -/
def Pace.Fits (m : Pace) (c : Context) : Prop :=
  m.exact ∨ c.config.maxOperations = 0

structure Session.Parallel (m : Pace) (s t : Session) : Prop extends s.Sees t where
  functions : s.functions = m.functions
  same : m.exact → t = s

/-- The variables by their names, with the values of the constants among them. -/
abbrev Names := List (String × Option Value)

def Session.names (s : Session) : Names :=
  s.scope.map fun v => (v.name, if v.constant then some v.value else none)

def Names.isConstant (ns : Names) : Place → Bool
  | .variable name _ => (ns.find? (·.1 = name)).any (·.2.isSome)
  | .value _ => false

/-- The names after a step are those before it, with new ones in front if it declares some. -/
def Names.Grown (grows : Bool) (before after : Names) : Prop :=
  ∃ new, after = new ++ before ∧ (grows = false → new = [])

/-- Values that `V` relates, or stops that differ in the places of a failure. -/
inductive Meets {α : Type} (m : Pace) (V : α → α → Prop) :
    Except Stop α → Except Stop α → Prop
  | ok {v w : α} (h : V v w) : Meets m V (.ok v) (.ok w)
  | error (e : Stop) : Meets m V (.error e) (.error (e.moved m.move))

structure Arrives {α : Type} (m : Pace) (grows : Bool) (ns : Names) (V : α → α → Prop)
    (x y : Except Stop α × Session) : Prop where
  meets : Meets m V x.1 y.1
  parallel : x.2.Parallel m y.2
  grown : ns.Grown grows x.2.names

def InStep {α : Type} (m : Pace) (grows : Bool) (ns : Names) (V : α → α → Prop)
    (a b : Action α) : Prop :=
  ∀ c s t, m.Fits c → s.Parallel m t → s.names = ns →
    (a c s).Lockstep (Arrives m grows ns V) (b c t)

variable {α β : Type} {m : Pace} {grows : Bool} {ns : Names}

theorem Meets.handled {x y : Except Stop Value} (h : Meets m Eq x y) (f : Failure) :
    Meets m Eq (Evaluator.handled f x) (Evaluator.handled (f.moved m.move) y) := by
  cases h with
  | ok hv => exact .ok rfl
  | error e =>
    cases e with
    | failed g =>
      cases g with
      | error c p =>
        cases c with
        | thrown v =>
          cases v with
          | unit =>
            simp only [Stop.moved, Failure.moved, Evaluator.handled,
              ← Failure.moved_rethrown (f := m.move)]
            exact .error _
          | _ => exact .error _
        | _ => exact .error _
      | _ => exact .error _
    | _ => exact .error _

namespace Names

theorem Grown.refl (grows : Bool) (ns : Names) : ns.Grown grows ns := ⟨[], rfl, fun _ => rfl⟩

theorem Grown.eq {ns ns' : Names} (h : ns.Grown false ns') : ns' = ns := by
  obtain ⟨new, rfl, hnew⟩ := h
  rw [hnew rfl, List.nil_append]

theorem Grown.more {ns ns' : Names} (h : ns.Grown false ns') (grows : Bool) :
    ns.Grown grows ns' := by
  rw [h.eq]
  exact .refl grows ns

theorem Grown.trans {ns ns' ns'' : Names} (h : ns.Grown true ns') (h' : ns'.Grown true ns'') :
    ns.Grown true ns'' := by
  obtain ⟨new, rfl, -⟩ := h
  obtain ⟨new', rfl, -⟩ := h'
  exact ⟨new' ++ new, (List.append_assoc _ _ _).symm, nofun⟩

theorem isConstant_names (s : Session) (pl : Place) :
    s.names.isConstant pl = pl.isConstant s := by
  match pl with
  | .value v => rfl
  | .variable name keys =>
    unfold isConstant Place.isConstant Session.names Session.lookup?
    dsimp only
    rw [List.find?_map, Option.any_map]
    refine congrArg (fun f => Option.any f _) (funext fun v => ?_)
    change (if v.constant then some v.value else none).isSome = v.constant
    cases v.constant <;> rfl

theorem length_names (s : Session) : s.names.length = s.scope.length := List.length_map _

theorem names_write {s : Session} {pl : Place} (h : pl.isConstant s = false) (v : Value) :
    (pl.write s v).names = s.names := by
  match pl with
  | .value w => rfl
  | .variable name keys =>
    simp only [Place.isConstant, Session.lookup?] at h
    simp only [Place.write, Session.update, Session.names]
    generalize s.scope = vs at h
    induction vs with
    | nil => rfl
    | cons w vs ih =>
      unfold Session.modifyVariable
      by_cases hw : w.name = name
      · rw [List.find?_cons_of_pos (by simpa using hw)] at h
        have hfree : w.constant = false := h
        rw [if_pos hw]
        simp [hfree]
      · rw [List.find?_cons_of_neg (by simpa using hw)] at h
        rw [if_neg hw, List.map_cons, List.map_cons, ih h]

end Names

namespace Session

theorem Sees.refl (s : Session) : s.Sees s := ⟨rfl, rfl, rfl, rfl⟩

theorem Sees.symm {s t : Session} (h : s.Sees t) : t.Sees s :=
  ⟨h.scope.symm, h.selectors.symm, h.patterns.symm, h.scale.symm⟩

theorem Sees.trans {s t u : Session} (h : s.Sees t) (h' : t.Sees u) : s.Sees u :=
  ⟨h'.scope.trans h.scope, h'.selectors.trans h.selectors, h'.patterns.trans h.patterns,
    h'.scale.trans h.scale⟩

theorem Sees.read {s t : Session} (h : s.Sees t) (pl : Place) : pl.read t = pl.read s := by
  match pl with
  | .value v => rfl
  | .variable name keys => simp only [Place.read, lookup?, h.scope]

theorem Sees.isConstant {s t : Session} (h : s.Sees t) (pl : Place) :
    pl.isConstant t = pl.isConstant s := by
  match pl with
  | .value v => rfl
  | .variable name keys => simp only [Place.isConstant, lookup?, h.scope]

theorem Sees.lookup {s t : Session} (h : s.Sees t) (name : String) :
    t.lookup? name = s.lookup? name := by
  simp only [lookup?, h.scope]

namespace Parallel

variable {s t : Session}

theorem change {f : Session → Session} (h : s.Parallel m t)
    (hf : ∀ u, (f u).functions = u.functions) (hs : (f s).Sees (f t)) :
    (f s).Parallel m (f t) :=
  ⟨hs, (hf s).trans h.functions, fun he => congrArg f (h.same he)⟩

theorem withScope (h : s.Parallel m t) (f : List Variable → List Variable) :
    Session.Parallel m { s with scope := f s.scope } { t with scope := f t.scope } :=
  h.change (f := fun u => { u with scope := f u.scope }) (fun _ => rfl)
    ⟨congrArg f h.scope, h.selectors, h.patterns, h.scale⟩

theorem write (h : s.Parallel m t) (pl : Place) (v : Value) :
    (pl.write s v).Parallel m (pl.write t v) := by
  match pl with
  | .value w => exact h
  | .variable name keys => exact h.withScope _

end Parallel

end Session

namespace InStep

variable {V : α → α → Prop} {a a' : Action α} {f f' : α → Action β} {R : β → β → Prop}

theorem done {s t : Session} {x y : Except Stop α} (hxy : Meets m V x y)
    (h : s.Parallel m t) (hns : s.names = ns) :
    Program.Lockstep (Arrives m grows ns V) (.done (x, s)) (.done (y, t)) :=
  .done ⟨hxy, h, hns ▸ .refl grows _⟩

theorem related {v w : α} (h : V v w) : InStep m grows ns V (pure v) (pure w) :=
  fun _ _ _ _ hst hns => done (.ok h) hst hns

theorem pure (v : α) : InStep m grows ns Eq (Pure.pure v) (Pure.pure v) := related rfl

theorem stop {e e' : Stop} (he : e' = e.moved m.move) :
    InStep m grows ns V (Action.stop e) (Action.stop e') := by
  subst he
  exact fun _ _ _ _ hst hns => done (.error e) hst hns

theorem fail (cause : Cause) (p : Position) :
    InStep m grows ns V (Action.fail cause p) (Action.fail cause (m.move p)) :=
  stop rfl

theorem grow (h : InStep m false ns V a a') (grows : Bool) : InStep m grows ns V a a' :=
  fun c s t hc hst hns => (h c s t hc hst hns).mono fun _ _ hxy =>
    ⟨hxy.meets, hxy.parallel, hxy.grown.more grows⟩

theorem bindWith {now later : Bool} (ha : InStep m now ns V a a')
    (hf : ∀ v w, V v w → ∀ ns', ns.Grown now ns' →
      ∀ c s t, m.Fits c → s.Parallel m t → s.names = ns' →
        (f v c s).Lockstep (Arrives m later ns R) (f' w c t))
    (hend : ∀ ns', ns.Grown now ns' → ns.Grown later ns') :
    InStep m later ns R (a >>= f) (a' >>= f') := by
  intro c s t hc hst hns
  rw [bind_apply, bind_apply]
  refine (ha c s t hc hst hns).bind ?_
  rintro ⟨x, s'⟩ ⟨y, t'⟩ ⟨hmeets, hparallel, hgrown⟩
  cases hmeets with
  | ok hv => exact hf _ _ hv _ hgrown c s' t' hc hparallel rfl
  | error e => exact .done ⟨.error e, hparallel, hend _ hgrown⟩

theorem bind (ha : InStep m false ns V a a')
    (hf : ∀ v w, V v w → InStep m grows ns R (f v) (f' w)) :
    InStep m grows ns R (a >>= f) (a' >>= f') := by
  refine bindWith ha (fun v w hv ns' hgrown c s t hc hst hns => ?_) fun ns' h => h.more grows
  exact hf v w hv c s t hc hst (hns.trans hgrown.eq)

theorem seq (ha : InStep m false ns Eq a a') (hf : ∀ v, InStep m grows ns R (f v) (f' v)) :
    InStep m grows ns R (a >>= f) (a' >>= f') := by
  refine bind ha ?_
  rintro v _ rfl
  exact hf v

theorem seqGrown (ha : InStep m true ns Eq a a')
    (hf : ∀ v ns, InStep m true ns R (f v) (f' v)) :
    InStep m true ns R (a >>= f) (a' >>= f') := by
  refine bindWith ha ?_ fun ns' h => h
  rintro v _ rfl ns' hgrown c s t hc hst hns
  refine (hf v ns' c s t hc hst hns).mono fun x y hxy => ?_
  exact ⟨hxy.meets, hxy.parallel, hgrown.trans hxy.grown⟩

theorem look {k k' : Session → Action α}
    (hk : ∀ s t, s.Parallel m t → s.names = ns → InStep m grows ns V (k s) (k' t)) :
    InStep m grows ns V (get >>= k) (get >>= k') :=
  fun c s t hc hst hns => hk s t hst hns c s t hc hst hns

theorem lookAlone {k : Session → Action α} {b : Action α}
    (hk : ∀ s t, s.Parallel m t → s.names = ns → InStep m grows ns V (k s) b) :
    InStep m grows ns V (get >>= k) b :=
  fun c s t hc hst hns => hk s t hst hns c s t hc hst hns

theorem read : InStep m grows ns Eq read read :=
  fun _ _ _ _ hst hns => done (.ok rfl) hst hns

theorem perform (p : Program α) : InStep m grows ns Eq (Action.perform p) (Action.perform p) := by
  intro c s t _ hst hns
  refine (Program.Lockstep.refl (fun _ => rfl) p).bind ?_
  rintro v _ rfl
  exact done (.ok rfl) hst hns

theorem check {c : Prop} [Decidable c] {b b' : Action Unit} {k k' : Unit → Action β}
    (hb : InStep m false ns Eq b b') (hk : ∀ u, InStep m grows ns R (k u) (k' u)) :
    InStep m grows ns R (if c then b >>= k else k ()) (if c then b' >>= k' else k' ()) := by
  split
  · exact .seq hb hk
  · exact hk ()

theorem heed : InStep m grows ns Eq Action.heed Action.heed := by
  refine seq (perform _) fun b => ?_
  split
  · exact stop rfl
  · exact pure ()

theorem guarded (q : Program α) : InStep m grows ns Eq (guarded q) (guarded q) :=
  seq heed fun _ => seq (perform q) fun v => seq heed fun _ => pure v

theorem ask (verb : String) (args : List String) :
    InStep m false ns Eq (Api.ask verb args) (Api.ask verb args) :=
  .seq (.guarded _) fun _ => .pure _

theorem aim (g : Gesture) : InStep m false ns Eq (aim g) (aim g) := by
  intro c s t hc hst hns
  rw [aim_apply, aim_apply, hst.scale]
  exact ask _ _ c s t hc hst hns

theorem rescale (k : Option Scale) : InStep m grows ns Eq (modify fun s => s.rescale k)
    (modify fun s => s.rescale k) :=
  fun _ s t _ hst hns =>
    have hsees : (s.rescale k).Parallel m (t.rescale k) := hst.change (f := (·.rescale k))
      (fun _ => rfl) ⟨hst.scope, hst.selectors, hst.patterns, rfl⟩
    done (.ok rfl) hsees hns

theorem metrics {width height : Int64} (hsize : ¬(width ≤ 0 ∨ height ≤ 0)) (p : Position) :
    InStep m false ns Eq (Api.setScreenMetrics width height p)
      (Api.setScreenMetrics width height p) := by
  simp only [Api.setScreenMetrics, if_neg hsize]
  refine .seq (.guarded _) fun size => ?_
  split
  · exact .seq (.rescale _) fun _ => .pure _
  · exact .seq (.perform _) fun _ => .seq (.rescale _) fun _ => .pure _

theorem modifyGet {g : Session → α × Session} (hg : ∀ s, (g s).2.scope = s.scope ∧
    (g s).2.functions = s.functions) (hs : ∀ s t, s.Sees t →
      (g t).1 = (g s).1 ∧ (g s).2.Sees (g t).2) :
    InStep m grows ns Eq (modifyGet g) (modifyGet g) := by
  intro c s t _ hst hns
  obtain ⟨hvalue, hsees⟩ := hs s t hst.toSees
  have hparallel : (g s).2.Parallel m (g t).2 :=
    ⟨hsees, (hg s).2.trans hst.functions, fun he => by rw [hst.same he]⟩
  have hnames : (g s).2.names = ns := by
    rw [← hns]
    simp only [Session.names, (hg s).1]
  exact done (.ok hvalue.symm) hparallel hnames

theorem tick (p : Position) : InStep m grows ns Eq (tick p) (tick (m.move p)) := by
  intro c s t hc hst hns
  have hparallel : Session.Parallel m { s with operations := s.operations + 1 }
      { t with operations := t.operations + 1 } :=
    hst.change (f := fun u => { u with operations := u.operations + 1 }) (fun _ => rfl)
      ⟨hst.scope, hst.selectors, hst.patterns, hst.scale⟩
  have hspent : (c.config.maxOperations ≠ 0 ∧ c.config.maxOperations < t.operations + 1) ↔
      (c.config.maxOperations ≠ 0 ∧ c.config.maxOperations < s.operations + 1) := by
    rcases hc with hexact | hzero
    · rw [hst.same hexact]
    · simp only [hzero, ne_eq, not_true_eq_false, false_and]
  rw [tick_apply, tick_apply]
  by_cases h : c.config.maxOperations ≠ 0 ∧ c.config.maxOperations < s.operations + 1
  · rw [if_pos h, if_pos (hspent.mpr h)]
    exact done (.error _) hparallel hns
  · rw [if_neg h, if_neg fun h' => h (hspent.mp h')]
    exact heed c _ _ hc hparallel hns

theorem inScope (ha : InStep m true ns V a a') :
    InStep m false ns V (inScope a) (inScope a') := by
  refine look fun s t hst hns c s' t' hc hst' hns' => ?_
  refine (ha c s' t' hc hst' hns').bind ?_
  rintro ⟨x, u⟩ ⟨y, u'⟩ ⟨hmeets, hparallel, new, hnew, -⟩
  have hlength : s.scope.length = ns.length := by rw [← hns, Names.length_names]
  have hrest : (u.rewind s.scope.length).names = ns := by
    have hu : u.scope.length = new.length + ns.length := by
      rw [← Names.length_names, hnew, List.length_append]
    simp only [Session.names, Session.rewind, List.map_drop]
    change u.names.drop _ = ns
    rw [hnew, hu, hlength, Nat.add_sub_cancel, List.drop_left]
  refine .done ⟨hmeets, ?_, hrest ▸ .refl _ _⟩
  rw [hst.scope]
  exact hparallel.withScope fun vs => vs.drop (vs.length - s.scope.length)

theorem isolated {vs : List Variable} (ha : ∀ ns, InStep m true ns V a a') :
    InStep m false ns V (isolated vs a) (isolated vs a') := by
  refine look fun s t hst hns c s' t' hc hst' hns' => ?_
  have hinner : Session.Parallel m { s' with scope := vs } { t' with scope := vs } :=
    hst'.withScope fun _ => vs
  refine (ha _ { c with level := c.level + 1 } _ _ hc hinner rfl).bind ?_
  rintro ⟨x, u⟩ ⟨y, u'⟩ ⟨hmeets, hparallel, -⟩
  refine .done ⟨hmeets, ?_, ?_⟩
  · rw [hst.scope]
    exact hparallel.withScope fun _ => s.scope
  · exact ⟨[], hns, fun _ => rfl⟩

theorem round {a a' : Action Value} (ha : InStep m false ns Eq a a') :
    InStep m false ns Eq (Evaluator.round a) (Evaluator.round a') := by
  intro c s t hc hst hns
  refine (ha c s t hc hst hns).bind ?_
  rintro ⟨x, s'⟩ ⟨y, t'⟩ ⟨hmeets, hparallel, hgrown⟩
  refine .done ⟨?_, hparallel, hgrown⟩
  cases hmeets with
  | ok hv => exact .ok rfl
  | error e =>
    cases e with
    | left ends => exact .ok rfl
    | _ => exact .error _

theorem call {a a' : Action Value} (ha : InStep m false ns Eq a a') (name : String)
    (p : Position) : InStep m false ns Eq
      (fun c s => (a c s).bind fun (r, s) => .done (Evaluator.callOutcome name p r, s))
      (fun c s => (a' c s).bind fun (r, s) =>
        .done (Evaluator.callOutcome name (m.move p) r, s)) := by
  intro c s t hc hst hns
  refine (ha c s t hc hst hns).bind ?_
  rintro ⟨x, s'⟩ ⟨y, t'⟩ ⟨hmeets, hparallel, hgrown⟩
  refine .done ⟨?_, hparallel, hgrown⟩
  cases hmeets with
  | ok hv => exact .ok hv
  | error e =>
    cases e with
    | returned v => exact .ok rfl
    | failed f =>
      have hout := Failure.moved_outOf (f := m.move) name p f
      simp only [Stop.moved, Evaluator.callOutcome, ← hout]
      exact .error _
    | _ => exact .error _

theorem caught {a a' b b' : Action Value} (ha : InStep m false ns Eq a a')
    (hb : InStep m false ns Eq b b') :
    InStep m false ns Eq (Evaluator.caught a b) (Evaluator.caught a' b') := by
  intro c s t hc hst hns
  refine (ha c s t hc hst hns).bind ?_
  rintro ⟨x, s'⟩ ⟨y, t'⟩ ⟨hmeets, hparallel, hgrown⟩
  cases hmeets with
  | ok hv => exact .done ⟨.ok hv, hparallel, hgrown⟩
  | error e =>
    cases e with
    | failed f =>
      simp only [Stop.moved, Failure.isCatchable_moved]
      split
      · refine (hb c s' t' hc hparallel hgrown.eq).bind ?_
        rintro ⟨x, s''⟩ ⟨y, t''⟩ ⟨hmeets, hparallel, hgrown⟩
        exact .done ⟨hmeets.handled f, hparallel, hgrown⟩
      · exact .done ⟨.error (.failed f), hparallel, hgrown⟩
    | _ => exact .done ⟨.error _, hparallel, hgrown⟩

theorem heard {a a' : Action Value} (ha : InStep m grows ns Eq a a') :
    InStep m grows ns Eq (fun c s => (a c s).bind fun (r, s) => .done (Evaluator.heard r, s))
      (fun c s => (a' c s).bind fun (r, s) => .done (Evaluator.heard r, s)) := by
  intro c s t hc hst hns
  refine (ha c s t hc hst hns).bind ?_
  rintro ⟨x, s'⟩ ⟨y, t'⟩ ⟨hmeets, hparallel, hgrown⟩
  refine .done ⟨?_, hparallel, hgrown⟩
  cases hmeets with
  | ok hv => exact .ok hv
  | error e =>
    cases e with
    | exhausted => exact .error _
    | _ => exact .ok rfl

theorem deeper {a a' : Action α} (ha : InStep m grows ns V a a') {g : Context → Context}
    (hg : ∀ c, (g c).config = c.config) :
    InStep m grows ns V (withReader g a) (withReader g a') := by
  intro c s t hc
  refine ha (g c) s t ?_
  rw [Pace.Fits, hg]
  exact hc

theorem write {pl : Place} (h : ns.isConstant pl = false) (v : Value) :
    InStep m grows ns Eq (Evaluator.writePlace pl v) (Evaluator.writePlace pl v) := by
  intro c s t _ hst hns
  rw [← hns, Names.isConstant_names] at h
  exact done (.ok rfl) (hst.write pl v) ((Names.names_write h v).trans hns)

theorem declare (name : String) (constant : Bool) (v : Value) : InStep m true ns Eq
    (modify (·.declare name constant v)) (modify (·.declare name constant v)) := by
  intro c s t _ hst hns
  refine .done ⟨.ok rfl, hst.withScope (⟨name, constant, v⟩ :: ·), ?_⟩
  exact ⟨[_], by rw [← hns]; rfl, nofun⟩

end InStep

theorem Native.inStep {mapping gathering : Bool} {a : Action α}
    (ha : Native (fun _ => True) (fun _ => False) mapping gathering a) :
    InStep m false ns Eq a a := by
  induction ha with
  | value a => exact .pure a
  | seq _ _ iha ihf => exact .seq iha ihf
  | look hk _ ih =>
    refine .look fun s t hst hns => ?_
    rw [hk s t hst.toSees.shows]
    exact ih s
  | read => exact .read
  | fail hp => exact hp.elim
  | finish _ => exact .stop rfl
  | exit => exact .stop rfl
  | heed => exact .heed
  | guarded _ => exact .guarded _
  | aim g => exact .aim g
  | @declare _ p width height hp =>
    have hsize : ¬(width ≤ 0 ∨ height ≤ 0) := fun h => hp h
    exact .metrics hsize p
  | pause ms => exact .perform _
  | emit msg => exact .perform _
  | note e => exact .perform _
  | change hg _ hs _ => exact .modifyGet hg hs

end ScreenScript.Script
