import ScreenScript.Proofs.Script.Callable

/-!
Evaluating a script is composed of the steps of an evaluation, with any bound on the steps within
each other.
-/

namespace ScreenScript.Script

open Script.Action

/-- What texts a script may come by that it does not check: the empty one, and one in which a
character was replaced. -/
structure Closed (ok : String → Prop) : Prop where
  empty : ok ""
  replaced : ∀ (t : String) (i : Nat) (c : Char), ok t → ok (String.ofList (t.toList.set i c))

theorem Closed.any : Closed fun _ => True := ⟨trivial, fun _ _ _ _ => trivial⟩

/-- An evaluator fails at places of what it evaluates, and adds no texts but those of what it
evaluates. It runs texts only if that or a function does. -/
structure Evaluator.Steady (ok : String → Prop) (known : Function → Prop) (runs : Prop)
    (g : Evaluator) : Prop where
  function {f : Function} : known f → f.evals = true → runs
  expr {inner : Bool} {place : Position → Prop} {e : Expr} : e.Within ⟨place, ok, runs⟩ →
    Yields ok known runs inner place (Value.Within ok) (g.expr e)
  stmt {inner : Bool} {place : Position → Prop} {s : Stmt} : s.Within ⟨place, ok, runs⟩ →
    Yields ok known runs inner place (Value.Within ok) (g.stmt s)
  rounds {inner : Bool} {place : Position → Prop} {cond : Option Expr} {body : List Stmt}
    {p : Position} :
    OptionWithin ⟨place, ok, runs⟩ cond → StmtsWithin ⟨place, ok, runs⟩ body → place p →
    Sound ok known runs inner place (g.rounds cond body p)

namespace Evaluator

variable {ok : String → Prop} {known : Function → Prop} {runs : Prop} {inner : Bool}
  {place : Position → Prop} {α : Type}

theorem failOn_yields {p : Position} (hp : place p) (r : Except Cause α) :
    Yields ok known runs inner place (fun a => r = .ok a) (failOn p r) := by
  cases r with
  | ok a => exact .pure rfl
  | error c => exact .fail hp

theorem checked_yields (v : Value) {p : Position} (hp : place p) :
    Yields ok known runs inner place (Value.Within ok) (checked v p) :=
  .bind (.fits v hp) fun _ hv => .pure hv

theorem readPlace_yields {pl : Place} (hpl : pl.Within ok) :
    Yields ok known runs inner place (Value.Within ok) (readPlace pl) :=
  .look (fun s m => by rw [pl.read_rescale]) fun _ hs _ => .pure (hpl.read hs)

theorem writePlace_sound (pl : Place) {v : Value} (hv : v.Within ok) :
    Sound ok known runs inner place (writePlace pl v) :=
  .alter (.write pl hv)

theorem placeOf_yields (name : String) {p : Position} (hp : place p) :
    Yields ok known runs inner place (Place.Within ok) (placeOf name p) := by
  apply Yields.look fun _ _ => rfl
  intro s _ _
  split
  · exact .pure trivial
  · split
    · exact .pure Value.within_namespaceObject
    · exact .fail hp

theorem expectBool_sound (v : Value) {p : Position} (hp : place p) :
    Sound ok known runs inner place (expectBool v p) := by
  unfold expectBool
  split
  · exact .value _
  · exact .fail hp

theorem changed?_within {v new : Value} {name : String} {args : List Value} (hv : v.Within ok)
    (ha : ∀ a ∈ args, a.Within ok) (h : Api.changed? v name args = some new) :
    new.Within ok := by
  unfold Api.changed? at h
  split at h
  · cases h
    rw [Value.within_array] at hv ⊢
    exact List.forall_mem_append.mpr ⟨hv, ha⟩
  · cases h

theorem function?_sound {name : String} {args : List Value} (hargs : ∀ v ∈ args, v.Within ok)
    {p : Position} (hp : place p) {a : Action Value} (ha : Api.function? name args p = some a) :
    Sound ok known runs inner place a := by
  have hnative : Native (Value.Within ok) place true true a :=
    Api.function?_native name hargs hp a ha
  exact .native ha (hnative.sound fun _ => id)

theorem property?_sound (v : Value) (name : String) {a : Action Value}
    (ha : Api.property? v name = some a) : Sound ok known runs inner place a := by
  have hnative : Native (Value.Within ok) place false false a := Api.property?_native v name a ha
  exact .property ha (hnative.sound fun _ => id)

theorem callNative_yields (name : String) {receiver : Place} (hr : receiver.Within ok)
    {args : List Value} (hargs : ∀ v ∈ args, v.Within ok) {p : Position} (hp : place p) :
    Yields ok known runs inner place (Value.Within ok) (callNative name receiver args p) := by
  unfold callNative
  apply Yields.seq (.tick hp)
  intro _
  apply Yields.bind (readPlace_yields hr)
  intro v hv
  dsimp only
  split
  · rename_i new hnew
    apply Yields.look fun s m => by simp only [receiver.isConstant_rescale]
    intro s _ _
    apply Yields.check (.fail hp)
    intro _
    apply Yields.seq (writePlace_sound _ (changed?_within hv hargs hnew))
    intro _
    exact .seq (.fits _ hp) fun _ => .pure Value.within_unit
  · split
    · rename_i a ha
      apply Yields.seq (function?_sound (List.forall_mem_cons.mpr ⟨hv, hargs⟩) hp ha)
      intro _
      exact checked_yields _ hp
    · exact .fail hp

theorem callPlain_yields (name : String) {p : Position} (hp : place p) :
    Yields ok known runs inner place (Value.Within ok) (callPlain name p) := by
  apply Yields.seq (.tick hp)
  intro _
  split
  · rename_i a ha
    exact .seq (function?_sound (List.forall_mem_nil _) hp ha) fun _ => checked_yields _ hp
  · exact .fail hp

theorem combine_yields (a : Assignment) (op : String) (old : Value) (hp : place a.pos) :
    Yields ok known runs inner place
      (fun new => ∃ selectors, Operator.compound selectors op old a.value = .ok new)
      (combine a op old) :=
  .look (fun _ _ => rfl) fun _ _ _ => (failOn_yields hp _).weaken fun _ h => ⟨_, h⟩

theorem store_sound (pl : Place) {new : Value}
    (hnew : new.Within ok ∨ ∃ old more, ok old ∧ new = .string (old ++ more)) {p : Position}
    (hp : place p) : Sound ok known runs inner place (do
      writePlace pl new
      checkSize new p) := by
  rcases hnew with hnew | ⟨old, more, hold, rfl⟩
  · exact .seq (writePlace_sound pl hnew) fun _ => (Yields.fits new hp).sound
  · exact .store pl more hold hp

theorem assignTo_sound {pl : Place} (hpl : pl.Within ok) {a : Assignment} (hv : a.value.Within ok)
    (hn : place a.namePos) (hp : place a.pos) :
    Sound ok known runs inner place (assignTo pl a) := by
  have hs (old new : Value) : place (sizePos a old new) := by unfold sizePos; split <;> assumption
  unfold assignTo
  apply Yields.look fun s m => by simp only [pl.isConstant_rescale]
  intro s _ _
  dsimp only
  apply Yields.check (.fail hn)
  intro _
  split
  · exact writePlace_sound _ hv
  · apply Yields.bind (readPlace_yields hpl)
    intro old hold
    apply Yields.bind (combine_yields a _ old hp)
    intro new ⟨selectors, hnew⟩
    split
    · exact .bind (.fits new hp) fun _ hw => writePlace_sound _ hw
    · rename_i hchecks
      have hstored := Operator.compound_stored hnew (Bool.eq_false_iff.mpr hchecks) hold hv
      exact store_sound pl hstored (hs _ _)

theorem readProperty_yields (v : Value) (name : String) {p : Position} (hp : place p) :
    Yields ok known runs inner place (Value.Within ok) (readProperty v name p) := by
  apply Yields.seq (.tick hp)
  intro _
  split
  · rename_i a ha
    exact .seq (property?_sound v name ha) fun _ => checked_yields _ hp
  · exact .fail hp

theorem writeProperty_sound (v : Value) (name : String) {p : Position} (a : Assignment)
    (hp : place p) (ha : place a.pos) :
    Sound ok known runs inner place (writeProperty v name p a) := by
  have rest (new : Value) : Sound ok known runs inner place (do
      tick p
      fail (α := Unit) (.unwritableProperty name v.typeName new.typeName) p) :=
    .seq (.tick hp) fun _ => .fail hp
  unfold writeProperty
  split
  · exact .seq (readProperty_yields v name hp) fun _ => .seq (combine_yields a _ _ ha) rest
  · exact rest _

theorem assignKey_sound {pl : Place} (hpl : pl.Within ok) (name : String) {a : Assignment}
    (hv : a.value.Within ok) (hn : place a.namePos) (hp : place a.pos) :
    Sound ok known runs inner place (assignKey pl name a) :=
  .seq (assignTo_sound (hpl.child _) hv hn hp) fun _ =>
    .seq (readPlace_yields hpl) fun _ => (Yields.fits _ hp).sound

theorem storeChar_sound (hok : Closed ok) (pl : Place) {s : String} (hs : ok s) (i : Nat)
    (new : Value) {p : Position} (hp : place p) : Sound ok known runs inner place (match new with
      | .char c => writePlace pl (.string (String.ofList (s.toList.set i c)))
      | v => fail (.wrongType "char" (plainTypeName v)) p) := by
  split
  · exact writePlace_sound _ (Value.within_string.mpr (hok.replaced s i _ hs))
  · exact .fail hp

theorem assignChar_sound (hok : Closed ok) (pl : Place) {s : String} (hs : ok s) (i : Nat)
    (a : Assignment) (hn : place a.namePos) (hp : place a.pos) :
    Sound ok known runs inner place (assignChar pl s i a) := by
  unfold assignChar
  apply Yields.look fun s m => by simp only [pl.isConstant_rescale]
  intro t _ _
  dsimp only
  apply Yields.check (.fail hn)
  intro _
  split
  · apply Yields.seq (combine_yields a _ _ hp)
    intro new
    exact storeChar_sound hok pl hs i new hp
  · apply Yields.seq (.value _)
    intro new
    exact storeChar_sound hok pl hs i new hp

theorem indexPlace_yields {pl : Place} (hpl : pl.Within ok) (key : Value) {keyPos p : Position}
    (hk : place keyPos) (hp : place p) :
    Yields ok known runs inner place (Place.Within ok) (indexPlace pl key keyPos p) := by
  unfold indexPlace
  apply Yields.seq (.tick hp)
  intro _
  apply Yields.seq (readPlace_yields hpl)
  intro v
  split
  · split
    · exact .pure (hpl.child _)
    · exact .fail hk
  · exact .pure (Place.entry_within hpl _ _)
  · split
    · exact .pure Value.within_char
    · exact .fail hk
  · exact .fail hk
  · exact .fail hk
  · exact .fail hk
  · exact .fail hp

theorem assignIndex_sound (hok : Closed ok) {pl : Place} (hpl : pl.Within ok) (key : Value)
    {keyPos p : Position} {a : Assignment} (hv : a.value.Within ok) (hk : place keyPos)
    (hp : place p) (hn : place a.namePos) (ha : place a.pos) :
    Sound ok known runs inner place (assignIndex pl key keyPos p a) := by
  have indexed : Sound ok known runs inner place (do assignTo (← indexPlace pl key keyPos p) a) :=
    .bind (indexPlace_yields hpl key hk hp) fun _ hq => assignTo_sound hq hv hn ha
  unfold assignIndex
  apply Yields.bind (readPlace_yields hpl)
  intro v hw
  split
  · exact .seq (.tick hp) fun _ => assignTo_sound (hpl.child _) hv hn ha
  · apply Yields.seq (.tick hp)
    intro _
    split
    · exact assignChar_sound hok pl (Value.within_string.mp hw) _ a hn ha
    · exact .fail hk
  · exact indexed
  · exact indexed
  · exact indexed
  · exact .fail hp

def Step.Within (place : Allowed) : Step → Prop
  | .property _ _ p => place p
  | .method _ args _ p => place p ∧ ∀ v ∈ args, v.Within place.text
  | .index _ keyPos p => place keyPos ∧ place p

theorem follow_yields {call : String → Place → List Value → Position → Action Value}
    (hc : ∀ name {pl args p}, pl.Within ok → (∀ v ∈ args, Value.Within ok v) → place p →
      Yields ok known runs inner place (Value.Within ok) (call name pl args p))
    (ss : List Step) (hs : ∀ st ∈ ss, st.Within ⟨place, ok, runs⟩) {pl : Place}
    (hpl : pl.Within ok) :
    Yields ok known runs inner place (Value.Within ok) (follow call ss pl) := by
  induction ss generalizing pl with
  | nil => exact readPlace_yields hpl
  | cons st ss ih =>
    have hst := hs st (by simp)
    have rest {q : Place} (hq : q.Within ok) := ih (fun t ht => hs t (by simp [ht])) hq
    cases st with
    | property name safe p =>
      unfold follow
      apply Yields.seq (readPlace_yields hpl)
      intro v
      split
      · split
        · exact .pure Value.within_unit
        · exact readProperty_yields _ _ hst
      · exact .seq (.tick hst) fun _ => rest (Place.entry_within hpl name _)
      · exact .bind (readProperty_yields _ _ hst) fun _ hw => rest hw
    | method name args safe p =>
      have go (b : Bool) : Yields ok known runs inner place (Value.Within ok)
          (if b = true then pure Value.unit
            else do follow call ss (.value (← call name pl args p))) := by
        split
        · exact .pure Value.within_unit
        · exact .bind (hc name hpl hst.2 hst.1) fun _ hw => rest hw
      unfold follow
      exact .seq (readPlace_yields hpl) fun v => go _
    | index key keyPos p =>
      unfold follow
      exact .bind (indexPlace_yields hpl key hst.1 hst.2) fun _ hq => rest hq

theorem followAssign_sound (hok : Closed ok) {a : Assignment} (hv : a.value.Within ok)
    (hn : place a.namePos) (ha : place a.pos) (ss : List Step)
    (hs : ∀ st ∈ ss, st.Within ⟨place, ok, runs⟩) {pl : Place} (hpl : pl.Within ok) :
    Sound ok known runs inner place (followAssign a ss pl) := by
  fun_induction followAssign a ss pl with
  | case1 pl => exact assignTo_sound hpl hv hn ha
  | case2 name safe p pl =>
    have hp : place p := hs (.property name safe p) (by simp)
    apply Yields.seq (readPlace_yields hpl)
    intro v
    split
    · split
      · exact .value _
      · exact writeProperty_sound _ _ a hp ha
    · exact .seq (.tick hp) fun _ => assignKey_sound hpl _ hv hn ha
    · exact writeProperty_sound _ _ a hp ha
  | case3 key keyPos p pl =>
    have hp : place keyPos ∧ place p := hs (.index key keyPos p) (by simp)
    exact assignIndex_sound hok hpl key hv hp.1 hp.2 hn ha
  | case4 name safe p rest pl hne ih₂ ih₁ =>
    have hp : place p := hs (.property name safe p) (by simp)
    have hrest : ∀ st ∈ rest, st.Within ⟨place, ok, runs⟩ := fun st h => hs st (by simp [h])
    apply Yields.seq (readPlace_yields hpl)
    intro v
    split
    · split
      · exact .value _
      · exact .bind (readProperty_yields _ _ hp) fun _ hw => ih₂ _ hrest hw
    · exact .seq (.tick hp) fun _ => ih₁ _ hrest (Place.entry_within hpl name _)
    · exact .bind (readProperty_yields _ _ hp) fun _ hw => ih₂ _ hrest hw
  | case5 key keyPos p rest pl hne ih =>
    have hp : place keyPos ∧ place p := hs (.index key keyPos p) (by simp)
    have hrest : ∀ st ∈ rest, st.Within ⟨place, ok, runs⟩ := fun st h => hs st (by simp [h])
    exact .bind (indexPlace_yields hpl key hp.1 hp.2) fun _ hq => ih _ hrest hq
  | case6 => exact .value _

variable {g : Evaluator} (hg : g.Steady ok known runs)

include hg

theorem exprs_yields {es : List Expr} (he : ExprsWithin ⟨place, ok, runs⟩ es) :
    Yields ok known runs inner place (fun vs => ∀ v ∈ vs, v.Within ok) (g.exprs es) := by
  induction es with
  | nil => exact .pure (List.forall_mem_nil _)
  | cons e es ih =>
    simp only [Within.exprs_cons] at he
    apply Yields.bind (hg.expr he.1)
    intro v hv
    apply Yields.bind (ih he.2)
    intro vs hvs
    exact .pure (List.forall_mem_cons.mpr ⟨hv, hvs⟩)

theorem stmts_yields {ss : List Stmt} (hs : StmtsWithin ⟨place, ok, runs⟩ ss) :
    Yields ok known runs inner place (Value.Within ok) (g.stmts ss) := by
  fun_induction Evaluator.stmts g ss with
  | case1 => exact .pure Value.within_unit
  | case2 s => exact hg.stmt (Within.stmts_cons.mp hs).1
  | case3 s ss hne ih =>
    simp only [Within.stmts_cons] at hs
    exact .seq (hg.stmt hs.1) fun _ => ih hs.2

theorem block_yields {ss : List Stmt} (hs : StmtsWithin ⟨place, ok, runs⟩ ss) :
    Yields ok known runs inner place (Value.Within ok) (g.block ss) := by
  unfold Evaluator.block
  split
  · exact .pure Value.within_unit
  · exact .inScope (stmts_yields hg hs)

omit hg in
theorem arguments_within {params : List String} {args : List Value}
    (ha : ∀ v ∈ args, v.Within ok) :
    ∀ v ∈ (params.zip args).reverse.map fun (n, v) => (⟨n, false, v⟩ : Variable),
      v.value.Within ok := by
  intro v hv
  obtain ⟨⟨n, w⟩, hm, rfl⟩ := List.mem_map.mp hv
  exact ha w (List.of_mem_zip (List.mem_reverse.mp hm)).2

structure Ready (ok : String → Prop) (known : Function → Prop) (f : Function) : Prop where
  known : known f
  texts : ∀ t ∈ stmtsTexts f.body, ok t

omit hg in
theorem ready_of_function? {s : Session} (hs : s.Within ok) (hf : ∀ f ∈ s.functions, known f)
    {name : String} {arity : Nat} {f : Function} (h : s.function? name arity = some f) :
    Ready ok known f :=
  ⟨hf f (List.mem_of_find?_eq_some h), hs.functions f (List.mem_of_find?_eq_some h)⟩

theorem callFunction_yields {f : Function} (hf : Ready ok known f) {args : List Value}
    (hargs : ∀ v ∈ args, v.Within ok) {p : Position} (hp : place p) :
    Yields ok known runs inner place (Value.Within ok) (g.callFunction f args p) := by
  have hbody : StmtsWithin ⟨(· ∈ f.places), ok, runs⟩ f.body :=
    ⟨fun _ h => h, hf.texts, hg.function hf.known⟩
  unfold callFunction
  split
  · exact .pure Value.within_unit
  · apply Yields.seq (.tick hp)
    intro _
    apply Yields.seq .read
    intro c
    dsimp only
    apply Yields.check (.fail hp)
    intro _
    exact .call hf.known hp (.isolated (arguments_within hargs) (stmts_yields hg hbody))

theorem callMethod_yields (name : String) {receiver : Place} {args : List Value} {p : Position}
    (hr : receiver.Within ok) (hargs : ∀ v ∈ args, v.Within ok) (hp : place p) :
    Yields ok known runs inner place (Value.Within ok) (g.callMethod name receiver args p) := by
  unfold callMethod
  apply Yields.look fun _ _ => rfl
  intro s hs hf
  split
  · exact callFunction_yields hg (ready_of_function? hs hf ‹_›) hargs hp
  · exact callNative_yields name hr hargs hp

omit hg in
theorem detached_yields {pl : Place} (hpl : pl.Within ok) :
    Yields ok known runs inner place (Place.Within ok) (detached pl) := by
  apply Yields.look fun s m => by rw [pl.isConstant_rescale]
  intro s _ _
  split
  · exact .bind (readPlace_yields hpl) fun _ hv => .pure hv
  · exact .pure hpl

theorem callAny_yields (name : String) {receiver : Place} (hr : receiver.Within ok)
    {rest : List Value} (hrest : ∀ v ∈ rest, v.Within ok) {p : Position} (hp : place p) :
    Yields ok known runs inner place (Value.Within ok) (do
      match (← get).function? name (rest.length + 1) with
      | some f => do callFunction g f ((← readPlace receiver) :: rest) p
      | none => callNative name receiver rest p) := by
  apply Yields.look fun _ _ => rfl
  intro s hs hf
  split
  · apply Yields.bind (readPlace_yields hr)
    intro v hv
    have hargs : ∀ w ∈ v :: rest, w.Within ok := List.forall_mem_cons.mpr ⟨hv, hrest⟩
    exact callFunction_yields hg (ready_of_function? hs hf ‹_›) hargs hp
  · exact callNative_yields name hr hrest hp

theorem call_yields (name : String) {args : List Expr} {p : Position} (hp : place p)
    (ha : ExprsWithin ⟨place, ok, runs⟩ args) :
    Yields ok known runs inner place (Value.Within ok) (g.call name args p) := by
  unfold Evaluator.call
  dsimp only
  split
  · apply Yields.look fun _ _ => rfl
    intro s hs hf
    split
    · have hready := ready_of_function? hs hf ‹_›
      exact callFunction_yields hg hready (List.forall_mem_nil _) hp
    · exact callPlain_yields name hp
  · rename_i x q rest
    simp only [Within.exprs_cons, Within.var] at ha
    apply Yields.bind (exprs_yields hg ha.2)
    intro vs hvs
    apply Yields.bind (placeOf_yields x ha.1)
    intro pl hpl
    apply Yields.seq (.tick ha.1)
    intro _
    apply Yields.bind (detached_yields hpl)
    intro _ hq
    exact callAny_yields hg name hq hvs hp
  · simp only [Within.exprs_cons] at ha
    apply Yields.bind (hg.expr ha.1)
    intro v hv
    apply Yields.bind (exprs_yields hg ha.2)
    intro _ hvs
    have hreceiver : (Place.value v).Within ok := hv
    exact callAny_yields hg name hreceiver hvs hp

theorem operator?_yields (name : String) {args : List Expr} {p : Position} (hp : place p)
    (ha : ExprsWithin ⟨place, ok, runs⟩ args) :
    Offers (Yields ok known runs inner place (Value.Within ok)) (g.operator? name args p) := by
  unfold operator?
  split
  · simp only [Within.exprs_cons] at ha
    cases hf : Operator.unary? name with
    | none => exact .none
    | some f =>
      refine .some ?_
      apply Yields.seq (hg.expr ha.1)
      intro v
      apply Yields.check (.tick hp)
      intro _
      exact (failOn_yields hp _).weaken fun w hw =>
        Value.within_of_texts (Operator.unary?_texts hf hw)
  · simp only [Within.exprs_cons] at ha
    refine .map fun _ => ?_
    apply Yields.seq (hg.expr ha.1)
    intro v
    apply Yields.seq (hg.expr ha.2.1)
    intro w
    dsimp only
    apply Yields.check (.tick hp)
    intro _
    apply Yields.look fun _ _ => rfl
    intro s _ _
    split
    · exact .seq (failOn_yields hp _) fun _ => checked_yields _ hp
    · exact .pure Value.within_unit
  · exact .none

theorem operatorOrCall_yields (name : String) {args : List Expr} {p : Position} (hp : place p)
    (ha : ExprsWithin ⟨place, ok, runs⟩ args) :
    Yields ok known runs inner place (Value.Within ok)
      ((g.operator? name args p).getD (g.call name args p)) := by
  cases h : g.operator? name args p with
  | some a => exact operator?_yields hg name hp ha a h
  | none => exact call_yields hg name hp ha

theorem steps_yields {ls : List Link} (hl : LinksWithin ⟨place, ok, runs⟩ ls) :
    Yields ok known runs inner place (fun ss => ∀ st ∈ ss, st.Within ⟨place, ok, runs⟩)
      (g.steps ls) := by
  induction ls with
  | nil => exact .pure (List.forall_mem_nil _)
  | cons l ls ih =>
    cases l with
    | property name safe p =>
      simp only [Within.links_property] at hl
      refine .bind (ih hl.2) fun ss hss => .pure ?_
      exact List.forall_mem_cons.mpr ⟨hl.1, hss⟩
    | method name args safe p =>
      simp only [Within.links_method] at hl
      refine .bind (exprs_yields hg hl.2.1) fun vs hvs => .bind (ih hl.2.2) fun ss hss => .pure ?_
      exact List.forall_mem_cons.mpr ⟨⟨hl.1, hvs⟩, hss⟩
    | index e p =>
      simp only [Within.links_index] at hl
      refine .seq (hg.expr hl.2.1) fun v => .bind (ih hl.2.2) fun ss hss => .pure ?_
      exact List.forall_mem_cons.mpr ⟨⟨hl.2.1.startPos, hl.1⟩, hss⟩

theorem basePlace_yields {base : Expr} (hb : base.Within ⟨place, ok, runs⟩) :
    Yields ok known runs inner place (Place.Within ok) (g.basePlace base) := by
  unfold basePlace
  split
  · have hq := Within.var.mp hb
    apply Yields.bind (placeOf_yields _ hq)
    intro _ hpl
    apply Yields.seq (.tick hq)
    intro _
    exact .pure hpl
  · exact .bind (hg.expr hb) fun _ hv => .pure hv

theorem path_yields {base : Expr} {ls : List Link} (hb : base.Within ⟨place, ok, runs⟩)
    (hl : LinksWithin ⟨place, ok, runs⟩ ls) :
    Yields ok known runs inner place (Value.Within ok) (g.path base ls) := by
  apply Yields.bind (steps_yields hg hl)
  intro ss hss
  apply Yields.bind (basePlace_yields hg hb)
  intro pl hpl
  exact follow_yields (callMethod_yields hg) ss hss hpl

theorem interpolate_yields {before : String} (hbefore : ok before) {es : List Expr}
    (he : ExprsWithin ⟨place, ok, runs⟩ es) :
    Yields ok known runs inner place (Value.Within ok) (g.interpolate before es) := by
  induction es generalizing before with
  | nil => exact .pure (Value.within_string.mpr hbefore)
  | cons e es ih =>
    simp only [Within.exprs_cons] at he
    apply Yields.seq (hg.expr he.1)
    intro v
    apply Yields.look fun _ _ => rfl
    intro s _ _
    apply Yields.bind (.fits _ he.1.pos)
    intro _ hv
    exact ih (Value.within_string.mp hv) he.2

omit hg in
theorem checkItems_sound (sizes : List Operator.Size) {p : Position} (hp : place p) :
    Sound ok known runs inner place (arrayItems.checkItems sizes p) := by
  apply Yields.seq .read
  intro c
  dsimp only
  split
  · exact .fail hp
  · exact .value _

theorem arrayItems_yields {before : List Value} (hbefore : ∀ v ∈ before, v.Within ok)
    {es : List Expr} (he : ExprsWithin ⟨place, ok, runs⟩ es) :
    Yields ok known runs inner place (Value.Within ok) (g.arrayItems before es) := by
  induction es generalizing before with
  | nil => exact .pure (Value.within_array.mpr hbefore)
  | cons e es ih =>
    simp only [Within.exprs_cons] at he
    apply Yields.bind (hg.expr he.1)
    intro v hv
    apply Yields.seq (checkItems_sound _ he.1.pos)
    intro _
    exact ih (List.forall_mem_append.mpr ⟨hbefore, List.forall_mem_singleton.mpr hv⟩) he.2

theorem mapEntries_yields {before : List (String × Value)}
    (hbefore : ∀ e ∈ before, e.2.Within ok) {es : List (String × Expr)}
    (he : EntriesWithin ⟨place, ok, runs⟩ es) :
    Yields ok known runs inner place (Value.Within ok) (g.mapEntries before es) := by
  induction es generalizing before with
  | nil => exact .pure (Value.within_map.mpr hbefore)
  | cons entry es ih =>
    obtain ⟨k, e⟩ := entry
    simp only [Within.entries_cons] at he
    apply Yields.bind (hg.expr he.1)
    intro v hv
    apply Yields.seq (checkItems_sound _ he.1.pos)
    intro _
    exact ih (Value.Within.put hbefore hv k) he.2

omit hg in
theorem truth_yields (v : Value) {p : Position} (hp : place p) :
    Yields ok known runs inner place (Value.Within ok) (do pure (.bool (← expectBool v p))) :=
  .seq (expectBool_sound v hp) fun _ => .pure Value.within_bool

theorem exprRule_yields (hok : Closed ok) {e : Expr} (he : e.Within ⟨place, ok, runs⟩) :
    Yields ok known runs inner place (Value.Within ok) (g.exprRule e) := by
  apply Yields.seq (.tick he.pos)
  intro _
  cases e with
  | constant v p => exact .pure (Within.constant.mp he).2
  | interpolated parts p => exact interpolate_yields hg hok.empty (Within.interpolated.mp he).2
  | array items p => exact arrayItems_yields hg (List.forall_mem_nil _) (Within.array.mp he).2
  | map entries p => exact mapEntries_yields hg (List.forall_mem_nil _) (Within.map.mp he).2
  | var name p => exact .bind (placeOf_yields name he.pos) fun _ hpl => readPlace_yields hpl
  | call name args p => exact operatorOrCall_yields hg name he.pos (Within.call.mp he).2.1
  | path base ls p =>
    simp only [Within.path] at he
    exact path_yields hg he.2.1 he.2.2
  | and a b p =>
    simp only [Within.and] at he
    apply Yields.seq (hg.expr he.2.1)
    intro v
    apply Yields.seq (expectBool_sound v he.2.1.pos)
    intro t
    split
    · exact .seq (hg.expr he.2.2) fun w => truth_yields w he.2.2.pos
    · exact .pure Value.within_bool
  | or a b p =>
    simp only [Within.or] at he
    apply Yields.seq (hg.expr he.2.1)
    intro v
    apply Yields.seq (expectBool_sound v he.2.1.pos)
    intro t
    split
    · exact .pure Value.within_bool
    · exact .seq (hg.expr he.2.2) fun w => truth_yields w he.2.2.pos
  | block ss p => exact block_yields hg (Within.block.mp he).2

theorem roundsRule_sound {cond : Option Expr} {body : List Stmt} {p : Position}
    (hc : OptionWithin ⟨place, ok, runs⟩ cond) (hb : StmtsWithin ⟨place, ok, runs⟩ body)
    (hp : place p) :
    Sound ok known runs inner place (g.roundsRule cond body p) := by
  have again : Sound ok known runs inner place (g.rounds cond body p) := hg.rounds hc hb hp
  have rest (goOn : Bool) : Sound ok known runs inner place (if goOn = true then
      (if body.isEmpty = true then do tick p; g.rounds cond body p
      else do if ← round (g.block body) then g.rounds cond body p else pure ()) else pure ()) := by
    split
    · split
      · exact .seq (.tick hp) fun _ => again
      · apply Yields.seq (.round (block_yields hg hb))
        intro b
        split
        · exact again
        · exact .value _
    · exact .value _
  unfold roundsRule
  cases cond with
  | none => exact .seq (.value _) rest
  | some c =>
    have hcond := Within.option_some.mp hc
    exact .seq (hg.expr hcond) fun v => .seq (expectBool_sound v hcond.pos) rest

theorem itemRound_sound (name : String) {body : List Stmt} {p : Position} {v : Value}
    (hv : v.Within ok) (hb : StmtsWithin ⟨place, ok, runs⟩ body) (hp : place p) :
    Sound ok known runs inner place (g.itemRound name body p v) := by
  have hdeclare : Keeping ok inner (·.declare name false v) :=
    ⟨fun _ => rfl, fun _ _ => rfl, fun _ hs => hs.declare hv name false, fun _ _ => rfl⟩
  apply Yields.seq (.tick hp)
  intro _
  split
  · exact .value _
  · exact .round (.inScope (.seq (.alter hdeclare) fun _ => block_yields hg hb))

theorem forItems_sound (name : String) {body : List Stmt} {p : Position} {vs : List Value}
    (hvs : ∀ v ∈ vs, v.Within ok) (hb : StmtsWithin ⟨place, ok, runs⟩ body) (hp : place p) :
    Sound ok known runs inner place (g.forItems name body p vs) := by
  induction vs with
  | nil => exact .value _
  | cons v vs ih =>
    rw [List.forall_mem_cons] at hvs
    apply Yields.seq (itemRound_sound hg name hvs.1 hb hp)
    intro b
    split
    · exact ih hvs.2
    · exact .value _

theorem forRange_sound (name : String) {body : List Stmt} {p : Position} (n : Nat) (i : Int)
    (hb : StmtsWithin ⟨place, ok, runs⟩ body) (hp : place p) :
    Sound ok known runs inner place (g.forRange name body p n i) := by
  induction n generalizing i with
  | zero => exact .value _
  | succ n ih =>
    apply Yields.seq (itemRound_sound hg name Value.within_int hb hp)
    intro b
    split
    · exact ih _
    · exact .value _

theorem forRule_sound (name : String) {items : Expr} {body : List Stmt} {p : Position}
    (hi : items.Within ⟨place, ok, runs⟩) (hb : StmtsWithin ⟨place, ok, runs⟩ body) (hp : place p) :
    Sound ok known runs inner place (g.forRule name items body p) := by
  apply Yields.bind (hg.expr hi)
  intro v hv
  split
  · exact forItems_sound hg name (Value.within_array.mp hv) hb hp
  · refine forItems_sound hg name (fun w hw => ?_) hb hp
    obtain ⟨c, -, rfl⟩ := List.mem_map.mp hw
    exact Value.within_char
  · exact forRange_sound hg name _ _ hb hp
  · exact .fail hi.startPos

theorem assignRule_sound (hok : Closed ok) (op : Option String) {target value : Expr}
    {p : Position} (ht : target.Within ⟨place, ok, runs⟩) (hv : value.Within ⟨place, ok, runs⟩)
    (hp : place p) : Sound ok known runs inner place (g.assignRule op target value p) := by
  apply Yields.bind (hg.expr hv)
  intro v hw
  split
  · rename_i x q
    have hq : place q := Within.var.mp ht
    apply Yields.seq (.tick hq)
    intro _
    apply Yields.bind (placeOf_yields x hq)
    intro pl hpl
    split
    · exact assignTo_sound hpl hw hq hp
    · exact .fail hq
  · rename_i x q ls r
    simp only [Within.path] at ht
    have hq : place q := Within.var.mp ht.2.1
    apply Yields.bind (steps_yields hg ht.2.2)
    intro ss hss
    apply Yields.bind (basePlace_yields hg ht.2.1)
    intro pl hpl
    exact followAssign_sound hok hw hq hp ss hss hpl
  · exact .value _

theorem optional_yields {e : Option Expr} (he : OptionWithin ⟨place, ok, runs⟩ e) :
    Yields ok known runs inner place (Value.Within ok) (g.optional e) := by
  cases e with
  | none => exact .pure Value.within_unit
  | some e => exact hg.expr (Within.option_some.mp he)

theorem textRule_yields (hruns : runs) (text : String) {p : Position} (hp : place p) :
    Yields ok known runs inner place (Value.Within ok) (g.textRule text p) := by
  apply Yields.seq (.tick hp)
  intro _
  apply Yields.bind (.parsed text hruns hp)
  intro ss hss
  cases ss with
  | none => exact .pure Value.within_unit
  | some xs => exact stmts_yields hg (hss xs rfl)

theorem attemptRule_yields (hruns : runs) {e : Expr} (he : e.Within ⟨place, ok, runs⟩)
    {p : Position} (hp : place p) :
    Yields ok known runs inner place (Value.Within ok) (g.attemptRule e p) := by
  apply Yields.seq (.tick hp)
  intro _
  apply Yields.seq (hg.expr he)
  intro v
  split
  · exact .heard hruns (.deeper (fun _ => rfl) (textRule_yields hg hruns _ hp))
  · exact .fail he.startPos

theorem stmtRule_yields (hok : Closed ok) {s : Stmt} (hs : s.Within ⟨place, ok, runs⟩) :
    Yields ok known runs inner place (Value.Within ok) (g.stmtRule s) := by
  have done {a : Action Unit} (ha : Sound ok known runs inner place a) :
      Yields ok known runs inner place (Value.Within ok) (do
        a
        pure .unit) :=
    .seq ha fun _ => .pure Value.within_unit
  apply Yields.seq (.tick (hs.places _ s.pos_mem_places))
  intro _
  cases s with
  | noop p => exact .pure Value.within_unit
  | expr e =>
    cases e with
    | call name args p =>
      have hcall := Within.call.mp (Within.expr.mp hs)
      exact operatorOrCall_yields hg name hcall.1 hcall.2.1
    | _ => exact hg.expr (Within.expr.mp hs)
  | ifElse cond yes no p =>
    simp only [Within.ifElse] at hs
    apply Yields.seq (hg.expr hs.2.1)
    intro v
    apply Yields.seq (expectBool_sound v hs.2.1.pos)
    intro b
    split
    · exact block_yields hg hs.2.2.1
    · exact block_yields hg hs.2.2.2
  | loop cond body p q =>
    simp only [Within.loop] at hs
    exact done (hg.rounds hs.2.2.1 hs.2.2.2 hs.2.1)
  | forIn name items body p q =>
    simp only [Within.forIn] at hs
    exact done (forRule_sound hg name hs.2.2.1 hs.2.2.2 hs.2.1)
  | declare name init constant p =>
    simp only [Within.declare] at hs
    apply Yields.bind (hg.expr hs.2)
    intro v hv
    exact done (.alter ⟨fun _ => rfl, fun _ _ => rfl,
      fun _ ht => ht.declare hv name constant, fun _ _ => rfl⟩)
  | assign op target value p =>
    simp only [Within.assign] at hs
    exact done (assignRule_sound hg hok op hs.2.1 hs.2.2 hs.1)
  | block ss p => exact block_yields hg (Within.stmtBlock.mp hs).2
  | leave ends p => exact .leave trivial
  | ret e p =>
    apply Yields.bind (optional_yields hg (Within.ret.mp hs).2)
    intro v hv
    exact .leave hv
  | raise e p =>
    simp only [Within.raise] at hs
    apply Yields.seq (optional_yields hg hs.2)
    intro v
    exact .fail hs.1
  | tryCatch body handler p =>
    simp only [Within.tryCatch] at hs
    exact .caught (block_yields hg hs.2.1) (block_yields hg hs.2.2)
  | attempt e p q =>
    simp only [Within.attempt] at hs
    exact .caught (.inScope (attemptRule_yields hg hs.2.2.2 hs.2.2.1 hs.2.1))
      (.pure Value.within_unit)

end Evaluator

theorem evaluator_steady {ok : String → Prop} (hok : Closed ok) {known : Function → Prop}
    {runs : Prop} (hknown : ∀ f, known f → f.evals = true → runs) (n : Nat) :
    (evaluator n).Steady ok known runs := by
  induction n with
  | zero =>
    -- Being exhausted is no failure of the script.
    exact ⟨hknown _, fun _ => .leave trivial, fun _ => .leave trivial, fun _ _ _ => .leave trivial⟩
  | succ n ih =>
    exact ⟨hknown _, fun he => Evaluator.exprRule_yields ih hok he,
      fun hs => Evaluator.stmtRule_yields ih hok hs,
      fun hc hb hp => Evaluator.roundsRule_sound ih hc hb hp⟩

theorem body_yields {ok : String → Prop} (hok : Closed ok) {known : Function → Prop} {runs : Prop}
    (hknown : ∀ f, known f → f.evals = true → runs) (n : Nat) {place : Position → Prop}
    {body : List Stmt} (hbody : StmtsWithin ⟨place, ok, runs⟩ body) :
    Yields ok known runs false place (Value.Within ok) ((evaluator n).stmts body) :=
  Evaluator.stmts_yields (evaluator_steady hok hknown n) hbody

theorem any_body_yields (n : Nat) (body : List Stmt) :
    Yields (fun _ => True) (fun _ => True) True false (fun _ => True) (Value.Within fun _ => True)
      ((evaluator n).stmts body) :=
  body_yields .any (fun _ _ _ => trivial) n
    ⟨fun _ _ => trivial, fun _ _ => trivial, fun _ => trivial⟩

end ScreenScript.Script
