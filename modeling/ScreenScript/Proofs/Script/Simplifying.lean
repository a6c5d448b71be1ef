import ScreenScript.Proofs.Script.Places
import ScreenScript.Script.Simplify

/-!
Simplified scripts name no places but those of the script, and hold no texts but those of the script,
those of known constants, and short ones.
-/

namespace ScreenScript.Script.Simplify

variable {place : Allowed}

structure Known.Fits (place : Allowed) (k : Known) : Prop where
  names : ∀ x v, (x, some v) ∈ k.names → v.Within place.text
  limit : ∀ v, ¬(k.limit ≠ 0 ∧ k.limit < (Operator.size v).string) → v.Within place.text

theorem Known.fits_of_text (k : Known) (h : ∀ t, place.text t) : k.Fits place :=
  ⟨fun _ _ _ t _ => h t, fun _ _ t _ => h t⟩

theorem Known.Fits.learn {k : Known} (hk : k.Fits place) {s : Stmt} (hs : s.Within place) :
    (learn k s).Fits place := by
  unfold Simplify.learn
  split
  · rename_i name e constant p
    refine ⟨fun x v hv => ?_, hk.limit⟩
    rcases List.mem_cons.mp hv with hv | hv
    · obtain ⟨-, hv⟩ := Prod.mk.injEq .. ▸ hv
      split at hv
      · unfold Expr.constant? at hv
        split at hv
        · cases hv
          exact (Within.constant.mp (Within.declare.mp hs).2).2
        · cases hv
      · cases hv
    · exact hk.names x v hv
  · exact hk

theorem Known.Fits.known? {k : Known} (hk : k.Fits place) {x : String} {v : Value}
    (h : known? k x = some v) : v.Within place.text := by
  unfold Simplify.known? at h
  obtain ⟨⟨y, w⟩, hfind, hw⟩ := Option.bind_eq_some_iff.mp h
  dsimp only at hw
  subst hw
  exact hk.names y v (List.mem_of_find?_eq_some hfind)

theorem constants?_within {es : List Expr} (he : ExprsWithin place es) {vs : List Value}
    (h : constants? es = some vs) : ∀ v ∈ vs, v.Within place.text := by
  unfold constants? at h
  induction es generalizing vs with
  | nil =>
    cases h
    exact nofun
  | cons e es ih =>
    rw [Within.exprs_cons] at he
    simp only [List.mapM_cons, Option.bind_eq_bind, Option.pure_def, Option.bind_eq_some_iff,
      Option.some.injEq] at h
    obtain ⟨v, hv, ws, hws, rfl⟩ := h
    unfold Expr.constant? at hv
    split at hv
    · cases hv
      exact List.forall_mem_cons.mpr ⟨(Within.constant.mp he.1).2, ih he.2 hws⟩
    · cases hv

theorem foldOperator_within {limit : Nat}
    (hl : ∀ v, ¬(limit ≠ 0 ∧ limit < (Operator.size v).string) → v.Within place.text)
    {name : String} {args : List Expr} {p : Position}
    (hcall : (Expr.call name args p).Within place) :
    (foldOperator limit name args p).Within place := by
  unfold foldOperator
  dsimp only
  split
  · split
    · exact hcall
    · exact Within.constant.mpr ⟨(Within.call.mp hcall).1, hl _ ‹_›⟩
  · exact hcall

theorem fold_within {limit : Nat}
    (hl : ∀ v, ¬(limit ≠ 0 ∧ limit < (Operator.size v).string) → v.Within place.text)
    {name : String} {args : List Expr} {p : Position}
    (hcall : (Expr.call name args p).Within place) :
    (fold limit name args p).Within place := by
  have ha := (Within.call.mp hcall).2.1
  have hopposite : ∀ e, opposite? args = some e → e.Within place := by
    intro e he
    unfold opposite? at he
    split at he
    · cases he
      rw [Within.exprs_cons] at ha
      exact Within.constant.mpr ⟨(Within.constant.mp ha.1).1, Value.within_bool⟩
    · cases he
  unfold fold
  split
  · rename_i e he
    split at he
    · exact hopposite e he
    · cases he
  · exact foldOperator_within hl hcall

theorem foldArray_within {items : List Expr} {p : Position} (hp : place p)
    (hi : ExprsWithin place items) : (foldArray items p).Within place := by
  unfold foldArray
  split
  · rename_i vs hvs
    exact Within.constant.mpr ⟨hp, Value.within_array.mpr (constants?_within hi hvs)⟩
  · exact Within.array.mpr ⟨hp, hi⟩

theorem exprs_of_entries {es : List (String × Expr)} :
    ExprsWithin place (es.map (·.2)) ↔ EntriesWithin place es := by
  induction es with
  | nil => simp
  | cons e es ih => rw [List.map_cons, Within.exprs_cons, Within.entries_cons, ih]

theorem foldMap_within {es : List (String × Expr)} {p : Position} (hp : place p)
    (he : EntriesWithin place es) : (foldMap es p).Within place := by
  unfold foldMap
  split
  · rename_i vs hvs
    refine Within.constant.mpr ⟨hp, Value.within_map.mpr fun e hm => ?_⟩
    have hzip : (e.1, e.2) ∈ (es.map (·.1)).zip vs := Json.mem_sortMembers hm
    exact constants?_within (exprs_of_entries.mpr he) hvs e.2 (List.of_mem_zip hzip).2
  · exact Within.map.mpr ⟨hp, he⟩

theorem foldLogic_within {unit : Bool} {a b otherwise : Expr} (ha : a.Within place)
    (hb : b.Within place) (ho : otherwise.Within place) :
    (foldLogic unit a b otherwise).Within place := by
  unfold foldLogic
  split
  · split
    · exact hb
    · simpa using ha
  · split
    · exact ha
    · exact ho
  · exact ho

theorem ofBlock_within {ss : List Stmt} {p : Position} (hp : place p)
    (hs : StmtsWithin place ss) : (ofBlock ss p).Within place := by
  unfold ofBlock
  split
  · simpa
  · split
    · simpa [hp] using hs
    · simpa using hs
  · simp [*]

theorem foldIf_within {keep : Bool} {c : Expr} {yes no : List Stmt} {p : Position} (hp : place p)
    (hc : c.Within place) (hy : StmtsWithin place yes) (hn : StmtsWithin place no) :
    (foldIf keep c yes no p).Within place := by
  unfold foldIf
  split
  · exact ofBlock_within hp hy
  · exact ofBlock_within hp hn
  · split
    · simp [hp, hc, hc.startPos]
    · exact hc
  · simp [*]

theorem foldLoop_within {c : Option Expr} {body : List Stmt} {p q : Position} (hp : place p)
    (hq : place q) (hc : OptionWithin place c) (hb : StmtsWithin place body) :
    (foldLoop c body p q).Within place := by
  unfold foldLoop
  split <;> simp [*]

theorem foldTry_within {body handler : List Stmt} {p : Position} (hp : place p)
    (hb : StmtsWithin place body) (hh : StmtsWithin place handler) :
    (foldTry body handler p).Within place := by
  unfold foldTry
  split
  · exact ofBlock_within hp hb
  · simp [*]

theorem foldAssign_within {op : Option String} {target value : Expr} {p : Position} (hp : place p)
    (ht : target.Within place) (hv : value.Within place) :
    (foldAssign op target value p).Within place := by
  unfold foldAssign
  split
  · split
    · simp only [Within.call, Within.exprs_cons] at hv
      simp [*]
    · simp only [Within.assign]
      exact ⟨hp, ht, hv⟩
  · simp [*]

theorem orName_within {e simplified : Expr} (he : e.Within place)
    (hs : simplified.Within place) : (orName e simplified).Within place := by
  unfold orName
  split
  · exact he
  · exact hs

theorem reachable_within {ss : List Stmt} (h : StmtsWithin place ss) :
    StmtsWithin place (reachable ss) := by
  fun_induction reachable ss with
  | case1 => exact h
  | case2 s ss hs => simp_all
  | case3 s ss hs ih => simp_all

theorem effective_within {keep inner : Bool} {ss : List Stmt} (h : StmtsWithin place ss) :
    StmtsWithin place (effective keep inner ss).1 := by
  induction ss with
  | nil => exact h
  | cons s ss ih =>
    rw [Within.stmts_cons] at h
    unfold effective
    dsimp only
    split
    · exact ih h.2
    · exact Within.stmts_cons.mpr ⟨h.1, ih h.2⟩

theorem flatten_within {ss : List Stmt} (h : StmtsWithin place ss) :
    StmtsWithin place (flatten ss) := by
  fun_induction flatten ss with
  | case1 => exact h
  | case2 ss p rest hs ih => simp_all
  | case3 ss p rest hs ih => simp_all
  | case4 s rest hs ih => simp_all

theorem tidy_within {keep inner : Bool} {ss : List Stmt} (h : StmtsWithin place ss) :
    StmtsWithin place (tidy keep inner ss) :=
  effective_within (reachable_within (flatten_within h))

mutual

theorem expr_within {k : Known} (hk : k.Fits place) (e : Expr) (he : e.Within place) :
    (expr k e).Within place := by
  match e with
  | .constant v p => exact he
  | .interpolated parts p =>
    simp only [Within.interpolated] at he
    simp [expr, he.1, exprs_within hk parts he.2]
  | .array items p =>
    simp only [Within.array] at he
    exact foldArray_within he.1 (exprs_within hk items he.2)
  | .map es p =>
    simp only [Within.map] at he
    exact foldMap_within he.1 (entries_within hk es he.2)
  | .var x p =>
    unfold expr
    split
    · exact Within.constant.mpr ⟨Within.var.mp he, hk.known? ‹_›⟩
    · exact he
  | .call name args p =>
    simp only [Within.call] at he
    exact fold_within hk.limit (Within.call.mpr ⟨he.1, exprs_within hk args he.2.1, he.2.2⟩)
  | .path base ls p =>
    simp only [Within.path] at he
    have hb := orName_within he.2.1 (expr_within hk base he.2.1)
    simp [expr, he.1, hb, links_within hk ls he.2.2]
  | .and a b p =>
    simp only [Within.and] at he
    have ha := expr_within hk a he.2.1
    have hb := expr_within hk b he.2.2
    exact foldLogic_within ha hb (by simp [*])
  | .or a b p =>
    simp only [Within.or] at he
    have ha := expr_within hk a he.2.1
    have hb := expr_within hk b he.2.2
    exact foldLogic_within ha hb (by simp [*])
  | .block ss p =>
    simp only [Within.block] at he
    have hs : StmtsWithin place (tidy true true (stmts k true ss)) :=
      tidy_within (stmts_within hk true ss he.2)
    unfold expr
    split
    · rename_i e hss
      rw [hss] at hs
      simpa using hs
    · simp [*]

theorem exprs_within {k : Known} (hk : k.Fits place) (es : List Expr)
    (he : ExprsWithin place es) : ExprsWithin place (exprs k es) := by
  match es with
  | [] => exact he
  | e :: es =>
    rw [Within.exprs_cons] at he
    exact Within.exprs_cons.mpr ⟨expr_within hk e he.1, exprs_within hk es he.2⟩

theorem entries_within {k : Known} (hk : k.Fits place) (es : List (String × Expr))
    (he : EntriesWithin place es) : EntriesWithin place (entries k es) := by
  match es with
  | [] => exact he
  | (n, e) :: es =>
    rw [Within.entries_cons] at he
    exact Within.entries_cons.mpr ⟨expr_within hk e he.1, entries_within hk es he.2⟩

theorem links_within {k : Known} (hk : k.Fits place) (ls : List Link)
    (hl : LinksWithin place ls) : LinksWithin place (links k ls) := by
  match ls with
  | [] => exact hl
  | .property n safe p :: ls =>
    rw [Within.links_property] at hl
    exact Within.links_property.mpr ⟨hl.1, links_within hk ls hl.2⟩
  | .method n args safe p :: ls =>
    rw [Within.links_method] at hl
    exact Within.links_method.mpr ⟨hl.1, exprs_within hk args hl.2.1, links_within hk ls hl.2.2⟩
  | .index e p :: ls =>
    rw [Within.links_index] at hl
    exact Within.links_index.mpr ⟨hl.1, expr_within hk e hl.2.1, links_within hk ls hl.2.2⟩

theorem option_within {k : Known} (hk : k.Fits place) (e : Option Expr)
    (he : OptionWithin place e) : OptionWithin place (option k e) := by
  match e with
  | none => exact he
  | some e => exact expr_within hk e he

theorem stmt_within {k : Known} (hk : k.Fits place) (keep : Bool) (s : Stmt) (hs : s.Within place) :
    (stmt k keep s).Within place := by
  match s with
  | .noop p => exact hs
  | .expr e =>
    have he := expr_within hk e hs
    unfold stmt
    split
    · rename_i ss p hss
      rw [hss] at he
      simpa using he
    · exact he
  | .ifElse c yes no p =>
    simp only [Within.ifElse] at hs
    exact foldIf_within hs.1 (expr_within hk c hs.2.1)
      (tidy_within (stmts_within hk keep yes hs.2.2.1))
      (tidy_within (stmts_within hk keep no hs.2.2.2))
  | .loop c body p q =>
    simp only [Within.loop] at hs
    exact foldLoop_within hs.1 hs.2.1 (option_within hk c hs.2.2.1)
      (tidy_within (stmts_within hk false body hs.2.2.2))
  | .forIn x items body p q =>
    simp only [Within.forIn] at hs
    have hi := expr_within hk items hs.2.2.1
    have hb : StmtsWithin place (tidy false true (stmts k false body)) :=
      tidy_within (stmts_within hk false body hs.2.2.2)
    simp [stmt, hs.1, hs.2.1, hi, hb]
  | .declare x e constant p =>
    simp only [Within.declare] at hs
    simp [stmt, hs.1, expr_within hk e hs.2]
  | .assign op target value p =>
    simp only [Within.assign] at hs
    exact foldAssign_within hs.1 (orName_within hs.2.1 (expr_within hk target hs.2.1))
      (expr_within hk value hs.2.2)
  | .block ss p =>
    simp only [Within.stmtBlock] at hs
    exact ofBlock_within hs.1 (tidy_within (stmts_within hk keep ss hs.2))
  | .leave ends p => exact hs
  | .ret e p =>
    simp only [Within.ret] at hs
    simp [stmt, hs.1, option_within hk e hs.2]
  | .raise e p =>
    simp only [Within.raise] at hs
    simp [stmt, hs.1, option_within hk e hs.2]
  | .tryCatch body handler p =>
    simp only [Within.tryCatch] at hs
    exact foldTry_within hs.1 (tidy_within (stmts_within hk false body hs.2.1))
      (tidy_within (stmts_within hk false handler hs.2.2))
  | .attempt e p q => exact hs

theorem stmts_within {k : Known} (hk : k.Fits place) (keep : Bool) (ss : List Stmt)
    (hs : StmtsWithin place ss) : StmtsWithin place (stmts k keep ss) := by
  match ss with
  | [] => exact hs
  | s :: ss =>
    rw [Within.stmts_cons] at hs
    have hfirst := stmt_within hk keep s hs.1
    exact Within.stmts_cons.mpr ⟨hfirst, stmts_within (hk.learn hfirst) keep ss hs.2⟩

end

theorem body_within {k : Known} (hk : k.Fits place) {ss : List Stmt} (hs : StmtsWithin place ss) :
    StmtsWithin place (body k ss) :=
  tidy_within (stmts_within hk true ss hs)

theorem script_within {limit : Nat} {s : Session} (hk : (knownOf limit s).Fits place)
    {t : Compiled} (hb : StmtsWithin place t.body) (hf : ∀ f ∈ t.functions, f.Within place) :
    StmtsWithin place (script limit s t).body ∧
      ∀ f ∈ (script limit s t).functions, f.Within place := by
  refine ⟨body_within hk hb, fun f h => ?_⟩
  obtain ⟨g, hg, rfl⟩ := List.mem_map.mp h
  exact body_within hk (hf g hg)

end ScreenScript.Script.Simplify
