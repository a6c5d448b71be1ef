import ScreenScript.Proofs.Host.Stillness
import ScreenScript.Proofs.Script.Runs
import ScreenScript.Script.Simplify

/-!
Steps that ask for nothing and change nothing but the number of operations. Expressions and statements
without effect are of that kind.
-/

namespace ScreenScript.Script

open Script.Action

namespace Session

def Counts (s t : Session) : Prop :=
  ∃ n, t = { s with operations := n }

namespace Counts

variable {s t u : Session}

theorem refl (s : Session) : s.Counts s := ⟨s.operations, rfl⟩

theorem trans (hst : s.Counts t) (htu : t.Counts u) : s.Counts u := by
  obtain ⟨n, rfl⟩ := hst
  obtain ⟨m, rfl⟩ := htu
  exact ⟨m, rfl⟩

theorem lookup (h : s.Counts t) (x : String) : t.lookup? x = s.lookup? x := by
  obtain ⟨n, rfl⟩ := h
  rfl

theorem function (h : s.Counts t) (name : String) (arity : Nat) :
    t.function? name arity = s.function? name arity := by
  obtain ⟨n, rfl⟩ := h
  rfl

theorem selectors (h : s.Counts t) : t.selectors = s.selectors := by
  obtain ⟨n, rfl⟩ := h
  rfl

theorem read (h : s.Counts t) (place : Place) : place.read t = place.read s := by
  obtain ⟨n, rfl⟩ := h
  cases place <;> rfl

theorem declare (h : s.Counts t) (x : String) (constant : Bool) (v : Value) :
    (s.declare x constant v).Counts (t.declare x constant v) := by
  obtain ⟨n, rfl⟩ := h
  exact ⟨n, rfl⟩

theorem rewind {vs : List Variable}
    (h : Session.Counts { s with scope := vs ++ s.scope } t) : s.Counts (t.rewind s.scope.length) := by
  obtain ⟨n, rfl⟩ := h
  refine ⟨n, ?_⟩
  unfold Session.rewind
  dsimp only
  rw [List.length_append, Nat.add_sub_cancel, List.drop_left]

end Counts

end Session

/-- Whatever the flag shows, the step only looks at it, and changes nothing but the number of
operations. -/
def Idle {α : Type} (a : Action α) : Prop :=
  ∀ c s, (a c s).Still (fun _ => True) (fun x => s.Counts x.2)

namespace Idle

variable {α β : Type} {a : Action α} {f : α → Action β}

theorem pure (v : α) : Idle (Pure.pure v) := fun _ s => .refl s

theorem stop (e : Stop) : Idle (Action.stop e : Action α) := fun _ s => .refl s

theorem bind (ha : Idle a) (hf : ∀ v, Idle (f v)) : Idle (a >>= f) := by
  intro c s
  rw [bind_apply]
  refine (ha c s).bind ?_
  rintro ⟨r, t⟩ hst
  cases r with
  | ok v => exact (hf v c t).mono fun _ htu => hst.trans htu
  | error e => exact hst

theorem look {k : Session → Action α} (hk : ∀ s, Idle (k s)) : Idle (get >>= k) :=
  fun c s => hk s c s

theorem read {k : Context → Action α} (hk : ∀ c, Idle (k c)) : Idle (read >>= k) :=
  fun c s => hk c c s

theorem tick (p : Position) : Idle (tick p) := by
  intro c s
  rw [tick_apply]
  split_ifs
  · exact ⟨_, rfl⟩
  · rw [heed_apply]
    exact fun _ _ => ⟨_, rfl⟩

theorem checkSize (v : Value) (p : Position) : Idle (Evaluator.checkSize v p) := by
  refine .read fun c => ?_
  dsimp only
  split
  · exact .stop _
  · exact .pure _

theorem expectBool (v : Value) (p : Position) : Idle (Evaluator.expectBool v p) := by
  unfold Evaluator.expectBool
  split
  · exact .pure _
  · exact .stop _

theorem placeOf (name : String) (p : Position) : Idle (Evaluator.placeOf name p) := by
  refine .look fun s => ?_
  split
  · exact .pure _
  · split
    · exact .pure _
    · exact .stop _

theorem readPlace (pl : Place) : Idle (Evaluator.readPlace pl) := .look fun _ => .pure _

theorem inScope_adding (ha : ∀ c s, (a c s).Still (fun _ => True) fun x =>
    ∃ vs, Session.Counts { s with scope := vs ++ s.scope } x.2) : Idle (inScope a) := by
  intro c s
  change ((a c s).bind fun x => .done (x.1, x.2.rewind s.scope.length)).Still _ _
  refine (ha c s).bind ?_
  rintro x ⟨vs, hx⟩
  exact hx.rewind

theorem inScope (ha : Idle a) : Idle (inScope a) :=
  inScope_adding fun c s => (ha c s).mono fun _ hx => ⟨[], hx⟩

theorem round {a : Action Value} (ha : Idle a) : Idle (Evaluator.round a) :=
  fun c s => (ha c s).bind fun _ hst => hst

theorem caught {a b : Action Value} (ha : Idle a) (hb : Idle b) :
    Idle (Evaluator.caught a b) := by
  intro c s
  refine (ha c s).bind ?_
  rintro ⟨r, t⟩ hst
  match r with
  | .error (.failed f) =>
    dsimp only
    split
    · exact (hb c t).bind fun _ htu => hst.trans htu
    · exact hst
  | .ok v => exact hst
  | .error (.returned v) => exact hst
  | .error (.finished v) => exact hst
  | .error (.left ends) => exact hst
  | .error .exhausted => exact hst

end Idle

theorem pureStmts_of_forall {ss : List Stmt} (h : ∀ s ∈ ss, s.isPure = true) :
    pureStmts ss = true := by
  induction ss with
  | nil => rfl
  | cons s ss ih =>
    rw [List.forall_mem_cons] at h
    rw [pureStmts, h.1, ih h.2]
    rfl

structure Evaluator.IdlesPure (g : Evaluator) : Prop where
  expr {e : Expr} : e.isPure = true → Idle (g.expr e)
  stmt {s : Stmt} : s.isPure = true → Idle (g.stmt s)

namespace Evaluator

variable {g : Evaluator} (hg : g.IdlesPure)

include hg

theorem stmts_idle {ss : List Stmt} (hs : pureStmts ss = true) : Idle (g.stmts ss) := by
  induction ss with
  | nil => exact .pure _
  | cons s ss ih =>
    rw [pureStmts, Bool.and_eq_true] at hs
    cases ss with
    | nil => exact hg.stmt hs.1
    | cons t ss => exact .bind (hg.stmt hs.1) fun _ => ih hs.2

theorem block_idle {ss : List Stmt} (hs : pureStmts ss = true) : Idle (g.block ss) := by
  unfold block
  split
  · exact .pure _
  · exact .inScope (stmts_idle hg hs)

theorem interpolate_idle (before : String) {es : List Expr} (he : pureExprs es = true) :
    Idle (g.interpolate before es) := by
  induction es generalizing before with
  | nil => exact .pure _
  | cons e es ih =>
    rw [pureExprs, Bool.and_eq_true] at he
    refine .bind (hg.expr he.1) fun v => .look fun s => ?_
    exact .bind (.checkSize _ _) fun _ => ih _ he.2

omit hg in
theorem checkItems_idle (sizes : List Operator.Size) (p : Position) :
    Idle (arrayItems.checkItems sizes p) := by
  refine .read fun c => ?_
  dsimp only
  split
  · exact .stop _
  · exact .pure _

theorem arrayItems_idle (before : List Value) {es : List Expr} (he : pureExprs es = true) :
    Idle (g.arrayItems before es) := by
  induction es generalizing before with
  | nil => exact .pure _
  | cons e es ih =>
    rw [pureExprs, Bool.and_eq_true] at he
    exact .bind (hg.expr he.1) fun v => .bind (checkItems_idle _ _) fun _ => ih _ he.2

theorem mapEntries_idle (before : List (String × Value)) {es : List (String × Expr)}
    (he : pureEntries es = true) : Idle (g.mapEntries before es) := by
  induction es generalizing before with
  | nil => exact .pure _
  | cons e es ih =>
    obtain ⟨k, e⟩ := e
    rw [pureEntries, Bool.and_eq_true] at he
    exact .bind (hg.expr he.1) fun v => .bind (checkItems_idle _ _) fun _ => ih _ he.2

theorem truth_idle {e : Expr} (he : e.isPure = true) {β : Type} {k : Bool → Action β}
    (hk : ∀ b, Idle (k b)) : Idle (g.expr e >>= fun v => expectBool v e.pos >>= k) :=
  .bind (hg.expr he) fun v => .bind (.expectBool v _) hk

theorem exprRule_idle {e : Expr} (he : e.isPure = true) : Idle (g.exprRule e) := by
  refine .bind (.tick _) fun _ => ?_
  cases e with
  | constant v p => exact .pure v
  | interpolated parts p => exact interpolate_idle hg "" he
  | array items p => exact arrayItems_idle hg [] he
  | map es p => exact mapEntries_idle hg [] he
  | var x p => exact .bind (.placeOf x p) fun pl => .readPlace pl
  | call name args p => cases he
  | path base ls p => cases he
  | and a b p =>
    rw [Expr.isPure, Bool.and_eq_true] at he
    refine truth_idle hg he.1 fun t => ?_
    split
    · exact truth_idle hg he.2 fun u => .pure _
    · exact .pure _
  | or a b p =>
    rw [Expr.isPure, Bool.and_eq_true] at he
    refine truth_idle hg he.1 fun t => ?_
    split
    · exact .pure _
    · exact truth_idle hg he.2 fun u => .pure _
  | block ss p => exact block_idle hg he

theorem itemRound_idle (name : String) {body : List Stmt} (hb : pureStmts body = true)
    (p : Position) (v : Value) : Idle (g.itemRound name body p v) := by
  refine .bind (.tick p) fun _ => ?_
  split
  · exact .pure _
  · refine .round (.inScope_adding fun c s => ?_)
    -- The variable of the round is in front while its body runs.
    exact (block_idle hg hb c (s.declare name false v)).mono fun _ hx => ⟨[_], hx⟩

theorem forItems_idle (name : String) {body : List Stmt} (hb : pureStmts body = true)
    (p : Position) (vs : List Value) : Idle (g.forItems name body p vs) := by
  induction vs with
  | nil => exact .pure _
  | cons v vs ih =>
    refine .bind (itemRound_idle hg name hb p v) fun b => ?_
    split
    · exact ih
    · exact .pure _

theorem forRange_idle (name : String) {body : List Stmt} (hb : pureStmts body = true)
    (p : Position) (n : Nat) (i : Int) : Idle (g.forRange name body p n i) := by
  induction n generalizing i with
  | zero => exact .pure _
  | succ n ih =>
    refine .bind (itemRound_idle hg name hb p _) fun b => ?_
    split
    · exact ih _
    · exact .pure _

theorem forRule_idle (name : String) {items : Expr} (hi : items.isPure = true)
    {body : List Stmt} (hb : pureStmts body = true) (p : Position) :
    Idle (g.forRule name items body p) := by
  refine .bind (hg.expr hi) fun v => ?_
  split
  · exact forItems_idle hg name hb p _
  · exact forItems_idle hg name hb p _
  · exact forRange_idle hg name hb p _ _
  · exact .stop _

theorem stmtRule_idle {s : Stmt} (hs : s.isPure = true) : Idle (g.stmtRule s) := by
  refine .bind (.tick _) fun _ => ?_
  cases s with
  | noop p => exact .pure _
  | expr e =>
    cases e with
    | call name args p => cases hs
    | _ => exact hg.expr hs
  | ifElse cond yes no p =>
    rw [Stmt.isPure, Bool.and_eq_true, Bool.and_eq_true] at hs
    refine truth_idle hg hs.1.1 fun b => ?_
    split
    · exact block_idle hg hs.1.2
    · exact block_idle hg hs.2
  | forIn name items body p q =>
    rw [Stmt.isPure, Bool.and_eq_true] at hs
    exact .bind (forRule_idle hg name hs.1 hs.2 q) fun _ => .pure _
  | block ss p => exact block_idle hg hs
  | tryCatch body handler p =>
    rw [Stmt.isPure, Bool.and_eq_true] at hs
    exact .caught (block_idle hg hs.1) (block_idle hg hs.2)
  | _ => cases hs

end Evaluator

theorem evaluator_idlesPure (n : Nat) : (evaluator n).IdlesPure := by
  induction n with
  | zero => exact ⟨fun _ => .stop _, fun _ => .stop _⟩
  | succ n ih =>
    exact ⟨fun he => Evaluator.exprRule_idle ih he, fun hs => Evaluator.stmtRule_idle ih hs⟩

end ScreenScript.Script
