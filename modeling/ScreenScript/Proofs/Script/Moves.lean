import ScreenScript.Script.Evaluator
import ScreenScript.Script.Simplify

/-!
Trees and failures with their places moved. Where a statement stands does not matter to what is made
of it.
-/

namespace ScreenScript.Script

variable (f : Position → Position)

def Function.moved (g : Function) : Function :=
  { g with body := movedStmts f g.body }

def Failure.moved : Failure → Failure
  | .error c p => .error c (f p)
  | .terminated token => .terminated token
  | .inFunction name g => .inFunction name g.moved
  | .inModule g => .inModule g.moved

def Stop.moved : Stop → Stop
  | .failed g => .failed (g.moved f)
  | s => s

def Evaluator.Step.moved : Evaluator.Step → Evaluator.Step
  | .property name safe p => .property name safe (f p)
  | .method name args safe p => .method name args safe (f p)
  | .index key keyPos p => .index key (f keyPos) (f p)

def Evaluator.Assignment.moved (a : Evaluator.Assignment) : Evaluator.Assignment :=
  { a with namePos := f a.namePos, pos := f a.pos }

variable {f}

theorem movedExprs_eq (es : List Expr) : movedExprs f es = es.map (·.moved f) := by
  induction es with
  | nil => rfl
  | cons e es ih => rw [movedExprs, ih, List.map_cons]

theorem movedEntries_eq (es : List (String × Expr)) :
    movedEntries f es = es.map fun e => (e.1, e.2.moved f) := by
  induction es with
  | nil => rfl
  | cons e es ih =>
    obtain ⟨k, e⟩ := e
    rw [movedEntries, ih, List.map_cons]

theorem movedStmts_eq (ss : List Stmt) : movedStmts f ss = ss.map (·.moved f) := by
  induction ss with
  | nil => rfl
  | cons s ss ih => rw [movedStmts, ih, List.map_cons]

theorem movedStmts_append (ss ts : List Stmt) :
    movedStmts f (ss ++ ts) = movedStmts f ss ++ movedStmts f ts := by
  simp only [movedStmts_eq, List.map_append]

theorem isEmpty_movedStmts (ss : List Stmt) : (movedStmts f ss).isEmpty = ss.isEmpty := by
  cases ss <;> rfl

theorem pos_moved (e : Expr) : (e.moved f).pos = f e.pos := by
  cases e <;> rfl

theorem startPos_moved (e : Expr) : (e.moved f).startPos = f e.startPos := by
  induction e using Expr.startPos.induct with
  | case1 b _ _ ih => simpa only [Expr.moved, Expr.startPos] using ih
  | case2 a _ _ ih => simpa only [Expr.moved, Expr.startPos] using ih
  | case3 a _ _ ih => simpa only [Expr.moved, Expr.startPos] using ih
  | case4 e hpath hand hor =>
    cases e with
    | path b ls p => exact absurd rfl (hpath b ls p)
    | and a b p => exact absurd rfl (hand a b p)
    | or a b p => exact absurd rfl (hor a b p)
    | _ => rfl

mutual

theorem Expr.moved_id : (e : Expr) → e.moved id = e
  | .constant v p => rfl
  | .interpolated parts p => by rw [Expr.moved, movedExprs_id parts]; rfl
  | .array items p => by rw [Expr.moved, movedExprs_id items]; rfl
  | .map es p => by rw [Expr.moved, movedEntries_id es]; rfl
  | .var x p => rfl
  | .call name args p => by rw [Expr.moved, movedExprs_id args]; rfl
  | .path base ls p => by rw [Expr.moved, base.moved_id, movedLinks_id ls]; rfl
  | .and a b p => by rw [Expr.moved, a.moved_id, b.moved_id]; rfl
  | .or a b p => by rw [Expr.moved, a.moved_id, b.moved_id]; rfl
  | .block ss p => by rw [Expr.moved, movedStmts_id ss]; rfl

theorem movedExprs_id : (es : List Expr) → movedExprs id es = es
  | [] => rfl
  | e :: es => by rw [movedExprs, e.moved_id, movedExprs_id es]

theorem movedEntries_id : (es : List (String × Expr)) → movedEntries id es = es
  | [] => rfl
  | (k, e) :: es => by rw [movedEntries, e.moved_id, movedEntries_id es]

theorem movedLinks_id : (ls : List Link) → movedLinks id ls = ls
  | [] => rfl
  | .property n safe p :: ls => by rw [movedLinks, movedLinks_id ls]; rfl
  | .method n args safe p :: ls => by rw [movedLinks, movedExprs_id args, movedLinks_id ls]; rfl
  | .index e p :: ls => by rw [movedLinks, e.moved_id, movedLinks_id ls]; rfl

theorem movedOption_id : (e : Option Expr) → movedOption id e = e
  | none => rfl
  | some e => by rw [movedOption, e.moved_id]

theorem Stmt.moved_id : (s : Stmt) → s.moved id = s
  | .noop p => rfl
  | .expr e => by rw [Stmt.moved, e.moved_id]
  | .ifElse c yes no p => by
    rw [Stmt.moved, c.moved_id, movedStmts_id yes, movedStmts_id no]; rfl
  | .loop c body p q => by rw [Stmt.moved, movedOption_id c, movedStmts_id body]; rfl
  | .forIn x items body p q => by rw [Stmt.moved, items.moved_id, movedStmts_id body]; rfl
  | .declare x e constant p => by rw [Stmt.moved, e.moved_id]; rfl
  | .assign op target value p => by rw [Stmt.moved, target.moved_id, value.moved_id]; rfl
  | .block ss p => by rw [Stmt.moved, movedStmts_id ss]; rfl
  | .leave ends p => rfl
  | .ret e p => by rw [Stmt.moved, movedOption_id e]; rfl
  | .raise e p => by rw [Stmt.moved, movedOption_id e]; rfl
  | .tryCatch body handler p => by
    rw [Stmt.moved, movedStmts_id body, movedStmts_id handler]; rfl
  | .attempt e p q => by rw [Stmt.moved, e.moved_id]; rfl

theorem movedStmts_id : (ss : List Stmt) → movedStmts id ss = ss
  | [] => rfl
  | s :: ss => by rw [movedStmts, s.moved_id, movedStmts_id ss]

end

variable {g : Position → Position}

mutual

theorem Expr.moved_moved : (e : Expr) → (e.moved f).moved g = e.moved (g ∘ f)
  | .constant v p => rfl
  | .interpolated parts p => by simp only [Expr.moved, movedExprs_moved parts, Function.comp]
  | .array items p => by simp only [Expr.moved, movedExprs_moved items, Function.comp]
  | .map es p => by simp only [Expr.moved, movedEntries_moved es, Function.comp]
  | .var x p => rfl
  | .call name args p => by simp only [Expr.moved, movedExprs_moved args, Function.comp]
  | .path base ls p => by
    simp only [Expr.moved, base.moved_moved, movedLinks_moved ls, Function.comp]
  | .and a b p => by simp only [Expr.moved, a.moved_moved, b.moved_moved, Function.comp]
  | .or a b p => by simp only [Expr.moved, a.moved_moved, b.moved_moved, Function.comp]
  | .block ss p => by simp only [Expr.moved, movedStmts_moved ss, Function.comp]

theorem movedExprs_moved : (es : List Expr) →
    movedExprs g (movedExprs f es) = movedExprs (g ∘ f) es
  | [] => rfl
  | e :: es => by rw [movedExprs, movedExprs, movedExprs, e.moved_moved, movedExprs_moved es]

theorem movedEntries_moved : (es : List (String × Expr)) →
    movedEntries g (movedEntries f es) = movedEntries (g ∘ f) es
  | [] => rfl
  | (k, e) :: es => by
    rw [movedEntries, movedEntries, movedEntries, e.moved_moved, movedEntries_moved es]

theorem movedLinks_moved : (ls : List Link) →
    movedLinks g (movedLinks f ls) = movedLinks (g ∘ f) ls
  | [] => rfl
  | .property n safe p :: ls => by
    simp only [movedLinks, movedLinks_moved ls, Function.comp]
  | .method n args safe p :: ls => by
    simp only [movedLinks, movedExprs_moved args, movedLinks_moved ls, Function.comp]
  | .index e p :: ls => by
    simp only [movedLinks, e.moved_moved, movedLinks_moved ls, Function.comp]

theorem movedOption_moved : (e : Option Expr) →
    movedOption g (movedOption f e) = movedOption (g ∘ f) e
  | none => rfl
  | some e => by rw [movedOption, movedOption, movedOption, e.moved_moved]

theorem Stmt.moved_moved : (s : Stmt) → (s.moved f).moved g = s.moved (g ∘ f)
  | .noop p => rfl
  | .expr e => by rw [Stmt.moved, Stmt.moved, Stmt.moved, e.moved_moved]
  | .ifElse c yes no p => by
    simp only [Stmt.moved, c.moved_moved, movedStmts_moved yes, movedStmts_moved no,
      Function.comp]
  | .loop c body p q => by
    simp only [Stmt.moved, movedOption_moved c, movedStmts_moved body, Function.comp]
  | .forIn x items body p q => by
    simp only [Stmt.moved, items.moved_moved, movedStmts_moved body, Function.comp]
  | .declare x e constant p => by simp only [Stmt.moved, e.moved_moved, Function.comp]
  | .assign op target value p => by
    simp only [Stmt.moved, target.moved_moved, value.moved_moved, Function.comp]
  | .block ss p => by simp only [Stmt.moved, movedStmts_moved ss, Function.comp]
  | .leave ends p => rfl
  | .ret e p => by simp only [Stmt.moved, movedOption_moved e, Function.comp]
  | .raise e p => by simp only [Stmt.moved, movedOption_moved e, Function.comp]
  | .tryCatch body handler p => by
    simp only [Stmt.moved, movedStmts_moved body, movedStmts_moved handler, Function.comp]
  | .attempt e p q => by simp only [Stmt.moved, e.moved_moved, Function.comp]

theorem movedStmts_moved : (ss : List Stmt) →
    movedStmts g (movedStmts f ss) = movedStmts (g ∘ f) ss
  | [] => rfl
  | s :: ss => by rw [movedStmts, movedStmts, movedStmts, s.moved_moved, movedStmts_moved ss]

end

theorem Function.moved_id (g : Function) : g.moved id = g := by
  rw [Function.moved, movedStmts_id]

theorem Failure.moved_id (g : Failure) : g.moved id = g := by
  induction g with
  | error c p => rfl
  | terminated token => rfl
  | inFunction name g ih => rw [Failure.moved, ih]
  | inModule g ih => rw [Failure.moved, ih]

theorem Stop.moved_id (s : Stop) : s.moved id = s := by
  cases s with
  | failed g => rw [Stop.moved, g.moved_id]
  | _ => rfl

theorem Failure.moved_outOf (name : String) (p : Position) (g : Failure) :
    (g.outOf name p).moved f = (g.moved f).outOf name (f p) := by
  cases g with
  | error c q =>
    simp only [Failure.moved, Failure.outOf]
    split <;> rfl
  | _ => rfl

theorem Failure.isCatchable_moved (g : Failure) : (g.moved f).isCatchable = g.isCatchable := by
  cases g <;> rfl

theorem Failure.moved_rethrown (p : Position) (g : Failure) :
    (g.rethrown p).moved f = (g.moved f).rethrown (f p) := by
  cases g <;> rfl

theorem Failure.stack_moved (g : Failure) : (g.moved f).stack = g.stack := by
  induction g with
  | error c p => rfl
  | terminated token => rfl
  | inFunction name g ih => exact congrArg (· ++ [name]) ih
  | inModule g ih => exact ih

theorem Failure.core_moved (g : Failure) : (g.moved f).core = match g.core with
    | .error c p => .error c (f p)
    | .terminated token => .terminated token := by
  induction g with
  | error c p => rfl
  | terminated token => rfl
  | inFunction name g ih => exact ih
  | inModule g ih => exact ih

section

mutual

theorem Expr.isPure_moved : (e : Expr) → (e.moved f).isPure = e.isPure
  | .constant v p => rfl
  | .interpolated parts p => pureExprs_moved parts
  | .array items p => pureExprs_moved items
  | .map es p => pureEntries_moved es
  | .var x p => rfl
  | .call name args p => rfl
  | .path base ls p => rfl
  | .and a b p => by rw [Expr.moved, Expr.isPure, Expr.isPure, a.isPure_moved, b.isPure_moved]
  | .or a b p => by rw [Expr.moved, Expr.isPure, Expr.isPure, a.isPure_moved, b.isPure_moved]
  | .block ss p => pureStmts_moved ss

theorem pureExprs_moved : (es : List Expr) → pureExprs (movedExprs f es) = pureExprs es
  | [] => rfl
  | e :: es => by rw [movedExprs, pureExprs, pureExprs, e.isPure_moved, pureExprs_moved es]

theorem pureEntries_moved : (es : List (String × Expr)) →
    pureEntries (movedEntries f es) = pureEntries es
  | [] => rfl
  | (k, e) :: es => by
    rw [movedEntries, pureEntries, pureEntries, e.isPure_moved, pureEntries_moved es]

theorem Stmt.isPure_moved : (s : Stmt) → (s.moved f).isPure = s.isPure
  | .expr e => e.isPure_moved
  | .ifElse c yes no p => by
    rw [Stmt.moved, Stmt.isPure, Stmt.isPure, c.isPure_moved, pureStmts_moved yes,
      pureStmts_moved no]
  | .forIn x items body p q => by
    rw [Stmt.moved, Stmt.isPure, Stmt.isPure, items.isPure_moved, pureStmts_moved body]
  | .block ss p => pureStmts_moved ss
  | .tryCatch body handler p => by
    rw [Stmt.moved, Stmt.isPure, Stmt.isPure, pureStmts_moved body, pureStmts_moved handler]
  | .noop p | .loop c body p q | .declare x e constant p | .assign op target value p
  | .leave ends p | .ret e p | .raise e p | .attempt e p q => rfl

theorem pureStmts_moved : (ss : List Stmt) → pureStmts (movedStmts f ss) = pureStmts ss
  | [] => rfl
  | s :: ss => by rw [movedStmts, pureStmts, pureStmts, s.isPure_moved, pureStmts_moved ss]

end

theorem isInwardlyPure_moved (s : Stmt) : (s.moved f).isInwardlyPure = s.isInwardlyPure := by
  cases s with
  | declare x e constant p => exact e.isPure_moved
  | _ => exact Stmt.isPure_moved _

theorem endsFlow_moved (s : Stmt) : (s.moved f).endsFlow = s.endsFlow := by
  cases s <;> rfl

theorem needsBlock_moved (s : Stmt) : (s.moved f).needsBlock = s.needsBlock := by
  cases s <;> rfl

theorem constant?_moved (e : Expr) : (e.moved f).constant? = e.constant? := by
  cases e <;> rfl

theorem isAnchor_moved (inner : Bool) (s : Stmt) :
    (s.moved f).isAnchor inner = s.isAnchor inner := by
  unfold Stmt.isAnchor
  rw [isInwardlyPure_moved, Stmt.isPure_moved]
  congr 1
  cases s with
  | declare x e constant p =>
    rw [Stmt.moved]
    dsimp only
    rw [Expr.isConstant, Expr.isConstant, constant?_moved]
  | expr e =>
    rw [Stmt.moved]
    dsimp only
    rw [Expr.isConstant, Expr.isConstant, constant?_moved]
  | _ => rfl

namespace Simplify

theorem constants?_moved (es : List Expr) : constants? (movedExprs f es) = constants? es := by
  induction es with
  | nil => rfl
  | cons e es ih =>
    simp only [constants?, movedExprs, List.mapM_cons, constant?_moved] at ih ⊢
    rw [ih]

theorem run_moved (name : String) (args : List Expr) :
    foldOperator.run name (movedExprs f args) = foldOperator.run name args := by
  unfold foldOperator.run
  rw [constants?_moved]

theorem foldOperator_moved (limit : Nat) (name : String) (args : List Expr) (p : Position) :
    foldOperator limit name (movedExprs f args) (f p) =
      (foldOperator limit name args p).moved f := by
  unfold foldOperator
  rw [constants?_moved, run_moved]
  dsimp only
  split
  · split <;> rfl
  · rfl

theorem opposite?_moved (args : List Expr) :
    opposite? (movedExprs f args) = (opposite? args).map (Expr.moved f) := by
  rcases args with _ | ⟨e, _ | ⟨e', es⟩⟩
  · rfl
  · cases e with
    | constant v p => cases v <;> rfl
    | _ => rfl
  · cases e with
    | constant v p => cases v <;> rfl
    | _ => rfl

theorem fold_moved (limit : Nat) (name : String) (args : List Expr) (p : Position) :
    fold limit name (movedExprs f args) (f p) = (fold limit name args p).moved f := by
  unfold fold
  rw [opposite?_moved, foldOperator_moved]
  by_cases hname : name = "!"
  · simp only [if_pos hname]
    cases opposite? args <;> rfl
  · simp only [if_neg hname]

theorem foldArray_moved (items : List Expr) (p : Position) :
    foldArray (movedExprs f items) (f p) = (foldArray items p).moved f := by
  unfold foldArray
  rw [constants?_moved]
  cases constants? items <;> rfl

theorem foldMap_moved (es : List (String × Expr)) (p : Position) :
    foldMap (movedEntries f es) (f p) = (foldMap es p).moved f := by
  have hvalues : (movedEntries f es).map (·.2) = movedExprs f (es.map (·.2)) := by
    simp only [movedEntries_eq, movedExprs_eq, List.map_map]
    rfl
  have hkeys : (movedEntries f es).map (·.1) = es.map (·.1) := by
    simp only [movedEntries_eq, List.map_map]
    rfl
  unfold foldMap
  rw [hvalues, hkeys, constants?_moved]
  cases constants? (es.map (·.2)) <;> rfl

def Decided (e : Expr) : Prop :=
  ∃ x p, e = .constant (.bool x) p

theorem decided_moved {e : Expr} : Decided (e.moved f) ↔ Decided e := by
  constructor
  · rintro ⟨x, p, h⟩
    cases e with
    | constant v q =>
      cases h
      exact ⟨x, q, rfl⟩
    | _ => cases h
  · rintro ⟨x, p, rfl⟩
    exact ⟨x, f p, rfl⟩

theorem foldLogic_right {a : Expr} (ha : ¬Decided a) (unit y : Bool) (p : Position) (o : Expr) :
    foldLogic unit a (.constant (.bool y) p) o = if y = unit then a else o := by
  unfold foldLogic
  split
  · exact absurd ⟨_, _, rfl⟩ ha
  · rename_i h
    cases h
    rfl
  · rename_i h
    exact absurd rfl (h _ _)

theorem foldLogic_neither {a b : Expr} (ha : ¬Decided a) (hb : ¬Decided b) (unit : Bool)
    (o : Expr) : foldLogic unit a b o = o := by
  unfold foldLogic
  split
  · exact absurd ⟨_, _, rfl⟩ ha
  · exact absurd ⟨_, _, rfl⟩ hb
  · rfl

theorem foldLogic_moved (unit : Bool) (a b o : Expr) :
    foldLogic unit (a.moved f) (b.moved f) (o.moved f) = (foldLogic unit a b o).moved f := by
  by_cases ha : Decided a
  · obtain ⟨x, p, rfl⟩ := ha
    simp only [foldLogic, Expr.moved]
    split <;> rfl
  have ha' : ¬Decided (a.moved f) := fun h => ha (decided_moved.mp h)
  by_cases hb : Decided b
  · obtain ⟨y, p, rfl⟩ := hb
    rw [Expr.moved, foldLogic_right ha', foldLogic_right ha]
    split <;> rfl
  · have hb' : ¬Decided (b.moved f) := fun h => hb (decided_moved.mp h)
    rw [foldLogic_neither ha' hb', foldLogic_neither ha hb]

theorem ofBlock_moved (ss : List Stmt) (p : Position) :
    ofBlock (movedStmts f ss) (f p) = (ofBlock ss p).moved f := by
  match ss with
  | [] => rfl
  | [s] =>
    simp only [ofBlock, movedStmts, needsBlock_moved]
    split <;> rfl
  | _ :: _ :: _ => rfl

theorem foldIf_moved (keep : Bool) (c : Expr) (yes no : List Stmt) (p : Position) :
    foldIf keep (c.moved f) (movedStmts f yes) (movedStmts f no) (f p) =
      (foldIf keep c yes no p).moved f := by
  by_cases hc : Decided c
  · obtain ⟨x, q, rfl⟩ := hc
    cases x with
    | true => exact ofBlock_moved yes p
    | false => exact ofBlock_moved no p
  have hc' : ¬Decided (c.moved f) := fun h => hc (decided_moved.mp h)
  have hplain : ∀ (e : Expr) (ys ns : List Stmt) (q : Position), ¬Decided e →
      foldIf keep e ys ns q = if ys.isEmpty && ns.isEmpty then
        (if keep then .block [.expr e, .noop e.startPos] q else .expr e)
      else .ifElse e ys ns q := by
    intro e ys ns q he
    unfold foldIf
    split
    · exact absurd ⟨_, _, rfl⟩ he
    · exact absurd ⟨_, _, rfl⟩ he
    · rfl
    · rename_i h
      cases ys with
      | nil =>
        cases ns with
        | nil => exact (h rfl rfl).elim
        | cons => rfl
      | cons => rfl
  rw [hplain _ _ _ _ hc', hplain _ _ _ _ hc, isEmpty_movedStmts, isEmpty_movedStmts]
  split
  · cases keep with
    | true => simp only [if_true, Stmt.moved, movedStmts, startPos_moved]
    | false => rfl
  · rfl

theorem foldTry_moved (body handler : List Stmt) (p : Position) :
    foldTry (movedStmts f body) (movedStmts f handler) (f p) =
      (foldTry body handler p).moved f := by
  unfold foldTry
  rw [pureStmts_moved]
  split
  · exact ofBlock_moved body p
  · rfl

theorem foldLoop_moved (c : Option Expr) (body : List Stmt) (p q : Position) :
    foldLoop (movedOption f c) (movedStmts f body) (f p) (f q) =
      (foldLoop c body p q).moved f := by
  cases c with
  | none => rfl
  | some c =>
    cases c with
    | constant v r =>
      cases v with
      | bool x => cases x <;> rfl
      | _ => rfl
    | _ => rfl

theorem foldAssign_moved (op : Option String) (target value : Expr) (p : Position) :
    foldAssign op (target.moved f) (value.moved f) (f p) =
      (foldAssign op target value p).moved f := by
  cases op with
  | some op => rfl
  | none =>
  cases target with
  | var x q =>
    cases value with
    | call name args r =>
      cases args with
      | nil => rfl
      | cons a bs =>
        cases a with
        | var y r =>
          match bs with
          | [] | _ :: _ :: _ => rfl
          | [b] =>
            simp only [Expr.moved, movedExprs, foldAssign]
            split <;> rfl
        | _ => rfl
    | _ => rfl
  | _ => rfl

theorem orName_moved (e simplified : Expr) :
    orName (e.moved f) (simplified.moved f) = (orName e simplified).moved f := by
  cases e <;> rfl

theorem reachable_moved (ss : List Stmt) :
    reachable (movedStmts f ss) = movedStmts f (reachable ss) := by
  induction ss with
  | nil => rfl
  | cons s ss ih =>
    simp only [movedStmts, reachable, endsFlow_moved, ih]
    split <;> rfl

theorem effective_moved (keep inner : Bool) (ss : List Stmt) :
    effective keep inner (movedStmts f ss) =
      (movedStmts f (effective keep inner ss).1, (effective keep inner ss).2) := by
  induction ss with
  | nil => rfl
  | cons s ss ih =>
    simp only [movedStmts, effective, ih, Stmt.isPure_moved, isInwardlyPure_moved,
      isAnchor_moved, isEmpty_movedStmts]
    congr 1
    split <;> rfl

theorem any_needsBlock_moved (ss : List Stmt) :
    (movedStmts f ss).any Stmt.needsBlock = ss.any Stmt.needsBlock := by
  induction ss with
  | nil => rfl
  | cons s ss ih => rw [movedStmts, List.any_cons, List.any_cons, needsBlock_moved, ih]

theorem flatten_moved (ss : List Stmt) :
    flatten (movedStmts f ss) = movedStmts f (flatten ss) := by
  induction ss with
  | nil => rfl
  | cons s ss ih =>
    cases s with
    | block bs p =>
      simp only [movedStmts, Stmt.moved, flatten, any_needsBlock_moved, ih]
      split
      · rfl
      · rw [movedStmts_append]
    | _ => simp only [movedStmts, Stmt.moved, flatten, ih]

theorem tidy_moved (keep inner : Bool) (ss : List Stmt) :
    tidy keep inner (movedStmts f ss) = movedStmts f (tidy keep inner ss) := by
  unfold tidy
  rw [flatten_moved, reachable_moved, effective_moved]

theorem learn_moved (k : Known) (s : Stmt) : learn k (s.moved f) = learn k s := by
  cases s with
  | declare x e constant p => simp only [Stmt.moved, learn, constant?_moved]
  | _ => rfl

mutual

theorem expr_moved (k : Known) : (e : Expr) → expr k (e.moved f) = (expr k e).moved f
  | .constant v p => rfl
  | .interpolated parts p => by
    simp only [Expr.moved, expr, exprs_moved k parts]
  | .array items p => by
    simp only [Expr.moved, expr, exprs_moved k items, foldArray_moved]
  | .map es p => by
    simp only [Expr.moved, expr, entries_moved k es, foldMap_moved]
  | .var x p => by
    simp only [Expr.moved, expr]
    cases known? k x <;> rfl
  | .call name args p => by
    simp only [Expr.moved, expr, exprs_moved k args, fold_moved]
  | .path base ls p => by
    simp only [Expr.moved, expr, expr_moved k base, links_moved k ls, orName_moved]
  | .and a b p => by
    simp only [Expr.moved, expr, expr_moved k a, expr_moved k b]
    exact foldLogic_moved true _ _ (.and _ _ p)
  | .or a b p => by
    simp only [Expr.moved, expr, expr_moved k a, expr_moved k b]
    exact foldLogic_moved false _ _ (.or _ _ p)
  | .block ss p => by
    simp only [Expr.moved, expr, stmts_moved k true ss, tidy_moved]
    generalize tidy true true (stmts k true ss) = ts
    cases ts with
    | nil => rfl
    | cons t ts =>
      cases t with
      | expr e => cases ts <;> rfl
      | _ => rfl

theorem exprs_moved (k : Known) : (es : List Expr) →
    exprs k (movedExprs f es) = movedExprs f (exprs k es)
  | [] => rfl
  | e :: es => by simp only [movedExprs, exprs, expr_moved k e, exprs_moved k es]

theorem entries_moved (k : Known) : (es : List (String × Expr)) →
    entries k (movedEntries f es) = movedEntries f (entries k es)
  | [] => rfl
  | (n, e) :: es => by simp only [movedEntries, entries, expr_moved k e, entries_moved k es]

theorem links_moved (k : Known) : (ls : List Link) →
    links k (movedLinks f ls) = movedLinks f (links k ls)
  | [] => rfl
  | .property n safe p :: ls => by simp only [movedLinks, links, links_moved k ls]
  | .method n args safe p :: ls => by
    simp only [movedLinks, links, exprs_moved k args, links_moved k ls]
  | .index e p :: ls => by simp only [movedLinks, links, expr_moved k e, links_moved k ls]

theorem option_moved (k : Known) : (e : Option Expr) →
    option k (movedOption f e) = movedOption f (option k e)
  | none => rfl
  | some e => by simp only [movedOption, option, expr_moved k e]

theorem stmt_moved (k : Known) (keep : Bool) : (s : Stmt) →
    stmt k keep (s.moved f) = (stmt k keep s).moved f
  | .noop p => rfl
  | .expr e => by
    simp only [Stmt.moved, stmt, expr_moved k e]
    cases expr k e <;> rfl
  | .ifElse c yes no p => by
    simp only [Stmt.moved, stmt, expr_moved k c, stmts_moved k keep yes, stmts_moved k keep no,
      tidy_moved, foldIf_moved]
  | .loop c body p q => by
    simp only [Stmt.moved, stmt, option_moved k c, stmts_moved k false body, tidy_moved,
      foldLoop_moved]
  | .forIn x items body p q => by
    simp only [Stmt.moved, stmt, expr_moved k items, stmts_moved k false body, tidy_moved]
  | .declare x e constant p => by simp only [Stmt.moved, stmt, expr_moved k e]
  | .assign op target value p => by
    simp only [Stmt.moved, stmt, expr_moved k target, expr_moved k value, orName_moved,
      foldAssign_moved]
  | .block ss p => by
    simp only [Stmt.moved, stmt, stmts_moved k keep ss, tidy_moved, ofBlock_moved]
  | .leave ends p => rfl
  | .ret e p => by simp only [Stmt.moved, stmt, option_moved k e]
  | .raise e p => by simp only [Stmt.moved, stmt, option_moved k e]
  | .tryCatch body handler p => by
    simp only [Stmt.moved, stmt, stmts_moved k false body, stmts_moved k false handler,
      tidy_moved, foldTry_moved]
  | .attempt e p q => rfl

theorem stmts_moved (k : Known) (keep : Bool) : (ss : List Stmt) →
    stmts k keep (movedStmts f ss) = movedStmts f (stmts k keep ss)
  | [] => rfl
  | s :: ss => by
    simp only [movedStmts, stmts, stmt_moved k keep s, learn_moved, stmts_moved _ keep ss]

end

theorem body_moved (k : Known) (ss : List Stmt) :
    body k (movedStmts f ss) = movedStmts f (body k ss) := by
  unfold body
  rw [stmts_moved, tidy_moved]

end Simplify

end

end ScreenScript.Script
