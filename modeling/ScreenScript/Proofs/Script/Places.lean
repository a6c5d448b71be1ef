import ScreenScript.Proofs.Script.Texts

/-!
All places a tree names, and all texts of its constants. Whatever is reported of a script is
reported at one of the places.
-/

namespace ScreenScript.Script

mutual

@[simp]
def Expr.places : Expr → List Position
  | .constant _ p => [p]
  | .interpolated parts p => p :: exprsPlaces parts
  | .array items p => p :: exprsPlaces items
  | .map entries p => p :: entriesPlaces entries
  | .var _ p => [p]
  | .call _ args p => p :: exprsPlaces args
  | .path base links p => p :: (base.places ++ linksPlaces links)
  | .and a b p => p :: (a.places ++ b.places)
  | .or a b p => p :: (a.places ++ b.places)
  | .block stmts p => p :: stmtsPlaces stmts

@[simp]
def exprsPlaces : List Expr → List Position
  | [] => []
  | e :: es => e.places ++ exprsPlaces es

@[simp]
def entriesPlaces : List (String × Expr) → List Position
  | [] => []
  | (_, e) :: es => e.places ++ entriesPlaces es

@[simp]
def Link.places : Link → List Position
  | .property _ _ p => [p]
  | .method _ args _ p => p :: exprsPlaces args
  | .index e p => p :: e.places

@[simp]
def linksPlaces : List Link → List Position
  | [] => []
  | l :: ls => l.places ++ linksPlaces ls

@[simp]
def optionPlaces : Option Expr → List Position
  | some e => e.places
  | none => []

@[simp]
def Stmt.places : Stmt → List Position
  | .noop p => [p]
  | .expr e => e.places
  | .ifElse cond yes no p => p :: (cond.places ++ stmtsPlaces yes ++ stmtsPlaces no)
  | .loop cond body p q => p :: q :: (optionPlaces cond ++ stmtsPlaces body)
  | .forIn _ items body p q => p :: q :: (items.places ++ stmtsPlaces body)
  | .declare _ init _ p => p :: init.places
  | .assign _ target value p => p :: (target.places ++ value.places)
  | .block stmts p => p :: stmtsPlaces stmts
  | .leave _ p => [p]
  | .ret value p => p :: optionPlaces value
  | .raise value p => p :: optionPlaces value
  | .tryCatch body handler p => p :: (stmtsPlaces body ++ stmtsPlaces handler)
  | .attempt text p q => p :: q :: text.places

@[simp]
def stmtsPlaces : List Stmt → List Position
  | [] => []
  | s :: ss => s.places ++ stmtsPlaces ss

end

mutual

@[simp]
def Expr.texts : Expr → List String
  | .constant v _ => v.texts
  | .interpolated parts _ => exprsTexts parts
  | .array items _ => exprsTexts items
  | .map entries _ => entriesTexts entries
  | .var _ _ => []
  | .call _ args _ => exprsTexts args
  | .path base links _ => base.texts ++ linksTexts links
  | .and a b _ => a.texts ++ b.texts
  | .or a b _ => a.texts ++ b.texts
  | .block stmts _ => stmtsTexts stmts

@[simp]
def exprsTexts : List Expr → List String
  | [] => []
  | e :: es => e.texts ++ exprsTexts es

@[simp]
def entriesTexts : List (String × Expr) → List String
  | [] => []
  | (_, e) :: es => e.texts ++ entriesTexts es

@[simp]
def Link.texts : Link → List String
  | .property _ _ _ => []
  | .method _ args _ _ => exprsTexts args
  | .index e _ => e.texts

@[simp]
def linksTexts : List Link → List String
  | [] => []
  | l :: ls => l.texts ++ linksTexts ls

@[simp]
def optionTexts : Option Expr → List String
  | some e => e.texts
  | none => []

@[simp]
def Stmt.texts : Stmt → List String
  | .noop _ => []
  | .expr e => e.texts
  | .ifElse cond yes no _ => cond.texts ++ stmtsTexts yes ++ stmtsTexts no
  | .loop cond body _ _ => optionTexts cond ++ stmtsTexts body
  | .forIn _ items body _ _ => items.texts ++ stmtsTexts body
  | .declare _ init _ _ => init.texts
  | .assign _ target value _ => target.texts ++ value.texts
  | .block stmts _ => stmtsTexts stmts
  | .leave _ _ => []
  | .ret value _ => optionTexts value
  | .raise value _ => optionTexts value
  | .tryCatch body handler _ => stmtsTexts body ++ stmtsTexts handler
  | .attempt text _ _ => text.texts

@[simp]
def stmtsTexts : List Stmt → List String
  | [] => []
  | s :: ss => s.texts ++ stmtsTexts ss

end

mutual

/-- Whether `eval` is called, which runs a text as a script. -/
@[simp]
def Expr.evals : Expr → Bool
  | .constant .. => false
  | .interpolated parts _ => exprsEvals parts
  | .array items _ => exprsEvals items
  | .map entries _ => entriesEvals entries
  | .var .. => false
  | .call name args _ => decide (name = "eval") || exprsEvals args
  | .path base links _ => base.evals || linksEvals links
  | .and a b _ => a.evals || b.evals
  | .or a b _ => a.evals || b.evals
  | .block stmts _ => stmtsEvals stmts

@[simp]
def exprsEvals : List Expr → Bool
  | [] => false
  | e :: es => e.evals || exprsEvals es

@[simp]
def entriesEvals : List (String × Expr) → Bool
  | [] => false
  | (_, e) :: es => e.evals || entriesEvals es

@[simp]
def Link.evals : Link → Bool
  | .property .. => false
  | .method _ args _ _ => exprsEvals args
  | .index e _ => e.evals

@[simp]
def linksEvals : List Link → Bool
  | [] => false
  | l :: ls => l.evals || linksEvals ls

@[simp]
def optionEvals : Option Expr → Bool
  | some e => e.evals
  | none => false

@[simp]
def Stmt.evals : Stmt → Bool
  | .noop _ => false
  | .expr e => e.evals
  | .ifElse cond yes no _ => cond.evals || stmtsEvals yes || stmtsEvals no
  | .loop cond body _ _ => optionEvals cond || stmtsEvals body
  | .forIn _ items body _ _ => items.evals || stmtsEvals body
  | .declare _ init _ _ => init.evals
  | .assign _ target value _ => target.evals || value.evals
  | .block stmts _ => stmtsEvals stmts
  | .leave _ _ => false
  | .ret value _ => optionEvals value
  | .raise value _ => optionEvals value
  | .tryCatch body handler _ => stmtsEvals body || stmtsEvals handler
  | .attempt .. => true

@[simp]
def stmtsEvals : List Stmt → Bool
  | [] => false
  | s :: ss => s.evals || stmtsEvals ss

end

def Function.places (f : Function) : List Position := stmtsPlaces f.body

def Function.evals (f : Function) : Bool := stmtsEvals f.body

theorem Expr.pos_mem_places (e : Expr) : e.pos ∈ e.places := by
  cases e <;> simp [Expr.pos]

theorem Expr.startPos_mem_places (e : Expr) : e.startPos ∈ e.places := by
  fun_induction Expr.startPos e with
  | case1 b ls p ih => simp [ih]
  | case2 a b p ih => simp [ih]
  | case3 a b p ih => simp [ih]
  | case4 e => exact e.pos_mem_places

theorem Stmt.pos_mem_places (s : Stmt) : s.pos ∈ s.places := by
  cases s <;> simp [Stmt.pos, Expr.pos_mem_places]

theorem stmtsPlaces_append (ss ts : List Stmt) :
    stmtsPlaces (ss ++ ts) = stmtsPlaces ss ++ stmtsPlaces ts := by
  induction ss with
  | nil => rfl
  | cons s ss ih => simp [ih]

theorem stmtsTexts_append (ss ts : List Stmt) :
    stmtsTexts (ss ++ ts) = stmtsTexts ss ++ stmtsTexts ts := by
  induction ss with
  | nil => rfl
  | cons s ss ih => simp [ih]

theorem stmtsEvals_append (ss ts : List Stmt) :
    stmtsEvals (ss ++ ts) = (stmtsEvals ss || stmtsEvals ts) := by
  induction ss with
  | nil => rfl
  | cons s ss ih => simp [ih, Bool.or_assoc]

theorem linksEvals_append (ls ms : List Link) :
    linksEvals (ls ++ ms) = (linksEvals ls || linksEvals ms) := by
  induction ls with
  | nil => rfl
  | cons l ls ih => simp [ih, Bool.or_assoc]

theorem linksTexts_append (ls ms : List Link) :
    linksTexts (ls ++ ms) = linksTexts ls ++ linksTexts ms := by
  induction ls with
  | nil => rfl
  | cons l ls ih => simp [ih]

theorem linksPlaces_append (ls ms : List Link) :
    linksPlaces (ls ++ ms) = linksPlaces ls ++ linksPlaces ms := by
  induction ls with
  | nil => rfl
  | cons l ls ih => simp [ih]

/-- The places a tree may name, the texts it may hold, and whether it may call `eval`. -/
structure Allowed where
  place : Position → Prop
  text : String → Prop := fun _ => True
  eval : Prop := True

instance : CoeFun Allowed fun _ => Position → Prop := ⟨Allowed.place⟩

namespace Allowed

structure Admits (place : Allowed) (ps : List Position) (ts : List String) (called : Bool) :
    Prop where
  places : ∀ p ∈ ps, place p
  texts : ∀ t ∈ ts, place.text t
  evals : called = true → place.eval

variable {place : Allowed} {p : Position} {ps qs : List Position} {ts us : List String}
  {b c : Bool}

@[simp]
theorem admits_nil : place.Admits [] [] false := ⟨nofun, nofun, nofun⟩

@[simp]
theorem admits_cons : place.Admits (p :: ps) ts b ↔ place p ∧ place.Admits ps ts b := by
  constructor
  · intro h
    exact ⟨h.places p List.mem_cons_self,
      fun q hq => h.places q (List.mem_cons_of_mem _ hq), h.texts, h.evals⟩
  · rintro ⟨hp, h⟩
    exact ⟨List.forall_mem_cons.mpr ⟨hp, h.places⟩, h.texts, h.evals⟩

@[simp]
theorem admits_append :
    place.Admits (ps ++ qs) (ts ++ us) (b || c) ↔
      place.Admits ps ts b ∧ place.Admits qs us c := by
  constructor
  · rintro ⟨hps, hts, hb⟩
    rw [List.forall_mem_append] at hps hts
    rw [Bool.or_eq_true, or_imp] at hb
    exact ⟨⟨hps.1, hts.1, hb.1⟩, hps.2, hts.2, hb.2⟩
  · rintro ⟨h, h'⟩
    refine ⟨List.forall_mem_append.mpr ⟨h.places, h'.places⟩,
      List.forall_mem_append.mpr ⟨h.texts, h'.texts⟩, ?_⟩
    rw [Bool.or_eq_true, or_imp]
    exact ⟨h.evals, h'.evals⟩

theorem admits_or :
    place.Admits ps ts (b || c) ↔ place.Admits ps ts c ∧ (b = true → place.eval) := by
  constructor
  · rintro ⟨hps, hts, hb⟩
    rw [Bool.or_eq_true, or_imp] at hb
    exact ⟨⟨hps, hts, hb.2⟩, hb.1⟩
  · rintro ⟨⟨hps, hts, hc⟩, hb⟩
    refine ⟨hps, hts, ?_⟩
    rw [Bool.or_eq_true, or_imp]
    exact ⟨hb, hc⟩

end Allowed

section

variable (place : Allowed)

def Expr.Within (e : Expr) : Prop := place.Admits e.places e.texts e.evals

def ExprsWithin (es : List Expr) : Prop :=
  place.Admits (exprsPlaces es) (exprsTexts es) (exprsEvals es)

def EntriesWithin (es : List (String × Expr)) : Prop :=
  place.Admits (entriesPlaces es) (entriesTexts es) (entriesEvals es)

def LinksWithin (ls : List Link) : Prop :=
  place.Admits (linksPlaces ls) (linksTexts ls) (linksEvals ls)

def OptionWithin (e : Option Expr) : Prop :=
  place.Admits (optionPlaces e) (optionTexts e) (optionEvals e)

def Stmt.Within (s : Stmt) : Prop := place.Admits s.places s.texts s.evals

def StmtsWithin (ss : List Stmt) : Prop :=
  place.Admits (stmtsPlaces ss) (stmtsTexts ss) (stmtsEvals ss)

def Function.Within (f : Function) : Prop := StmtsWithin place f.body

end

variable {place : Allowed}

theorem Expr.Within.pos {e : Expr} (h : e.Within place) : place e.pos := h.places _ e.pos_mem_places

theorem Expr.Within.startPos {e : Expr} (h : e.Within place) : place e.startPos :=
  h.places _ e.startPos_mem_places

namespace Within

open Allowed

@[simp]
theorem constant {v : Value} {p : Position} : (Expr.constant v p).Within place ↔
    place p ∧ v.Within place.text := by
  constructor
  · rintro ⟨hp, ht, -⟩
    exact ⟨hp p List.mem_cons_self, ht⟩
  · rintro ⟨hp, ht⟩
    exact ⟨List.forall_mem_singleton.mpr hp, ht, nofun⟩

@[simp]
theorem interpolated {es : List Expr} {p : Position} :
    (Expr.interpolated es p).Within place ↔ place p ∧ ExprsWithin place es := by
  simp [Expr.Within, ExprsWithin]

@[simp]
theorem array {es : List Expr} {p : Position} :
    (Expr.array es p).Within place ↔ place p ∧ ExprsWithin place es := by
  simp [Expr.Within, ExprsWithin]

@[simp]
theorem map {es : List (String × Expr)} {p : Position} :
    (Expr.map es p).Within place ↔ place p ∧ EntriesWithin place es := by
  simp [Expr.Within, EntriesWithin]

@[simp]
theorem var {x : String} {p : Position} : (Expr.var x p).Within place ↔ place p := by
  simp [Expr.Within]

@[simp]
theorem call {name : String} {es : List Expr} {p : Position} :
    (Expr.call name es p).Within place ↔
      place p ∧ ExprsWithin place es ∧ (name = "eval" → place.eval) := by
  rw [Expr.Within, Expr.places, Expr.texts, Expr.evals, admits_cons, admits_or, decide_eq_true_iff]
  rfl

@[simp]
theorem path {e : Expr} {ls : List Link} {p : Position} :
    (Expr.path e ls p).Within place ↔ place p ∧ e.Within place ∧ LinksWithin place ls := by
  simp only [Expr.Within, LinksWithin, Expr.places, Expr.texts, Expr.evals, admits_cons,
    admits_append]

@[simp]
theorem and {a b : Expr} {p : Position} :
    (Expr.and a b p).Within place ↔ place p ∧ a.Within place ∧ b.Within place := by
  simp only [Expr.Within, Expr.places, Expr.texts, Expr.evals, admits_cons, admits_append]

@[simp]
theorem or {a b : Expr} {p : Position} :
    (Expr.or a b p).Within place ↔ place p ∧ a.Within place ∧ b.Within place := by
  simp only [Expr.Within, Expr.places, Expr.texts, Expr.evals, admits_cons, admits_append]

@[simp]
theorem block {ss : List Stmt} {p : Position} :
    (Expr.block ss p).Within place ↔ place p ∧ StmtsWithin place ss := by
  simp [Expr.Within, StmtsWithin]

@[simp]
theorem exprs_nil : ExprsWithin place [] := admits_nil

@[simp]
theorem exprs_cons {e : Expr} {es : List Expr} :
    ExprsWithin place (e :: es) ↔ e.Within place ∧ ExprsWithin place es := by
  simp only [Expr.Within, ExprsWithin, exprsPlaces, exprsTexts, exprsEvals, admits_append]

@[simp]
theorem exprs_append {es fs : List Expr} :
    ExprsWithin place (es ++ fs) ↔ ExprsWithin place es ∧ ExprsWithin place fs := by
  induction es with
  | nil => simp
  | cons e es ih => simp [ih, and_assoc]

@[simp]
theorem entries_nil : EntriesWithin place [] := admits_nil

@[simp]
theorem entries_cons {k : String} {e : Expr} {es : List (String × Expr)} :
    EntriesWithin place ((k, e) :: es) ↔ e.Within place ∧ EntriesWithin place es := by
  simp only [Expr.Within, EntriesWithin, entriesPlaces, entriesTexts, entriesEvals,
    admits_append]

@[simp]
theorem links_nil : LinksWithin place [] := admits_nil

@[simp]
theorem links_property {x : String} {b : Bool} {p : Position} {ls : List Link} :
    LinksWithin place (.property x b p :: ls) ↔ place p ∧ LinksWithin place ls := by
  simp [LinksWithin]

@[simp]
theorem links_method {x : String} {es : List Expr} {b : Bool} {p : Position} {ls : List Link} :
    LinksWithin place (.method x es b p :: ls) ↔
      place p ∧ ExprsWithin place es ∧ LinksWithin place ls := by
  simp only [LinksWithin, ExprsWithin, linksPlaces, linksTexts, Link.places, Link.texts,
    linksEvals, Link.evals, admits_cons, admits_append, and_assoc]

@[simp]
theorem links_index {e : Expr} {p : Position} {ls : List Link} :
    LinksWithin place (.index e p :: ls) ↔
      place p ∧ e.Within place ∧ LinksWithin place ls := by
  simp only [LinksWithin, Expr.Within, linksPlaces, linksTexts, Link.places, Link.texts,
    linksEvals, Link.evals, admits_cons, admits_append, and_assoc]

@[simp]
theorem links_append {ls ms : List Link} :
    LinksWithin place (ls ++ ms) ↔ LinksWithin place ls ∧ LinksWithin place ms := by
  simp only [LinksWithin, linksPlaces_append, linksTexts_append, linksEvals_append,
    admits_append]

@[simp]
theorem option_none : OptionWithin place none := admits_nil

@[simp]
theorem option_some {e : Expr} : OptionWithin place (some e) ↔ e.Within place := Iff.rfl

@[simp]
theorem noop {p : Position} : (Stmt.noop p).Within place ↔ place p := by
  simp [Stmt.Within]

@[simp]
theorem expr {e : Expr} : (Stmt.expr e).Within place ↔ e.Within place := Iff.rfl

@[simp]
theorem ifElse {e : Expr} {ss ts : List Stmt} {p : Position} :
    (Stmt.ifElse e ss ts p).Within place ↔
      place p ∧ e.Within place ∧ StmtsWithin place ss ∧ StmtsWithin place ts := by
  simp only [Stmt.Within, Expr.Within, StmtsWithin, Stmt.places, Stmt.texts, Stmt.evals,
    admits_cons, admits_append, and_assoc]

@[simp]
theorem loop {e : Option Expr} {ss : List Stmt} {p q : Position} :
    (Stmt.loop e ss p q).Within place ↔
      place p ∧ place q ∧ OptionWithin place e ∧ StmtsWithin place ss := by
  simp only [Stmt.Within, OptionWithin, StmtsWithin, Stmt.places, Stmt.texts, Stmt.evals,
    admits_cons, admits_append]

@[simp]
theorem forIn {x : String} {e : Expr} {ss : List Stmt} {p q : Position} :
    (Stmt.forIn x e ss p q).Within place ↔
      place p ∧ place q ∧ e.Within place ∧ StmtsWithin place ss := by
  simp only [Stmt.Within, Expr.Within, StmtsWithin, Stmt.places, Stmt.texts, Stmt.evals,
    admits_cons, admits_append]

@[simp]
theorem declare {x : String} {e : Expr} {b : Bool} {p : Position} :
    (Stmt.declare x e b p).Within place ↔ place p ∧ e.Within place := by
  simp only [Stmt.Within, Expr.Within, Stmt.places, Stmt.texts, Stmt.evals, admits_cons]

@[simp]
theorem assign {op : Option String} {a b : Expr} {p : Position} :
    (Stmt.assign op a b p).Within place ↔ place p ∧ a.Within place ∧ b.Within place := by
  simp only [Stmt.Within, Expr.Within, Stmt.places, Stmt.texts, Stmt.evals, admits_cons,
    admits_append]

@[simp]
theorem stmtBlock {ss : List Stmt} {p : Position} :
    (Stmt.block ss p).Within place ↔ place p ∧ StmtsWithin place ss := by
  simp only [Stmt.Within, StmtsWithin, Stmt.places, Stmt.texts, Stmt.evals, admits_cons]

@[simp]
theorem leave {b : Bool} {p : Position} : (Stmt.leave b p).Within place ↔ place p := by
  simp [Stmt.Within]

@[simp]
theorem ret {e : Option Expr} {p : Position} :
    (Stmt.ret e p).Within place ↔ place p ∧ OptionWithin place e := by
  simp only [Stmt.Within, OptionWithin, Stmt.places, Stmt.texts, Stmt.evals, admits_cons]

@[simp]
theorem raise {e : Option Expr} {p : Position} :
    (Stmt.raise e p).Within place ↔ place p ∧ OptionWithin place e := by
  simp only [Stmt.Within, OptionWithin, Stmt.places, Stmt.texts, Stmt.evals, admits_cons]

@[simp]
theorem tryCatch {ss ts : List Stmt} {p : Position} :
    (Stmt.tryCatch ss ts p).Within place ↔
      place p ∧ StmtsWithin place ss ∧ StmtsWithin place ts := by
  simp only [Stmt.Within, StmtsWithin, Stmt.places, Stmt.texts, Stmt.evals, admits_cons,
    admits_append]

@[simp]
theorem attempt {e : Expr} {p q : Position} :
    (Stmt.attempt e p q).Within place ↔
      place p ∧ place q ∧ e.Within place ∧ place.eval := by
  have htrue : true = (true || e.evals) := rfl
  rw [Stmt.Within, Stmt.places, Stmt.texts, Stmt.evals, htrue, admits_cons, admits_cons, admits_or]
  simp only [Expr.Within, forall_const]

@[simp]
theorem stmts_nil : StmtsWithin place [] := admits_nil

@[simp]
theorem stmts_cons {s : Stmt} {ss : List Stmt} :
    StmtsWithin place (s :: ss) ↔ s.Within place ∧ StmtsWithin place ss := by
  simp only [Stmt.Within, StmtsWithin, stmtsPlaces, stmtsTexts, stmtsEvals, admits_append]

@[simp]
theorem stmts_append {ss ts : List Stmt} :
    StmtsWithin place (ss ++ ts) ↔ StmtsWithin place ss ∧ StmtsWithin place ts := by
  simp only [StmtsWithin, stmtsPlaces_append, stmtsTexts_append, stmtsEvals_append,
    admits_append]

end Within

/-- What a tree may hold that is moved by `f` before it is looked at. -/
def Allowed.before (place : Allowed) (f : Position → Position) : Allowed :=
  { place with place := fun p => place (f p) }

section

variable (f : Position → Position)

mutual

theorem Expr.within_moved : (e : Expr) → ((e.moved f).Within place ↔ e.Within (place.before f))
  | .constant v p => by simp only [Expr.moved, Within.constant, Allowed.before]
  | .interpolated parts p => by
    simp only [Expr.moved, Within.interpolated, exprs_within_moved parts, Allowed.before]
  | .array items p => by
    simp only [Expr.moved, Within.array, exprs_within_moved items, Allowed.before]
  | .map es p => by
    simp only [Expr.moved, Within.map, entries_within_moved es, Allowed.before]
  | .var x p => by simp only [Expr.moved, Within.var, Allowed.before]
  | .call name args p => by
    simp only [Expr.moved, Within.call, exprs_within_moved args, Allowed.before]
  | .path base ls p => by
    simp only [Expr.moved, Within.path, base.within_moved, links_within_moved ls, Allowed.before]
  | .and a b p => by
    simp only [Expr.moved, Within.and, a.within_moved, b.within_moved, Allowed.before]
  | .or a b p => by
    simp only [Expr.moved, Within.or, a.within_moved, b.within_moved, Allowed.before]
  | .block ss p => by
    simp only [Expr.moved, Within.block, stmts_within_moved ss, Allowed.before]

theorem exprs_within_moved : (es : List Expr) →
    (ExprsWithin place (movedExprs f es) ↔ ExprsWithin (place.before f) es)
  | [] => by simp only [movedExprs, Within.exprs_nil]
  | e :: es => by
    simp only [movedExprs, Within.exprs_cons, e.within_moved, exprs_within_moved es]

theorem entries_within_moved : (es : List (String × Expr)) →
    (EntriesWithin place (movedEntries f es) ↔ EntriesWithin (place.before f) es)
  | [] => by simp only [movedEntries, Within.entries_nil]
  | (k, e) :: es => by
    simp only [movedEntries, Within.entries_cons, e.within_moved, entries_within_moved es]

theorem links_within_moved : (ls : List Link) →
    (LinksWithin place (movedLinks f ls) ↔ LinksWithin (place.before f) ls)
  | [] => by simp only [movedLinks, Within.links_nil]
  | .property n safe p :: ls => by
    simp only [movedLinks, Within.links_property, links_within_moved ls, Allowed.before]
  | .method n args safe p :: ls => by
    simp only [movedLinks, Within.links_method, exprs_within_moved args, links_within_moved ls,
      Allowed.before]
  | .index e p :: ls => by
    simp only [movedLinks, Within.links_index, e.within_moved, links_within_moved ls,
      Allowed.before]

theorem option_within_moved : (e : Option Expr) →
    (OptionWithin place (movedOption f e) ↔ OptionWithin (place.before f) e)
  | none => by simp only [movedOption, Within.option_none]
  | some e => by simp only [movedOption, Within.option_some, e.within_moved]

theorem Stmt.within_moved : (s : Stmt) → ((s.moved f).Within place ↔ s.Within (place.before f))
  | .noop p => by simp only [Stmt.moved, Within.noop, Allowed.before]
  | .expr e => by simp only [Stmt.moved, Within.expr, e.within_moved]
  | .ifElse c yes no p => by
    simp only [Stmt.moved, Within.ifElse, c.within_moved, stmts_within_moved yes,
      stmts_within_moved no, Allowed.before]
  | .loop c body p q => by
    simp only [Stmt.moved, Within.loop, option_within_moved c, stmts_within_moved body,
      Allowed.before]
  | .forIn x items body p q => by
    simp only [Stmt.moved, Within.forIn, items.within_moved, stmts_within_moved body,
      Allowed.before]
  | .declare x e constant p => by
    simp only [Stmt.moved, Within.declare, e.within_moved, Allowed.before]
  | .assign op target value p => by
    simp only [Stmt.moved, Within.assign, target.within_moved, value.within_moved, Allowed.before]
  | .block ss p => by
    simp only [Stmt.moved, Within.stmtBlock, stmts_within_moved ss, Allowed.before]
  | .leave ends p => by simp only [Stmt.moved, Within.leave, Allowed.before]
  | .ret e p => by simp only [Stmt.moved, Within.ret, option_within_moved e, Allowed.before]
  | .raise e p => by simp only [Stmt.moved, Within.raise, option_within_moved e, Allowed.before]
  | .tryCatch body handler p => by
    simp only [Stmt.moved, Within.tryCatch, stmts_within_moved body, stmts_within_moved handler,
      Allowed.before]
  | .attempt e p q => by
    simp only [Stmt.moved, Within.attempt, e.within_moved, Allowed.before]

theorem stmts_within_moved : (ss : List Stmt) →
    (StmtsWithin place (movedStmts f ss) ↔ StmtsWithin (place.before f) ss)
  | [] => by simp only [movedStmts, Within.stmts_nil]
  | s :: ss => by
    simp only [movedStmts, Within.stmts_cons, s.within_moved, stmts_within_moved ss]

end

end

end ScreenScript.Script
