import ScreenScript.Proofs.Script.Idle
import ScreenScript.Proofs.Script.Knowledge
import ScreenScript.Proofs.Script.Simulation

/-!
Statements one after the other: what is settled of them before they run, and how they run, if they
come in two parts.
-/

namespace ScreenScript.Script

open Script.Action

namespace Simplify

def learnAll (k : Known) (ss : List Stmt) : Known := ss.foldl learn k

theorem stmts_append (k : Known) (keep : Bool) (xs ys : List Stmt) :
    stmts k keep (xs ++ ys) =
      stmts k keep xs ++ stmts (learnAll k (stmts k keep xs)) keep ys := by
  induction xs generalizing k with
  | nil => rfl
  | cons x xs ih =>
    rw [List.cons_append, stmts, stmts, ih]
    rfl

theorem flatten_append (xs ys : List Stmt) : flatten (xs ++ ys) = flatten xs ++ flatten ys := by
  induction xs with
  | nil => rfl
  | cons x xs ih =>
    cases x with
    | block ss p =>
      simp only [List.cons_append, flatten, ih]
      split
      · rfl
      · exact (List.append_assoc _ _ _).symm
    | _ => simp only [List.cons_append, flatten, ih]

theorem reachable_append {xs : List Stmt} (h : ∀ s ∈ xs, s.endsFlow = false) (ys : List Stmt) :
    reachable (xs ++ ys) = xs ++ reachable ys := by
  induction xs with
  | nil => rfl
  | cons x xs ih =>
    rw [List.forall_mem_cons] at h
    rw [List.cons_append, reachable, if_neg (Bool.eq_false_iff.mp h.1), ih h.2, List.cons_append]

theorem flows_of_reachable {xs : List Stmt} (h : ∀ s ∈ reachable xs, s.endsFlow = false) :
    ∀ s ∈ xs, s.endsFlow = false := by
  induction xs with
  | nil => exact nofun
  | cons x xs ih =>
    rw [reachable] at h
    split at h
    · rename_i hx
      rw [h x (List.mem_singleton_self x)] at hx
      cases hx
    · rw [List.forall_mem_cons] at h
      exact List.forall_mem_cons.mpr ⟨h.1, ih h.2⟩

def impure (ss : List Stmt) : List Stmt := ss.filter fun s => !s.isPure

theorem effective_cons (x : Stmt) (xs : List Stmt) : (effective true false (x :: xs)).1 =
    if x.isPure && !xs.isEmpty then (effective true false xs).1
    else x :: (effective true false xs).1 := by
  simp only [effective, Bool.false_and, Bool.or_false, Bool.true_and]

theorem effective_append (xs : List Stmt) {ys : List Stmt} (hys : ys ≠ []) :
    (effective true false (xs ++ ys)).1 = impure xs ++ (effective true false ys).1 := by
  induction xs with
  | nil => rfl
  | cons x xs ih =>
    have hne : (xs ++ ys).isEmpty = false := by
      rw [List.isEmpty_eq_false_iff]
      exact fun h => hys (List.append_eq_nil_iff.mp h).2
    rw [List.cons_append, effective_cons, hne, ih, impure, impure, List.filter_cons]
    cases x.isPure <;> rfl

theorem effective_ne_nil {xs : List Stmt} (h : xs ≠ []) : (effective true false xs).1 ≠ [] := by
  induction xs with
  | nil => exact absurd rfl h
  | cons x xs ih =>
    rw [effective_cons]
    split
    · rename_i hx
      refine ih fun hxs => ?_
      simp [hxs] at hx
    · exact List.cons_ne_nil _ _

theorem effective_split (xs : List Stmt) : ∃ rest,
    (effective true false xs).1 = impure xs ++ rest ∧ ∀ s ∈ rest, s.isPure = true := by
  induction xs with
  | nil => exact ⟨[], rfl, nofun⟩
  | cons x xs ih =>
    by_cases hxs : xs = []
    · subst hxs
      cases hx : x.isPure with
      | true => exact ⟨[x], by simp [effective, impure, hx], by simpa using hx⟩
      | false => exact ⟨[], by simp [effective, impure, hx], nofun⟩
    · obtain ⟨rest, hrest, hpure⟩ := ih
      refine ⟨rest, ?_, hpure⟩
      have hone := effective_append [x] hxs
      rw [List.singleton_append] at hone
      rw [hone, hrest, ← List.append_assoc, impure, impure, impure, ← List.filter_append,
        List.singleton_append]

theorem endsFlow_of_pure {s : Stmt} (h : s.isPure = true) : s.endsFlow = false := by
  cases s with
  | leave | ret | raise => cases h
  | _ => rfl

theorem learn_of_pure (k : Known) {s : Stmt} (h : s.isPure = true) : learn k s = k := by
  cases s with
  | declare => cases h
  | _ => rfl

theorem learnAll_append (k : Known) (xs ys : List Stmt) :
    learnAll k (xs ++ ys) = learnAll (learnAll k xs) ys :=
  List.foldl_append

theorem learnAll_of_pure (k : Known) {ss : List Stmt} (h : ∀ s ∈ ss, s.isPure = true) :
    learnAll k ss = k := by
  induction ss with
  | nil => rfl
  | cons s ss ih =>
    rw [List.forall_mem_cons] at h
    change learnAll (learn k s) ss = k
    rw [learn_of_pure k h.1, ih h.2]

theorem learnAll_impure (k : Known) (ss : List Stmt) : learnAll k (impure ss) = learnAll k ss := by
  induction ss generalizing k with
  | nil => rfl
  | cons s ss ih =>
    rw [impure, List.filter_cons]
    cases hs : s.isPure with
    | true =>
      have hlearn : learnAll k (s :: ss) = learnAll k ss :=
        congrArg (learnAll · ss) (learn_of_pure k hs)
      rw [hlearn]
      exact ih k
    | false => exact ih (learn k s)

theorem learnAll_flatten (k : Known) (ss : List Stmt) :
    learnAll k (flatten ss) = learnAll k ss := by
  have hblock (k : Known) {ss : List Stmt} (h : ss.any Stmt.needsBlock = false) :
      learnAll k ss = k := by
    induction ss with
    | nil => rfl
    | cons s ss ih =>
      rw [List.any_cons, Bool.or_eq_false_iff] at h
      have hs : learn k s = k := by
        cases s with
        | declare => cases h.1
        | _ => rfl
      change learnAll (learn k s) ss = k
      rw [hs, ih h.2]
  induction ss generalizing k with
  | nil => rfl
  | cons s ss ih =>
    cases s with
    | block ts p =>
      rw [flatten]
      split
      · exact ih k
      · rename_i h
        rw [learnAll_append, hblock k (Bool.eq_false_iff.mpr h)]
        exact ih k
    | _ => exact ih _

/-- A body in two parts of which the first runs to its end: of the first part what has an effect is
kept, unless nothing is left of the second. -/
theorem body_append (k : Known) (xs ys : List Stmt)
    (hflow : ∀ s ∈ body k xs, s.endsFlow = false) :
    let k' := learnAll k (body k xs)
    ∃ kept rest, body k xs = kept ++ rest ∧ (∀ s ∈ rest, s.isPure = true) ∧
      body k (xs ++ ys) = if body k' ys = [] then body k xs else kept ++ body k' ys := by
  let before := flatten (stmts k true xs)
  obtain ⟨rest, hrest, hpure⟩ := effective_split (reachable before)
  have hbody : body k xs = impure (reachable before) ++ rest := hrest
  have hall : ∀ s ∈ before, s.endsFlow = false := by
    refine flows_of_reachable fun s hs => ?_
    cases hp : s.isPure with
    | true => exact endsFlow_of_pure hp
    | false =>
      refine hflow s (hbody ▸ List.mem_append_left _ (List.mem_filter.mpr ⟨hs, ?_⟩))
      rw [hp]
      rfl
  have hreach : reachable before = before := by
    simpa only [List.append_nil, reachable] using reachable_append hall []
  rw [hreach] at hbody
  have hlearn : learnAll k (body k xs) = learnAll k (stmts k true xs) := by
    rw [hbody, learnAll_append, learnAll_of_pure _ hpure, learnAll_impure, learnAll_flatten]
  refine ⟨impure before, rest, hbody, hpure, ?_⟩
  rw [hlearn]
  let after := reachable (flatten (stmts (learnAll k (stmts k true xs)) true ys))
  have hjoined : body k (xs ++ ys) = (effective true false (before ++ after)).1 := by
    rw [body, tidy, stmts_append, flatten_append, reachable_append hall]
  have hsecond : body (learnAll k (stmts k true xs)) ys = (effective true false after).1 := rfl
  rw [hjoined, hsecond]
  by_cases hafter : after = []
  · have hnone : (effective true false []).1 = [] := rfl
    rw [hafter, List.append_nil, hnone, if_pos rfl, body, tidy, hreach]
  · rw [if_neg (effective_ne_nil hafter), effective_append before hafter]

theorem learnAll_moved (f : Position → Position) (k : Known) (ss : List Stmt) :
    learnAll k (movedStmts f ss) = learnAll k ss := by
  induction ss generalizing k with
  | nil => rfl
  | cons s ss ih =>
    change learnAll (learn k (s.moved f)) (movedStmts f ss) = learnAll (learn k s) ss
    rw [learn_moved, ih]

theorem body_joined {f : Position → Position} {k k₁ : Known} {xs ys zs : List Stmt}
    (hjoined : movedStmts f zs = movedStmts f xs ++ movedStmts f ys)
    (hflow : ∀ s ∈ body k xs, s.endsFlow = false)
    (hagree : Agree (stmtsNames ys) (learnAll k (body k xs)) k₁) :
    (body k₁ ys = [] → movedStmts f (body k zs) = movedStmts f (body k xs)) ∧
    (body k₁ ys ≠ [] → ∃ kept rest kept' last, body k xs = kept ++ rest ∧
      (∀ s ∈ rest, s.isPure = true) ∧ body k zs = kept' ++ last ∧
      movedStmts f kept' = movedStmts f kept ∧ movedStmts f last = movedStmts f (body k₁ ys)) := by
  have hmoved : ∀ s ∈ body k (movedStmts f xs), s.endsFlow = false := by
    rw [body_moved, movedStmts_eq]
    intro t ht
    obtain ⟨s, hs, rfl⟩ := List.mem_map.mp ht
    rw [endsFlow_moved, hflow s hs]
  obtain ⟨kept, rest, hfirst, hpure, hall⟩ := body_append k (movedStmts f xs) (movedStmts f ys) hmoved
  rw [← hjoined, body_moved k zs, body_moved k xs, learnAll_moved, body_moved _ ys,
    ← body_agree ys hagree] at hall
  rw [body_moved] at hfirst
  constructor
  · intro hnone
    rw [hall, hnone, movedStmts, if_pos rfl]
  · intro hsome
    have hne : movedStmts f (body k₁ ys) ≠ [] := by
      rw [movedStmts_eq]
      exact fun h => hsome (List.map_eq_nil_iff.mp h)
    rw [if_neg hne] at hall
    rw [movedStmts_eq] at hfirst hall
    obtain ⟨kept₁, rest₁, hxs, rfl, rfl⟩ := List.map_eq_append_iff.mp hfirst
    obtain ⟨kept₂, last, hzs, hkept, hlast⟩ := List.map_eq_append_iff.mp hall
    refine ⟨kept₁, rest₁, kept₂, last, hxs, fun s hs => ?_, hzs, ?_, ?_⟩
    · rw [← Stmt.isPure_moved (f := f)]
      exact hpure _ (List.mem_map_of_mem hs)
    · rw [movedStmts_eq, movedStmts_eq, hkept]
    · rw [movedStmts_eq, hlast]

/-- The constants that the statements declare whose values are not known before they run. -/
def unsettled (ss : List Stmt) : List String :=
  ss.filterMap fun
    | .declare x e true _ => if e.isConstant then none else some x
    | _ => none

end Simplify

def Session.pace (s : Session) : Pace := { move := id, functions := s.functions, exact := True }

theorem Session.parallel_self (s : Session) : s.Parallel s.pace s :=
  ⟨⟨rfl, rfl, rfl, rfl⟩, rfl, fun _ => rfl⟩

def Gives {α : Type} (P : α → Session → Prop) (x : Except Stop α × Session) : Prop :=
  ∀ v, x.1 = .ok v → P v x.2

theorem ensures_stop {α : Type} {P : α → Session → Prop} (e : Stop) (c : Context) (s : Session) :
    ((stop e : Action α) c s).Ensures (Gives P) :=
  fun _ h => nomatch h

theorem ensures_pure {α : Type} {P : α → Session → Prop} {v : α} {s : Session} (h : P v s)
    (c : Context) : ((pure v : Action α) c s).Ensures (Gives P) := by
  rintro w hw
  cases hw
  exact h

theorem ensures_bind {α β : Type} {P : α → Session → Prop} {Q : β → Session → Prop}
    {a : Action α} {f : α → Action β} {c : Context} {s : Session}
    (ha : (a c s).Ensures (Gives P)) (hf : ∀ v t, P v t → (f v c t).Ensures (Gives Q)) :
    ((a >>= f) c s).Ensures (Gives Q) := by
  rw [bind_apply]
  refine ha.bind ?_
  rintro ⟨r, t⟩ hr
  cases r with
  | ok v => exact hf v t (hr v rfl)
  | error e => exact fun _ h => nomatch h

theorem ensures_kept {α : Type} {a b : Action α} {s : Session} {V : α → α → Prop}
    (h : InStep s.pace false s.names V a b) (c : Context) :
    (a c s).Ensures (Gives fun _ t => t.names = s.names) :=
  (h c s s (.inl trivial) s.parallel_self rfl).ensures.mono fun _ ⟨_, hxy⟩ _ _ => hxy.grown.eq

theorem ensures_any {α : Type} (a : Action α) (c : Context) (s : Session) :
    (a c s).Ensures (Gives fun _ _ => True) :=
  (Program.ensures_true _).mono fun _ _ _ _ => trivial

theorem ensures_constant (n : Nat) {e : Expr} {w : Value} (he : e.constant? = some w)
    (c : Context) (s : Session) : ((evaluator n).expr e c s).Ensures (Gives fun v _ => v = w) := by
  cases n with
  | zero => exact ensures_stop _ c s
  | succ n =>
    cases e with
    | constant v p =>
      cases he
      refine ensures_bind (ensures_any (tick p) c s) fun _ t _ => ?_
      rintro v hv
      cases hv
      rfl
    | _ => cases he

/-- What a statement that is passed makes of the names. -/
def Stmt.Binds (t : Stmt) (ns ns' : Names) : Prop :=
  match t with
  | .declare x e constant _ => ∃ v, ns' = (x, if constant then some v else none) :: ns ∧
    ∀ w, e.constant? = some w → v = w
  | .leave .. | .ret .. | .raise .. => False
  | _ => ns' = ns

theorem ensures_binds (n : Nat) (t : Stmt) (c : Context) (s : Session) :
    ((evaluator n).stmt t c s).Ensures (Gives fun _ s' => t.Binds s.names s'.names) := by
  have hstep := (evaluator_keepsPace s.pace n).stmt s.names t
  cases n with
  | zero => exact ensures_stop _ c s
  | succ n =>
    cases t with
    | declare x e constant p =>
      have htick : InStep s.pace false s.names Eq (tick p) (tick p) := .tick p
      refine ensures_bind (ensures_kept htick c) fun _ s₁ hs₁ => ?_
      have hexpr : ((evaluator n).expr e c s₁).Ensures (Gives fun v s₂ =>
          s₂.names = s₁.names ∧ ∀ w, e.constant? = some w → v = w) := by
        have hkept := ensures_kept ((evaluator_keepsPace s₁.pace n).expr s₁.names e) c
        cases hw : e.constant? with
        | none => exact hkept.mono fun _ hx v hv => ⟨hx v hv, nofun⟩
        | some w =>
          refine (hkept.and (ensures_constant n hw c s₁)).mono fun _ hx v hv => ⟨hx.1 v hv, ?_⟩
          rintro _ ⟨⟩
          exact hx.2 v hv
      refine ensures_bind hexpr fun v s₂ hs₂ => ?_
      rintro _ -
      refine ⟨v, ?_, hs₂.2⟩
      rw [← hs₁, ← hs₂.1]
      rfl
    | leave ends p => exact ensures_bind (ensures_any _ c s) fun _ t _ => ensures_stop _ c t
    | ret e p =>
      refine ensures_bind (ensures_any _ c s) fun _ t _ => ?_
      exact ensures_bind (ensures_any _ c t) fun _ u _ => ensures_stop _ c u
    | raise e p =>
      refine ensures_bind (ensures_any _ c s) fun _ t _ => ?_
      exact ensures_bind (ensures_any _ c t) fun _ u _ => ensures_stop _ c u
    | _ => exact ensures_kept hstep c

namespace Simplify

variable {xs : List String} {limit : Nat}

theorem known?_declare {s s' : Session} {x : String} {constant : Bool} {v : Value}
    (h : s'.names = (x, if constant then some v else none) :: s.names) (y : String) :
    known? (knownOf limit s') y =
      if x = y then (if constant then some v else none) else known? (knownOf limit s) y := by
  have hlearn : knownOf limit s' =
      learn (knownOf limit s) (.declare x (.constant v .start) constant .start) := by
    change Known.mk (s'.names ++ _) limit = _
    rw [h]
    rfl
  rw [hlearn, known?_learn]
  rfl

/-- What is known of names after a statement is known before it, unless it is the value of a constant
that it declares. -/
theorem agree_binds {k : Known} {s s' : Session} {t : Stmt} (h : Agree xs k (knownOf limit s))
    (ht : t.Binds s.names s'.names) (hxs : ∀ x ∈ xs, x ∉ unsettled [t]) :
    Agree xs (learn k t) (knownOf limit s') := by
  have hsame (hnames : s'.names = s.names) : knownOf limit s' = knownOf limit s := by
    change Known.mk (s'.names ++ _) limit = Known.mk (s.names ++ _) limit
    rw [hnames]
  cases t with
  | declare x e constant p =>
    obtain ⟨v, hnames, hv⟩ := ht
    refine ⟨h.limit, fun y hy => ?_⟩
    rw [known?_declare hnames, known?_learn, h.names y hy]
    by_cases hxy : x = y
    · subst hxy
      rw [if_pos rfl, if_pos rfl]
      cases constant with
      | false => rfl
      | true =>
        have hsettled := hxs x hy
        cases hw : e.constant? with
        | none => simp [unsettled, Expr.isConstant, hw] at hsettled
        | some w => rw [hv w hw]
    · rw [if_neg hxy, if_neg hxy]
  | leave | ret | raise => exact ht.elim
  | _ => exact (hsame ht).symm ▸ h

theorem agree_stmts (n : Nat) (ss : List Stmt) {k : Known} (c : Context) {s : Session}
    (h : Agree xs k (knownOf limit s)) (hxs : ∀ x ∈ xs, x ∉ unsettled ss) :
    ((evaluator n).stmts ss c s).Ensures (Gives fun _ s' =>
      Agree xs (learnAll k ss) (knownOf limit s') ∧ ∀ t ∈ ss, t.endsFlow = false) := by
  have hpassed {t : Stmt} {ns ns' : Names} (ht : t.Binds ns ns') : t.endsFlow = false := by
    cases t with
    | leave | ret | raise => exact ht.elim
    | _ => rfl
  induction ss generalizing k s with
  | nil => exact ensures_pure ⟨h, nofun⟩ c
  | cons t ss ih =>
    have hone : ∀ x ∈ xs, x ∉ unsettled [t] := fun x hx ht =>
      hxs x hx (by
        rw [← List.singleton_append, unsettled, List.filterMap_append]
        exact List.mem_append_left _ ht)
    have hrest : ∀ x ∈ xs, x ∉ unsettled ss := fun x hx ht =>
      hxs x hx (by
        rw [← List.singleton_append, unsettled, List.filterMap_append]
        exact List.mem_append_right _ ht)
    have hbinds := ensures_binds n t c s
    by_cases hss : ss = []
    · subst hss
      refine hbinds.mono fun _ hx v hv => ⟨agree_binds h (hx v hv) hone, ?_⟩
      exact List.forall_mem_singleton.mpr (hpassed (hx v hv))
    · rw [Evaluator.stmts_cons _ t hss]
      refine ensures_bind hbinds fun _ s₁ hs₁ => ?_
      refine (ih (agree_binds h hs₁ hone) hrest).mono fun _ hx v hv => ⟨(hx v hv).1, ?_⟩
      exact List.forall_mem_cons.mpr ⟨hpassed hs₁, (hx v hv).2⟩

end Simplify

def erase : Position → Position := fun _ => .start

/-- Ends that differ in places only. -/
inductive Echo : Except Stop Value → Except Stop Value → Prop
  | ok (v : Value) : Echo (.ok v) (.ok v)
  | error {e e' : Stop} (h : e'.moved erase = e.moved erase) : Echo (.error e) (.error e')

theorem Echo.eq_ok {v : Value} {r : Except Stop Value} (h : Echo (.ok v) r) : r = .ok v := by
  cases h
  rfl

structure Echoes (x y : Except Stop Value × Session) : Prop where
  ends : Echo x.1 y.1
  sees : x.2.Sees y.2
  functions : y.2.functions = x.2.functions

theorem stmts_echo (n : Nat) {xs ys : List Stmt} (h : movedStmts erase ys = movedStmts erase xs)
    {c : Context} (hc : c.config.maxOperations = 0) {s t : Session} (hst : s.Sees t)
    (hf : t.functions = s.functions) :
    ((evaluator n).stmts xs c s).Lockstep Echoes ((evaluator n).stmts ys c t) := by
  -- Both keep pace with the statements without places.
  let m : Pace := { move := erase, functions := s.functions, exact := False }
  have hxs := Evaluator.stmts_inStep (evaluator_keepsPace m n) s.names xs c s s (.inr hc)
    ⟨.refl s, rfl, False.elim⟩ rfl
  have hys := Evaluator.stmts_inStep (evaluator_keepsPace m n) t.names ys c t s (.inr hc)
    ⟨hst.symm, hf, False.elim⟩ rfl
  have hmove : m.move = erase := rfl
  rw [hmove, h] at hys
  refine (hxs.meet hys).mono ?_
  rintro ⟨x, s'⟩ ⟨y, t'⟩ ⟨⟨z, u⟩, ⟨hx, hsu, -⟩, hy, htu, -⟩
  refine ⟨?_, hsu.toSees.trans htu.toSees.symm, htu.functions.trans hsu.functions.symm⟩
  cases hx with
  | ok hv =>
    cases hy with
    | ok hw =>
      cases hv
      cases hw
      exact .ok _
  | error e =>
    generalize hz : e.moved m.move = e' at hy
    cases hy with
    | error e₂ => exact .error hz.symm

end ScreenScript.Script
