import ScreenScript.Proofs.Script.Runs

/-!
What becomes of a text that a script puts together: its value, unless it is too long.
-/

namespace ScreenScript.Script

open Script.Action

variable {σ : Type}

abbrev TooLong (limit : Nat) (t : String) : Prop :=
  limit ≠ 0 ∧ limit < t.utf8ByteSize

def joined (limit : Nat) (t : String) (p : Position) : Except Stop Value :=
  if TooLong limit t then .error (.failed (.error (.tooLarge .string) p)) else .ok (.string t)

def Overdue {α : Type} (p : Position) (r : Except Stop α) : Prop :=
  r = .error (.failed (.error .tooManyOperations p)) ∨
    r = .error (.failed (.terminated Failure.cancelToken))

/-- All that a script has to put texts together: the operator, embedded blocks, and the compound
assignment, which may leave too long a text in its place. Operands of different kinds cost an
operation, which may be one too many. -/
structure Evaluator.Concatenates (g : Evaluator) : Prop where
  sum {σ : Type} (h : Host σ) (c : Context) {s₁ s₂ s₃ : Session} {w₁ w₂ w₃ : World σ} {a b : Expr}
    {v u : Value} {t : String} (p : Position) :
    World.run h (g.expr a c s₁) w₁ = ((.ok v, s₂), w₂) →
    World.run h (g.expr b c s₂) w₂ = ((.ok u, s₃), w₃) →
    Operator.concatenate s₃.selectors v u = .ok (.string t) →
    ∃ sum, g.operator? "+" [a, b] p = some sum ∧
      let r := (World.run h (sum c s₁) w₁).1.1
      r = joined c.config.memoryLimit t p ∨ Operator.order? v u = none ∧ Overdue p r
  embedded {σ : Type} (h : Host σ) (c : Context) {s₁ s₂ : Session} {w₁ w₂ : World σ} {e : Expr}
    {v : Value} (before : String) (es : List Expr) :
    World.run h (g.expr e c s₁) w₁ = ((.ok v, s₂), w₂) →
    let t := before ++ v.ownText s₂.selectors
    World.run h (g.interpolate before (e :: es) c s₁) w₁ =
      if TooLong c.config.memoryLimit t
        then ((.error (.failed (.error (.tooLarge .string) e.pos)), s₂), w₂)
        else World.run h (g.interpolate t es c s₂) w₂
  assigned {σ : Type} (h : Host σ) (c : Context) (s : Session) (w : World σ) (pl : Place)
    (a : Evaluator.Assignment) {op t : String} :
    a.op = some op → pl.isConstant s = false →
    Operator.compound s.selectors op (pl.read s) a.value = .ok (.string t) →
    let checked := Evaluator.checksFirst (pl.read s) a.value
    World.run h (Evaluator.assignTo pl a c s) w =
      (((joined c.config.memoryLimit t a.pos).map fun _ => (),
        if TooLong c.config.memoryLimit t ∧ checked then s else pl.write s (.string t)), w)

theorem checked_string (t : String) (p : Position) (c : Context) (s : Session) :
    Evaluator.checked (.string t) p c s = .done (joined c.config.memoryLimit t p, s) := by
  unfold Evaluator.checked joined
  rw [bind_apply, checkSize_string]
  split_ifs <;> rfl

theorem run_tick (h : Host σ) (p : Position) (c : Context) (s : Session) (w : World σ) :
    ∃ r s', World.run h (tick p c s) w = ((r, s'), w) ∧ s'.selectors = s.selectors ∧
      (r = .ok () ∨ Overdue p r) := by
  rw [tick_apply]
  split_ifs
  · exact ⟨_, _, rfl, rfl, .inr (.inl rfl)⟩
  · rw [heed_apply, World.run]
    cases w.pending with
    | true => exact ⟨_, _, rfl, rfl, .inr (.inr rfl)⟩
    | false => exact ⟨_, _, rfl, rfl, .inl rfl⟩

theorem binary?_plus (selectors : Selector.Store) :
    Operator.binary? selectors "+" = some (Operator.concatenate selectors) :=
  rfl

theorem run_sum (h : Host σ) (p : Position) (c : Context) (s : Session) (w : World σ) {v u : Value}
    {t : String} (ht : Operator.concatenate s.selectors v u = .ok (.string t)) :
    World.run h ((do
      match Operator.binary? (← get).selectors "+" with
      | some f => Evaluator.checked (← Evaluator.failOn p (f v u)) p
      | none => pure .unit : Action Value) c s) w =
      ((joined c.config.memoryLimit t p, s), w) := by
  rw [get_bind_apply, binary?_plus]
  dsimp only
  rw [ht]
  dsimp only [Evaluator.failOn]
  rw [pure_bind_apply, checked_string]
  rfl

theorem sizePos_of_string {a : Evaluator.Assignment} {selectors : Selector.Store} {op t : String}
    {old : Value} (h : Operator.compound selectors op old a.value = .ok (.string t)) :
    Evaluator.sizePos a old a.value = a.pos := by
  unfold Evaluator.sizePos
  split
  · rename_i hb
    unfold Operator.compound at h
    rw [hb] at h
    dsimp only at h
    split at h <;> cases h
  · rfl

theorem Evaluator.concatenates (g : Evaluator) : g.Concatenates where
  sum h c s₁ s₂ s₃ w₁ w₂ w₃ a b v u t p hv hu ht := by
    refine ⟨_, rfl, ?_⟩
    rw [(run_bind_ok _ hv).1, (run_bind_ok _ hu).1]
    dsimp only
    cases horder : Operator.order? v u with
    | some o => exact .inl (congrArg (·.1.1) (run_sum h p c s₃ w₃ ht))
    | none =>
      obtain ⟨r, s', htick, hselectors, hr⟩ := run_tick h p c s₃ w₃
      rw [← hselectors] at ht
      simp only [Option.isNone_none, if_true]
      rcases hr with rfl | hr
      · rw [(run_bind_ok _ htick).1]
        exact .inl (congrArg (·.1.1) (run_sum h p c s' w₃ ht))
      · rcases hr with rfl | rfl
        · rw [(run_bind_error _ htick).1]
          exact .inr ⟨trivial, .inl rfl⟩
        · rw [(run_bind_error _ htick).1]
          exact .inr ⟨trivial, .inr rfl⟩
  embedded h c s₁ s₂ w₁ w₂ e v before es hv := by
    dsimp only
    rw [interpolate, (run_bind_ok _ hv).1, get_bind_apply]
    rw [bind_apply, checkSize_string]
    split_ifs <;> rfl
  assigned h c s w pl a op t hop hconstant ht := by
    have hread : World.run h (readPlace pl c s) w = ((.ok (pl.read s), s), w) := rfl
    have hcombine : World.run h (combine a op (pl.read s) c s) w = ((.ok (.string t), s), w) := by
      unfold combine
      rw [get_bind_apply, ht]
      rfl
    unfold assignTo
    rw [get_bind_apply, hconstant, hop]
    simp only [Bool.false_eq_true, if_false]
    rw [(run_bind_ok _ hread).1, (run_bind_ok _ hcombine).1]
    unfold joined
    split
    · rename_i hfirst
      simp only [hfirst, and_true]
      rw [bind_apply, checkSize_string]
      split_ifs <;> rfl
    · rename_i hfirst
      simp only [hfirst, Bool.false_eq_true, and_false, if_false]
      rw [sizePos_of_string ht]
      change World.run h (checkSize (.string t) a.pos c (pl.write s (.string t))) w = _
      rw [checkSize_string]
      split_ifs <;> rfl

end ScreenScript.Script
