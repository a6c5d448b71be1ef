import ScreenScript.Proofs.Host.Turns
import ScreenScript.Proofs.Script.Yields

/-!
Runs of composed actions, and checks of sizes.
-/

namespace ScreenScript.Script

open Script.Action

variable {σ α β : Type}

theorem bind_apply (a : Action α) (f : α → Action β) (c : Context) (s : Session) :
    (a >>= f) c s = (a c s).bind fun r => match r.1 with
      | .ok v => f v c r.2
      | .error e => .done (.error e, r.2) := by
  show (a c s).bind _ = _
  congr
  funext ⟨r, s⟩
  cases r <;> rfl

theorem perform_bind (q : Program α) (f : α → Action β) (c : Context) (s : Session) :
    (perform q >>= f) c s = q.bind fun a => f a c s := by
  rw [bind_apply]
  unfold perform
  rw [Program.bind_bind]
  rfl

theorem heed_apply (c : Context) (s : Session) : heed c s = .poll fun b =>
    .done (if b then .error (.failed (.terminated Failure.cancelToken)) else .ok (), s) := by
  unfold heed
  rw [perform_bind]
  simp only [Program.bind]
  congr
  funext b
  cases b <;> rfl

theorem heed_bind (a : Action α) (c : Context) (s : Session) :
    (heed >>= fun _ => a) c s = .poll fun b =>
      if b then .done (.error (.failed (.terminated Failure.cancelToken)), s) else a c s := by
  rw [bind_apply, heed_apply]
  simp only [Program.bind]
  congr
  funext b
  cases b <;> rfl

theorem pure_bind_apply (a : α) (k : α → Action β) (c : Context) (s : Session) :
    (pure a >>= k) c s = k a c s :=
  rfl

theorem tick_apply (p : Position) (c : Context) (s : Session) : tick p c s =
    if c.config.maxOperations ≠ 0 ∧ c.config.maxOperations < s.operations + 1 then
      .done (.error (.failed (.error .tooManyOperations p)),
        { s with operations := s.operations + 1 })
    else heed c { s with operations := s.operations + 1 } := by
  unfold tick
  change (if c.config.maxOperations ≠ 0 ∧ c.config.maxOperations < s.operations + 1
    then fail (α := Unit) .tooManyOperations p >>= fun _ => heed else heed) c
      { s with operations := s.operations + 1 } = _
  split_ifs <;> rfl

theorem guarded_apply (q : Program α) (c : Context) (s : Session) :
    guarded q c s = .poll fun b =>
      if b then .done (.error (.failed (.terminated Failure.cancelToken)), s)
      else q.bind fun a => .poll fun b =>
        if b then .done (.error (.failed (.terminated Failure.cancelToken)), s)
        else .done (.ok a, s) := by
  unfold guarded
  rw [heed_bind]
  congr
  funext b
  rw [perform_bind]
  congr
  funext a
  exact heed_bind (pure a) c s

theorem Api.ask_apply (verb : String) (args : List String) (c : Context) (s : Session) :
    Api.ask verb args c s = .poll fun b =>
      if b then .done (.error (.failed (.terminated Failure.cancelToken)), s)
      else .ask verb args fun r => .poll fun b => .done
        (if b then .error (.failed (.terminated Failure.cancelToken))
          else .ok (.bool (Answer.bool r)), s) := by
  unfold Api.ask Api.yes
  rw [bind_apply, guarded_apply]
  refine congrArg Program.poll (funext fun b => ?_)
  cases b with
  | true => rfl
  | false =>
    refine congrArg (Program.ask verb args) (funext fun r => ?_)
    refine congrArg Program.poll (funext fun b => ?_)
    cases b <;> rfl

theorem bind_assoc_apply {γ : Type} (a : Action α) (f : α → Action β) (g : β → Action γ)
    (c : Context) (s : Session) :
    ((a >>= f) >>= g) c s = (a >>= fun v => f v >>= g) c s := by
  rw [bind_apply, bind_apply, bind_apply, Program.bind_bind]
  congr 1
  funext x
  obtain ⟨r, t⟩ := x
  cases r with
  | ok v => exact (bind_apply (f v) g c t).symm
  | error e => rfl

namespace Evaluator

theorem stmts_cons (g : Evaluator) (x : Stmt) {xs : List Stmt} (hxs : xs ≠ []) :
    g.stmts (x :: xs) = (g.stmt x >>= fun _ => g.stmts xs) := by
  cases xs with
  | nil => exact absurd rfl hxs
  | cons y ys => rfl

theorem stmts_append (g : Evaluator) (xs : List Stmt) {ys : List Stmt} (hys : ys ≠ [])
    (c : Context) (s : Session) :
    g.stmts (xs ++ ys) c s = (g.stmts xs >>= fun _ => g.stmts ys) c s := by
  induction xs generalizing s with
  | nil => rfl
  | cons x xs ih =>
    cases xs with
    | nil => exact congrArg (· c s) (stmts_cons g x hys)
    | cons y xs =>
      have hne : y :: xs ≠ [] := List.cons_ne_nil y xs
      have hne' : y :: xs ++ ys ≠ [] := List.cons_ne_nil y _
      rw [List.cons_append, stmts_cons g x hne', stmts_cons g x hne, bind_assoc_apply, bind_apply,
        bind_apply]
      congr 1
      funext r
      obtain ⟨r, t⟩ := r
      cases r with
      | ok v => exact ih t
      | error e => rfl

end Evaluator

theorem run_bind_ok {h : Host σ} {a : Action α} (f : α → Action β) {c : Context}
    {s s' : Session} {w w' : World σ} {v : α}
    (ha : World.run h (a c s) w = ((.ok v, s'), w')) :
    World.run h ((a >>= f) c s) w = World.run h (f v c s') w' ∧
      World.turns h ((a >>= f) c s) w =
        World.turns h (a c s) w ++ World.turns h (f v c s') w' := by
  rw [bind_apply, World.run_bind, World.turns_bind, ha]
  exact ⟨rfl, rfl⟩

theorem run_bind_error {h : Host σ} {a : Action α} (f : α → Action β) {c : Context}
    {s s' : Session} {w w' : World σ} {e : Stop}
    (ha : World.run h (a c s) w = ((.error e, s'), w')) :
    World.run h ((a >>= f) c s) w = ((.error e, s'), w') ∧
      World.turns h ((a >>= f) c s) w = World.turns h (a c s) w := by
  rw [bind_apply, World.run_bind, World.turns_bind, ha]
  exact ⟨rfl, List.append_nil _⟩

theorem catchable_or (r : Except Stop Value) :
    (∃ f, r = .error (.failed f) ∧ f.isCatchable = true) ∨
      ∀ f, r = .error (.failed f) → f.isCatchable = false := by
  by_cases hr : ∃ f, r = .error (.failed f) ∧ f.isCatchable = true
  · exact .inl hr
  · exact .inr fun f hf => Bool.eq_false_iff.mpr fun hc => hr ⟨f, hf, hc⟩

theorem run_caught {h : Host σ} {a : Action Value} (b : Action Value) {c : Context}
    {s s' : Session} {w w' : World σ} {f : Failure}
    (ha : World.run h (a c s) w = ((.error (.failed f), s'), w')) (hf : f.isCatchable = true) :
    World.run h (Evaluator.caught a b c s) w =
        ((Evaluator.handled f (World.run h (b c s') w').1.1, (World.run h (b c s') w').1.2),
          (World.run h (b c s') w').2) ∧
      World.turns h (Evaluator.caught a b c s) w =
        World.turns h (a c s) w ++ World.turns h (b c s') w' := by
  unfold Evaluator.caught
  rw [World.run_bind, World.turns_bind, ha]
  dsimp only
  rw [if_pos hf, World.run_bind, World.turns_bind]
  exact ⟨rfl, by rw [World.turns, List.append_nil]⟩

theorem run_uncaught {h : Host σ} {a : Action Value} (b : Action Value) {c : Context}
    {s s' : Session} {w w' : World σ} {r : Except Stop Value}
    (ha : World.run h (a c s) w = ((r, s'), w'))
    (hr : ∀ f, r = .error (.failed f) → f.isCatchable = false) :
    World.run h (Evaluator.caught a b c s) w = ((r, s'), w') ∧
      World.turns h (Evaluator.caught a b c s) w = World.turns h (a c s) w := by
  unfold Evaluator.caught
  rw [World.run_bind, World.turns_bind, ha]
  match r with
  | .error (.failed f) =>
    dsimp only
    rw [hr f rfl]
    exact ⟨rfl, List.append_nil _⟩
  | .ok v => exact ⟨rfl, List.append_nil _⟩
  | .error (.returned v) => exact ⟨rfl, List.append_nil _⟩
  | .error (.finished v) => exact ⟨rfl, List.append_nil _⟩
  | .error (.left ends) => exact ⟨rfl, List.append_nil _⟩
  | .error .exhausted => exact ⟨rfl, List.append_nil _⟩

theorem checkSize_cases (v : Value) (p : Position) (c : Context) (s : Session) :
    let excess := (Operator.size v).excess? c.config.maxStringSize c.config.maxCollectionSize
    (excess = none ∧ Evaluator.checkSize v p c s = .done (.ok (), s)) ∨
      ∃ m, excess = some m ∧
        Evaluator.checkSize v p c s = .done (.error (.failed (.error (.tooLarge m) p)), s) := by
  have hread (f : Context → Action Unit) : (read >>= f) c s = f c c s := rfl
  unfold Evaluator.checkSize
  rw [hread]
  dsimp only
  cases (Operator.size v).excess? c.config.maxStringSize c.config.maxCollectionSize with
  | none => exact .inl ⟨rfl, rfl⟩
  | some m => exact .inr ⟨m, rfl, rfl⟩

theorem checkSize_string (t : String) (p : Position) (c : Context) (s : Session) :
    Evaluator.checkSize (.string t) p c s =
      .done (if c.config.memoryLimit ≠ 0 ∧ c.config.memoryLimit < t.utf8ByteSize
        then .error (.failed (.error (.tooLarge .string) p)) else .ok (), s) := by
  have hsize : (Operator.size (.string t)).excess? c.config.maxStringSize
      c.config.maxCollectionSize =
      if c.config.memoryLimit ≠ 0 ∧ c.config.memoryLimit < t.utf8ByteSize
        then some .string else none := by
    unfold Operator.size Operator.Size.excess? Config.maxStringSize
    simp
  rcases checkSize_cases (.string t) p c s with ⟨hnone, hc⟩ | ⟨m, hsome, hc⟩
  · rw [hsize] at hnone
    split_ifs at hnone with hlong
    rw [hc, if_neg hlong]
  · rw [hsize] at hsome
    split_ifs at hsome with hlong
    cases hsome
    rw [hc, if_pos hlong]

theorem store_apply (pl : Place) (v : Value) (p : Position) (c : Context) (s : Session) :
    (Evaluator.writePlace pl v >>= fun _ => Evaluator.checkSize v p) c s =
      Evaluator.checkSize v p c (pl.write s v) :=
  rfl

end ScreenScript.Script
