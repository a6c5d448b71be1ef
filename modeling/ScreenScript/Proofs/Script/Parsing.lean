import ScreenScript.Proofs.Script.Lexing
import ScreenScript.Proofs.Script.Places
import ScreenScript.Script.Parser

/-!
Where parsers place what they build and what they refuse: at tokens they have looked at. Only a
refusal may be placed at the end of the source. The texts they build with are texts of tokens, too.
-/

namespace ScreenScript.Script.Parser

variable (place : Allowed) (final : Position → Prop)

structure Seen (t : Placed) : Prop where
  pos : place t.pos ∨ (t.token = .eof ∧ final t.pos)
  texts : ∀ s ∈ t.token.texts, place.text s

/-- The tokens still to come are at the places, and so are the functions already there. -/
structure Ready (s : State) : Prop where
  rest : ∀ t ∈ s.rest, Seen place final t
  last : Seen place final s.last
  functions : ∀ f ∈ s.functions, f.Within place
  eval : place.eval

/-- A parser fails at one of the places or at the end, and else yields what is wanted. -/
def Keeps {α : Type} (Q : α → Prop) (m : Parse α) : Prop :=
  ∀ c s, Ready place final s → match m c s with
    | .ok (a, s') => Q a ∧ Ready place final s'
    | .error f => place f.pos ∨ final f.pos

abbrev Steady {α : Type} (m : Parse α) : Prop :=
  Keeps place final (fun _ => True) m

variable {place final} {α β : Type}

theorem Seen.somewhere {t : Placed} (h : Seen place final t) : place t.pos ∨ final t.pos :=
  h.pos.imp id (·.2)

theorem Seen.here {t : Placed} (h : Seen place final t) (ht : t.token ≠ .eof) : place t.pos :=
  h.pos.resolve_right fun he => ht he.1

namespace Keeps

theorem pure {Q : α → Prop} {a : α} (ha : Q a) : Keeps place final Q (pure a : Parse α) :=
  fun _ _ hs => ⟨ha, hs⟩

theorem value (a : α) : Steady place final (Pure.pure a : Parse α) := pure trivial

theorem bind {Q : α → Prop} {R : β → Prop} {m : Parse α} {f : α → Parse β}
    (hm : Keeps place final Q m) (hf : ∀ a, Q a → Keeps place final R (f a)) :
    Keeps place final R (m >>= f) := by
  intro c s hs
  have hms := hm c s hs
  show match (m c s).bind fun (a, s') => f a c s' with
    | .ok (b, s') => R b ∧ Ready place final s'
    | .error f => place f.pos ∨ final f.pos
  cases hr : m c s with
  | error e =>
    rw [hr] at hms
    exact hms
  | ok out =>
    rw [hr] at hms
    exact hf out.1 hms.1 c out.2 hms.2

theorem seq {R : β → Prop} {m : Parse α} {f : α → Parse β} (hm : Steady place final m)
    (hf : ∀ a, Keeps place final R (f a)) : Keeps place final R (m >>= f) :=
  hm.bind fun a _ => hf a

theorem check {R : β → Prop} {c : Prop} [Decidable c] {m : Parse Unit} {k : Unit → Parse β}
    (hm : Steady place final m) (hk : ∀ u, Keeps place final R (k u)) :
    Keeps place final R (if c then m >>= k else k ()) := by
  split
  · exact .seq hm hk
  · exact hk ()

theorem get : Keeps place final (Ready place final) (get : Parse State) :=
  fun _ _ hs => ⟨hs, hs⟩

theorem read : Steady place final (read : Parse Context) :=
  fun _ _ hs => ⟨trivial, hs⟩

theorem modify {f : State → State} (hf : ∀ s, Ready place final s → Ready place final (f s)) :
    Steady place final (modify f : Parse Unit) :=
  fun _ s hs => ⟨trivial, hf s hs⟩

theorem given {Q : α → Prop} {m : Parse α} (hm : place.eval → Keeps place final Q m) :
    Keeps place final Q m :=
  fun c s hs => hm hs.eval c s hs

theorem withReader {Q : α → Prop} {g : Context → Context} {m : Parse α}
    (hm : Keeps place final Q m) : Keeps place final Q (withReader g m : Parse α) :=
  fun c s hs => hm (g c) s hs

end Keeps

theorem peek_keeps : Keeps place final (Seen place final) peek := by
  refine .bind .get fun s hs => .pure ?_
  -- Past the last token a parser looks at the last one again.
  cases hr : s.rest with
  | nil => exact hs.last
  | cons t ts => exact hs.rest t (by simp [hr])

theorem failAt_keeps {Q : α → Prop} {c : SyntaxCause} {p : Position} (hp : place p ∨ final p) :
    Keeps place final Q (failAt c p : Parse α) :=
  .bind peek_keeps fun _ _ _ _ _ => hp

theorem failHere_keeps {Q : α → Prop} {c : SyntaxCause} {p : Position} (hp : place p) :
    Keeps place final Q (failAt c p : Parse α) :=
  failAt_keeps (.inl hp)

theorem fail_keeps {Q : α → Prop} {c : SyntaxCause} :
    Keeps place final Q (fail c : Parse α) :=
  .bind peek_keeps fun _ ht => failAt_keeps ht.somewhere

theorem failAt_bind_keeps {R : β → Prop} {c : SyntaxCause} {p : Position} {f : α → Parse β}
    (hp : place p) : Keeps place final R (failAt c p >>= f) :=
  fun _ _ _ => .inl hp

theorem fail_bind_keeps {R : β → Prop} {c : SyntaxCause} {f : α → Parse β} :
    Keeps place final R (fail c >>= f) := by
  intro c s hs
  exact (peek_keeps c s hs).1.somewhere

theorem advance_keeps : Steady place final advance :=
  .modify fun _ hs =>
    ⟨fun t ht => hs.rest t (List.mem_of_mem_tail ht), hs.last, hs.functions, hs.eval⟩

theorem accept_keeps (symbol : String) : Steady place final (accept symbol) := by
  apply Keeps.bind peek_keeps
  intro t _
  split
  · exact .seq advance_keeps fun _ => .value _
  · exact .value _

theorem peek_accept (symbol : String) (k : Placed → Bool → Parse α) :
    (do let t ← peek; k t (← accept symbol)) = (do
      let t ← peek
      if t.token = .symbol symbol then
        advance
        k t true
      else k t false) := by
  funext c s
  show ((if (s.rest.head?.getD s.last).token = .symbol symbol then advance >>= fun _ => pure true
      else pure false) >>= k (s.rest.head?.getD s.last)) c s =
    (if (s.rest.head?.getD s.last).token = .symbol symbol then
      advance >>= fun _ => k (s.rest.head?.getD s.last) true
      else k (s.rest.head?.getD s.last) false) c s
  split <;> rfl

theorem peek_accept_keeps {Q : α → Prop} (symbol : String) {k : Placed → Bool → Parse α}
    (ht : ∀ t, place t.pos → Keeps place final Q (k t true))
    (hf : ∀ t, Keeps place final Q (k t false)) :
    Keeps place final Q (do let t ← peek; k t (← accept symbol)) := by
  rw [peek_accept]
  apply Keeps.bind peek_keeps
  intro t hs
  split
  · exact .seq advance_keeps fun _ => ht t (hs.here (by simp [*]))
  · exact hf t

theorem isNext_keeps (symbol : String) : Steady place final (isNext symbol) :=
  .bind peek_keeps fun _ _ => .value _

theorem refuseFault_keeps : Steady place final refuseFault := by
  apply Keeps.bind peek_keeps
  intro t _
  split
  · exact fail_keeps
  · exact .value _

theorem require_keeps (symbol why : String) : Keeps place final place (require symbol why) := by
  apply Keeps.bind peek_keeps
  intro t ht
  split
  · exact .seq advance_keeps fun _ => .pure (ht.here (by simp [*]))
  · exact .seq refuseFault_keeps fun _ => fail_keeps

theorem inScope_keeps {Q : α → Prop} {m : Parse α} (hm : Keeps place final Q m) :
    Keeps place final Q (inScope m) :=
  .bind .get fun _ _ => .bind hm fun _ ha =>
    .seq (.modify fun _ hs => ⟨hs.rest, hs.last, hs.functions, hs.eval⟩) fun _ => .pure ha

theorem declareName_keeps (name : String) (constant : Bool) :
    Steady place final (declareName name constant) :=
  .modify fun _ hs => ⟨hs.rest, hs.last, hs.functions, hs.eval⟩

theorem variableName_keeps : Keeps place final (fun v => place v.2) variableName := by
  apply Keeps.bind peek_keeps
  intro t ht
  split
  · exact .seq advance_keeps fun _ => .pure (ht.here (by simp [*]))
  · exact fail_keeps
  · exact fail_keeps
  · exact fail_keeps

theorem requireBool_keeps {e : Expr} (he : e.Within place) :
    Keeps place final (Expr.Within place) (requireBool e) := by
  unfold requireBool
  dsimp only
  split
  · exact failHere_keeps he.startPos
  · exact .pure he

theorem requireItems_keeps {e : Expr} (he : e.Within place) :
    Keeps place final (Expr.Within place) (requireItems e) := by
  unfold requireItems
  dsimp only
  split
  · exact failHere_keeps he.startPos
  · exact .pure he

theorem refuseBrace_keeps : Steady place final refuseBrace := by
  apply Keeps.seq (isNext_keeps _)
  intro b
  split
  · exact fail_keeps
  · exact .value _

theorem refuseAssignment_keeps : Steady place final refuseAssignment := by
  apply Keeps.bind peek_keeps
  intro t _
  split
  · split
    · exact fail_keeps
    · split
      · exact fail_keeps
      · exact .value _
  · exact .value _

theorem operation_keeps (op : String) {a b : Expr} {p : Position} (ha : a.Within place)
    (hb : b.Within place) (hp : place p) :
    Keeps place final (Expr.Within place) (operation op a b p) := by
  unfold operation
  split
  · apply Keeps.bind (requireBool_keeps hb)
    intro b hb
    apply Keeps.bind (requireBool_keeps ha)
    intro a ha
    exact .pure (by simp [*])
  · apply Keeps.bind (requireBool_keeps hb)
    intro b hb
    apply Keeps.bind (requireBool_keeps ha)
    intro a ha
    exact .pure (by simp [*])
  · exact .pure (by simp [ha, hb, ha.startPos])
  · exact .pure (by simp [ha, hb, ha.startPos])
  · exact .given fun heval => .pure (by simp [*])

theorem negated_within {e : Expr} {p : Position} (he : e.Within place) (hp : place p) :
    (negated e p).Within place := by
  unfold negated
  split
  · split <;> simpa
  · simpa
  · simp [*]

theorem extend_within {base : Expr} {ls : List Link} {p : Position} (hb : base.Within place)
    (hl : LinksWithin place ls) (hp : place p) : (extend base ls p).Within place := by
  unfold extend
  split
  · split
    · simp only [Within.path, Within.links_append] at hb ⊢
      exact ⟨hb.1, hb.2.1, hb.2.2, hl⟩
    · simp [*]
  · simp [*]

theorem unwritable_within {ls : List Link} {p : Position} (hl : LinksWithin place ls)
    (h : unwritable ls = some p) : place p := by
  obtain ⟨l, hm, hp⟩ := List.exists_of_findSome?_eq_some h
  cases l with
  | method x es b q =>
    cases hp
    refine hl.1 _ ?_
    clear h hl
    induction ls with
    | nil => cases hm
    | cons l ls ih =>
      rcases List.mem_cons.mp hm with rfl | hm
      · simp
      · simp [ih hm]
  | property => cases hp
  | index => cases hp

theorem assignment_keeps (op : Option String) {target value : Expr} {p : Position}
    (ht : target.Within place) (hv : value.Within place) (hp : place p) :
    Keeps place final (Stmt.Within place) (assignment op target value p) := by
  unfold assignment
  split
  · apply Keeps.bind .get
    intro s _
    split
    · exact failHere_keeps (Within.var.mp ht)
    · exact .pure (by simp [*])
  · rename_i base ls q
    have hb := Within.path.mp ht
    split
    · rename_i q hq
      exact failHere_keeps (unwritable_within hb.2.2 hq)
    · exact .pure (by simp [*])
    · exact failHere_keeps hb.2.1.pos
  · exact failHere_keeps (Within.constant.mp ht).1
  · split
    · exact failHere_keeps hp
    · exact failHere_keeps ht.pos
  · split
    · exact failHere_keeps hp
    · exact failHere_keeps ht.pos
  · exact failHere_keeps ht.pos

variable (place final) in
structure Rules.Keep (g : Rules) : Prop where
  expr : Keeps place final (Expr.Within place) g.expr
  unary : Keeps place final (Expr.Within place) g.unary
  binary (least : Nat) (e : Expr) : e.Within place →
    Keeps place final (Expr.Within place) (g.binary least e)
  primary (b : Bool) : Keeps place final (Expr.Within place) (g.primary b)
  postfixes (b : Bool) (e : Expr) : e.Within place →
    Keeps place final (Expr.Within place) (g.postfixes b e)
  block : Keeps place final (fun b => StmtsWithin place b.1 ∧ place b.2) g.block
  stmt : Keeps place final (Stmt.Within place) g.stmt

namespace Rules

variable {g : Rules} (hg : g.Keep place final)

include hg

theorem exprRule_keeps : Keeps place final (Expr.Within place) g.exprRule :=
  .bind hg.unary fun e he => hg.binary 1 e he

omit hg in
theorem operatorPrecedence_keeps : Steady place final operatorPrecedence :=
  .bind peek_keeps fun _ _ => .value _

omit hg in
theorem precedence_eof {t : Placed} (h : ¬(precedence t.token = 0)) : t.token ≠ .eof := by
  intro he
  rw [he] at h
  exact h rfl

theorem binaryRule_keeps (least : Nat) {lhs : Expr} (hl : lhs.Within place) :
    Keeps place final (Expr.Within place) (g.binaryRule least lhs) := by
  -- Both looks are at the same token.
  have hlook (k : Placed → Nat → Parse Expr) : (do let t ← peek; k t (← operatorPrecedence)) =
      (do let t ← peek; k t (precedence t.token)) := rfl
  unfold binaryRule
  rw [hlook]
  apply Keeps.bind peek_keeps
  intro t ht
  split
  · exact .pure hl
  · rename_i hprec
    have hp : place t.pos := ht.here (precedence_eof fun h => hprec (by simp [h]))
    apply Keeps.seq advance_keeps
    intro _
    apply Keeps.bind hg.unary
    intro rhs hr
    apply Keeps.seq operatorPrecedence_keeps
    intro nextPrec
    have rest (rhs : Expr) (hr : rhs.Within place) : Keeps place final (Expr.Within place) (do
        let e ← operation t.token.text lhs rhs t.pos
        g.binary least e) :=
      .bind (operation_keeps _ hl hr hp) fun e he => hg.binary least e he
    dsimp only
    split
    · exact .bind (hg.binary _ rhs hr) rest
    · exact rest rhs hr

theorem unaryRule_keeps : Keeps place final (Expr.Within place) g.unaryRule := by
  have operand {k : Expr → Parse Expr}
      (hk : ∀ e, e.Within place → Keeps place final (Expr.Within place) (k e)) :
      Keeps place final (Expr.Within place) (do
        advance
        let e ← g.unary
        k e) :=
    .seq advance_keeps fun _ => .bind hg.unary hk
  apply Keeps.bind peek_keeps
  intro t ht
  split
  · have hp := ht.here (by simp [*])
    exact operand fun e he => .pure (negated_within he hp)
  · have hp := ht.here (by simp [*])
    refine operand fun e he => ?_
    split
    · exact .pure (by simpa using he)
    · exact .pure (by simpa using he)
    · exact .pure (by simp [*])
  · have hp := ht.here (by simp [*])
    exact operand fun e he => .pure (by simp [*])
  · exact fail_keeps
  · exact hg.primary false

theorem arguments_keeps (name : String) (fuel : Nat) :
    Keeps place final (ExprsWithin place) (g.arguments name fuel) := by
  induction fuel with
  | zero => exact fail_keeps
  | succ fuel ih =>
    unfold arguments
    apply Keeps.seq (accept_keeps _)
    intro b
    split
    · exact .pure (by simp)
    · apply Keeps.bind hg.expr
      intro e he
      apply Keeps.bind peek_keeps
      intro t ht
      split
      · exact .seq advance_keeps fun _ => .pure (by simp [*])
      · apply Keeps.seq advance_keeps
        intro _
        apply Keeps.bind ih
        intro es hes
        exact .pure (by simp [*])
      · exact fail_keeps
      · exact fail_keeps
      · exact fail_keeps

theorem callRule_keeps (name : String) {p : Position} (hp : place p) :
    Keeps place final (Expr.Within place) (g.callRule name p) := by
  apply Keeps.bind peek_keeps
  intro t ht
  split
  · exact fail_keeps
  · exact fail_keeps
  · apply Keeps.bind .get
    intro s hs
    apply Keeps.bind (arguments_keeps hg name _)
    intro es hes
    exact .given fun heval => .pure (by simp [*])

theorem items_keeps (n fuel : Nat) : Keeps place final (ExprsWithin place) (g.items n fuel) := by
  induction fuel generalizing n with
  | zero => exact fail_keeps
  | succ fuel ih =>
    unfold items
    apply Keeps.seq .read
    intro c
    dsimp only
    split
    · exact fail_bind_keeps
    · apply Keeps.bind peek_keeps
      intro t _
      split
      · exact .seq advance_keeps fun _ => .pure (by simp)
      · exact fail_keeps
      · apply Keeps.bind hg.expr
        intro e he
        apply Keeps.bind peek_keeps
        intro u _
        split
        · apply Keeps.seq advance_keeps
          intro _
          apply Keeps.bind (ih _)
          intro es hes
          exact .pure (by simp [*])
        · exact .bind (ih _) fun es hes => .pure (by simp [*])
        · exact fail_keeps
        · exact fail_keeps
        · exact fail_keeps

theorem entry_keeps (k : String) (keys : List String) (fuel : Nat)
    (ih : ∀ keys, Keeps place final (EntriesWithin place) (g.entries keys fuel)) :
    Keeps place final (EntriesWithin place) (entries.entry g k keys fuel) := by
  unfold entries.entry
  split
  · exact fail_bind_keeps
  · apply Keeps.seq advance_keeps
    intro _
    apply Keeps.bind (require_keeps _ _)
    intro _ _
    apply Keeps.seq .read
    intro c
    dsimp only
    split
    · exact fail_bind_keeps
    · apply Keeps.bind hg.expr
      intro e he
      apply Keeps.bind peek_keeps
      intro t _
      split
      · apply Keeps.seq advance_keeps
        intro _
        apply Keeps.bind (ih _)
        intro es hes
        exact .pure (by simp [*])
      · exact .bind (ih _) fun es hes => .pure (by simp [*])
      · exact fail_keeps
      · exact fail_keeps
      · exact fail_keeps

theorem entries_keeps (keys : List String) (fuel : Nat) :
    Keeps place final (EntriesWithin place) (g.entries keys fuel) := by
  induction fuel generalizing keys with
  | zero =>
    unfold entries
    exact fail_keeps
  | succ fuel ih =>
    unfold entries
    dsimp only
    apply Keeps.bind peek_keeps
    intro t ht
    split
    · exact .seq advance_keeps fun _ => .pure (by simp)
    · exact fail_keeps
    · exact entry_keeps hg _ keys fuel ih
    · exact entry_keeps hg _ keys fuel ih
    · exact fail_keeps
    · exact fail_keeps
    · exact fail_keeps
    · split <;> exact fail_keeps

theorem pieces_keeps (fuel : Nat) : Keeps place final (ExprsWithin place) (g.pieces fuel) := by
  induction fuel with
  | zero => exact fail_keeps
  | succ fuel ih =>
    unfold pieces
    apply Keeps.bind hg.block
    rintro ⟨stmts, p⟩ hb
    apply Keeps.bind peek_keeps
    intro t ht
    have htext (s : String) (hp : place t.pos) (hs : s ∈ t.token.texts) :
        ExprsWithin place (if s = "" then [] else [.constant (.string s) t.pos]) := by
      split <;> simp [hp, ht.texts s hs]
    dsimp only at hb ⊢
    split
    · have hp := htext ‹_› (ht.here (by simp [*])) (by simp [*, Token.texts])
      exact .seq advance_keeps fun _ => .pure (by simp [*])
    · have hp := htext ‹_› (ht.here (by simp [*])) (by simp [*, Token.texts])
      apply Keeps.seq advance_keeps
      intro _
      apply Keeps.bind ih
      intro es hes
      exact .pure (by simp [*])
    · exact fail_keeps
    · exact fail_keeps

theorem ifRule_keeps {p : Position} (hp : place p) (fuel : Nat) :
    Keeps place final (Stmt.Within place) (g.ifRule p fuel) := by
  induction fuel generalizing p with
  | zero => exact fail_keeps
  | succ fuel ih =>
    unfold ifRule
    apply Keeps.seq refuseBrace_keeps
    intro _
    apply Keeps.bind hg.expr
    intro e he
    apply Keeps.bind (requireBool_keeps he)
    intro cond hc
    apply Keeps.seq refuseAssignment_keeps
    intro _
    apply Keeps.bind hg.block
    rintro ⟨yes, q⟩ hy
    apply Keeps.seq (accept_keeps _)
    intro b
    dsimp only at hy ⊢
    split
    · exact peek_accept_keeps "if"
        (fun t ht => .bind (ih ht) fun s hs => .pure (by simp [*]))
        (fun t => .bind hg.block fun no hn => .pure (by simp [*]))
    · exact .pure (by simp [*])

theorem loopBody_keeps :
    Keeps place final (fun b => StmtsWithin place b.1 ∧ place b.2) g.loopBody :=
  .withReader hg.block

theorem whileRule_keeps {p : Position} (hp : place p) :
    Keeps place final (Stmt.Within place) (g.whileRule p) :=
  .seq refuseBrace_keeps fun _ => .bind hg.expr fun _ he =>
    .bind (requireBool_keeps he) fun _ hc => .seq refuseAssignment_keeps fun _ =>
    .bind (loopBody_keeps hg) fun _ hb => .pure (by simp [*])

theorem loopRule_keeps {p : Position} (hp : place p) :
    Keeps place final (Stmt.Within place) (g.loopRule p) :=
  .bind (loopBody_keeps hg) fun _ hb => .pure (by simp [*])

theorem forRule_keeps {p : Position} (hp : place p) :
    Keeps place final (Stmt.Within place) (g.forRule p) :=
  .bind variableName_keeps fun _ _ => .bind (require_keeps _ _) fun _ _ =>
    .seq refuseBrace_keeps fun _ => .bind hg.expr fun _ he =>
    .bind (requireItems_keeps he) fun _ hi => inScope_keeps <|
    .seq (declareName_keeps _ _) fun _ => .bind (loopBody_keeps hg) fun _ hb =>
    .pure (by simp [*])

theorem control?_keeps {t : Placed} (ht : Seen place final t) {m : Parse Stmt}
    (hm : g.control? t = some m) : Keeps place final (Stmt.Within place) m := by
  unfold control? at hm
  split at hm
  · cases hm
    have hp := ht.here (by simp [*])
    exact .bind .get fun s _ => ifRule_keeps hg hp _
  · cases hm
    exact whileRule_keeps hg (ht.here (by simp [*]))
  · cases hm
    exact loopRule_keeps hg (ht.here (by simp [*]))
  · cases hm
    exact forRule_keeps hg (ht.here (by simp [*]))
  · cases hm

omit hg in
theorem opensCall_keeps : Steady place final opensCall := by
  apply Keeps.bind peek_keeps
  intro t _
  split <;> exact .value _

theorem operand_keeps : Keeps place final (Expr.Within place) g.operand := by
  apply Keeps.bind peek_keeps
  intro t ht
  have hconstant (v : Value) (hp : place t.pos) (hv : v.Within place.text) :
      Keeps place final (Expr.Within place) (do
        advance
        pure (.constant v t.pos)) :=
    .seq advance_keeps fun _ => .pure (by simp [hp, hv])
  dsimp only
  split
  · exact fail_keeps
  · exact hconstant _ (ht.here (by simp [*])) Value.within_int
  · exact hconstant _ (ht.here (by simp [*])) Value.within_float
  · exact hconstant _ (ht.here (by simp [*])) Value.within_char
  · rename_i s hs
    have htext := ht.texts s (by simp [hs, Token.texts])
    exact hconstant _ (ht.here (by simp [*])) (Value.within_string.mpr htext)
  · rename_i s hs
    have hp := ht.here (by simp [*])
    have htext := ht.texts s (by simp [hs, Token.texts])
    have hfirst : ExprsWithin place (if s = "" then [] else [.constant (.string s) t.pos]) := by
      split <;> simp [hp, htext]
    apply Keeps.seq advance_keeps
    intro _
    apply Keeps.bind .get
    intro _ _
    apply Keeps.bind (pieces_keeps hg _)
    intro es hes
    exact .pure (by simp [*])
  · have hp := ht.here (by simp [*])
    exact .seq advance_keeps fun _ => .pure (by simp [hp])
  · have hp := ht.here (by simp [*])
    apply Keeps.seq advance_keeps
    intro _
    apply Keeps.seq opensCall_keeps
    intro b
    split
    · exact .pure (by simp [hp])
    · exact failHere_keeps hp
  · exact fail_keeps
  · have hp := ht.here (by simp [*])
    split
    · exact hconstant _ hp Value.within_unit
    · exact hconstant _ hp Value.within_bool
    · exact hconstant _ hp Value.within_bool
    · apply Keeps.seq advance_keeps
      intro _
      apply Keeps.seq (accept_keeps _)
      intro b
      split
      · exact .pure (by simp [hp])
      · apply Keeps.bind hg.expr
        intro e he
        apply Keeps.bind (require_keeps _ _)
        intro _ _
        exact .pure he
    · apply Keeps.seq advance_keeps
      intro _
      apply Keeps.bind .get
      intro _ _
      apply Keeps.bind (items_keeps hg _ _)
      intro es hes
      exact .pure (by simp [*])
    · apply Keeps.seq advance_keeps
      intro _
      apply Keeps.bind .get
      intro _ _
      apply Keeps.bind (entries_keeps hg _ _)
      intro es hes
      exact .pure (by simp [*])
    · exact .bind hg.block fun (ss, p) hb => .pure (by simpa [and_comm] using hb)
    · split
      · rename_i m hm
        apply Keeps.seq advance_keeps
        intro _
        apply Keeps.bind (control?_keeps hg ht hm)
        intro s hs
        exact .pure (by simp [*])
      · exact fail_keeps

theorem primaryRule_keeps (b : Bool) : Keeps place final (Expr.Within place) (g.primaryRule b) :=
  .bind (operand_keeps hg) fun e he => hg.postfixes b e he

omit hg in
theorem linksOf_within {safe : Bool} {e : Expr} (he : e.Within place) {ls : List Link}
    (h : linksOf safe e = some ls) : LinksWithin place ls := by
  unfold linksOf at h
  split at h
  · cases h
    simpa using he
  · cases h
    simp only [Within.call] at he
    simp [he]
  · cases h
    simp only [Within.path, Within.var] at he
    simp [he]
  · cases h
    simp only [Within.path, Within.call] at he
    simp [he]
  · cases h

theorem indexRule_keeps {base : Expr} {p : Position} (hb : base.Within place) (hp : place p) :
    Keeps place final (Expr.Within place) (g.indexRule base p) := by
  apply Keeps.bind hg.expr
  intro e he
  have rest : Keeps place final (Expr.Within place) (do
      let _ ← require "]" "for a matching [ in this index expression"
      pure (extend base [.index e p] p)) :=
    .bind (require_keeps _ _) fun _ _ => .pure (extend_within hb (by simp [*]) hp)
  dsimp only
  split
  · exact rest
  · split
    · exact failAt_bind_keeps he.startPos
    · exact rest

theorem dotLinks_keeps {base : Expr} (safe : Bool) {p : Position} (hb : base.Within place)
    (hp : place p) : Keeps place final (Expr.Within place) (do
      let rhs ← g.primary true
      match linksOf safe rhs with
      | some links => pure (extend base links p)
      | none => failAt .propertyExpected rhs.startPos) := by
  apply Keeps.bind (hg.primary true)
  intro e he
  split
  · exact .pure (extend_within hb (linksOf_within he ‹_›) hp)
  · exact failHere_keeps he.startPos

theorem dotRule_keeps {base : Expr} (safe : Bool) {p : Position} (hb : base.Within place)
    (hp : place p) : Keeps place final (Expr.Within place) (g.dotRule base safe p) := by
  apply Keeps.bind peek_keeps
  intro t _
  dsimp only
  split
  · exact dotLinks_keeps hg safe hb hp
  · split
    · exact dotLinks_keeps hg safe hb hp
    · exact fail_bind_keeps
  · exact fail_bind_keeps

theorem postfixRule_keeps (b : Bool) {e : Expr} (he : e.Within place) :
    Keeps place final (Expr.Within place) (g.postfixRule b e) := by
  apply Keeps.bind peek_keeps
  intro t ht
  split
  · have hp := Within.var.mp he
    apply Keeps.seq advance_keeps
    intro _
    apply Keeps.bind (callRule_keeps hg _ hp)
    intro e he
    exact hg.postfixes b e he
  · have hp := Within.var.mp he
    exact .seq advance_keeps fun _ => .given fun heval => hg.postfixes b _ (by simp [hp, heval])
  · exact .seq advance_keeps fun _ => fail_keeps
  · have hp := ht.here (by simp [*])
    apply Keeps.seq advance_keeps
    intro _
    apply Keeps.bind (indexRule_keeps hg he hp)
    intro e he
    exact hg.postfixes b e he
  · have hp := ht.here (by simp [*])
    apply Keeps.seq advance_keeps
    intro _
    apply Keeps.bind (dotRule_keeps hg false he hp)
    intro e he
    exact hg.postfixes b e he
  · have hp := ht.here (by simp [*])
    apply Keeps.seq advance_keeps
    intro _
    apply Keeps.bind (dotRule_keeps hg true he hp)
    intro e he
    exact hg.postfixes b e he
  · exact .pure he

theorem statements_keeps (fuel : Nat) :
    Keeps place final (StmtsWithin place) (g.statements fuel) := by
  induction fuel with
  | zero => exact fail_keeps
  | succ fuel ih =>
    unfold statements
    apply Keeps.bind peek_keeps
    intro t _
    split
    · exact .seq advance_keeps fun _ => .pure (by simp)
    · exact fail_keeps
    · apply Keeps.bind hg.stmt
      intro s hs
      split
      · exact ih
      · have rest : Keeps place final (StmtsWithin place) (do
            pure (s :: (← statements g fuel))) :=
          .bind ih fun ss hss => .pure (by simp [*])
        apply Keeps.bind peek_keeps
        intro t _
        dsimp only
        split
        · exact rest
        · exact .seq advance_keeps fun _ => rest
        · split
          · exact .seq refuseFault_keeps fun _ => fail_bind_keeps
          · exact rest

theorem blockRule_keeps :
    Keeps place final (fun b => StmtsWithin place b.1 ∧ place b.2) g.blockRule :=
  .bind (require_keeps _ _) fun _ hp =>
    .bind (inScope_keeps (.withReader (.bind .get fun _ _ => statements_keeps hg _))) fun _ hs =>
    .pure ⟨hs, hp⟩

omit hg in
theorem parameters_keeps (name : String) (before : List String) (fuel : Nat) :
    Steady place final (parameters name before fuel) := by
  induction fuel generalizing before with
  | zero => exact fail_keeps
  | succ fuel ih =>
    unfold parameters
    apply Keeps.bind peek_keeps
    intro t _
    split
    · exact .seq advance_keeps fun _ => .value _
    · split
      · exact fail_bind_keeps
      · apply Keeps.seq advance_keeps
        intro _
        apply Keeps.bind peek_keeps
        intro t _
        split
        · exact .seq advance_keeps fun _ => .value _
        · exact .seq advance_keeps fun _ => ih _
        · exact fail_keeps
        · exact fail_keeps
    · exact fail_keeps
    · exact fail_keeps

theorem functionBody_keeps (name : String) (params : List String) {p : Position} (hp : place p) :
    Keeps place final (Stmt.Within place) (do
      let outer := (← get).scope
      modify fun s => { s with scope := params.reverse.map fun n => (n, false) }
      let (body, _) ← withReader
        (fun c => { c with topLevel := false, inLoop := false }) g.block
      modify fun s => { s with scope := outer }
      if (← get).functions.any (·.is name params.length) then
        failAt (.duplicateFunction name params.length) p
      modify fun s => { s with functions := ⟨name, params, body⟩ :: s.functions }
      pure (.noop p)) := by
  apply Keeps.bind .get
  intro _ _
  refine .seq (.modify fun _ hs => ⟨hs.rest, hs.last, hs.functions, hs.eval⟩) ?_
  intro _
  apply Keeps.bind (.withReader hg.block)
  rintro ⟨body, q⟩ hb
  refine .seq (.modify fun _ hs => ⟨hs.rest, hs.last, hs.functions, hs.eval⟩) ?_
  intro _
  apply Keeps.bind .get
  intro _ _
  dsimp only
  apply Keeps.check (failHere_keeps hp)
  intro _
  refine .seq (.modify fun s hs => ⟨hs.rest, hs.last, ?_, hs.eval⟩) fun _ => .pure (by simp [hp])
  intro f hf
  rcases List.mem_cons.mp hf with rfl | hf
  · exact hb.1
  · exact hs.functions f hf

theorem functionRule_keeps {p : Position} (hp : place p) :
    Keeps place final (Stmt.Within place) (g.functionRule p) := by
  apply Keeps.bind peek_keeps
  intro t _
  dsimp only
  split
  · apply Keeps.seq (.value _)
    intro name
    apply Keeps.seq advance_keeps
    intro _
    apply Keeps.bind peek_keeps
    intro t _
    split
    · apply Keeps.seq advance_keeps
      intro _
      apply Keeps.bind .get
      intro _ _
      apply Keeps.seq (parameters_keeps _ _ _)
      intro params
      apply Keeps.seq (isNext_keeps _)
      intro b
      exact .check fail_keeps fun _ => functionBody_keeps hg name params hp
    · apply Keeps.seq advance_keeps
      intro _
      apply Keeps.seq (.value _)
      intro params
      apply Keeps.seq (isNext_keeps _)
      intro b
      exact .check fail_keeps fun _ => functionBody_keeps hg name params hp
    · exact fail_bind_keeps
  · exact fail_bind_keeps
  · exact fail_bind_keeps

theorem declareRule_keeps (constant : Bool) {p : Position} (hp : place p) :
    Keeps place final (Stmt.Within place) (g.declareRule constant p) := by
  have rest (name : String) (e : Expr) (he : e.Within place) :
      Keeps place final (Stmt.Within place) (do
        declareName name constant
        pure (.declare name e constant p)) :=
    .seq (declareName_keeps _ _) fun _ => .pure (by simp [*])
  apply Keeps.bind variableName_keeps
  rintro ⟨name, q⟩ _
  apply Keeps.seq (accept_keeps _)
  intro b
  dsimp only
  split
  · exact .bind hg.expr (rest name)
  · exact .bind (.pure (Within.constant.mpr ⟨hp, Value.within_unit⟩)) (rest name)

theorem tryRule_keeps {p : Position} (hp : place p) :
    Keeps place final (Stmt.Within place) (g.tryRule p) := by
  apply Keeps.bind hg.block
  rintro ⟨body, _⟩ ⟨hbody, -⟩
  apply Keeps.bind (require_keeps _ _)
  intro _ _
  apply Keeps.bind hg.block
  rintro ⟨handler, _⟩ ⟨hhandler, -⟩
  dsimp only
  split
  · simp only [Within.stmts_cons, Within.expr, Within.call, Within.exprs_cons] at hbody
    exact .pure (Within.attempt.mpr ⟨hp, hbody.1.1, hbody.1.2.1.1, hbody.1.2.2 trivial⟩)
  · exact .pure (Within.tryCatch.mpr ⟨hp, hbody, hhandler⟩)

theorem resultValue_keeps : Keeps place final (OptionWithin place) g.resultValue := by
  have some : Keeps place final (OptionWithin place) (do pure (some (← g.expr))) :=
    .bind hg.expr fun e he => .pure he
  apply Keeps.bind peek_keeps
  intro t _
  split
  · exact .pure (by simp)
  · exact .pure (by simp)
  · apply Keeps.seq .read
    intro c
    split
    · exact some
    · exact .pure (by simp)
  · exact some

theorem exprStmt_keeps : Keeps place final (Stmt.Within place) g.exprStmt := by
  apply Keeps.bind hg.expr
  intro e he
  apply Keeps.bind peek_keeps
  intro t ht
  split
  · have hp := ht.here (by simp [*])
    split
    · apply Keeps.seq advance_keeps
      intro _
      apply Keeps.bind hg.expr
      intro v hv
      exact assignment_keeps _ he hv hp
    · split
      · apply Keeps.seq advance_keeps
        intro _
        apply Keeps.bind hg.expr
        intro v hv
        exact assignment_keeps _ he hv hp
      · exact .pure he
  · exact .pure he

theorem stmtRule_keeps : Keeps place final (Stmt.Within place) g.stmtRule := by
  apply Keeps.bind peek_keeps
  intro t ht
  apply Keeps.seq .read
  intro c
  split
  · have hp := ht.here (by simp [*])
    split
    · exact .seq advance_keeps fun _ => .pure (by simp [hp])
    · exact .bind hg.block fun (ss, p) hb => .pure (by simpa [and_comm] using hb)
    · split
      · exact .seq advance_keeps fun _ => functionRule_keeps hg hp
      · exact fail_keeps
    · split
      · exact .seq advance_keeps fun _ => .pure (by simp [hp])
      · exact fail_keeps
    · split
      · exact .seq advance_keeps fun _ => .pure (by simp [hp])
      · exact fail_keeps
    · apply Keeps.seq advance_keeps
      intro _
      apply Keeps.bind (resultValue_keeps hg)
      intro e he
      exact .pure (by simp [*])
    · apply Keeps.seq advance_keeps
      intro _
      apply Keeps.bind (resultValue_keeps hg)
      intro e he
      exact .pure (by simp [*])
    · exact .seq advance_keeps fun _ => tryRule_keeps hg hp
    · exact .seq advance_keeps fun _ => declareRule_keeps hg false hp
    · exact .seq advance_keeps fun _ => declareRule_keeps hg true hp
    · split
      · rename_i m hm
        exact .seq advance_keeps fun _ => control?_keeps hg ht hm
      · exact exprStmt_keeps hg
  · exact exprStmt_keeps hg

end Rules

theorem rules_keep (n : Nat) : (rules n).Keep place final := by
  induction n with
  -- A rule that is out of bounds fails where it stands.
  | zero =>
    exact ⟨fail_keeps, fail_keeps, fun _ _ _ => fail_keeps, fun _ => fail_keeps,
      fun _ _ _ => fail_keeps, fail_keeps, fail_keeps⟩
  | succ n ih =>
    exact ⟨Rules.exprRule_keeps ih, Rules.unaryRule_keeps ih,
      fun least _ he => Rules.binaryRule_keeps ih least he, Rules.primaryRule_keeps ih,
      fun b _ he => Rules.postfixRule_keeps ih b he, Rules.blockRule_keeps ih,
      Rules.stmtRule_keeps ih⟩

theorem script_keeps {g : Rules} (hg : g.Keep place final) (fuel : Nat) :
    Keeps place final (StmtsWithin place) (script g fuel) := by
  induction fuel with
  | zero => exact fail_keeps
  | succ fuel ih =>
    unfold script
    apply Keeps.bind peek_keeps
    intro t _
    split
    · exact .pure (by simp)
    · apply Keeps.bind hg.stmt
      intro s hs
      split
      · exact ih
      · have rest : Keeps place final (StmtsWithin place) (do pure (s :: (← script g fuel))) :=
          .bind ih fun ss hss => .pure (by simp [*])
        apply Keeps.bind peek_keeps
        intro t _
        dsimp only
        split
        · exact rest
        · split
          · exact rest
          · exact .seq advance_keeps fun _ => rest
        · split
          · exact .seq refuseFault_keeps fun _ => fail_bind_keeps
          · exact rest

def startState (b : Bool) (tokens : List Placed) : State :=
  { rest := tokens, last := tokens.getLast?.getD ⟨.eof, .start, b⟩ }

theorem parse_eq (limits : Limits) (b : Bool) (source : String) :
    let tokens := Lexer.tokens limits.string b source
    parse limits b source =
      (script (rules (8 * tokens.length + 8)) (tokens.length + 1) { limits }
        (startState b tokens)).bind fun (body, s) =>
          .ok (⟨body, s.functions.reverse⟩, (startState b tokens).last.afterPeriod) :=
  rfl

theorem parse_keeps (ha : place.eval) (limits : Limits) (b : Bool) (source : String)
    (ht : ∀ t ∈ Lexer.tokens limits.string b source, Seen place final t) :
    match parse limits b source with
    | .ok (script, _) => StmtsWithin place script.body ∧ ∀ f ∈ script.functions, f.Within place
    | .error f => place f.pos ∨ final f.pos := by
  rw [parse_eq]
  have hready : Ready place final (startState b (Lexer.tokens limits.string b source)) := by
    refine ⟨ht, ?_, nofun, ha⟩
    have hne := Lexer.tokens_ne_nil limits.string b source
    unfold startState
    rw [List.getLast?_eq_some_getLast hne]
    exact ht _ (List.getLast_mem hne)
  have hs := script_keeps (rules_keep (8 * (Lexer.tokens limits.string b source).length + 8))
    ((Lexer.tokens limits.string b source).length + 1) { limits } _ hready
  dsimp only
  generalize script _ _ _ _ = r at hs
  match r with
  | .error f => exact hs
  | .ok (body, s) => exact ⟨hs.1, fun f hf => hs.2.functions f (List.mem_reverse.mp hf)⟩

end ScreenScript.Script.Parser
