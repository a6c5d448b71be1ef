import ScreenScript.Proofs.Script.Pace

/-!
The steps of an evaluation between expressions: calls of the language and the screen, assignments and
access paths keep pace with themselves at other places.
-/

namespace ScreenScript.Script

open Script.Action

variable {m : Pace} {grows : Bool} {ns : Names}

theorem Offers.inStep {o : Option (Action Value)}
    (h : Offers (Native (fun _ => True) (fun _ => False) true true) o) :
    Option.Rel (InStep m false ns Eq) o o := by
  cases o with
  | none => exact .none
  | some a => exact .some (h a rfl).inStep

theorem rel_orElse {R : Action Value → Action Value → Prop} {o o' u u' : Option (Action Value)}
    (h : Option.Rel R o o') (h' : Option.Rel R u u') : Option.Rel R (o <|> u) (o' <|> u') := by
  cases h with
  | none => exact h'
  | some h => exact .some h

namespace Api

theorem aimOr_inStep (g : Except ArgumentFault Gesture) (p : Position) :
    InStep m false ns Eq (aimOr g p) (aimOr g (m.move p)) := by
  cases g with
  | ok g => exact .aim g
  | error f => exact .fail _ p

theorem gesture_inStep (duration : Int64) (points : List Value) (p : Position) :
    InStep m false ns Eq (gesture duration points p) (gesture duration points (m.move p)) := by
  rw [gesture_eq, gesture_eq]
  exact aimOr_inStep _ p

theorem gestures_inStep (strokes : List Value) (p : Position) :
    InStep m false ns Eq (gestures strokes p) (gestures strokes (m.move p)) := by
  rw [gestures_eq, gestures_eq]
  exact aimOr_inStep _ p

theorem setScreenMetrics_inStep (width height : Int64) (p : Position) :
    InStep m false ns Eq (setScreenMetrics width height p)
      (setScreenMetrics width height (m.move p)) := by
  by_cases h : width ≤ 0 ∨ height ≤ 0
  · simp only [setScreenMetrics, if_pos h]
    exact .fail _ p
  · have hplace : setScreenMetrics width height (m.move p) = setScreenMetrics width height p := by
      simp only [setScreenMetrics, if_neg h]
    rw [hplace]
    exact .metrics h p

theorem gestureCall?_inStep (name : String) (args : List Value) (p : Position) :
    Option.Rel (InStep m false ns Eq) (gestureCall? name args p)
      (gestureCall? name args (m.move p)) := by
  unfold gestureCall?
  split
  · split
    · exact Offers.inStep (.some (ask_native _ _))
    · exact .none
  · split
    · exact Offers.inStep (.some (atPoint_native _ _ _ _))
    · exact Offers.inStep (.some (atPoint_native _ _ _ _))
    · exact .some (setScreenMetrics_inStep _ _ p)
    · exact .none
  · split
    · exact Offers.inStep (.some (atPoint_native _ _ _ _))
    · exact .none
  · split
    · exact Offers.inStep (.some (swipe_native _ _ _ _ _))
    · exact .none
  · split
    · exact Offers.inStep (.some (swipe_native _ _ _ _ _))
    · exact .none
  · split
    · exact .some (gestures_inStep _ p)
    · exact .none
  · split
    · exact .some (gesture_inStep _ _ p)
    · exact .none
  · split
    · exact .some (gesture_inStep _ _ p)
    · exact .none
  · split
    · exact .some (gesture_inStep _ _ p)
    · exact .none
  · exact .none

theorem holdsItem_inStep (v : Value) (p : Position) (vs : List Value) :
    InStep m false ns Eq (holdsItem v p vs) (holdsItem v (m.move p) vs) := by
  induction vs with
  | nil => exact .pure _
  | cons w ws ih =>
    unfold holdsItem
    split
    · exact .pure _
    · exact ih
    · exact .fail _ p

theorem contains?_inStep (container v : Value) (p : Position) :
    Option.Rel (InStep m false ns Eq) (contains? container v p)
      (contains? container v (m.move p)) := by
  unfold contains?
  split
  · exact .some (.seq (holdsItem_inStep _ p _) fun _ => .pure _)
  · exact .some (.pure _)
  · exact .some (.pure _)
  · exact .some (.pure _)
  · exact .some (.pure _)
  · exact .none

theorem standardCall?_inStep (name : String) (args : List Value) (p : Position) :
    Option.Rel (InStep m false ns Eq) (standardCall? name args p)
      (standardCall? name args (m.move p)) := by
  unfold standardCall?
  split
  · exact (Offers.map fun _ => .value _).inStep
  · exact contains?_inStep _ _ p
  · exact .some (.pure _)
  · exact (generalCall?_native _ fun _ _ => trivial).inStep

theorem global?_inStep (name : String) (args : List Value) (p : Position) :
    Option.Rel (InStep m false ns Eq) (global? name args p) (global? name args (m.move p)) := by
  unfold global?
  split
  · exact Offers.inStep (.some (.seq newSelector_native fun _ => .value _))
  · exact rel_orElse (gestureCall?_inStep name args p)
      (rel_orElse (actionCall?_native name args).inStep (standardCall?_inStep name args p))

theorem function?_inStep (name : String) (args : List Value) (p : Position) :
    Option.Rel (InStep m false ns Eq) (function? name args p) (function? name args (m.move p)) :=
  rel_orElse (Offers.bind fun k => conditionCall_native k args).inStep
    (rel_orElse (method?_native name args).inStep (global?_inStep name args p))

end Api

namespace Evaluator

variable {α : Type}

theorem failOn_inStep (p : Position) (r : Except Cause α) :
    InStep m false ns Eq (failOn p r) (failOn (m.move p) r) := by
  cases r with
  | ok a => exact .pure a
  | error c => exact .fail c p

theorem checkSize_inStep (v : Value) (p : Position) :
    InStep m grows ns Eq (checkSize v p) (checkSize v (m.move p)) := by
  refine .seq .read fun c => ?_
  dsimp only
  split
  · exact .fail _ p
  · exact .pure _

theorem checked_inStep (v : Value) (p : Position) :
    InStep m false ns Eq (checked v p) (checked v (m.move p)) :=
  .seq (checkSize_inStep v p) fun _ => .pure v

theorem readPlace_inStep (pl : Place) :
    InStep m false ns Eq (readPlace pl) (readPlace pl) := by
  refine .look fun s t hst _ => ?_
  rw [hst.read]
  exact .pure _

theorem placeOf_inStep (name : String) (p : Position) :
    InStep m false ns Eq (placeOf name p) (placeOf name (m.move p)) := by
  refine .look fun s t hst _ => ?_
  rw [hst.lookup]
  split
  · exact .pure _
  · split
    · exact .pure _
    · exact .fail _ p

theorem expectBool_inStep (v : Value) (p : Position) :
    InStep m false ns Eq (expectBool v p) (expectBool v (m.move p)) := by
  unfold expectBool
  split
  · exact .pure _
  · exact .fail _ p

theorem refuseConstant_inStep (pl : Place) (cause : Cause) (p : Position)
    {k k' : Unit → Action α} {R : α → α → Prop}
    (hk : ns.isConstant pl = false → InStep m grows ns R (k ()) (k' ())) :
    InStep m grows ns R
      (get >>= fun s => if pl.isConstant s = true then fail cause p >>= k else k ())
      (get >>= fun s => if pl.isConstant s = true then fail cause (m.move p) >>= k' else k' ()) := by
  refine .look fun s t hst hns => ?_
  rw [hst.isConstant, ← Names.isConstant_names, hns]
  split
  · exact .bind (V := fun _ _ => False) (.fail cause p) fun _ _ h => h.elim
  · rename_i h
    exact hk (Bool.eq_false_iff.mpr h)

theorem callNative_inStep (name : String) (receiver : Place) (args : List Value) (p : Position) :
    InStep m false ns Eq (callNative name receiver args p)
      (callNative name receiver args (m.move p)) := by
  refine .seq (.tick p) fun _ => .seq (readPlace_inStep receiver) fun v => ?_
  dsimp only
  split
  · rename_i new hnew
    refine refuseConstant_inStep receiver _ p fun hfree => ?_
    refine .seq (.write hfree new) fun _ => ?_
    exact .seq (checkSize_inStep new p) fun _ => .pure _
  · have hfunction : Option.Rel (InStep m false ns Eq) _ _ :=
      Api.function?_inStep name (v :: args) p
    generalize Api.function? name (v :: args) p = o at hfunction ⊢
    generalize Api.function? name (v :: args) (m.move p) = o' at hfunction ⊢
    cases hfunction with
    | none => exact .fail _ p
    | some h => exact .seq h fun w => checked_inStep w p

theorem callPlain_inStep (name : String) (p : Position) :
    InStep m false ns Eq (callPlain name p) (callPlain name (m.move p)) := by
  refine .seq (.tick p) fun _ => ?_
  have hfunction : Option.Rel (InStep m false ns Eq) _ _ := Api.function?_inStep name [] p
  generalize Api.function? name [] p = o at hfunction ⊢
  generalize Api.function? name [] (m.move p) = o' at hfunction ⊢
  cases hfunction with
  | none => exact .fail _ p
  | some h => exact .seq h fun w => checked_inStep w p

theorem combine_inStep (a : Assignment) (op : String) (old : Value) :
    InStep m false ns Eq (combine a op old) (combine (a.moved m.move) op old) := by
  refine .look fun s t hst _ => ?_
  rw [hst.selectors]
  exact failOn_inStep a.pos _

theorem sizePos_moved (a : Assignment) (v w : Value) :
    sizePos (a.moved m.move) v w = m.move (sizePos a v w) := by
  unfold sizePos
  split <;> rfl

theorem store_inStep {pl : Place} (hfree : ns.isConstant pl = false) (a : Assignment)
    (old new : Value) : InStep m false ns Eq
      (if checksFirst old a.value = true then checkSize new a.pos >>= fun _ => writePlace pl new
        else writePlace pl new >>= fun _ => checkSize new (sizePos a old a.value))
      (if checksFirst old a.value = true then
          checkSize new (m.move a.pos) >>= fun _ => writePlace pl new
        else writePlace pl new >>= fun _ =>
          checkSize new (sizePos (a.moved m.move) old a.value)) := by
  rw [sizePos_moved]
  split
  · exact .seq (checkSize_inStep new a.pos) fun _ => .write hfree new
  · exact .seq (.write hfree new) fun _ => checkSize_inStep new _

theorem assignTo_inStep (pl : Place) (a : Assignment) :
    InStep m false ns Eq (assignTo pl a) (assignTo pl (a.moved m.move)) := by
  unfold assignTo
  refine refuseConstant_inStep pl _ a.namePos fun hfree => ?_
  dsimp only [Assignment.moved]
  split
  · exact .write hfree _
  · refine .seq (readPlace_inStep pl) fun old => .seq (combine_inStep a _ old) fun new => ?_
    exact store_inStep hfree a old new

theorem readProperty_inStep (v : Value) (name : String) (p : Position) :
    InStep m false ns Eq (readProperty v name p) (readProperty v name (m.move p)) := by
  refine .seq (.tick p) fun _ => ?_
  split
  · rename_i a ha
    have hnative : Native (fun _ => True) (fun _ => False) false false a :=
      Api.property?_native v name a ha
    exact .seq hnative.inStep fun w => checked_inStep w p
  · exact .fail _ p

theorem writeProperty_inStep (v : Value) (name : String) (p : Position) (a : Assignment) :
    InStep m false ns Eq (writeProperty v name p a)
      (writeProperty v name (m.move p) (a.moved m.move)) := by
  have rest (new : Value) : InStep m false ns Eq
      (Action.tick p >>= fun _ =>
        Action.fail (α := Unit) (.unwritableProperty name v.typeName new.typeName) p)
      (Action.tick (m.move p) >>= fun _ =>
        Action.fail (α := Unit) (.unwritableProperty name v.typeName new.typeName) (m.move p)) :=
    .seq (.tick p) fun _ => .fail _ p
  unfold writeProperty
  dsimp only [Assignment.moved]
  split
  · exact .seq (readProperty_inStep v name p) fun old => .seq (combine_inStep a _ old) rest
  · exact rest _

theorem assignKey_inStep (pl : Place) (name : String) (a : Assignment) :
    InStep m false ns Eq (assignKey pl name a) (assignKey pl name (a.moved m.move)) :=
  .seq (assignTo_inStep _ a) fun _ => .seq (readPlace_inStep pl) fun v => checkSize_inStep v a.pos

theorem storeChar_inStep {pl : Place} (hfree : ns.isConstant pl = false) (s : String) (i : Nat)
    (new : Value) (p : Position) :
    InStep m false ns Eq
      (match new with
        | .char c => writePlace pl (.string (String.ofList (s.toList.set i c)))
        | v => fail (.wrongType "char" (plainTypeName v)) p)
      (match new with
        | .char c => writePlace pl (.string (String.ofList (s.toList.set i c)))
        | v => fail (.wrongType "char" (plainTypeName v)) (m.move p)) := by
  split
  · exact .write hfree _
  · exact .fail _ p

theorem assignChar_inStep (pl : Place) (s : String) (i : Nat) (a : Assignment) :
    InStep m false ns Eq (assignChar pl s i a) (assignChar pl s i (a.moved m.move)) := by
  unfold assignChar
  refine refuseConstant_inStep pl _ a.namePos fun hfree => ?_
  dsimp only [Assignment.moved]
  split
  · exact .seq (combine_inStep a _ _) fun new => storeChar_inStep hfree s i new a.pos
  · exact .seq (.pure _) fun new => storeChar_inStep hfree s i new a.pos

theorem indexPlace_inStep (pl : Place) (key : Value) (keyPos p : Position) :
    InStep m false ns Eq (indexPlace pl key keyPos p)
      (indexPlace pl key (m.move keyPos) (m.move p)) := by
  refine .seq (.tick p) fun _ => .seq (readPlace_inStep pl) fun v => ?_
  split
  · split
    · exact .pure _
    · exact .fail _ keyPos
  · exact .pure _
  · split
    · exact .pure _
    · exact .fail _ keyPos
  · exact .fail _ keyPos
  · exact .fail _ keyPos
  · exact .fail _ keyPos
  · exact .fail _ p

theorem assignIndex_inStep (pl : Place) (key : Value) (keyPos p : Position) (a : Assignment) :
    InStep m false ns Eq (assignIndex pl key keyPos p a)
      (assignIndex pl key (m.move keyPos) (m.move p) (a.moved m.move)) := by
  have indexed : InStep m false ns Eq
      (indexPlace pl key keyPos p >>= fun q => assignTo q a)
      (indexPlace pl key (m.move keyPos) (m.move p) >>= fun q => assignTo q (a.moved m.move)) :=
    .seq (indexPlace_inStep pl key keyPos p) fun q => assignTo_inStep q a
  refine .seq (readPlace_inStep pl) fun v => ?_
  split
  · exact .seq (.tick p) fun _ => assignTo_inStep _ a
  · refine .seq (.tick p) fun _ => ?_
    split
    · exact assignChar_inStep pl _ _ a
    · exact .fail _ keyPos
  · exact indexed
  · exact indexed
  · exact indexed
  · exact .fail _ p

theorem follow_inStep {call call' : String → Place → List Value → Position → Action Value}
    (hc : ∀ name pl args p, InStep m false ns Eq (call name pl args p)
      (call' name pl args (m.move p)))
    (ss : List Step) (pl : Place) :
    InStep m false ns Eq (follow call ss pl) (follow call' (ss.map (·.moved m.move)) pl) := by
  induction ss generalizing pl with
  | nil => exact readPlace_inStep pl
  | cons st ss ih =>
    cases st with
    | property name safe p =>
      refine .seq (readPlace_inStep pl) fun v => ?_
      split
      · split
        · exact .pure _
        · exact readProperty_inStep _ name p
      · exact .seq (.tick p) fun _ => ih _
      · exact .seq (readProperty_inStep _ name p) fun w => ih _
    | method name args safe p =>
      have go (b : Bool) : InStep m false ns Eq
          (if b = true then pure Value.unit
            else call name pl args p >>= fun v => follow call ss (.value v))
          (if b = true then pure Value.unit
            else call' name pl args (m.move p) >>= fun v =>
              follow call' (ss.map (·.moved m.move)) (.value v)) := by
        split
        · exact .pure _
        · exact .seq (hc name pl args p) fun v => ih _
      exact .seq (readPlace_inStep pl) fun v => go _
    | index key keyPos p =>
      exact .seq (indexPlace_inStep pl key keyPos p) fun q => ih q

theorem followAssign_inStep (a : Assignment) (ss : List Step) (pl : Place) :
    InStep m false ns Eq (followAssign a ss pl)
      (followAssign (a.moved m.move) (ss.map (·.moved m.move)) pl) := by
  induction ss generalizing pl with
  | nil => exact assignTo_inStep pl a
  | cons st ss ih =>
    match st, ss, ih with
    | .property name safe p, [], _ =>
      refine .seq (readPlace_inStep pl) fun v => ?_
      split
      · split
        · exact .pure _
        · exact writeProperty_inStep _ name p a
      · exact .seq (.tick p) fun _ => assignKey_inStep pl name a
      · exact writeProperty_inStep _ name p a
    | .index key keyPos p, [], _ => exact assignIndex_inStep pl key keyPos p a
    | .property name safe p, st :: rest, ih =>
      refine .seq (readPlace_inStep pl) fun v => ?_
      split
      · split
        · exact .pure _
        · exact .seq (readProperty_inStep _ name p) fun w => ih _
      · exact .seq (.tick p) fun _ => ih _
      · exact .seq (readProperty_inStep _ name p) fun w => ih _
    | .index key keyPos p, st :: rest, ih =>
      exact .seq (indexPlace_inStep pl key keyPos p) fun q => ih q
    | .method name args safe p, rest, _ => exact .pure _

end Evaluator

end ScreenScript.Script
