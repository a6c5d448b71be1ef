import ScreenScript.Proofs.Number.Clamping
import ScreenScript.Proofs.Number.Signed
import ScreenScript.Proofs.Script.Storage

namespace ScreenScript

namespace Node

open Selector

variable {σ : Type} (h : Host σ) (w : World σ)

/-- Asks for the sibling at a place, which need not be a word. -/
def askPlace (i : Info) (place : Int) : Program (Option Info) :=
  askOne Verb.nodeSibling [key i, toString place]

theorem sibling_eq (i : Info) (n : Int64) : sibling i n = askPlace i n.toInt := by
  rw [sibling, Word.text_eq, askPlace]

theorem nextSibling_eq (i : Info) : nextSibling i =
    if 0 ≤ i.indexInParent.toInt ∧ i.indexInParent.toInt + 1 < 2 ^ 63 then
      askPlace i (i.indexInParent.toInt + 1)
    else .done none := by
  have hone : Int64.toInt 1 = 1 := by decide
  have hneg : i.indexInParent < 0 ↔ i.indexInParent.toInt < 0 := by
    rw [Int64.lt_iff_toInt_lt, Int64.toInt_zero]
  simp only [nextSibling, hneg, Word.add?, hone]
  by_cases hknown : i.indexInParent.toInt < 0
  · rw [if_pos hknown, if_neg (by omega)]
    rfl
  rw [if_neg hknown]
  cases hadd : Word.ofInt? (i.indexInParent.toInt + 1) with
  | some n =>
    have hn := Word.ofInt?_eq_some.mp hadd
    have hrange := Word.range n
    rw [if_pos (by omega), ← hn]
    exact sibling_eq i n
  | none =>
    -- The sum is no word, so the place was the last.
    have hlast : ¬i.indexInParent.toInt + 1 < 2 ^ 63 := by
      intro hlt
      have hn : (Int64.ofInt (i.indexInParent.toInt + 1)).toInt = i.indexInParent.toInt + 1 :=
        Int64.toInt_ofInt_of_le (by omega) (by omega)
      rw [Word.ofInt?_eq_some.mpr hn] at hadd
      cases hadd
    rw [if_neg (by omega)]
    rfl

theorem previousSibling_eq (i : Info) : previousSibling i =
    if 1 ≤ i.indexInParent.toInt then askPlace i (i.indexInParent.toInt - 1) else .done none := by
  have hone : Int64.toInt 1 = 1 := by decide
  have hfirst : i.indexInParent < 1 ↔ i.indexInParent.toInt < 1 := by
    rw [Int64.lt_iff_toInt_lt, hone]
  have hrange := Word.range i.indexInParent
  simp only [previousSibling, hfirst]
  by_cases hknown : i.indexInParent.toInt < 1
  · rw [if_pos hknown, if_neg (by omega)]
    rfl
  · have hsub : (i.indexInParent - 1).toInt = i.indexInParent.toInt - 1 := by
      rw [Int64.toInt_sub, hone, Int.bmod_eq_of_le (by omega) (by omega)]
    rw [if_neg hknown, if_pos (by omega), sibling_eq, hsub]

theorem turns_askPlace (i : Info) (place : Int) :
    (World.turns h (askPlace i place) w).map (·.call) =
      if w.attached then [⟨Verb.nodeSibling, [key i, toString place]⟩] else [] := by
  have hask : askPlace i place = .ask Verb.nodeSibling [key i, toString place] fun a =>
      .done (Answer.node? a) := rfl
  rw [hask, World.turns]
  cases w.attached <;> rfl

theorem sent_askPlace (i : Info) {place : Int} (hplace : 0 ≤ place) {c : Call}
    (hc : c ∈ (World.turns h (askPlace i place) w).map (·.call)) :
    ∃ k : Nat, (k : Int) = place ∧ c = ⟨Verb.nodeSibling, [key i, toString k]⟩ := by
  obtain ⟨k, rfl⟩ := Int.eq_ofNat_of_zero_le hplace
  refine ⟨k, rfl, ?_⟩
  rw [turns_askPlace] at hc
  split_ifs at hc
  · exact List.mem_singleton.mp hc
  · cases hc

section Scripts

open Script Script.Action

/-- A method of a node that gives one node, the method that gives the list it is taken from, and where
in the list it is. -/
inductive Shortens : String → List Value → String → List Value → (List Value → Option Value) → Prop
  | child {n : Int64} {k : Nat} (hn : n.toInt = k) :
      Shortens "child" [.int n] "children" [] (·[k]?)
  | firstChild : Shortens "firstChild" [] "children" [] List.head?
  | lastChild : Shortens "lastChild" [] "children" [] List.getLast?
  | findOne (s : Handle) : Shortens "findOne" [.selector s] "find" [.selector s] List.head?

theorem run_taken {list : Program (List Info)} {one : Program (Option Info)}
    {pick : List Info → Option Info} {pickValue : List Value → Option Value}
    (hone : World.run h one w = (pick (World.run h list w).1, (World.run h list w).2))
    (hpick : ∀ is, pickValue (is.map .node) = (pick is).map .node) (c : Context) (s : Session) :
    ∃ (r : Except Stop (List Value)) (w' : World σ),
      World.run h (Api.nodes list c s) w = ((r.map .array, s), w') ∧
      World.run h (Api.node? one c s) w =
        ((r.map fun vs => (pickValue vs).getD .unit, s), w') := by
  have hvalue (is : List Info) : (pickValue (is.map .node)).getD .unit = Value.ofNode? (pick is) := by
    rw [hpick]
    cases pick is <;> rfl
  rw [Api.nodes, Api.node?, run_guarded, run_guarded]
  cases w.pending with
  | true => exact ⟨.error cancelled, w, rfl, rfl⟩
  | false =>
    simp only [Bool.false_eq_true, if_false, hone]
    cases (World.run h list w).2.pending with
    | true => exact ⟨.error cancelled, _, rfl, rfl⟩
    | false =>
      refine ⟨.ok ((World.run h list w).1.map .node), _, rfl, ?_⟩
      rw [Except.map, hvalue]
      rfl

theorem run_child {i : Info} {n : Int64} {k : Nat} (hn : n.toInt = k) (depth : Nat) :
    World.run h (child i n) w depth =
      ((World.run h (children i) w depth).1[k]?, (World.run h (children i) w depth).2) := by
  have hnonneg : ¬n < 0 := by
    rw [Int64.lt_iff_toInt_lt, hn, Int64.toInt_zero]
    omega
  rw [child, if_neg hnonneg, hn]
  rfl

theorem Shortens.run {short list : String} {args extra : List Value}
    {pick : List Value → Option Value} (hshort : Shortens short args list extra pick) (i : Info)
    (p : Position) (c : Context) (s : Session) :
    ∃ a b, Api.function? short (.node i :: args) p = some a ∧
      Api.function? list (.node i :: extra) p = some b ∧
      ∃ (r : Except Stop (List Value)) (w' : World σ),
        World.run h (b c s) w = ((r.map .array, s), w') ∧
        World.run h (a c s) w = ((r.map fun vs => (pick vs).getD .unit, s), w') := by
  cases hshort with
  | @child n k hn =>
    refine ⟨Api.node? (Node.child i n), Api.nodes (children i), rfl, rfl, ?_⟩
    exact run_taken h w (run_child h w hn _) (fun is => List.getElem?_map ..) c s
  | firstChild =>
    refine ⟨Api.node? (Node.firstChild i), Api.nodes (children i), rfl, rfl, ?_⟩
    exact run_taken h w rfl (fun is => List.head?_map ..) c s
  | lastChild =>
    refine ⟨Api.node? (Node.lastChild i), Api.nodes (children i), rfl, rfl, ?_⟩
    exact run_taken h w rfl (fun is => List.getLast?_map ..) c s
  | findOne sel =>
    refine ⟨Api.send sel Api.node? (Node.findOne i), Api.send sel Api.nodes (find i), rfl, rfl, ?_⟩
    have hone : World.run h (Node.findOne i (s.selectors.conditions sel)) w =
        ((World.run h (find i (s.selectors.conditions sel)) w).1.head?,
          (World.run h (find i (s.selectors.conditions sel)) w).2) := rfl
    exact run_taken h w hone (fun is => List.head?_map ..) c s

end Scripts

/-- The one node of a shortcut is taken from the list that the host's answer stands for, and the
shortcut asks for that list and leaves behind what asking for it does; a child at a negative place is
not asked for. A neighbour is asked for at exactly the next place or the one before, or not at all:
where the node's own place is unknown, or the neighbour's would be below zero or beyond the words. In
scripts a shortcut gives the item of the array that the method for the list gives, or the unit value. -/
theorem shortcuts_agree_with_lists (h : Host σ) (w : World σ) (depth : Nat) (i : Info)
    (cs : List Condition) :
    let ask (verb : String) (extra : List String) := w.call h depth verb (i.bounds.key :: extra)
    let kids := ask "uiobject.children" []
    let found := ask "uiobject.find" [Condition.jsonAll cs]
    let beside (place : Int) := ask "uiobject.sibling" [toString place]
    let place := i.indexInParent.toInt
    let sent (p : Program (Option Info)) := (World.turns h p w).map (·.call)
    World.run h (children i) w depth = (Answer.nodes kids.1, kids.2) ∧
    World.run h (firstChild i) w depth = ((Answer.nodes kids.1).head?, kids.2) ∧
    World.run h (lastChild i) w depth = ((Answer.nodes kids.1).getLast?, kids.2) ∧
    (∀ n : Int64, World.run h (child i n) w depth =
      if n < 0 then (none, w) else ((Answer.nodes kids.1)[n.toInt.toNat]?, kids.2)) ∧
    World.run h (find i cs) w depth = (Answer.nodes found.1, found.2) ∧
    World.run h (findOne i cs) w depth = ((Answer.nodes found.1).head?, found.2) ∧
    World.run h (nextSibling i) w depth =
      (if 0 ≤ place ∧ place + 1 < 2 ^ 63 then
        (Answer.node? (beside (place + 1)).1, (beside (place + 1)).2)
      else (none, w)) ∧
    World.run h (previousSibling i) w depth =
      (if 1 ≤ place then (Answer.node? (beside (place - 1)).1, (beside (place - 1)).2)
      else (none, w)) ∧
    (∀ c ∈ sent (nextSibling i), ∃ k : Nat, (k : Int) = place + 1 ∧
      c = ⟨"uiobject.sibling", [i.bounds.key, toString k]⟩) ∧
    (∀ c ∈ sent (previousSibling i), ∃ k : Nat, (k : Int) = place - 1 ∧
      c = ⟨"uiobject.sibling", [i.bounds.key, toString k]⟩) ∧
    ∀ short args list extra pick, Shortens short args list extra pick → ∀ p c s,
      ∃ a b, Script.Api.function? short (.node i :: args) p = some a ∧
        Script.Api.function? list (.node i :: extra) p = some b ∧
        ∃ (r : Except Script.Stop (List Script.Value)) (w' : World σ),
          World.run h (b c s) w = ((r.map .array, s), w') ∧
          World.run h (a c s) w = ((r.map fun vs => (pick vs).getD .unit, s), w') := by
  intro ask kids found beside place sent
  refine ⟨rfl, rfl, rfl, fun n => ?_, rfl, rfl, ?_, ?_, ?_, ?_, ?_⟩
  · have hneg : n < 0 ↔ n.toInt < 0 := by rw [Int64.lt_iff_toInt_lt, Int64.toInt_zero]
    split_ifs with hn
    · rw [child, if_pos hn]
      rfl
    · rw [hneg] at hn
      exact run_child h w (Int.toNat_of_nonneg (by omega)).symm depth
  · rw [nextSibling_eq]
    split_ifs <;> rfl
  · rw [previousSibling_eq]
    split_ifs <;> rfl
  · intro c hc
    simp only [sent, nextSibling_eq] at hc
    split_ifs at hc with hknown
    · exact sent_askPlace h w i (by omega) hc
    · cases hc
  · intro c hc
    simp only [sent, previousSibling_eq] at hc
    split_ifs at hc with hknown
    · exact sent_askPlace h w i (by omega) hc
    · cases hc
  · intro short args list extra pick hshort p c s
    exact hshort.run h w i p c s

/-- What is no node is passed over, for a client and in a script, and nothing lies beyond the last place
a word can hold. -/
theorem second_child_of_malformed_list :
    let h : Host Unit := fun _ _ => .answer (some
      "[\x7b\"_text\":\"a\"\x7d,5,\x7b\"_text\":\"b\"\x7d]")
    let w : World Unit := { state := (), console := { capacity := 0 } }
    let i : Info := { indexInParent := 9223372036854775807 }
    let c : Script.Context := { config := {} }
    (World.run h (child i 1) w 1).1.map (·.text) = some "b" ∧
    World.run h (nextSibling i) w 1 = (none, w) ∧
    Shortens "child" [.int 1] "children" [] (·[1]?) ∧
    ∃ a b, Script.Api.function? "child" [.node i, .int 1] .start = some a ∧
      Script.Api.function? "children" [.node i] .start = some b ∧
      ∃ (r : Except Script.Stop (List Script.Value)) (w' : World Unit),
        World.run h (b c {}) w = ((r.map .array, {}), w') ∧
        World.run h (a c {}) w = ((r.map fun vs => vs[1]?.getD .unit, {}), w') := by
  intro h w i c
  obtain ⟨-, -, -, hchild, -, -, hnext, -, -, -, hscript⟩ := shortcuts_agree_with_lists h w 1 i []
  have hshort : Shortens "child" [.int 1] "children" [] (·[1]?) := .child rfl
  refine ⟨?_, ?_, hshort, hscript _ _ _ _ _ hshort .start c {}⟩
  · rw [hchild 1]
    decide +kernel
  · exact hnext.trans (if_neg (by decide))

end Node

end ScreenScript
