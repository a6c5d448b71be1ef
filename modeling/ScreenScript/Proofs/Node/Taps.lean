import ScreenScript.Node.Operation
import ScreenScript.Proofs.Host.Turns
import ScreenScript.Proofs.Number.Clamping

namespace ScreenScript.Node

open Word (nearest)

variable {σ : Type}

theorem turns_tap (h : Host σ) (w : World σ) (verb : String) (x y : Int64) :
    (World.turns h (tap verb x y) w).map (·.call) =
      if w.attached then [⟨verb, [toString x.toInt, toString y.toInt]⟩] else [] := by
  have htap : tap verb x y =
      .ask verb [Word.text x, Word.text y] fun r => .done (Answer.bool r) := rfl
  rw [htap, Word.text_eq, Word.text_eq, World.turns]
  cases w.attached <;> rfl

namespace Bounds

theorem toInt_centerX (b : Bounds) :
    b.centerX.toInt = (b.left.toInt + b.right.toInt).tdiv 2 :=
  Word.toInt_midpoint _ _

theorem toInt_centerY (b : Bounds) :
    b.centerY.toInt = (b.top.toInt + b.bottom.toInt).tdiv 2 :=
  Word.toInt_midpoint _ _

end Bounds

theorem turns_clickBounds (h : Host σ) (w : World σ) (i : Info) (dx dy : Int64) :
    (World.turns h (clickBounds i dx dy) w).map (·.call) =
      if w.attached then [⟨Verb.click, [toString (nearest (i.bounds.centerX.toInt + dx.toInt)),
        toString (nearest (i.bounds.centerY.toInt + dy.toInt))]⟩] else [] := by
  rw [clickBounds, turns_tap, Word.toInt_saturatingAdd, Word.toInt_saturatingAdd]

theorem turns_click (h : Host σ) (w : World σ) (i : Info) :
    (World.turns h (click i) w).map (·.call) =
      if w.attached then [⟨Verb.click, [toString i.bounds.centerX.toInt,
        toString i.bounds.centerY.toInt]⟩] else [] := by
  rw [click, turns_clickBounds, Int64.toInt_zero, Int.add_zero, Int.add_zero, Word.nearest_word,
    Word.nearest_word]

/-- A tap without an offset is made at the exact middle of the edges, cut toward zero, which no
narrowing changes and which lies between the edges in whatever order they come; an offset is added to
it exactly and held at the ends of the words, as are the width and the height. -/
theorem taps_hit_the_node (h : Host σ) (w : World σ) (i : Info) (dx dy : Int64) :
    let b := i.bounds
    let x := (b.left.toInt + b.right.toInt).tdiv 2
    let y := (b.top.toInt + b.bottom.toInt).tdiv 2
    let received (p : Program Bool) := (World.turns h p w).map (·.call)
    let sent (verb : String) (x y : Int) : List Call :=
      if w.attached then [⟨verb, [toString x, toString y]⟩] else []
    received (click i) = sent "click" x y ∧
    received (longClick i) = sent "longClick" x y ∧
    received (clickBounds i dx dy) =
      sent "click" (nearest (x + dx.toInt)) (nearest (y + dy.toInt)) ∧
    (min b.left.toInt b.right.toInt ≤ x ∧ x ≤ max b.left.toInt b.right.toInt) ∧
    (min b.top.toInt b.bottom.toInt ≤ y ∧ y ≤ max b.top.toInt b.bottom.toInt) ∧
    (b.centerX.toInt = x ∧ b.centerY.toInt = y) ∧
    b.width.toInt = nearest (b.right.toInt - b.left.toInt) ∧
    b.height.toInt = nearest (b.bottom.toInt - b.top.toInt) := by
  intro b x y received sent
  have hx : b.centerX.toInt = x := b.toInt_centerX
  have hy : b.centerY.toInt = y := b.toInt_centerY
  refine ⟨?_, ?_, ?_, Word.tdiv_between _ _, Word.tdiv_between _ _, ⟨hx, hy⟩,
    Word.toInt_saturatingSub _ _, Word.toInt_saturatingSub _ _⟩
  · rw [← hx, ← hy]
    exact turns_click h w i
  · rw [← hx, ← hy]
    exact turns_tap h w Verb.longClick b.centerX b.centerY
  · rw [← hx, ← hy]
    exact turns_clickBounds h w i dx dy

end ScreenScript.Node
