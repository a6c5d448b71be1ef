import ScreenScript.Excerpt

/-!
Which lines a text has, and that an excerpt shows the line it is about.
-/

namespace ScreenScript

namespace Text

def HasLine (s : List Char) (n : Nat) : Prop :=
  0 < n ∧ n ≤ (lines s).length

theorem count_le_linesFrom (line s : List Char) :
    s.count '\n' ≤ (linesFrom line s).length ∧
      (linesFrom line s).length ≤ s.count '\n' + 1 := by
  fun_induction linesFrom line s with
  | case1 line h => simp
  | case2 line h => simp
  | case3 line r ih =>
    simp only [List.count_cons_self, List.length_cons]
    omega
  | case4 line c r hc ih =>
    rw [List.count_cons_of_ne (fun h => hc h)]
    exact ih

theorem linesFrom_open (line s : List Char) {c : Char} (hc : c ≠ '\n') :
    (linesFrom line (s ++ [c])).length = s.count '\n' + 1 := by
  induction s generalizing line with
  | nil => simp [linesFrom]
  | cons d s ih =>
    by_cases hd : d = '\n'
    · subst hd
      simp only [List.cons_append, linesFrom, List.length_cons, ih, List.count_cons_self]
    · rw [List.count_cons_of_ne hd, ← ih (d :: line)]
      simp [linesFrom]

theorem hasLine_of_append (pre : List Char) {r : List Char} (hr : r ≠ []) :
    HasLine (pre ++ r) (1 + pre.count '\n') := by
  refine ⟨by omega, ?_⟩
  obtain ⟨r', c, rfl⟩ : ∃ r' c, r = r' ++ [c] := ⟨_, _, (List.dropLast_concat_getLast hr).symm⟩
  unfold lines
  by_cases hc : c = '\n'
  · have hl := (count_le_linesFrom [] (pre ++ (r' ++ [c]))).1
    simp only [List.count_append, hc, List.count_singleton_self] at hl ⊢
    omega
  · rw [← List.append_assoc, linesFrom_open [] _ hc, List.count_append]
    omega

theorem hasLine_end (s : List Char) :
    HasLine s (1 + s.count '\n') ∨ 1 + s.count '\n' = (lines s).length + 1 := by
  have hl := count_le_linesFrom [] s
  unfold HasLine lines
  omega

end Text

namespace Excerpt

def Quotes (source excerpt : String) (line col : Nat) : Prop :=
  ∃ text before after, 0 < line ∧ (Text.lines source.toList)[line - 1]? = some text ∧
    excerpt.toList = before ++ (quote line text ++ caret line col) ++ after

theorem window_quotes (line col last : Nat) {n : Nat} {ts : List (List Char)} {text : List Char}
    (hn : n ≤ line) (hlast : line ≤ last) (ht : ts[line - n]? = some text) :
    ∃ before after,
      window line col last n ts = before ++ (quote line text ++ caret line col) ++ after := by
  induction ts generalizing n with
  | nil => simp at ht
  | cons t ts ih =>
    have hln : ¬last < n := by omega
    unfold window
    rw [if_neg hln]
    -- Lines before the one in question are shown without a caret.
    by_cases hnl : n = line
    · subst hnl
      simp only [Nat.sub_self, List.getElem?_cons_zero, Option.some.injEq] at ht
      subst ht
      exact ⟨[], window n col last (n + 1) ts, by simp⟩
    · have hs : line - n = line - (n + 1) + 1 := by omega
      rw [hs, List.getElem?_cons_succ] at ht
      obtain ⟨before, after, hw⟩ := ih (by omega) ht
      refine ⟨quote n t ++ before, after, ?_⟩
      simp [hw, hnl]

theorem quotes_iff (source : String) (line col : Nat) :
    Quotes source (Excerpt.text source line col) line col ↔
      Text.HasLine source.toList line := by
  constructor
  · rintro ⟨text, -, -, hpos, ht, -⟩
    obtain ⟨hl, -⟩ := List.getElem?_eq_some_iff.mp ht
    exact ⟨hpos, by omega⟩
  · rintro ⟨hpos, hl⟩
    have hlt : line - 1 < (Text.lines source.toList).length := by omega
    have hd : ((Text.lines source.toList).drop (max 1 (line - 2) - 1))[line - max 1 (line - 2)]? =
        some (Text.lines source.toList)[line - 1] := by
      rw [List.getElem?_drop, ← List.getElem?_eq_getElem hlt]
      congr 1
      omega
    obtain ⟨before, after, hw⟩ := window_quotes line col (line + 1) (by omega) (by omega) hd
    refine ⟨_, before, after, hpos, List.getElem?_eq_getElem hlt, ?_⟩
    unfold Excerpt.text render
    rw [String.toList_ofList]
    exact hw

end Excerpt

end ScreenScript
