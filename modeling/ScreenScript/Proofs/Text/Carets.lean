import Mathlib.Data.List.Basic
import Mathlib.Tactic.Common
import ScreenScript.Excerpt

namespace ScreenScript

namespace Text

/-- The text is the line of the number: a piece between line feeds, less a carriage return at its end;
what follows the last line feed is a line if it is not empty, and keeps all of its characters. -/
def IsLine (s : List Char) (n : Nat) (t : List Char) : Prop :=
  0 < n ∧ ∃ piece, (s.splitOn '\n')[n - 1]? = some piece ∧
    if n < (s.splitOn '\n').length then
      piece = t ++ ['\r'] ∨ piece = t ∧ t.getLast? ≠ some '\r'
    else piece = t ∧ t ≠ []

theorem chomp_eq_iff {p t : List Char} :
    chomp p = t ↔ p = t ++ ['\r'] ∨ p = t ∧ t.getLast? ≠ some '\r' := by
  unfold chomp
  split
  · next r hr =>
    obtain rfl : p = r.reverse ++ ['\r'] := by
      rw [← List.reverse_reverse p, hr, List.reverse_cons]
    simp only [List.append_cancel_right_eq]
    constructor
    · exact .inl
    · rintro (rfl | ⟨rfl, hlast⟩)
      · rfl
      · exact absurd (List.getLast?_concat ..) hlast
  · next hr =>
    have hlast : p.getLast? ≠ some '\r' := by
      intro hp
      obtain ⟨q, rfl⟩ := List.getLast?_eq_some_iff.mp hp
      exact hr q.reverse (by simp)
    constructor
    · rintro rfl
      exact .inr ⟨rfl, hlast⟩
    · rintro (rfl | ⟨rfl, -⟩)
      · exact absurd (List.getLast?_concat ..) hlast
      · rfl

theorem splitOn_cons (c : Char) (s : List Char) : (c :: s).splitOn '\n' =
    if c = '\n' then [] :: s.splitOn '\n' else (s.splitOn '\n').modifyHead (c :: ·) := by
  unfold List.splitOn
  rw [List.splitOnP_cons_eq_if_modifyHead]
  simp

theorem not_mem_piece {s p : List Char} (hp : p ∈ s.splitOn '\n') : '\n' ∉ p := by
  induction s generalizing p with
  | nil =>
    rw [List.splitOn_nil, List.mem_singleton] at hp
    subst hp
    exact List.not_mem_nil
  | cons c s ih =>
    obtain ⟨q, qs, hs⟩ := List.exists_cons_of_ne_nil (List.splitOn_ne_nil '\n' s)
    rw [splitOn_cons] at hp
    split_ifs at hp with hc
    · rcases List.mem_cons.mp hp with rfl | hp
      · exact List.not_mem_nil
      · exact ih hp
    · rw [hs, List.modifyHead_cons] at hp
      rcases List.mem_cons.mp hp with rfl | hp
      · rw [List.mem_cons, not_or]
        exact ⟨fun h => hc h.symm, ih (hs ▸ List.mem_cons_self)⟩
      · exact ih (hs ▸ List.mem_cons_of_mem q hp)

def linesOf : List (List Char) → List (List Char)
  | [] => []
  | [p] => if p.isEmpty then [] else [p]
  | p :: q :: ps => chomp p :: linesOf (q :: ps)

theorem linesFrom_eq (line s : List Char) :
    linesFrom line s = linesOf ((s.splitOn '\n').modifyHead (line.reverse ++ ·)) := by
  induction s generalizing line with
  | nil => simp [linesFrom, linesOf]
  | cons c s ih =>
    obtain ⟨q, qs, hs⟩ := List.exists_cons_of_ne_nil (List.splitOn_ne_nil '\n' s)
    rw [splitOn_cons]
    by_cases hc : c = '\n'
    · subst hc
      rw [if_pos rfl, linesFrom, ih, hs]
      simp [linesOf]
    · rw [if_neg hc, linesFrom, ih, hs]
      · simp
      · exact hc

theorem linesOf_getElem? {ps : List (List Char)} {k : Nat} {t : List Char} :
    (linesOf ps)[k]? = some t ↔ ∃ p, ps[k]? = some p ∧
      if k + 1 < ps.length then chomp p = t else p = t ∧ t ≠ [] := by
  induction ps generalizing k with
  | nil => simp [linesOf]
  | cons p ps ih =>
    cases ps with
    | nil =>
      cases k with
      | zero =>
        cases p with
        | nil => simp [linesOf, eq_comm]
        | cons c p =>
          have hne : t = c :: p → t ≠ [] := fun h => h ▸ List.cons_ne_nil c p
          simpa [linesOf, eq_comm] using hne
      | succ k => cases p <;> simp [linesOf]
    | cons q ps =>
      cases k with
      | zero => simp [linesOf]
      | succ k =>
        rw [linesOf, List.getElem?_cons_succ, ih]
        simp

theorem isLine_iff {s : List Char} {n : Nat} {t : List Char} :
    IsLine s n t ↔ 0 < n ∧ (lines s)[n - 1]? = some t := by
  have hlines : lines s = linesOf (s.splitOn '\n') := by
    obtain ⟨q, qs, hs⟩ := List.exists_cons_of_ne_nil (List.splitOn_ne_nil '\n' s)
    rw [lines, linesFrom_eq, hs]
    rfl
  refine and_congr_right fun hn => ?_
  have hsucc : n - 1 + 1 = n := by omega
  rw [hlines, linesOf_getElem?, hsucc]
  simp only [chomp_eq_iff]

theorem IsLine.not_mem {s : List Char} {n : Nat} {t : List Char} (h : IsLine s n t) : '\n' ∉ t := by
  obtain ⟨-, piece, hpiece, hends⟩ := h
  have hnot : '\n' ∉ piece := not_mem_piece (List.mem_of_getElem? hpiece)
  split_ifs at hends
  · rcases hends with rfl | ⟨rfl, -⟩
    · exact fun ht => hnot (List.mem_append_left _ ht)
    · exact hnot
  · exact hends.1 ▸ hnot

theorem splitOn_rows {rs : List (List Char)} (hrs : ∀ r ∈ rs, '\n' ∉ r) :
    (rs.flatMap (· ++ ['\n'])).splitOn '\n' = rs ++ [[]] := by
  induction rs with
  | nil => rfl
  | cons r rs ih =>
    have hr : ∀ c ∈ r, (c == '\n') = false := fun c hc =>
      beq_eq_false_iff_ne.mpr fun h => hrs r List.mem_cons_self (h ▸ hc)
    rw [List.flatMap_cons, List.append_assoc, List.singleton_append, List.splitOn,
      List.splitOnP_append_cons_of_forall_mem hr '\n' rfl, List.cons_append]
    exact congrArg _ (ih fun r hr => hrs r (List.mem_cons_of_mem _ hr))

end Text

namespace Excerpt

open Text

def numbered (last : Nat) : Nat → List (List Char) → List (Nat × List Char)
  | _, [] => []
  | n, t :: ts => if last < n then [] else (n, t) :: numbered last (n + 1) ts

theorem mem_numbered {last n m : Nat} {ts : List (List Char)} {t : List Char} :
    (m, t) ∈ numbered last n ts ↔ n ≤ m ∧ m ≤ last ∧ ts[m - n]? = some t := by
  induction ts generalizing n with
  | nil => simp [numbered]
  | cons u ts ih =>
    unfold numbered
    split_ifs with hlast
    · simp only [List.not_mem_nil, false_iff]
      omega
    · rw [List.mem_cons, ih, Prod.mk.injEq]
      rcases Nat.lt_trichotomy m n with hm | rfl | hm
      · omega
      · have hlast' : m ≤ last := by omega
        have hself : ¬m + 1 ≤ m := by omega
        simp [hlast', hself, eq_comm]
      · obtain ⟨k, rfl⟩ := Nat.exists_eq_add_of_lt hm
        have hk : n + k + 1 - n = k + 1 := by omega
        have hk' : n + k + 1 - (n + 1) = k := by omega
        rw [hk, hk', List.getElem?_cons_succ]
        have hne : ¬n + k + 1 = n := by omega
        have hle : n + 1 ≤ n + k + 1 := by omega
        have hle' : n ≤ n + k + 1 := by omega
        simp only [hne, hle, hle', false_and, false_or, true_and]

theorem numbered_ascending (last n : Nat) (ts : List (List Char)) :
    ((numbered last n ts).map (·.1)).Pairwise (· < ·) := by
  induction ts generalizing n with
  | nil => exact .nil
  | cons t ts ih =>
    unfold numbered
    split_ifs
    · exact .nil
    · rw [List.map_cons, List.pairwise_cons]
      refine ⟨fun m hm => ?_, ih (n + 1)⟩
      obtain ⟨⟨m, u⟩, hu, rfl⟩ := List.mem_map.mp hm
      exact (mem_numbered.mp hu).1

/-- The caret's row: as many blanks as stand before the character in the quoted line. -/
def caretRow (line col : Nat) : List Char :=
  List.replicate ((gutter line).length + (col - 1)) ' ' ++ ['^']

def rowsOf (line col : Nat) (r : Nat × List Char) : List (List Char) :=
  (gutter r.1 ++ r.2) :: if r.1 = line then [caretRow line col] else []

theorem window_eq (line col last n : Nat) (ts : List (List Char)) :
    window line col last n ts =
      ((numbered last n ts).flatMap (rowsOf line col)).flatMap (· ++ ['\n']) := by
  induction ts generalizing n with
  | nil => rfl
  | cons t ts ih =>
    unfold window numbered
    split_ifs with hlast hline
    · rfl
    · rw [ih]
      subst hline
      simp [rowsOf, quote, caret, caretRow]
    · rw [ih]
      simp [rowsOf, quote, hline]

theorem gutter_eq (n : Nat) : gutter n =
    List.replicate (1 + (4 - (toString n).length)) ' ' ++ (toString n).toList ++ [' ', '|', ' '] := by
  have hdigits : (toString n).toList = Nat.toDigits 10 n := Nat.toList_repr
  rw [← String.length_toList, hdigits, Nat.add_comm, List.replicate_succ]
  simp [gutter]

theorem not_mem_gutter (n : Nat) : '\n' ∉ gutter n := by
  have hdigits : (toString n).toList = Nat.toDigits 10 n := Nat.toList_repr
  rw [gutter_eq, hdigits]
  simp only [List.mem_append, List.mem_replicate, not_or]
  refine ⟨⟨by simp, fun hn => ?_⟩, by decide⟩
  exact absurd (Nat.isDigit_of_mem_toDigits (by decide) (by decide) hn) (by decide)

theorem not_mem_rowsOf (line col n : Nat) {t : List Char} (ht : '\n' ∉ t) :
    ∀ r ∈ rowsOf line col (n, t), '\n' ∉ r := by
  have hquoted : '\n' ∉ gutter n ++ t := by
    rw [List.mem_append, not_or]
    exact ⟨not_mem_gutter n, ht⟩
  have hcaret : '\n' ∉ caretRow line col := by simp [caretRow]
  intro r hr
  rcases List.mem_cons.mp hr with rfl | hr
  · exact hquoted
  · split_ifs at hr
    · rw [List.mem_singleton.mp hr]
      exact hcaret
    · cases hr

/-- The rows of an excerpt are the lines of the source from two above a line to one below it, as far as
there are such, each once, in ascending order, with the number in front of its own text. If the line
itself is there, a row with nothing but a caret is right below it, and nowhere else. The caret stands
below the character of the column, however many digits the number has. -/
theorem excerpt_quotes_and_points (source : String) (line col : Nat) :
    let place := (gutter line).length + (col - 1)
    ∃ numbered : List (Nat × List Char),
      (numbered.map (·.1)).Pairwise (· < ·) ∧
      (∀ n t, (n, t) ∈ numbered ↔ IsLine source.toList n t ∧ line ≤ n + 2 ∧ n ≤ line + 1) ∧
      (Excerpt.text source line col).toList.splitOn '\n' =
        (numbered.flatMap fun r => (gutter r.1 ++ r.2) ::
          if r.1 = line then [List.replicate place ' ' ++ ['^']] else []) ++ [[]] ∧
      (∀ n, ∃ k, gutter n = List.replicate k ' ' ++ (toString n).toList ++ [' ', '|', ' ']) ∧
      ∀ t, (gutter line ++ t)[place]? = t[col - 1]? := by
  intro place
  let first := max 1 (line - 2)
  let shown := numbered (line + 1) first ((lines source.toList).drop (first - 1))
  have hmem (n : Nat) (t : List Char) :
      (n, t) ∈ shown ↔ IsLine source.toList n t ∧ line ≤ n + 2 ∧ n ≤ line + 1 := by
    rw [mem_numbered, isLine_iff, List.getElem?_drop]
    by_cases hn : first ≤ n
    · have hplace : first - 1 + (n - first) = n - 1 := by omega
      rw [hplace]
      have hpos : 0 < n := by omega
      have hwindow : line ≤ n + 2 := by omega
      tauto
    · have hout : ¬(0 < n ∧ line ≤ n + 2) := by omega
      tauto
  refine ⟨shown, numbered_ascending _ _ _, hmem, ?_, fun n => ⟨_, gutter_eq n⟩, fun t => ?_⟩
  · have htext : (Excerpt.text source line col).toList =
        (shown.flatMap (rowsOf line col)).flatMap (· ++ ['\n']) := by
      rw [Excerpt.text, String.toList_ofList, render]
      exact window_eq line col (line + 1) first _
    rw [htext, splitOn_rows]
    · rfl
    intro r hr
    obtain ⟨⟨n, t⟩, hnt, hrow⟩ := List.mem_flatMap.mp hr
    exact not_mem_rowsOf line col n ((hmem n t).mp hnt).1.not_mem r hrow
  · rw [List.getElem?_append_right (Nat.le_add_right _ _)]
    congr 1
    omega

example : Excerpt.text "a\r\nb" 2 1 = "    1 | a\n    2 | b\n        ^\n" := by
  decide +kernel

end Excerpt

end ScreenScript
