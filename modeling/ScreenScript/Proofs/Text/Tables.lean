import ScreenScript.Text.Ranges
import Mathlib.Data.List.Basic
import Mathlib.Tactic.Common

/-!
Tables of characters: the ranges that are read of a published table, and the search by halves, which
finds in ascending ranges what a look at every range finds.
-/

namespace ScreenScript.Text.Ranges

def ascending : Nat → List (Nat × Nat) → Bool
  | _, [] => true
  | n, (a, b) :: rs => n ≤ a && a ≤ b && ascending (b + 1) rs

theorem ascending_cons {n a b : Nat} {rs : List (Nat × Nat)} :
    ascending n ((a, b) :: rs) = true ↔ n ≤ a ∧ a ≤ b ∧ ascending (b + 1) rs = true := by
  simp only [ascending, Bool.and_eq_true, decide_eq_true_eq, and_assoc]

theorem le_of_ascending {n : Nat} {rs : List (Nat × Nat)} (h : ascending n rs = true)
    {r : Nat × Nat} (hr : r ∈ rs) : n ≤ r.1 ∧ r.1 ≤ r.2 := by
  induction rs generalizing n with
  | nil => cases hr
  | cons q rs ih =>
    obtain ⟨a, b⟩ := q
    obtain ⟨hna, hab, hrs⟩ := ascending_cons.mp h
    rcases List.mem_cons.mp hr with rfl | hr
    · exact ⟨hna, hab⟩
    · have := ih hrs hr
      omega

theorem pairwise_of_ascending {n : Nat} {rs : List (Nat × Nat)} (h : ascending n rs = true) :
    rs.Pairwise fun r q => r.2 < q.1 := by
  induction rs generalizing n with
  | nil => exact .nil
  | cons q rs ih =>
    obtain ⟨a, b⟩ := q
    obtain ⟨-, -, hrs⟩ := ascending_cons.mp h
    refine .cons ?_ (ih hrs)
    intro q hq
    exact (le_of_ascending hrs hq).1

def Within (t : Ranges) (n lo size : Nat) : Prop :=
  ∃ (i : Nat) (h : i < t.size), lo ≤ i ∧ i < lo + size ∧ t[i].1 ≤ n ∧ n ≤ t[i].2

theorem lt_of_ascending {t : Ranges} (h : ascending 0 t.toList = true) {i j : Nat}
    (hij : i < j) (hj : j < t.size) : t[i].2 < t[j].1 := by
  have hp := List.pairwise_iff_getElem.mp (pairwise_of_ascending h)
  exact hp i j (Nat.lt_trans hij hj) hj hij

/-- Each step leaves the half in which the number is, if it is anywhere. -/
theorem search_iff {t : Ranges} (h : ascending 0 t.toList = true) (n lo size : Nat)
    (hsize : lo + size ≤ t.size) : t.search n lo size = true ↔ Within t n lo size := by
  fun_induction search t n lo size with
  | case1 lo =>
    constructor
    · intro hfalse
      cases hfalse
    · rintro ⟨i, _, _, _, _⟩
      omega
  | case2 lo size hne mid hnone =>
    have := Array.getElem?_eq_none_iff.mp hnone
    omega
  | case3 lo size hne mid a b hmid hlt ih =>
    obtain ⟨hm, hab⟩ := Array.getElem?_eq_some_iff.mp hmid
    rw [ih (by omega)]
    constructor
    · rintro ⟨i, hi, hlo, hhi, hn⟩
      exact ⟨i, hi, hlo, by omega, hn⟩
    · rintro ⟨i, hi, hlo, hhi, hle, hge⟩
      refine ⟨i, hi, hlo, ?_, hle, hge⟩
      by_contra hright
      have hmi : mid ≤ i := by omega
      rcases Nat.eq_or_lt_of_le hmi with rfl | hmi
      · rw [hab] at hle
        omega
      · have := lt_of_ascending h hmi hi
        have := (le_of_ascending h (Array.getElem_mem_toList hm)).2
        rw [hab] at *
        omega
  | case4 lo size hne mid a b hmid hge hle =>
    obtain ⟨hm, hab⟩ := Array.getElem?_eq_some_iff.mp hmid
    refine iff_of_true rfl ⟨mid, hm, by omega, by omega, ?_⟩
    rw [hab]
    exact ⟨by omega, hle⟩
  | case5 lo size hne mid a b hmid hge hgt ih =>
    obtain ⟨hm, hab⟩ := Array.getElem?_eq_some_iff.mp hmid
    rw [ih (by omega)]
    constructor
    · rintro ⟨i, hi, hlo, hhi, hn⟩
      exact ⟨i, hi, by omega, by omega, hn⟩
    · rintro ⟨i, hi, hlo, hhi, hle, hge'⟩
      refine ⟨i, hi, ?_, by omega, hle, hge'⟩
      by_contra hleft
      have him : i ≤ mid := by omega
      rcases Nat.eq_or_lt_of_le him with rfl | him
      · rw [hab] at hge'
        omega
      · have := lt_of_ascending h him hm
        rw [hab] at this
        omega

theorem contains_eq_covers {t : Ranges} (h : ascending 0 t.toList = true) (c : Char) :
    t.contains c = t.covers c := by
  rw [Bool.eq_iff_iff, contains, search_iff h _ _ _ (by omega), covers, Array.any_eq_true]
  simp only [Within, Bool.and_eq_true, decide_eq_true_eq]
  constructor
  · rintro ⟨i, hi, -, -, hn⟩
    exact ⟨i, hi, hn⟩
  · rintro ⟨i, hi, hn⟩
    exact ⟨i, hi, by omega, by omega, hn⟩

def listed (lo n : Option Nat) : List Char → List (Nat × Nat)
  | [] => n.toList.map fun n => (lo.getD n, n)
  | c :: r =>
    if c = '-' then listed n none r
    else match hexDigit? c with
    | some d => listed lo (some (16 * n.getD 0 + d)) r
    | none => (n.toList.map fun n => (lo.getD n, n)) ++ listed none none r

theorem toList_close (acc : Ranges) (lo n : Option Nat) :
    (close acc lo n).toList = acc.toList ++ n.toList.map fun n => (lo.getD n, n) := by
  cases n with
  | none => simp [close]
  | some n => simp [close]

theorem toList_read (acc : Ranges) (lo n : Option Nat) (s : List Char) :
    (read acc lo n s).toList = acc.toList ++ listed lo n s := by
  fun_induction read acc lo n s with
  | case1 acc lo n => rw [toList_close, listed]
  | case2 acc lo n r ih => rw [ih, listed, if_pos rfl]
  | case3 acc lo n c r hc d hd ih => rw [ih, listed, if_neg hc, hd]
  | case4 acc lo n c r hc hd ih =>
    rw [ih, toList_close, listed, if_neg hc, hd, List.append_assoc]

theorem toList_ofText (cs : List Char) :
    (ofText (String.ofList cs)).toList = listed none none cs := by
  rw [ofText, toList_read, String.toList_ofList, List.nil_append]

end ScreenScript.Text.Ranges
