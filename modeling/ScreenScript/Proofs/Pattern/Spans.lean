import ScreenScript.Pattern.Basic
import Mathlib.Data.Finset.Card
import Mathlib.Data.Finset.Filter
import Mathlib.Data.Finset.Range
import Mathlib.Data.Nat.Bitwise
import Mathlib.Tactic.Common

/-!
The spans of a text that an expression matches, read off its parts. The search of a text for an
expression, which follows sets of places, finds these spans and no others.
-/

namespace ScreenScript.Pattern

def Times (R : Nat → Nat → Prop) : Nat → Nat → Nat → Prop
  | 0, i, j => i = j
  | n + 1, i, k => ∃ j, R i j ∧ Times R n j k

def charBefore (before : Option Char) (text : List Char) : Nat → Option Char
  | 0 => before
  | i + 1 => text[i]?

/-- The expression matches the characters from the place `i` to the place `j`. -/
def Expr.Spans (text : List Char) : Expr → Nat → Nat → Prop
  | empty, i, j => i = j
  | chars c, i, j => j = i + 1 ∧ ∃ x, text[i]? = some x ∧ c.contains x = true
  | anchor a word, i, j =>
    i = j ∧ i ≤ text.length ∧ a.holds word (charBefore none text i) text[i]? = true
  | seq a b, i, k => ∃ j, a.Spans text i j ∧ b.Spans text j k
  | alt a b, i, j => a.Spans text i j ∨ b.Spans text i j
  -- the reader refuses an upper bound that is less than the lower one
  | .repeat a lo hi, i, j =>
    ∃ n, lo ≤ n ∧ (∀ m ∈ hi, n ≤ max lo m) ∧ Times (a.Spans text) n i j

theorem exists_reached {p q : Nat → Prop} {R : Nat → Nat → Prop} :
    (∃ j, (∃ i, p i ∧ R i j) ∧ q j) ↔ ∃ i, p i ∧ ∃ j, R i j ∧ q j := by
  constructor
  · rintro ⟨j, ⟨i, hi, hij⟩, hj⟩
    exact ⟨i, hi, j, hij, hj⟩
  · rintro ⟨i, hi, j, hij, hj⟩
    exact ⟨j, ⟨i, hi, hij⟩, hj⟩

theorem times_add {R : Nat → Nat → Prop} {m n i k : Nat} :
    Times R (m + n) i k ↔ ∃ j, Times R m i j ∧ Times R n j k := by
  induction m generalizing i with
  | zero => simp [Times]
  | succ m ih =>
    rw [Nat.succ_add]
    simp only [Times, ih, exists_reached]

theorem times_succ {R : Nat → Nat → Prop} {n i k : Nat} :
    Times R (n + 1) i k ↔ ∃ j, Times R n i j ∧ R j k := by
  rw [times_add]
  simp [Times]

theorem Times.le {R : Nat → Nat → Prop} {l : Nat} (hR : ∀ i j, i ≤ l → R i j → j ≤ l) {n i j : Nat}
    (h : Times R n i j) (hi : i ≤ l) : j ≤ l := by
  induction n generalizing i with
  | zero => exact h ▸ hi
  | succ n ih =>
    obtain ⟨k, hk, hj⟩ := h
    exact ih hj (hR i k hi hk)

namespace Expr

theorem testBit_cons (n : Nat) (b : Bool) (i : Nat) :
    (2 * n + if b then 1 else 0).testBit i = match i with
      | 0 => b
      | i + 1 => n.testBit i := by
  cases i with
  | zero => cases b <;> simp [Nat.testBit_zero]
  | succ i =>
    have hhalf : (2 * n + if b then 1 else 0) / 2 = n := by
      split <;> omega
    rw [Nat.testBit_succ, hhalf]

theorem testBit_double (n i : Nat) :
    (2 * n).testBit i = match i with
      | 0 => false
      | i + 1 => n.testBit i := by
  simpa using testBit_cons n false i

theorem testBit_classMask (c : Class) (text : List Char) (i : Nat) :
    (classMask c text).testBit i = true ↔ ∃ x, text[i]? = some x ∧ c.contains x = true := by
  induction text generalizing i with
  | nil => simp [classMask]
  | cons x r ih =>
    rw [classMask, testBit_cons]
    cases i with
    | zero => simp
    | succ i => simp [ih]

theorem testBit_anchorMask (word : Class) (a : Anchor) (before : Option Char) (text : List Char)
    (i : Nat) : (anchorMask word a before text).testBit i = true ↔
      i ≤ text.length ∧ a.holds word (charBefore before text i) text[i]? = true := by
  induction text generalizing before i with
  | nil =>
    rw [anchorMask]
    cases i with
    | zero =>
      simp only [charBefore, List.length_nil, Nat.le_refl, List.getElem?_nil, true_and]
      split <;> simp_all
    | succ i => split <;> simp [Nat.testBit_succ]
  | cons x r ih =>
    rw [anchorMask, testBit_cons]
    cases i with
    | zero => simp [charBefore]
    | succ i =>
      simp only [ih, List.length_cons, Nat.add_le_add_iff_right, List.getElem?_cons_succ]
      cases i with
      | zero => rfl
      | succ i => rfl

def Within (l : Nat) (here : Nat) : Prop :=
  ∀ i, here.testBit i = true → i ≤ l

/-- `f` leads from each set of places to the places that `R` leads to. -/
structure Follows (l : Nat) (f : Nat → Nat) (R : Nat → Nat → Prop) : Prop where
  bounded : ∀ i j, i ≤ l → R i j → j ≤ l
  testBit : ∀ here, Within l here → ∀ j, (f here).testBit j = true ↔
    ∃ i, here.testBit i = true ∧ R i j

section

variable {l : Nat} {f : Nat → Nat} {R : Nat → Nat → Prop}

theorem Follows.within (h : Follows l f R) {here : Nat} (hhere : Within l here) :
    Within l (f here) := by
  intro j hj
  obtain ⟨i, hi, hij⟩ := (h.testBit here hhere j).mp hj
  exact h.bounded i j (hhere i hi) hij

theorem Follows.repeat (h : Follows l f R) (n : Nat) : Follows l (Nat.repeat f n) (Times R n) := by
  constructor
  · intro i j hi hij
    exact hij.le h.bounded hi
  induction n with
  | zero =>
    intro here _ j
    simp [Nat.repeat, Times]
  | succ n ih =>
    intro here hhere k
    have hwithin : Within l (Nat.repeat f n here) := by
      intro j hj
      obtain ⟨i, hi, hij⟩ := (ih here hhere j).mp hj
      exact hij.le h.bounded (hhere i hi)
    rw [Nat.repeat, h.testBit _ hwithin]
    simp only [ih here hhere, times_succ, exists_reached]

/-- `here` is what `m` steps lead to from `start`, and `all` what as many or fewer lead to. -/
structure Gathered (l : Nat) (R : Nat → Nat → Prop) (start m here all : Nat) : Prop where
  within : Within l here
  here_iff : ∀ j, here.testBit j = true ↔ ∃ i, start.testBit i = true ∧ Times R m i j
  all_iff : ∀ j, all.testBit j = true ↔ ∃ n ≤ m, ∃ i, start.testBit i = true ∧ Times R n i j

theorem gathered_start {start : Nat} (h : Within l start) : Gathered l R start 0 start start := by
  refine ⟨h, ?_, ?_⟩
  · intro j
    simp [Times]
  · intro j
    constructor
    · intro hj
      exact ⟨0, Nat.le_refl 0, j, hj, rfl⟩
    · rintro ⟨n, hn, i, hi, hij⟩
      obtain rfl := Nat.le_zero.mp hn
      obtain rfl : i = j := hij
      exact hi

variable {start m here all : Nat}

theorem Gathered.next (h : Gathered l R start m here all) (hf : Follows l f R) :
    Gathered l R start (m + 1) (f here) (f here ||| all) := by
  have hnext : ∀ j, (f here).testBit j = true ↔
      ∃ i, start.testBit i = true ∧ Times R (m + 1) i j := by
    intro j
    rw [hf.testBit here h.within]
    simp only [h.here_iff, times_succ, exists_reached]
  refine ⟨hf.within h.within, hnext, ?_⟩
  intro j
  rw [Nat.testBit_or, Bool.or_eq_true, hnext, h.all_iff]
  constructor
  · rintro (⟨i, hi, hij⟩ | ⟨n, hn, hrest⟩)
    · exact ⟨m + 1, Nat.le_refl _, i, hi, hij⟩
    · exact ⟨n, Nat.le_succ_of_le hn, hrest⟩
  · rintro ⟨n, hn, i, hi, hij⟩
    rcases Nat.le_succ_iff.mp hn with hn | rfl
    · exact .inr ⟨n, hn, i, hi, hij⟩
    · exact .inl ⟨i, hi, hij⟩

theorem Gathered.closed (h : Gathered l R start m here all) (hf : Follows l f R)
    (hstop : f here ||| all = all) {n i j : Nat} (hi : start.testBit i = true)
    (hij : Times R n i j) : all.testBit j = true := by
  have hnext := (h.next hf).all_iff
  rw [hstop] at hnext
  induction n generalizing j with
  | zero => exact (h.all_iff j).mpr ⟨0, Nat.zero_le m, i, hi, hij⟩
  | succ n ih =>
    obtain ⟨k, hik, hkj⟩ := times_succ.mp hij
    obtain ⟨n', hn', i', hi', hi'k⟩ := (h.all_iff k).mp (ih hik)
    exact (hnext j).mpr ⟨n' + 1, Nat.succ_le_succ hn', i', hi', times_succ.mpr ⟨k, hi'k, hkj⟩⟩

theorem Gathered.testBit_closure (h : Gathered l R start m here all) (hf : Follows l f R)
    (n j : Nat) : (closure f n here all).testBit j = true ↔
      ∃ k ≤ m + n, ∃ i, start.testBit i = true ∧ Times R k i j := by
  induction n generalizing m here all with
  | zero => exact h.all_iff j
  | succ n ih =>
    rw [closure]
    split_ifs with hstop
    · constructor
      · intro hj
        obtain ⟨k, hk, hrest⟩ := (h.all_iff j).mp hj
        exact ⟨k, Nat.le_add_right_of_le hk, hrest⟩
      · rintro ⟨k, -, i, hi, hij⟩
        exact h.closed hf hstop hi hij
    · rw [ih (h.next hf), Nat.add_right_comm, Nat.add_assoc]

def placeCount (l : Nat) (all : Nat) : Nat :=
  ((Finset.range (l + 1)).filter fun i => all.testBit i = true).card

/-- A step that brings something new brings a place of the text, and there are only so many. -/
theorem Gathered.placeCount_lt (h : Gathered l R start m here all) (hf : Follows l f R)
    (hmore : f here ||| all ≠ all) : placeCount l all < placeCount l (f here ||| all) := by
  obtain ⟨j, hj, hnew⟩ : ∃ j, (f here).testBit j = true ∧ all.testBit j = false := by
    by_contra hnone
    apply hmore
    apply Nat.eq_of_testBit_eq
    intro j
    rw [Nat.testBit_or]
    cases hall : all.testBit j with
    | true => exact Bool.or_true _
    | false =>
      rw [Bool.or_false]
      cases hj : (f here).testBit j with
      | true => exact absurd ⟨j, hj, hall⟩ hnone
      | false => rfl
  apply Finset.card_lt_card
  rw [Finset.ssubset_iff_of_subset]
  · refine ⟨j, ?_, ?_⟩
    · have hle := hf.within h.within j hj
      simp [Nat.testBit_or, hj]
      omega
    · simp [hnew]
  · intro i hi
    simp only [Finset.mem_filter, Nat.testBit_or, Bool.or_eq_true] at hi ⊢
    exact ⟨hi.1, .inr hi.2⟩

theorem Gathered.closure_closed (h : Gathered l R start m here all) (hf : Follows l f R) {n : Nat}
    (hn : l + 1 ≤ placeCount l all + n) {k i j : Nat} (hl : i ≤ l)
    (hi : start.testBit i = true) (hij : Times R k i j) :
    (closure f n here all).testBit j = true := by
  induction n generalizing m here all with
  | zero =>
    -- all places of the text are there
    have hfull : (Finset.range (l + 1)).filter (fun i => all.testBit i = true) =
        Finset.range (l + 1) := by
      apply Finset.eq_of_subset_of_card_le (Finset.filter_subset ..)
      rw [Finset.card_range]
      exact hn
    have hj : j ∈ Finset.range (l + 1) := by
      rw [Finset.mem_range]
      exact Nat.lt_succ_of_le (hij.le hf.bounded hl)
    rw [← hfull] at hj
    exact (Finset.mem_filter.mp hj).2
  | succ n ih =>
    rw [closure]
    split_ifs with hstop
    · exact h.closed hf hstop hi hij
    · have hlt := h.placeCount_lt hf hstop
      exact ih (h.next hf) (by omega)

end

theorem follows_reach (text : List Char) (e : Expr) :
    Follows text.length (e.reach text) (e.Spans text) := by
  induction e with
  | empty =>
    constructor
    · rintro i j hi rfl
      exact hi
    · intro here _ j
      simp [reach, Spans]
  | chars c =>
    constructor
    · rintro i j - ⟨rfl, x, hx, -⟩
      exact (List.getElem?_eq_some_iff.mp hx).1
    · intro here _ j
      rw [reach, testBit_double]
      cases j with
      | zero => simp [Spans]
      | succ j =>
        simp only [Nat.testBit_and, Bool.and_eq_true, testBit_classMask, Spans,
          Nat.add_right_cancel_iff]
        constructor
        · rintro ⟨hj, hx⟩
          exact ⟨j, hj, rfl, hx⟩
        · rintro ⟨i, hi, rfl, hx⟩
          exact ⟨hi, hx⟩
  | anchor a word =>
    constructor
    · rintro i j - ⟨rfl, hi, -⟩
      exact hi
    · intro here _ j
      simp only [reach, Nat.testBit_and, Bool.and_eq_true, testBit_anchorMask, Spans]
      constructor
      · rintro ⟨hj, hholds⟩
        exact ⟨j, hj, rfl, hholds⟩
      · rintro ⟨i, hi, rfl, hholds⟩
        exact ⟨hi, hholds⟩
  | seq a b iha ihb =>
    constructor
    · rintro i k hi ⟨j, hij, hjk⟩
      exact ihb.bounded j k (iha.bounded i j hi hij) hjk
    · intro here hhere k
      rw [reach, ihb.testBit _ (iha.within hhere)]
      simp only [iha.testBit here hhere, Spans, exists_reached]
  | alt a b iha ihb =>
    constructor
    · rintro i j hi (h | h)
      · exact iha.bounded i j hi h
      · exact ihb.bounded i j hi h
    · intro here hhere j
      rw [reach, Nat.testBit_or, Bool.or_eq_true, iha.testBit here hhere, ihb.testBit here hhere]
      simp only [Spans, and_or_left, exists_or]
  | «repeat» a lo hi ih =>
    constructor
    · rintro i j hle ⟨n, -, -, hij⟩
      exact hij.le ih.bounded hle
    · intro here hhere j
      -- first `lo` times, then as often as is allowed
      have hfirst := ih.repeat lo
      have hstart : Within text.length (Nat.repeat (a.reach text) lo here) := hfirst.within hhere
      have hgathered := gathered_start (R := a.Spans text) hstart
      have hsplit : ∀ k, (∃ i, (Nat.repeat (a.reach text) lo here).testBit i = true ∧
          Times (a.Spans text) k i j) ↔
          ∃ i, here.testBit i = true ∧ Times (a.Spans text) (lo + k) i j := by
        intro k
        simp only [hfirst.testBit here hhere, times_add, exists_reached]
      cases hi with
      | none =>
        constructor
        · intro hj
          obtain ⟨k, -, hk⟩ := (hgathered.testBit_closure ih _ j).mp hj
          obtain ⟨i, hi, hij⟩ := (hsplit k).mp hk
          exact ⟨i, hi, lo + k, Nat.le_add_right lo k, by simp, hij⟩
        · rintro ⟨i, hi, n, hn, -, hij⟩
          obtain ⟨k, rfl⟩ := Nat.exists_eq_add_of_le hn
          obtain ⟨i', hi', hi'j⟩ := (hsplit k).mpr ⟨i, hi, hij⟩
          exact hgathered.closure_closed ih (Nat.le_add_left ..) (hstart i' hi') hi' hi'j
      | some hi =>
        simp only [reach, hgathered.testBit_closure ih, Nat.zero_add, hsplit, Spans,
          Option.mem_some_iff, forall_eq']
        constructor
        · rintro ⟨k, hk, i, hi, hij⟩
          exact ⟨i, hi, lo + k, Nat.le_add_right lo k, by omega, hij⟩
        · rintro ⟨i, hi, n, hn, hmax, hij⟩
          obtain ⟨k, rfl⟩ := Nat.exists_eq_add_of_le hn
          exact ⟨k, by omega, i, hi, hij⟩

theorem occursIn_iff (e : Expr) (text : List Char) :
    e.occursIn text = true ↔ ∃ i j, i ≤ text.length ∧ e.Spans text i j := by
  have hall : ∀ i, (1 <<< (text.length + 1) - 1).testBit i = true ↔ i ≤ text.length := by
    intro i
    rw [Nat.one_shiftLeft, Nat.testBit_two_pow_sub_one, decide_eq_true_eq, Nat.lt_succ_iff]
  have hreach := (follows_reach text e).testBit _ fun i => (hall i).mp
  rw [occursIn, bne_iff_ne]
  constructor
  · intro hne
    obtain ⟨j, hj⟩ := Nat.exists_testBit_of_ne_zero hne
    obtain ⟨i, hi, hij⟩ := (hreach j).mp hj
    exact ⟨i, j, (hall i).mp hi, hij⟩
  · rintro ⟨i, j, hi, hij⟩ hzero
    have hj := (hreach j).mpr ⟨i, (hall i).mpr hi, hij⟩
    rw [hzero, Nat.zero_testBit] at hj
    cases hj

end Expr

end ScreenScript.Pattern
