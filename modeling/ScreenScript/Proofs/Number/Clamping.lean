import ScreenScript.Number.Word
import ScreenScript.Proofs.Number.Rounding

/-!
Words at the ends of their range. A result that lies beyond an end is held there, and so is a number
that is rounded on the way; the mean of two words lies between them and is not held at all.
-/

namespace ScreenScript

namespace Word

def nearest (n : Int) : Int :=
  max (-2 ^ 63) (min n (2 ^ 63 - 1))

theorem toInt_clamp (n : Int) : (clamp n).toInt = nearest n := by
  have hmin := Int64.toInt_minValue
  have hmax := Int64.toInt_maxValue
  rw [clamp, Int64.ofIntClamp, nearest]
  split_ifs with hlow hhigh
  · rw [Int64.toInt_ofIntLE]
    omega
  · omega
  · omega

theorem range (a : Int64) : -2 ^ 63 ≤ a.toInt ∧ a.toInt ≤ 2 ^ 63 - 1 := by
  have hmin := Int64.toInt_minValue
  have hmax := Int64.toInt_maxValue
  exact ⟨hmin ▸ a.minValue_le_toInt, hmax ▸ a.toInt_le⟩

theorem nearest_word (a : Int64) : nearest a.toInt = a.toInt := by
  have h := range a
  rw [nearest]
  omega

theorem toInt_saturatingAdd (a b : Int64) :
    (saturatingAdd a b).toInt = nearest (a.toInt + b.toInt) :=
  toInt_clamp _

theorem toInt_saturatingSub (a b : Int64) :
    (saturatingSub a b).toInt = nearest (a.toInt - b.toInt) :=
  toInt_clamp _

theorem tdiv_between (m n : Int) : min m n ≤ (m + n).tdiv 2 ∧ (m + n).tdiv 2 ≤ max m n := by
  rcases Int.le_total 0 (m + n) with hsign | hsign
  · rw [Int.tdiv_eq_ediv_of_nonneg hsign]
    omega
  · have hneg : (m + n).tdiv 2 = -((-(m + n)) / 2) := by
      rw [← Int.tdiv_eq_ediv_of_nonneg (by omega), Int.neg_tdiv, Int.neg_neg]
    omega

theorem toInt_midpoint (a b : Int64) : (midpoint a b).toInt = (a.toInt + b.toInt).tdiv 2 := by
  have ha := range a
  have hb := range b
  have hbetween := tdiv_between a.toInt b.toInt
  have hmin := Int64.toInt_minValue
  rw [midpoint, Int64.toInt_ofInt_of_le (by omega) (by omega)]

theorem text_eq (a : Int64) : text a = toString a.toInt := by
  rw [text, Decimal.text]
  cases a.toInt with
  | ofNat n => rfl
  | negSucc n =>
    change String.ofList ('-' :: Nat.toDigits 10 (n + 1)) =
      "-" ++ String.ofList (Nat.toDigits 10 (n + 1))
    rw [← String.toList_inj]
    simp

end Word

namespace Binary64

theorem le_divEven (a b : Nat) : a / b ≤ divEven a b := by
  simp only [divEven]
  split
  · omega
  · split <;> omega

theorem round_beyond {n : Nat} (hn : 2 ^ 63 ≤ n) (s : Bool) :
    round s n 1 = infinite s ∨ ∃ m e, round s n 1 = finite s m e ∧ 2 ^ 63 ≤ wholePart m e := by
  have hzero : n ≠ 0 := by omega
  have hlog : 63 ≤ n.log2 := (Nat.le_log2 hzero).mpr hn
  have hmax : max ((n.log2 : Int) - 52) (-1074) = n.log2 - 52 := by omega
  have hpos : (0 : Int) ≤ n.log2 - 52 := by omega
  have hexp : ((n.log2 : Int) - 52).toNat = n.log2 - 52 := by omega
  have hfull : leastFull = 2 ^ 52 := by decide
  -- The significand is full, and is moved up by eleven places or more.
  have hquotient : leastFull ≤ divEven n (1 <<< (n.log2 - 52)) := by
    have hsum : 52 + (n.log2 - 52) = n.log2 := by omega
    refine le_trans ?_ (le_divEven _ _)
    rw [Nat.one_shiftLeft, Nat.le_div_iff_mul_le (Nat.two_pow_pos _), hfull, ← Nat.pow_add, hsum]
    exact Nat.log2_self_le hzero
  have hmoved (m : Nat) (e : Int) (hm : leastFull ≤ m) (he : 11 ≤ e) : 2 ^ 63 ≤ wholePart m e := by
    rw [wholePart, if_pos (by omega), Nat.shiftLeft_eq]
    calc 2 ^ 63 = leastFull * 2 ^ 11 := by decide
      _ ≤ m * 2 ^ e.toNat := Nat.mul_le_mul hm (Nat.pow_le_pow_right (by decide) (by omega))
  simp only [round, hzero, if_false, floorLog2_one hzero, hmax, scaled, hpos, if_true, hexp]
  by_cases hcarry : divEven n (1 <<< (n.log2 - 52)) = 2 * leastFull
  · simp only [hcarry, if_true]
    split
    · exact .inl rfl
    · exact .inr ⟨_, _, rfl, hmoved _ _ le_rfl (by omega)⟩
  · simp only [hcarry, if_false]
    split
    · exact .inl rfl
    · exact .inr ⟨_, _, rfl, hmoved _ _ hquotient (by omega)⟩

theorem toWord_finite {s : Bool} {m : Nat} {e : Int} (h : 2 ^ 63 ≤ wholePart m e) :
    (finite s m e).toWord = if s then Int64.minValue else Int64.maxValue := by
  have hclamp := Word.toInt_clamp (signed s (wholePart m e))
  rw [Word.clamp, Word.nearest] at hclamp
  have hmin := Int64.toInt_minValue
  have hmax := Int64.toInt_maxValue
  rw [toWord]
  apply Int64.toInt_inj.mp
  cases s with
  | false =>
    simp only [signed, Bool.false_eq_true, if_false] at hclamp ⊢
    omega
  | true =>
    simp only [signed, if_true] at hclamp ⊢
    omega

theorem toWord_ofDecimal (s : Bool) {m : Nat} (hm : 2 ^ 63 ≤ m) :
    (ofDecimal s m 0).toWord = if s then Int64.minValue else Int64.maxValue := by
  have hzero : m ≠ 0 := by omega
  simp only [ofDecimal, hzero, if_false, Int.zero_add]
  split
  · rfl
  · rw [if_neg (by omega), if_pos le_rfl]
    have hscale : m * Nat.pow 10 (Int.toNat 0) = m := Nat.mul_one m
    rw [hscale]
    rcases round_beyond hm s with hround | ⟨k, e, hround, hk⟩
    · rw [hround, toWord]
    · rw [hround, toWord_finite hk]

end Binary64

end ScreenScript
