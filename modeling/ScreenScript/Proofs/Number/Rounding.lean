import ScreenScript.Json.Numeral
import Mathlib.Algebra.Order.Field.Power
import Mathlib.Algebra.Order.Ring.Rat
import Mathlib.Data.Nat.Cast.Order.Field
import Mathlib.Tactic.Linarith
import Mathlib.Tactic.Positivity
import Mathlib.Tactic.Ring

/-!
Significands of floating-point numbers fit 53 bits, so a word that has passed through such a number
passes through another one unchanged.
-/

namespace ScreenScript

namespace Binary64

def Proper : Binary64 → Prop
  | finite _ m _ => m < 2 ^ 53
  | _ => True

theorem divEven_le {a b n : Nat} (h : a < n * b) : divEven a b ≤ n := by
  have hq : a / b < n := Nat.div_lt_of_lt_mul (by rwa [Nat.mul_comm])
  have heven : a / b % 2 ≤ 1 := by omega
  simp only [divEven]
  split
  · omega
  · split <;> omega

theorem scaled_spec (num den : Nat) (e : Int) :
    ∃ c : ℚ, 0 < c ∧ ((scaled num den e).1 : ℚ) = num * c ∧
      ((scaled num den e).2 : ℚ) = den * 2 ^ e * c := by
  by_cases he : 0 ≤ e
  · have hexp : (2 : ℚ) ^ e = 2 ^ e.toNat := by
      rw [← zpow_natCast, Int.toNat_of_nonneg he]
    refine ⟨1, one_pos, ?_, ?_⟩
    · simp [scaled, he]
    · simp [scaled, he, Nat.shiftLeft_eq, hexp]
  · have hexp : (2 : ℚ) ^ (-e) = 2 ^ (-e).toNat := by
      rw [← zpow_natCast, Int.toNat_of_nonneg (by omega)]
    refine ⟨2 ^ (-e), by positivity, ?_, ?_⟩
    · simp only [scaled, he, if_false, Nat.shiftLeft_eq, Nat.cast_mul, Nat.cast_pow,
        Nat.cast_ofNat, hexp]
    · rw [mul_assoc, ← zpow_add₀ two_ne_zero, add_neg_cancel, zpow_zero, mul_one]
      simp [scaled, he]

theorem scaled_lt {num den n : Nat} {e : Int} (h : (num : ℚ) < n * (den * 2 ^ e)) :
    (scaled num den e).1 < n * (scaled num den e).2 := by
  obtain ⟨c, hc, hnum, hden⟩ := scaled_spec num den e
  have hlt := mul_lt_mul_of_pos_right h hc
  rw [mul_assoc (n : ℚ), ← hnum, ← hden] at hlt
  exact_mod_cast hlt

theorem lt_of_scaled_lt {num den : Nat} {e : Int}
    (h : (scaled num den e).1 < (scaled num den e).2) : (num : ℚ) < den * 2 ^ e := by
  obtain ⟨c, hc, hnum, hden⟩ := scaled_spec num den e
  have hlt : ((scaled num den e).1 : ℚ) < (scaled num den e).2 := by exact_mod_cast h
  rw [hnum, hden] at hlt
  exact lt_of_mul_lt_mul_right hlt hc.le

theorem lt_floorLog2 {num den : Nat} (hden : den ≠ 0) :
    (num : ℚ) < den * 2 ^ (floorLog2 num den + 1) := by
  have hnum : (num : ℚ) < 2 ^ (num.log2 + 1) := by exact_mod_cast Nat.lt_log2_self
  have hlow : (2 : ℚ) ^ den.log2 ≤ den := by exact_mod_cast Nat.log2_self_le hden
  simp only [floorLog2]
  split
  · calc (num : ℚ) < 2 ^ (num.log2 + 1) := hnum
      _ = 2 ^ den.log2 * 2 ^ ((num.log2 : Int) - den.log2 + 1) := by
        rw [← zpow_natCast, ← zpow_natCast, ← zpow_add₀ two_ne_zero]
        congr 1
        push_cast
        omega
      _ ≤ den * 2 ^ ((num.log2 : Int) - den.log2 + 1) :=
        mul_le_mul_of_nonneg_right hlow (by positivity)
  · next hlt =>
    rw [sub_add_cancel]
    exact lt_of_scaled_lt (Nat.lt_of_not_le hlt)

theorem round_proper {den : Nat} (hden : den ≠ 0) (s : Bool) (num : Nat) :
    (round s num den).Proper := by
  simp only [round]
  split
  · exact Nat.two_pow_pos 53
  · let e := max (floorLog2 num den - 52) (-1074)
    have hquotient : (scaled num den e).1 < 2 ^ 53 * (scaled num den e).2 := by
      apply scaled_lt
      have hexp : (2 : ℚ) ^ (floorLog2 num den + 1) ≤ 2 ^ (53 + e) :=
        zpow_le_zpow_right₀ (by norm_num) (by omega)
      have hnum : (num : ℚ) < den * 2 ^ (floorLog2 num den + 1) := lt_floorLog2 hden
      calc (num : ℚ) < den * 2 ^ (floorLog2 num den + 1) := hnum
        _ ≤ den * 2 ^ (53 + e) := mul_le_mul_of_nonneg_left hexp (by positivity)
        _ = ((2 ^ 53 : Nat) : ℚ) * (den * 2 ^ e) := by
          rw [zpow_add₀ two_ne_zero]
          push_cast
          ring
    have hm := divEven_le hquotient
    by_cases hcarry : divEven (scaled num den e).1 (scaled num den e).2 = 2 * leastFull
    · simp only [e] at hcarry
      simp only [hcarry, if_true]
      split
      · trivial
      · exact (by decide : leastFull < 2 ^ 53)
    · have hlt : divEven (scaled num den e).1 (scaled num den e).2 < 2 ^ 53 :=
        lt_of_le_of_ne hm fun heq => hcarry (by rw [heq]; decide)
      simp only [e] at hcarry hlt
      simp only [hcarry, if_false]
      split
      · trivial
      · exact hlt

theorem ofInt_proper (n : Int) : (ofInt n).Proper :=
  round_proper one_ne_zero _ _

theorem ofScaled_proper (s : Bool) (n e : Int) : (ofScaled s n e).Proper := by
  rw [ofScaled]
  split_ifs
  · exact Nat.two_pow_pos 53
  · exact round_proper one_ne_zero _ _
  · refine round_proper ?_ _ _
    rw [Nat.one_shiftLeft]
    exact (Nat.two_pow_pos _).ne'

theorem mul_proper (x y : Binary64) : (x.mul y).Proper := by
  unfold mul
  split
  all_goals first
    | trivial
    | exact ofScaled_proper _ _ _
    | (split <;> trivial)

theorem div_proper (x y : Binary64) : (x.div y).Proper := by
  unfold div
  split
  all_goals try trivial
  · exact Nat.two_pow_pos 53
  · next s m e t n f =>
    split_ifs with hn hm hle
    · trivial
    · trivial
    · exact round_proper hn _ _
    · refine round_proper ?_ _ _
      rw [lower, Nat.shiftLeft_eq]
      exact Nat.mul_ne_zero hn (Nat.two_pow_pos _).ne'

theorem neg_proper {x : Binary64} (h : x.Proper) : x.neg.Proper := by
  cases x with
  | nan => trivial
  | infinite s => trivial
  | finite s m e => exact h

theorem floorLog2_one {n : Nat} (hn : n ≠ 0) : floorLog2 n 1 = n.log2 := by
  have hlog : Nat.log2 1 = 0 := by decide
  have hle : 2 ^ n.log2 ≤ n := Nat.log2_self_le hn
  simp [floorLog2, hlog, scaled, Nat.shiftLeft_eq, hle]

/-- All of `n` but its 53 first bits is zero. -/
def Short (n : Nat) : Prop :=
  ∃ m k, n = m * 2 ^ k ∧ m < 2 ^ 53

theorem Short.dvd {n : Nat} (h : Short n) (hn : n ≠ 0) : 2 ^ (n.log2 - 52) ∣ n := by
  obtain ⟨m, k, rfl, hm⟩ := h
  apply Dvd.dvd.mul_left
  apply Nat.pow_dvd_pow
  have hlow := Nat.log2_self_le hn
  have hhigh : m * 2 ^ k < 2 ^ (53 + k) := by
    rw [Nat.pow_add]
    exact Nat.mul_lt_mul_of_pos_right hm (Nat.two_pow_pos k)
  have hlog := (Nat.pow_lt_pow_iff_right (by decide)).mp (lt_of_le_of_lt hlow hhigh)
  omega

theorem round_short {n : Nat} (hn : n < 2 ^ 64) (hshort : Short n) (s : Bool) :
    ∃ m e, round s n 1 = finite s m e ∧ wholePart m e = n := by
  by_cases hzero : n = 0
  · subst hzero
    exact ⟨0, -1074, by simp [round], by decide⟩
  · have hlog : n.log2 < 64 := (Nat.log2_lt hzero).mpr hn
    have hmax : max ((n.log2 : Int) - 52) (-1074) = n.log2 - 52 := by omega
    by_cases hsmall : n.log2 < 52
    -- A number below 2 ^ 52 is moved up until its mantissa is full, and moved down again.
    · have hneg : ¬ (0 : Int) ≤ n.log2 - 52 := by omega
      have hexp : (-((n.log2 : Int) - 52)).toNat = 52 - n.log2 := by omega
      have heven : divEven (n <<< (52 - n.log2)) 1 = n <<< (52 - n.log2) := by
        simp [divEven, Nat.mod_one]
      have hbound : n <<< (52 - n.log2) < 2 * leastFull := by
        rw [Nat.shiftLeft_eq]
        calc n * 2 ^ (52 - n.log2) < 2 ^ (n.log2 + 1) * 2 ^ (52 - n.log2) :=
              Nat.mul_lt_mul_of_pos_right Nat.lt_log2_self (Nat.two_pow_pos _)
          _ = 2 ^ 53 := by rw [← Nat.pow_add]; congr 1; omega
          _ = 2 * leastFull := by decide
      refine ⟨n <<< (52 - n.log2), n.log2 - 52, ?_, ?_⟩
      · have hover : ¬ (971 : Int) < n.log2 - 52 := by omega
        simp only [round, hzero, if_false, floorLog2_one hzero, hmax, scaled, hneg, hexp, heven,
          hbound.ne, hover]
      · rw [wholePart, if_neg hneg, hexp, Nat.shiftLeft_shiftRight]
    -- Of a larger one only zeros are cut, so there is nothing to round.
    · have hpos : (0 : Int) ≤ n.log2 - 52 := by omega
      have hexp : ((n.log2 : Int) - 52).toNat = n.log2 - 52 := by omega
      obtain ⟨m, hm⟩ := hshort.dvd hzero
      have hpow : 0 < 2 ^ (n.log2 - 52) := Nat.two_pow_pos _
      have heven : divEven n (1 <<< (n.log2 - 52)) = m := by
        rw [Nat.one_shiftLeft]
        have hmod : n % 2 ^ (n.log2 - 52) = 0 := Nat.mod_eq_zero_of_dvd ⟨m, hm⟩
        have hdiv : n / 2 ^ (n.log2 - 52) = m := Nat.div_eq_of_eq_mul_right hpow hm
        simp [divEven, hmod, hdiv]
      have hbound : m < 2 * leastFull := by
        have hlt : 2 ^ (n.log2 - 52) * m < 2 ^ (n.log2 - 52) * 2 ^ 53 := by
          rw [← hm, ← Nat.pow_add]
          have hsum : n.log2 - 52 + 53 = n.log2 + 1 := by omega
          rw [hsum]
          exact Nat.lt_log2_self
        exact Nat.lt_of_mul_lt_mul_left hlt
      refine ⟨m, n.log2 - 52, ?_, ?_⟩
      · have hover : ¬ (971 : Int) < n.log2 - 52 := by omega
        simp only [round, hzero, if_false, floorLog2_one hzero, hmax, scaled, hpos, if_true, hexp,
          heven, hbound.ne, hover]
      · rw [wholePart, if_pos hpos, hexp, Nat.shiftLeft_eq, Nat.mul_comm, ← hm]

theorem signed_natAbs (n : Int) : signed (n < 0) n.natAbs = n := by
  by_cases h : n < 0
  · simp only [signed, h, decide_true, if_true]
    omega
  · simp only [signed, h, decide_false, Bool.false_eq_true, if_false]
    omega

theorem toWord_ofInt {n : Int} (hn : n.natAbs < 2 ^ 64) (hshort : Short n.natAbs) :
    (ofInt n).toWord = Int64.ofIntClamp n := by
  obtain ⟨m, e, hround, hwhole⟩ := round_short hn hshort (n < 0)
  rw [ofInt, hround, toWord, hwhole, signed_natAbs]

end Binary64

namespace Word

/-- What is left of a word that is read as a floating-point number. -/
def throughReal (n : Int64) : Int64 :=
  (Binary64.ofInt n.toInt).toWord

theorem throughReal_short {n : Int64} (h : Binary64.Short n.toInt.natAbs) : throughReal n = n := by
  have hlow := n.minValue_le_toInt
  have hhigh := n.toInt_le
  have hmin : Int64.minValue.toInt = -2 ^ 63 := by decide
  have hmax : Int64.maxValue.toInt = 2 ^ 63 - 1 := by decide
  rw [throughReal, Binary64.toWord_ofInt (by omega) h, Int64.ofIntClamp_toInt]

theorem throughReal_small {n : Int64} (h : n.toInt.natAbs ≤ 2 ^ 53) : throughReal n = n := by
  apply throughReal_short
  by_cases heq : n.toInt.natAbs = 2 ^ 53
  · exact ⟨1, 53, by rw [heq, one_mul], by decide⟩
  · exact ⟨n.toInt.natAbs, 0, by rw [pow_zero, mul_one], by omega⟩

theorem ofIntClamp_cases (n : Int) :
    Int64.ofIntClamp n = Int64.minValue ∨ Int64.ofIntClamp n = Int64.maxValue ∨
      (Int64.ofIntClamp n).toInt = n := by
  rw [Int64.ofIntClamp]
  split_ifs with hlow hhigh
  · exact .inr (.inr Int64.toInt_ofIntLE)
  · exact .inr (.inl rfl)
  · exact .inl rfl

theorem throughReal_bounds :
    throughReal Int64.minValue = Int64.minValue ∧ throughReal Int64.maxValue = Int64.maxValue := by
  decide +kernel

end Word

namespace Binary64

theorem wholePart_short {m : Nat} (hm : m < 2 ^ 53) (e : Int) : Short (wholePart m e) := by
  rw [wholePart]
  split
  · exact ⟨m, e.toNat, Nat.shiftLeft_eq m e.toNat, hm⟩
  · refine ⟨m >>> (-e).toNat, 0, by rw [pow_zero, mul_one], ?_⟩
    rw [Nat.shiftRight_eq_div_pow]
    exact lt_of_le_of_lt (Nat.div_le_self _ _) hm

theorem throughReal_toWord {x : Binary64} (h : x.Proper) :
    Word.throughReal x.toWord = x.toWord := by
  cases x with
  | nan => exact Word.throughReal_small (by decide)
  | infinite s =>
    cases s with
    | false => exact Word.throughReal_bounds.2
    | true => exact Word.throughReal_bounds.1
  | finite s m e =>
    rcases Word.ofIntClamp_cases (signed s (wholePart m e)) with hmin | hmax | hexact
    · rw [toWord, hmin, Word.throughReal_bounds.1]
    · rw [toWord, hmax, Word.throughReal_bounds.2]
    · apply Word.throughReal_short
      have habs : (signed s (wholePart m e)).natAbs = wholePart m e := by
        cases s <;> simp [signed]
      rw [toWord, hexact, habs]
      exact wholePart_short h e

end Binary64

namespace Json

open Binary64

theorem Numeral.scale_proper {x y : Binary64} (hx : x.Proper) (e : Int) (steps : Nat)
    (h : scale x e steps = some y) : y.Proper := by
  induction steps generalizing x e with
  | zero =>
    cases h
    exact hx
  | succ steps ih =>
    simp only [scale] at h
    split_ifs at h
    all_goals first
      | (cases h; first | exact hx | exact mul_proper _ _ | exact div_proper _ _)
      | exact ih (div_proper _ _) _ h

theorem Numeral.real_proper {negative : Bool} {m : Nat} {e : Int} {x : Binary64}
    (h : real? negative m e = some x) : x.Proper := by
  obtain ⟨y, hy, rfl⟩ := Option.map_eq_some_iff.mp h
  have hproper := scale_proper (ofInt_proper m) _ _ hy
  split
  · exact neg_proper hproper
  · exact hproper

theorem Numeral.withExponent_proper {negative : Bool} {m : Nat} {shift : Int}
    {e : Option (Bool × List Char)} {x : Binary64}
    (h : withExponent negative m shift e = some x) : x.Proper := by
  cases e with
  | none => exact real_proper h
  | some e =>
    simp only [withExponent] at h
    split_ifs at h
    · cases h
      exact Nat.two_pow_pos 53
    · exact real_proper h
    · exact real_proper h

theorem Numeral.number_proper {t : Numeral} {n : Number} (h : t.number? = some n) :
    n.toReal.Proper := by
  unfold number? at h
  split at h
  · split at h
    · split_ifs at h
      · cases h
        exact ofInt_proper _
      · cases h
        exact neg_proper (ofInt_proper _)
      · cases h
        exact ofInt_proper _
    · obtain ⟨x, hx, rfl⟩ := Option.map_eq_some_iff.mp h
      exact withExponent_proper hx
    · obtain ⟨x, hx, rfl⟩ := Option.map_eq_some_iff.mp h
      exact withExponent_proper hx
  · split at h
    · obtain ⟨x, hx, rfl⟩ := Option.map_eq_some_iff.mp h
      exact withExponent_proper hx
    · obtain ⟨x, hx, rfl⟩ := Option.map_eq_some_iff.mp h
      exact withExponent_proper hx

end Json

end ScreenScript
