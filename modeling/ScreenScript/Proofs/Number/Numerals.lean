import ScreenScript.Host.Answer
import ScreenScript.Proofs.Number.Clamping
import ScreenScript.Proofs.Number.Signed
import Mathlib

/-!
The two forms that numbers have in answers: every text of one of them is read as a number, and no
other text is.
-/

namespace ScreenScript

namespace Decimal

/-- The text is a run of digits, with a sign in front of it at most, and denotes `z`. -/
def Denotes (s : List Char) (z : Int) : Prop :=
  ∃ sign digits, s = sign ++ digits ∧ digits ≠ [] ∧ (∀ c ∈ digits, c.isDigit = true) ∧
    ((sign = [] ∨ sign = ['+']) ∧ z = Nat.ofDigitChars 10 digits 0 ∨
      sign = ['-'] ∧ z = -Nat.ofDigitChars 10 digits 0)

/-- Digits, of which some may stand behind a point. -/
inductive Mantissa : List Char → Prop
  | whole {ds : List Char} (hne : ds ≠ []) (hds : ∀ c ∈ ds, c.isDigit = true) : Mantissa ds
  | point {ds fs : List Char} (hne : ds ++ fs ≠ []) (hds : ∀ c ∈ ds, c.isDigit = true)
      (hfs : ∀ c ∈ fs, c.isDigit = true) : Mantissa (ds ++ '.' :: fs)

inductive Exponent : List Char → Prop
  | none : Exponent []
  | some {c : Char} {s : List Char} {z : Int} (hc : c = 'e' ∨ c = 'E') (hz : Denotes s z) :
      Exponent (c :: s)

def Named (s : List Char) : Prop :=
  s.map Char.toLower = "inf".toList ∨ s.map Char.toLower = "infinity".toList ∨
    s.map Char.toLower = "nan".toList

def Floating (s : List Char) : Prop :=
  ∃ sign body, s = sign ++ body ∧ (sign = [] ∨ sign = ['+'] ∨ sign = ['-']) ∧
    (Named body ∨ ∃ m e, body = m ++ e ∧ Mantissa m ∧ Exponent e)

theorem readInt?_isSome {s : List Char} : (readInt? s).isSome ↔ ∃ z, Denotes s z := by
  simp only [Option.isSome_iff_exists, Word.readInt?_eq_some, Denotes]

theorem isAlpha_digit {c : Char} (h : c.isDigit = true) : c.isAlpha = false := by
  simp_all only [Char.isAlpha, Char.isDigit, Char.isUpper, Char.isLower]
  grind

theorem Named.isAlpha {s : List Char} (h : Named s) : ∀ c ∈ s, c.isAlpha = true := by
  have hletters : ∀ c ∈ s.map Char.toLower, c.isAlpha = true := by
    rcases h with h | h | h
    all_goals
      rw [h]
      simp
  intro c hc
  rw [← Char.isAlpha_toLower_eq_isAlpha]
  exact hletters _ (List.mem_map_of_mem hc)

theorem not_named_digits {s : List Char} (hne : s ≠ []) (h : ∀ c ∈ s, c.isDigit = true) :
    ¬ Named s := by
  intro hnamed
  obtain ⟨c, hc⟩ := List.exists_mem_of_ne_nil s hne
  have halpha := hnamed.isAlpha c hc
  rw [isAlpha_digit (h c hc)] at halpha
  cases halpha

theorem head_of_body {s : List Char}
    (h : Named s ∨ ∃ m e, s = m ++ e ∧ Mantissa m ∧ Exponent e) :
    ∀ c ∈ s.head?, c ≠ '+' ∧ c ≠ '-' := by
  have hdigit : ∀ c : Char, c.isDigit = true → c ≠ '+' ∧ c ≠ '-' := by
    rintro c hc
    constructor
    all_goals
      rintro rfl
      cases hc
  intro c hc
  rcases h with h | ⟨m, e, rfl, hm, -⟩
  · have halpha := h.isAlpha c (List.mem_of_mem_head? hc)
    constructor
    all_goals
      rintro rfl
      cases halpha
  · cases hm with
    | whole hne hds =>
      cases m with
      | nil => exact absurd rfl hne
      | cons d ds =>
        cases hc
        exact hdigit c (hds c (List.mem_cons_self ..))
    | @point ds fs hne hds hfs =>
      cases ds with
      | nil =>
        cases hc
        decide
      | cons d ds =>
        cases hc
        exact hdigit c (hds c (List.mem_cons_self ..))

theorem span_digits {ds rest : List Char} (hds : ∀ c ∈ ds, c.isDigit = true)
    (hrest : ∀ c ∈ rest.head?, isDigit c = false) :
    (ds ++ rest).takeWhile isDigit = ds ∧ (ds ++ rest).dropWhile isDigit = rest := by
  have hpos : ∀ c ∈ ds, isDigit c = true := hds
  rw [List.takeWhile_append_of_pos hpos, List.dropWhile_append_of_pos hpos]
  cases rest with
  | nil => simp
  | cons c r => simp [hrest c rfl]

theorem exists_span (s : List Char) : ∃ ds rest, s = ds ++ rest ∧
    (∀ c ∈ ds, c.isDigit = true) ∧ ∀ c ∈ rest.head?, isDigit c = false := by
  refine ⟨s.takeWhile isDigit, s.dropWhile isDigit, (List.takeWhile_append_dropWhile ..).symm,
    fun c hc => List.mem_takeWhile_imp hc, ?_⟩
  intro c hc
  have h := List.head?_dropWhile_not isDigit s
  rw [hc] at h
  simpa using h

theorem Exponent.head {e : List Char} (h : Exponent e) :
    ∀ c ∈ e.head?, isDigit c = false ∧ c ≠ '.' := by
  cases h with
  | none => nofun
  | some hc _ =>
    rintro c ⟨⟩
    rcases hc with rfl | rfl <;> decide

end Decimal

namespace Answer

open Decimal

/-- What becomes of the digits around a point, and of the text behind them. -/
def assembled? (negative : Bool) (whole fraction rest : List Char) : Option Binary64 :=
  let number (e : Int) := some (Binary64.ofDecimal negative (Decimal.value (whole ++ fraction))
    (e - fraction.length))
  if (whole ++ fraction).isEmpty then none
  else match rest with
  | [] => number 0
  | c :: r => if c = 'e' ∨ c = 'E' then (Decimal.readInt? r).bind number else none

theorem realDigits?_whole (negative : Bool) {ds rest : List Char}
    (hds : ∀ c ∈ ds, c.isDigit = true)
    (hrest : ∀ c ∈ rest.head?, Decimal.isDigit c = false ∧ c ≠ '.') :
    realDigits? negative (ds ++ rest) = assembled? negative ds [] rest := by
  obtain ⟨htake, hdrop⟩ := span_digits hds fun c hc => (hrest c hc).1
  rw [realDigits?, htake, hdrop]
  cases rest with
  | nil => rfl
  | cons c r =>
    have hpoint := (hrest c rfl).2
    split
    next fraction rest heq =>
    split at heq
    · next heq' => exact absurd (List.cons.inj heq').1 hpoint
    · cases heq
      rfl

theorem realDigits?_point (negative : Bool) {ds fs rest : List Char}
    (hds : ∀ c ∈ ds, c.isDigit = true) (hfs : ∀ c ∈ fs, c.isDigit = true)
    (hrest : ∀ c ∈ rest.head?, Decimal.isDigit c = false) :
    realDigits? negative (ds ++ '.' :: (fs ++ rest)) = assembled? negative ds fs rest := by
  have hpoint : ∀ c ∈ ('.' :: (fs ++ rest)).head?, Decimal.isDigit c = false := by
    rintro c ⟨⟩
    decide
  obtain ⟨htake, hdrop⟩ := span_digits hds hpoint
  obtain ⟨htake', hdrop'⟩ := span_digits hfs hrest
  rw [realDigits?, htake, hdrop]
  change assembled? negative ds ((fs ++ rest).takeWhile Decimal.isDigit)
    ((fs ++ rest).dropWhile Decimal.isDigit) = _
  rw [htake', hdrop']

theorem assembled?_isSome {negative : Bool} {ds fs rest : List Char} :
    (assembled? negative ds fs rest).isSome ↔ ds ++ fs ≠ [] ∧ Exponent rest := by
  unfold assembled?
  by_cases hempty : ds ++ fs = []
  · simp [hempty]
  have hsome : (ds ++ fs).isEmpty = false := by simpa using hempty
  simp only [hsome, Bool.false_eq_true, if_false, hempty, not_false_eq_true, ne_eq, true_and]
  cases rest with
  | nil => exact ⟨fun _ => .none, fun _ => rfl⟩
  | cons c r =>
    dsimp only
    by_cases hc : c = 'e' ∨ c = 'E'
    · have hread : ((Decimal.readInt? r).bind fun e => some (Binary64.ofDecimal negative
          (Decimal.value (ds ++ fs)) (e - fs.length))).isSome = (Decimal.readInt? r).isSome := by
        cases Decimal.readInt? r <;> rfl
      rw [if_pos hc, hread, readInt?_isSome]
      constructor
      · rintro ⟨z, hz⟩
        exact .some hc hz
      · rintro (_ | ⟨_, hz⟩)
        exact ⟨_, hz⟩
    · rw [if_neg hc]
      constructor
      · nofun
      · rintro (_ | ⟨hc', _⟩)
        exact absurd hc' hc

theorem realDigits?_isSome {negative : Bool} {s : List Char} :
    (realDigits? negative s).isSome ↔ ∃ m e, s = m ++ e ∧ Mantissa m ∧ Exponent e := by
  constructor
  · intro h
    obtain ⟨ds, rest, rfl, hds, hrest⟩ := exists_span s
    by_cases hpoint : ∃ r, rest = '.' :: r
    · obtain ⟨r, rfl⟩ := hpoint
      obtain ⟨fs, e, rfl, hfs, he⟩ := exists_span r
      rw [realDigits?_point negative hds hfs he, assembled?_isSome] at h
      exact ⟨ds ++ '.' :: fs, e, by simp, .point h.1 hds hfs, h.2⟩
    · have hhead : ∀ c ∈ rest.head?, Decimal.isDigit c = false ∧ c ≠ '.' := by
        intro c hc
        refine ⟨hrest c hc, ?_⟩
        rintro rfl
        exact hpoint ⟨rest.tail, List.eq_cons_of_mem_head? hc⟩
      rw [realDigits?_whole negative hds hhead, assembled?_isSome, List.append_nil] at h
      exact ⟨ds, rest, rfl, .whole h.1 hds, h.2⟩
  · rintro ⟨m, e, rfl, hm, he⟩
    cases hm with
    | whole hne hds =>
      rw [realDigits?_whole negative hds he.head, assembled?_isSome, List.append_nil]
      exact ⟨hne, he⟩
    | @point ds fs hne hds hfs =>
      rw [List.append_assoc, List.cons_append,
        realDigits?_point negative hds hfs fun c hc => (he.head c hc).1, assembled?_isSome]
      exact ⟨hne, he⟩

def unsigned? (negative : Bool) (s : List Char) : Option Binary64 :=
  if isWord "inf" s || isWord "infinity" s then some (.infinite negative)
  else if isWord "nan" s then some .nan
  else realDigits? negative s

theorem real?_plus (s : List Char) : real? ('+' :: s) = unsigned? false s := rfl

theorem real?_minus (s : List Char) : real? ('-' :: s) = unsigned? true s := rfl

theorem real?_bare {s : List Char} (h : ∀ c ∈ s.head?, c ≠ '+' ∧ c ≠ '-') :
    real? s = unsigned? false s := by
  unfold real?
  split
  next negative r heq =>
  split at heq
  · exact absurd rfl (h _ rfl).2
  · exact absurd rfl (h _ rfl).1
  · cases heq
    rfl

theorem unsigned?_isSome {negative : Bool} {s : List Char} : (unsigned? negative s).isSome ↔
    Named s ∨ ∃ m e, s = m ++ e ∧ Mantissa m ∧ Exponent e := by
  rw [← @realDigits?_isSome negative, unsigned?]
  have hword (w : String) : isWord w s = true ↔ s.map Char.toLower = w.toList := by
    rw [isWord, decide_eq_true_eq]
  rw [Named, ← hword, ← hword, ← hword]
  cases isWord "inf" s <;> cases isWord "infinity" s <;> cases isWord "nan" s <;> simp

theorem real?_isSome {s : List Char} : (real? s).isSome ↔ Floating s := by
  constructor
  · intro h
    by_cases hsign : ∃ c r, s = c :: r ∧ (c = '+' ∨ c = '-')
    · obtain ⟨c, r, rfl, rfl | rfl⟩ := hsign
      · rw [real?_plus, unsigned?_isSome] at h
        exact ⟨['+'], r, rfl, .inr (.inl rfl), h⟩
      · rw [real?_minus, unsigned?_isSome] at h
        exact ⟨['-'], r, rfl, .inr (.inr rfl), h⟩
    · have hhead : ∀ c ∈ s.head?, c ≠ '+' ∧ c ≠ '-' := by
        intro c hc
        rw [← not_or]
        exact fun hc' => hsign ⟨c, s.tail, List.eq_cons_of_mem_head? hc, hc'⟩
      rw [real?_bare hhead, unsigned?_isSome] at h
      exact ⟨[], s, rfl, .inl rfl, h⟩
  · rintro ⟨sign, body, rfl, rfl | rfl | rfl, hbody⟩
    · rw [List.nil_append, real?_bare (head_of_body hbody), unsigned?_isSome]
      exact hbody
    · rw [List.singleton_append, real?_plus, unsigned?_isSome]
      exact hbody
    · rw [List.singleton_append, real?_minus, unsigned?_isSome]
      exact hbody

theorem assembled?_digits (negative : Bool) {ds : List Char} (hne : ds ≠ []) :
    assembled? negative ds [] [] = some (.ofDecimal negative (Decimal.value ds) 0) := by
  cases ds with
  | nil => exact absurd rfl hne
  | cons d ds =>
    unfold assembled?
    rw [List.append_nil]
    rfl

theorem unsigned?_digits (negative : Bool) {ds : List Char} (hne : ds ≠ [])
    (hds : ∀ c ∈ ds, c.isDigit = true) :
    unsigned? negative ds = some (.ofDecimal negative (Decimal.value ds) 0) := by
  have hnamed := not_named_digits hne hds
  rw [Named, not_or, not_or] at hnamed
  have hinf : isWord "inf" ds = false := decide_eq_false hnamed.1
  have hinfinity : isWord "infinity" ds = false := decide_eq_false hnamed.2.1
  have hnan : isWord "nan" ds = false := decide_eq_false hnamed.2.2
  have hend : ∀ c ∈ ([] : List Char).head?, Decimal.isDigit c = false ∧ c ≠ '.' := nofun
  have hdigits := realDigits?_whole negative hds hend
  rw [List.append_nil, assembled?_digits negative hne] at hdigits
  rw [unsigned?, hinf, hinfinity, hnan]
  exact hdigits

theorem real?_digits {sign ds : List Char} (hsign : sign = [] ∨ sign = ['+'] ∨ sign = ['-'])
    (hne : ds ≠ []) (hds : ∀ c ∈ ds, c.isDigit = true) :
    real? (sign ++ ds) = some (.ofDecimal (sign = ['-']) (Decimal.value ds) 0) := by
  rcases hsign with rfl | rfl | rfl
  · have hbody := head_of_body (.inr ⟨ds, [], (List.append_nil ds).symm, .whole hne hds, .none⟩)
    rw [List.nil_append, real?_bare hbody, unsigned?_digits false hne hds]
    rfl
  · rw [List.singleton_append, real?_plus, unsigned?_digits false hne hds]
    rfl
  · rw [List.singleton_append, real?_minus, unsigned?_digits true hne hds]
    rfl

theorem toWord_denotes {s : List Char} {z : Int} (h : Denotes s z)
    (hfar : ¬ (-2 ^ 63 ≤ z ∧ z < 2 ^ 63)) :
    ∃ n, (real? s).map Binary64.toWord = some n ∧ n.toInt = Word.nearest z := by
  obtain ⟨sign, ds, rfl, hne, hds, hz⟩ := h
  have hvalue : Decimal.value ds = Nat.ofDigitChars 10 ds 0 := rfl
  have hmin := Int64.toInt_minValue
  have hmax := Int64.toInt_maxValue
  have hsign : sign = [] ∨ sign = ['+'] ∨ sign = ['-'] := by
    rw [← or_assoc]
    exact hz.imp And.left And.left
  have hlarge : 2 ^ 63 ≤ Decimal.value ds := by
    rw [hvalue]
    omega
  refine ⟨_, by rw [real?_digits hsign hne hds, Option.map_some], ?_⟩
  rw [Binary64.toWord_ofDecimal _ hlarge, Word.nearest]
  rcases hz with ⟨hplus, rfl⟩ | ⟨rfl, rfl⟩
  · have hminus : sign ≠ ['-'] := by rcases hplus with rfl | rfl <;> decide
    simp only [hminus, decide_false, Bool.false_eq_true, if_false]
    omega
  · simp only [decide_true, if_true]
    omega

theorem integer?_denotes {raw : String} {z : Int} (h : Denotes (Text.trim raw.toList) z) :
    ∃ n, integer? raw = some n ∧ n.toInt = Word.nearest z := by
  have hread : Word.read? (Text.trim raw.toList) = Word.ofInt? z := by
    rw [Word.read?, Word.readInt?_eq_some.mpr h, Option.bind_some]
  rw [integer?, hread]
  cases hword : Word.ofInt? z with
  | some n =>
    obtain rfl := Word.ofInt?_eq_some.mp hword
    exact ⟨n, rfl, (Word.nearest_word n).symm⟩
  | none =>
    apply toWord_denotes h
    rintro ⟨hlow, hhigh⟩
    have hmin := Int64.toInt_minValue
    have hmax := Int64.toInt_maxValue
    have hfits : Word.fits z = true := by
      rw [Word.fits, Bool.and_eq_true, decide_eq_true_eq, decide_eq_true_eq]
      omega
    rw [Word.ofInt?, if_pos hfits] at hword
    cases hword

theorem integer?_isSome {raw : String} : (integer? raw).isSome ↔
    (∃ z, Denotes (Text.trim raw.toList) z) ∨ Floating (Text.trim raw.toList) := by
  constructor
  · intro h
    rw [← readInt?_isSome, ← real?_isSome]
    by_cases hread : (Decimal.readInt? (Text.trim raw.toList)).isSome = true
    · exact .inl hread
    · rw [integer?, Word.read?, Option.not_isSome_iff_eq_none.mp hread] at h
      exact .inr (by simpa using h)
  · rintro (⟨z, hz⟩ | hreal)
    · obtain ⟨n, hn, -⟩ := integer?_denotes hz
      rw [hn]
      rfl
    · rw [← real?_isSome] at hreal
      rw [integer?]
      cases Word.read? (Text.trim raw.toList) with
      | some n => rfl
      | none => simpa using hreal

end Answer

end ScreenScript
