import ScreenScript.Number.Word
import ScreenScript.Proofs.Json.Printing

/-!
Words as decimal text with a sign or none: which texts are read as a word, and that a word that is
written is read back.
-/

namespace ScreenScript.Word

/-- The text is a run of decimal digits, with a sign in front of it at most, and denotes the word. -/
def ReadsAs (text : String) (n : Int64) : Prop :=
  ∃ sign digits, text.toList = sign ++ digits ∧ digits ≠ [] ∧
    (∀ c ∈ digits, c.isDigit = true) ∧
    ((sign = [] ∨ sign = ['+']) ∧ n.toInt = Nat.ofDigitChars 10 digits 0 ∨
      sign = ['-'] ∧ n.toInt = -Nat.ofDigitChars 10 digits 0)

theorem readNat?_eq_some {ds : List Char} {n : Nat} : Decimal.readNat? ds = some n ↔
    ds ≠ [] ∧ (∀ c ∈ ds, c.isDigit = true) ∧ Nat.ofDigitChars 10 ds 0 = n := by
  have hvalue : Decimal.value ds = Nat.ofDigitChars 10 ds 0 := rfl
  have hall : ds.all Decimal.isDigit = true ↔ ∀ c ∈ ds, c.isDigit = true := List.all_eq_true
  rw [Decimal.readNat?, hvalue, ← hall]
  cases ds with
  | nil => simp
  | cons d ds => cases h : (d :: ds).all Decimal.isDigit <;> simp

theorem ofInt?_eq_some {z : Int} {n : Int64} : ofInt? z = some n ↔ n.toInt = z := by
  have hfits : fits z = true ↔ Int64.minValue.toInt ≤ z ∧ z ≤ Int64.maxValue.toInt := by
    rw [fits, Bool.and_eq_true, decide_eq_true_eq, decide_eq_true_eq]
  rw [ofInt?]
  constructor
  · intro h
    split at h
    · next hz =>
      obtain ⟨hmin, hmax⟩ := hfits.mp hz
      rw [← Option.some.inj h]
      exact Int64.toInt_ofInt_of_le hmin (Int.lt_of_le_of_lt hmax (by decide))
    · cases h
  · rintro rfl
    rw [if_pos (hfits.mpr ⟨n.minValue_le_toInt, n.toInt_le⟩), Int64.ofInt_toInt]

theorem readInt?_minus (r : List Char) :
    Decimal.readInt? ('-' :: r) = (Decimal.readNat? r).map fun n : Nat => -(n : Int) := by
  rw [Decimal.readInt?]
  cases Decimal.readNat? r <;> rfl

theorem readInt?_digits {ds : List Char} (h : ∀ c ∈ ds, c.isDigit = true) :
    Decimal.readInt? ds = (Decimal.readNat? ds).map Int.ofNat := by
  unfold Decimal.readInt?
  split
  · exact absurd (h '-' (List.mem_cons_self ..)) (by decide)
  · exact absurd (h '+' (List.mem_cons_self ..)) (by decide)
  · rfl

theorem readInt?_eq_some {s : List Char} {z : Int} : Decimal.readInt? s = some z ↔
    ∃ sign digits, s = sign ++ digits ∧ digits ≠ [] ∧ (∀ c ∈ digits, c.isDigit = true) ∧
      ((sign = [] ∨ sign = ['+']) ∧ z = Nat.ofDigitChars 10 digits 0 ∨
        sign = ['-'] ∧ z = -Nat.ofDigitChars 10 digits 0) := by
  constructor
  · intro h
    by_cases hminus : ∃ r, s = '-' :: r
    · obtain ⟨r, rfl⟩ := hminus
      rw [readInt?_minus] at h
      obtain ⟨k, hk, rfl⟩ := Option.map_eq_some_iff.mp h
      obtain ⟨hr, hdigits, rfl⟩ := readNat?_eq_some.mp hk
      exact ⟨['-'], r, rfl, hr, hdigits, .inr ⟨rfl, rfl⟩⟩
    unfold Decimal.readInt? at h
    split at h
    · exact absurd ⟨_, rfl⟩ hminus
    · next r =>
      obtain ⟨k, hk, rfl⟩ := Option.map_eq_some_iff.mp h
      obtain ⟨hr, hdigits, rfl⟩ := readNat?_eq_some.mp hk
      exact ⟨['+'], r, rfl, hr, hdigits, .inl ⟨.inr rfl, rfl⟩⟩
    · obtain ⟨k, hk, rfl⟩ := Option.map_eq_some_iff.mp h
      obtain ⟨hs, hdigits, rfl⟩ := readNat?_eq_some.mp hk
      exact ⟨[], s, rfl, hs, hdigits, .inl ⟨.inl rfl, rfl⟩⟩
  · rintro ⟨sign, digits, rfl, hne, hdigits, hsign⟩
    have hnat := readNat?_eq_some.mpr ⟨hne, hdigits, rfl⟩
    rcases hsign with ⟨rfl | rfl, rfl⟩ | ⟨rfl, rfl⟩
    · rw [List.nil_append, readInt?_digits hdigits, hnat]
      rfl
    · rw [List.singleton_append, Decimal.readInt?, hnat]
      rfl
    · rw [List.singleton_append, readInt?_minus, hnat]
      rfl

theorem read?_eq_some {text : String} {n : Int64} :
    read? text.toList = some n ↔ ReadsAs text n := by
  simp only [read?, Option.bind_eq_some_iff, ofInt?_eq_some, readInt?_eq_some, ReadsAs]
  constructor
  · rintro ⟨z, hz, rfl⟩
    exact hz
  · intro hn
    exact ⟨n.toInt, hn, rfl⟩

theorem readInt?_ofInt (z : Int) : Decimal.readInt? (Decimal.ofInt z) = some z := by
  have hnat : ∀ n, Decimal.readNat? (Decimal.ofNat n) = some n := fun n => readNat?_eq_some.mpr
    ⟨Json.ofNat_ne_nil n, fun c hc => Json.isDigit_ofNat hc, Json.value_ofNat n⟩
  cases z with
  | ofNat n =>
    rw [Decimal.ofInt, readInt?_digits fun c hc => Json.isDigit_ofNat hc, hnat]
    rfl
  | negSucc n =>
    rw [Decimal.ofInt, readInt?_minus, hnat]
    rfl

theorem readsAs_text {n k : Int64} : ReadsAs (text n) k ↔ k = n := by
  rw [← read?_eq_some, read?, text, Decimal.text, String.toList_ofList, readInt?_ofInt,
    Option.bind_some, ofInt?_eq_some, Int64.toInt_inj]

end ScreenScript.Word
