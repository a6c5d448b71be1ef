import ScreenScript.Json.Value
import ScreenScript.Proofs.Json.Reading

/-!
What is printed is read back: strings of any characters, whole numbers, and arrays and objects of
parts that are read back themselves.
-/

namespace ScreenScript.Json

open Written

theorem isDigit_ofNat {n : Nat} {c : Char} (h : c ∈ Decimal.ofNat n) :
    Decimal.isDigit c = true :=
  Nat.isDigit_of_mem_toDigits (by decide) (by decide) h

theorem ofNat_ne_nil (n : Nat) : Decimal.ofNat n ≠ [] :=
  Nat.toDigits_ne_nil

theorem value_ofNat (n : Nat) : Decimal.value (Decimal.ofNat n) = n :=
  Nat.ofDigitChars_ten_toDigits

theorem head_ofNat {n : Nat} (hn : n ≠ 0) : ∀ r, Decimal.ofNat n ≠ '0' :: r := by
  induction n using Nat.strong_induction_on with
  | h n ih =>
    intro r
    rw [Decimal.ofNat, Nat.toDigits_eq_if (by decide)]
    split
    · intro heq
      exact hn (Nat.digitChar_eq_zero.mp (List.cons.inj heq).1)
    · intro heq
      have hhead := ih (n / 10) (by omega) (by omega)
      rw [Decimal.ofNat] at hhead
      cases hds : Nat.toDigits 10 (n / 10) with
      | nil => exact Nat.toDigits_ne_nil hds
      | cons d ds =>
        rw [hds, List.cons_append] at heq
        rw [hds, (List.cons.inj heq).1] at hhead
        exact hhead ds rfl

theorem readWhole_ofNat (n : Nat) {rest : List Char} (hrest : Clear Decimal.isDigit rest) :
    readWhole (Decimal.ofNat n ++ rest) = some (Decimal.ofNat n, rest) := by
  have hread := readDigits_append (ofNat_ne_nil n) (fun c hc => isDigit_ofNat hc) hrest
  rw [readWhole, hread]
  split
  · next c r rest' heq =>
    by_cases hn : n = 0
    · subst hn
      cases heq
    · exact absurd (Prod.mk.inj (Option.some.inj heq)).1 (head_ofNat hn _)
  · rfl

theorem readNumeral_ofNat (negative : Bool) (n : Nat) {rest : List Char} (hrest : Stops rest) :
    readNumeral negative (Decimal.ofNat n ++ rest) =
      some (.number ⟨negative, Decimal.ofNat n, none, none⟩, rest) := by
  have hclear : Clear Decimal.isDigit rest := hrest.mono (by intro c hc; simp [prolongs, hc])
  have hfraction : readFraction rest = some (none, rest) := by
    unfold readFraction
    split
    · have := clear_cons.mp hrest
      simp [prolongs] at this
    · rfl
  have hexponent : readExponent rest = some (none, rest) := by
    cases rest with
    | nil => rfl
    | cons c r =>
      have hc := clear_cons.mp hrest
      have hletter : ¬ (c = 'e' ∨ c = 'E') := by
        rintro (rfl | rfl)
        · simp [prolongs] at hc
        · simp [prolongs] at hc
      simp only [readExponent, if_neg hletter]
  simp only [readNumeral, readWhole_ofNat n hclear, hfraction, hexponent, Option.bind_eq_bind,
    Option.bind_some, Option.pure_def]

def Numeral.ofInt (n : Int) : Numeral :=
  ⟨n < 0, Decimal.ofNat n.natAbs, none, none⟩

theorem spells_ofInt (n : Int) : Spells (Decimal.ofInt n) (.number (.ofInt n)) := by
  cases n with
  | ofNat n =>
    have hneg : ¬ Int.ofNat n < 0 := by simp
    rw [Decimal.ofInt, Numeral.ofInt, decide_eq_false hneg]
    apply spells_numeral
    · cases hds : Decimal.ofNat n with
      | nil => exact absurd hds (ofNat_ne_nil n)
      | cons c r => exact ⟨c, r, rfl, isDigit_ofNat (n := n) (by simp [hds])⟩
    · exact digit_last (ofNat_ne_nil n) fun c hc => isDigit_ofNat hc
    · exact fun rest hrest => readNumeral_ofNat false n hrest
  | negSucc n =>
    have hneg : Int.negSucc n < 0 := Int.negSucc_lt_zero n
    rw [Decimal.ofInt, Numeral.ofInt, decide_eq_true hneg]
    apply spells_negative
    · exact digit_last (ofNat_ne_nil _) fun c hc => isDigit_ofNat hc
    · exact fun rest hrest => readNumeral_ofNat true (n + 1) hrest

theorem le_value (ds : List Char) (m : Nat) :
    m ≤ ds.foldl (fun n c => 10 * n + Decimal.digitValue c) m := by
  induction ds generalizing m with
  | nil => exact le_refl m
  | cons c ds ih =>
    rw [List.foldl_cons]
    have := ih (10 * m + Decimal.digitValue c)
    omega

theorem significand_eq (ds : List Char) (m : Nat)
    (h : ds.foldl (fun n c => 10 * n + Decimal.digitValue c) m < Numeral.wordLimit) :
    Numeral.significand m ds = (ds.foldl (fun n c => 10 * n + Decimal.digitValue c) m, []) := by
  induction ds generalizing m with
  | nil => rfl
  | cons c ds ih =>
    rw [List.foldl_cons] at h ⊢
    have hle := le_value ds (10 * m + Decimal.digitValue c)
    have hlt : 10 * m + Decimal.digitValue c < Numeral.wordLimit := by omega
    simp only [Numeral.significand, hlt, if_true]
    exact ih _ h

theorem number_ofInt {n : Int} (hlow : Int64.minValue.toInt ≤ n) (hhigh : n < Numeral.wordLimit) :
    (Numeral.ofInt n).number? = some (.whole n) := by
  have hmin : Int64.minValue.toInt = -2 ^ 63 := by decide
  have hlimit : Numeral.wordLimit = 2 ^ 64 := by decide
  have hsignificand : Numeral.significand 0 (Decimal.ofNat n.natAbs) = (n.natAbs, []) := by
    have hvalue := value_ofNat n.natAbs
    rw [Decimal.value] at hvalue
    rw [significand_eq, hvalue]
    rw [hvalue]
    omega
  rw [Numeral.number?, Numeral.ofInt, hsignificand]
  by_cases hneg : n < 0
  · have heq : (-n.natAbs : Int) = n := by omega
    have hwhole : ¬ (n.natAbs = 0 ∨ n < Int64.minValue.toInt) := by omega
    simp only [hneg, decide_true, Bool.not_true, Bool.false_eq_true, if_false, heq, hwhole]
  · have heq : (n.natAbs : Int) = n := by omega
    simp only [hneg, decide_false, Bool.not_false, if_true, heq]

theorem hexDigit_digitChar : ∀ n < 16, Text.Ranges.hexDigit? (Nat.digitChar n) = some n := by
  decide

theorem simpleEscape_quote : simpleEscape? '"' = some '"' ∧ simpleEscape? '\\' = some '\\' ∧
    simpleEscape? 'b' = some '\x08' ∧ simpleEscape? 'f' = some '\x0c' ∧
    simpleEscape? 'n' = some '\n' ∧ simpleEscape? 'r' = some '\r' ∧
    simpleEscape? 't' = some '\t' := by
  decide

theorem readUnits_control {c : Char} (h : c.toNat < 0x20) (rest : List Char) :
    readUnits ('\\' :: 'u' :: '0' :: '0' :: Nat.digitChar (c.toNat / 16) ::
        Nat.digitChar (c.toNat % 16) :: rest) =
      (readUnits rest).map fun (us, rest) => (.scalar c :: us, rest) := by
  have hzero : Text.Ranges.hexDigit? '0' = some 0 := by decide
  have hhigh := hexDigit_digitChar (c.toNat / 16) (by omega)
  have hlow := hexDigit_digitChar (c.toNat % 16) (by omega)
  have hsum : ((0 * 16 + 0) * 16 + c.toNat / 16) * 16 + c.toNat % 16 = c.toNat := by omega
  have hhex : hex4? '0' '0' (Nat.digitChar (c.toNat / 16)) (Nat.digitChar (c.toNat % 16)) =
      some c.toNat := by
    simp only [hex4?, hzero, hhigh, hlow, hsum, Option.bind_eq_bind, Option.bind_some,
      Option.pure_def]
  have hunit : CodeUnit.ofNat c.toNat = .scalar c := by
    have hscalar : ¬ (0xd800 ≤ c.toNat ∧ c.toNat < 0xe000) := by omega
    rw [CodeUnit.ofNat, if_neg hscalar, Char.ofNat_toNat]
  rw [readUnits_hex hhex, hunit]

theorem readUnits_escaped (c : Char) (rest : List Char) :
    readUnits (Value.escape c ++ rest) =
      (readUnits rest).map fun (us, rest) => (.scalar c :: us, rest) := by
  obtain ⟨hquote, hslash, hb, hf, hn, hr, ht⟩ := simpleEscape_quote
  rw [Value.escape]
  split_ifs with h₁ h₂ h₃ h₄ h₅ h₆ h₇ hcontrol
  · rw [h₁]; exact readUnits_escape hquote rest
  · rw [h₂]; exact readUnits_escape hslash rest
  · rw [h₃]; exact readUnits_escape hb rest
  · rw [h₄]; exact readUnits_escape hf rest
  · rw [h₅]; exact readUnits_escape hn rest
  · rw [h₆]; exact readUnits_escape hr rest
  · rw [h₇]; exact readUnits_escape ht rest
  · exact readUnits_control hcontrol rest
  · exact readUnits_plain h₁ h₂ (Nat.le_of_not_lt hcontrol) rest

theorem readUnits_printed (cs rest : List Char) :
    readUnits (cs.flatMap Value.escape ++ '"' :: rest) = some (cs.map .scalar, rest) := by
  induction cs with
  | nil => rw [List.flatMap_nil, List.nil_append, readUnits]; rfl
  | cons c cs ih =>
    rw [List.flatMap_cons, List.append_assoc, readUnits_escaped, ih]
    rfl

theorem joinUnits_scalars (cs : List Char) : joinUnits (cs.map .scalar) = some cs := by
  induction cs with
  | nil => rfl
  | cons c cs ih => rw [List.map_cons, joinUnits, ih, Option.map_some]

theorem readLiteral_printed (s : String) (rest : List Char) :
    readLiteral (s.toList.flatMap Value.escape ++ '"' :: rest) = some (some s, rest) := by
  simp only [readLiteral, readUnits_printed, Option.map_some, joinUnits_scalars,
    String.ofList_toList]

theorem spells_printString (s : String) : Spells (Value.printString s) (.string (some s)) :=
  spells_literal fun rest => readLiteral_printed s rest

theorem spellsKey_printString (s : String) : SpellsKey (Value.printString s) (some s) := by
  have h := spellsKey (fun rest => readLiteral_printed s rest) Spaces.nil Spaces.nil
  rwa [List.nil_append] at h

theorem spells_printBool (b : Bool) : Spells (Value.print (.bool b)) (.bool b) := by
  cases b with
  | true => exact spells_true
  | false => exact spells_false

variable {ι : Type} {text : ι → List Char} {written : ι → Written}

theorem spells_printArray (is : List ι) (h : ∀ i ∈ is, Spells (text i) (written i)) :
    Spells (Value.printArray (is.map text)) (.array (is.map written)) := by
  cases is with
  | nil => exact spells_array_nil Spaces.nil
  | cons i is =>
    suffices ∀ i, (∀ j ∈ i :: is, Spells (text j) (written j)) →
        SpellsItems ((((i :: is).map text).intersperse [',']).flatten ++ [']'])
          ((i :: is).map written) from (this i h).array
    clear h i
    induction is with
    | nil =>
      intro i h
      have hi := spellsItems_last ((h i (by simp)).spaced Spaces.nil) Spaces.nil
      simpa using hi
    | cons j is ih =>
      intro i h
      have hi := (h i (by simp)).spaced Spaces.nil
      have hcons := spellsItems_cons hi Spaces.nil (ih j fun k hk => h k (by simp [hk]))
      simpa [List.intersperse_cons_cons] using hcons

theorem spells_printObject {key : ι → String} (is : List ι)
    (h : ∀ i ∈ is, Spells (text i) (written i)) :
    Spells (Value.printObject (is.map fun i => (key i, text i)))
      (.object (is.map fun i => (some (key i), written i))) := by
  cases is with
  | nil => exact spells_object_nil Spaces.nil
  | cons i is =>
    let member (i : ι) : List Char := Value.printString (key i) ++ ':' :: text i
    suffices ∀ i, (∀ j ∈ i :: is, Spells (text j) (written j)) →
        SpellsMembers ((((i :: is).map member).intersperse [',']).flatten ++ ['\x7d'])
          ((i :: is).map fun i => (some (key i), written i)) by
      rw [Value.printObject, List.map_map]
      exact (this i h).object
    clear h i
    induction is with
    | nil =>
      intro i h
      have hi := (h i (by simp)).spaced Spaces.nil
      have hlast := spellsMembers_last (spellsKey_printString (key i)) hi Spaces.nil
      simpa [member] using hlast
    | cons j is ih =>
      intro i h
      have hi := (h i (by simp)).spaced Spaces.nil
      have hcons := spellsMembers_cons (spellsKey_printString (key i)) hi Spaces.nil
        (ih j fun k hk => h k (by simp [hk]))
      simpa [member, List.intersperse_cons_cons] using hcons

end ScreenScript.Json
