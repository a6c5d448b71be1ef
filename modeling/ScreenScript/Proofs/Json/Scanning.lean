import ScreenScript.Json.Written
import ScreenScript.Text.Blank
import Mathlib.Data.List.Basic
import Mathlib.Data.List.TakeWhile
import Mathlib.Tactic.Common

/-!
Space, numerals and string literals: each reader takes a piece off the front of a text, and takes
the same piece off any other text that opens with it, unless a numeral goes on there.
-/

namespace ScreenScript.Json.Written

def Clear (bad : Char → Bool) (s : List Char) : Prop :=
  ∀ c r, s = c :: r → bad c = false

theorem clear_cons {bad : Char → Bool} {c : Char} {r : List Char} :
    Clear bad (c :: r) ↔ bad c = false := by
  constructor
  · intro h
    exact h c r rfl
  · rintro h d q heq
    cases heq
    exact h

def prolongs (c : Char) : Bool :=
  Decimal.isDigit c || c = '.' || c = 'e' || c = 'E'

def Stops (s : List Char) : Prop :=
  Clear prolongs s

theorem Clear.mono {bad worse : Char → Bool} {s : List Char} (h : Clear worse s)
    (hle : ∀ c, bad c = true → worse c = true) : Clear bad s := by
  rintro c r rfl
  have hc := h c r rfl
  by_contra hbad
  rw [Bool.not_eq_false] at hbad
  rw [hle c hbad] at hc
  cases hc

def isSpace (c : Char) : Bool :=
  c = ' ' || c = '\t' || c = '\n' || c = '\r'

def Spaces (s : List Char) : Prop :=
  ∀ c ∈ s, isSpace c = true

theorem Spaces.nil : Spaces [] := by
  intro c hc
  cases hc

theorem isBlank_of_isSpace {c : Char} (h : isSpace c = true) : Text.isBlank c = true := by
  simp only [isSpace, Bool.or_eq_true, decide_eq_true_eq] at h
  rcases h with ((rfl | rfl) | rfl) | rfl <;> decide

theorem prolongs_of_isSpace {c : Char} (h : isSpace c = true) : prolongs c = false := by
  simp only [isSpace, Bool.or_eq_true, decide_eq_true_eq] at h
  rcases h with ((rfl | rfl) | rfl) | rfl <;> decide

theorem skipSpace_append {sp : List Char} (h : Spaces sp) (s : List Char) :
    skipSpace (sp ++ s) = skipSpace s :=
  List.dropWhile_append_of_pos h

theorem skipSpace_cons {c : Char} (h : isSpace c = false) (r : List Char) :
    skipSpace (c :: r) = c :: r := by
  have hc : (isSpace c) ≠ true := by rw [h]; decide
  exact List.dropWhile_cons_of_neg hc

theorem skipSpace_spaced {sp : List Char} (hsp : Spaces sp) {c : Char} (h : isSpace c = false)
    (r : List Char) : skipSpace (sp ++ c :: r) = c :: r := by
  rw [skipSpace_append hsp, skipSpace_cons h]

theorem skipSpace_split (s : List Char) : ∃ sp, Spaces sp ∧ s = sp ++ skipSpace s := by
  refine ⟨s.takeWhile isSpace, ?_, ?_⟩
  · intro c hc
    exact List.mem_takeWhile_imp hc
  · exact (List.takeWhile_append_dropWhile ..).symm

theorem skipSpace_idem (s : List Char) : skipSpace (skipSpace s) = skipSpace s := by
  obtain ⟨sp, hsp, hs⟩ := skipSpace_split s
  conv_rhs => rw [hs, skipSpace_append hsp]

theorem readValue_skipSpace (fuel : Nat) (s : List Char) :
    readValue fuel (skipSpace s) = readValue fuel s := by
  cases fuel with
  | zero => rfl
  | succ fuel => simp only [readValue, skipSpace_idem]

theorem readItems_skipSpace (fuel : Nat) (s : List Char) :
    readItems fuel (skipSpace s) = readItems fuel s := by
  cases fuel with
  | zero => rfl
  | succ fuel => simp only [readItems, readValue_skipSpace]

theorem readMembers_skipSpace (fuel : Nat) (s : List Char) :
    readMembers fuel (skipSpace s) = readMembers fuel s := by
  cases fuel with
  | zero => rfl
  | succ fuel => simp only [readMembers, skipSpace_idem]

theorem stops_spaced {sp : List Char} (hsp : Spaces sp) {c : Char} (h : prolongs c = false)
    (r : List Char) : Stops (sp ++ c :: r) := by
  cases sp with
  | nil => exact clear_cons.mpr h
  | cons d sp => exact clear_cons.mpr (prolongs_of_isSpace (hsp d (by simp)))

theorem readDigits_split {s ds rest : List Char} (h : readDigits s = some (ds, rest)) :
    s = ds ++ rest ∧ ds ≠ [] ∧ ∀ c ∈ ds, Decimal.isDigit c = true := by
  simp only [readDigits] at h
  split at h
  · cases h
  · next hne =>
    cases h
    refine ⟨(List.takeWhile_append_dropWhile ..).symm, ?_, ?_⟩
    · simpa using hne
    · intro c hc
      exact List.mem_takeWhile_imp hc

theorem readDigits_append {ds : List Char} (hne : ds ≠ [])
    (hds : ∀ c ∈ ds, Decimal.isDigit c = true) {rest : List Char}
    (hrest : Clear Decimal.isDigit rest) : readDigits (ds ++ rest) = some (ds, rest) := by
  have hstop : rest.takeWhile Decimal.isDigit = [] ∧ rest.dropWhile Decimal.isDigit = rest := by
    cases rest with
    | nil => exact ⟨rfl, rfl⟩
    | cons c r =>
      have hc := clear_cons.mp hrest
      simp [hc]
  have htake : (ds ++ rest).takeWhile Decimal.isDigit = ds := by
    rw [List.takeWhile_append_of_pos hds, hstop.1, List.append_nil]
  have hdrop : (ds ++ rest).dropWhile Decimal.isDigit = rest := by
    rw [List.dropWhile_append_of_pos hds, hstop.2]
  have hempty : ds.isEmpty = false := by simpa using hne
  simp only [readDigits, htake, hdrop, hempty, Bool.false_eq_true, if_false]

theorem readWhole_split {s ds rest : List Char} (h : readWhole s = some (ds, rest)) :
    s = ds ++ rest ∧ ds ≠ [] ∧ (∀ c ∈ ds, Decimal.isDigit c = true) ∧
      ∀ rest', Clear Decimal.isDigit rest' → readWhole (ds ++ rest') = some (ds, rest') := by
  have hdigits : readDigits s = some (ds, rest) := by
    simp only [readWhole] at h
    split at h
    · cases h
    · exact h
  obtain ⟨hs, hne, hds⟩ := readDigits_split hdigits
  refine ⟨hs, hne, hds, ?_⟩
  intro rest' hrest'
  have hread := readDigits_append hne hds hrest'
  simp only [readWhole, hdigits] at h
  simp only [readWhole, hread]
  split
  · next heq =>
    cases heq
    cases h
  · rfl

theorem readFraction_split {s rest : List Char} {f : Option (List Char)}
    (h : readFraction s = some (f, rest)) :
    ∃ p, s = p ++ rest ∧ (p = [] ∨ ∃ ds, p = '.' :: ds ∧ ds ≠ [] ∧
        ∀ c ∈ ds, Decimal.isDigit c = true) ∧
      ∀ rest', Clear (fun c => Decimal.isDigit c || c = '.') rest' →
        readFraction (p ++ rest') = some (f, rest') := by
  by_cases hdot : ∃ r, s = '.' :: r
  · obtain ⟨r, rfl⟩ := hdot
    simp only [readFraction, Option.map_eq_some_iff, Prod.mk.injEq, Prod.exists] at h
    obtain ⟨ds, rest₁, hdigits, rfl, rfl⟩ := h
    obtain ⟨rfl, hne, hds⟩ := readDigits_split hdigits
    refine ⟨'.' :: ds, rfl, .inr ⟨ds, rfl, hne, hds⟩, ?_⟩
    intro rest' hrest'
    have hclear : Clear Decimal.isDigit rest' := hrest'.mono (by intro c hc; simp [hc])
    simp only [List.cons_append, readFraction, readDigits_append hne hds hclear, Option.map_some]
  · have hnone : ∀ s : List Char, (¬ ∃ r, s = '.' :: r) → readFraction s = some (none, s) := by
      intro s hs
      unfold readFraction
      split
      · exact absurd ⟨_, rfl⟩ hs
      · rfl
    rw [hnone s hdot] at h
    cases h
    refine ⟨[], rfl, .inl rfl, ?_⟩
    intro rest' hrest'
    apply hnone
    rintro ⟨r, rfl⟩
    have := clear_cons.mp hrest'
    simp at this

/-- What follows the letter of an exponent. -/
def readPower : List Char → Option (Option (Bool × List Char) × List Char)
  | '-' :: r => (readDigits r).map fun (ds, rest) => (some (true, ds), rest)
  | '+' :: r => (readDigits r).map fun (ds, rest) => (some (false, ds), rest)
  | r => (readDigits r).map fun (ds, rest) => (some (false, ds), rest)

theorem readPower_digits {r : List Char} (hminus : ∀ q, r ≠ '-' :: q) (hplus : ∀ q, r ≠ '+' :: q) :
    readPower r = (readDigits r).map fun (ds, rest) => (some (false, ds), rest) := by
  unfold readPower
  split
  · next q => exact absurd rfl (hminus q)
  · next q => exact absurd rfl (hplus q)
  · rfl

theorem readExponent_letter {c : Char} (h : c = 'e' ∨ c = 'E') (r : List Char) :
    readExponent (c :: r) = readPower r := by
  simp only [readExponent, if_pos h]
  split
  · rfl
  · rfl
  · next hminus hplus => exact (readPower_digits hminus hplus).symm

theorem readPower_split {s rest : List Char} {e : Option (Bool × List Char)}
    (h : readPower s = some (e, rest)) :
    ∃ p ds, s = p ++ ds ++ rest ∧ ds ≠ [] ∧ (∀ c ∈ ds, Decimal.isDigit c = true) ∧
      ∀ rest', Clear Decimal.isDigit rest' → readPower (p ++ ds ++ rest') = some (e, rest') := by
  by_cases hminus : ∃ q, s = '-' :: q
  · obtain ⟨q, rfl⟩ := hminus
    simp only [readPower, Option.map_eq_some_iff, Prod.mk.injEq, Prod.exists] at h
    obtain ⟨ds, rest₁, hdigits, rfl, rfl⟩ := h
    obtain ⟨rfl, hne, hds⟩ := readDigits_split hdigits
    refine ⟨['-'], ds, rfl, hne, hds, ?_⟩
    intro rest' hrest'
    simp only [List.cons_append, List.nil_append, readPower, readDigits_append hne hds hrest',
      Option.map_some]
  by_cases hplus : ∃ q, s = '+' :: q
  · obtain ⟨q, rfl⟩ := hplus
    simp only [readPower, Option.map_eq_some_iff, Prod.mk.injEq, Prod.exists] at h
    obtain ⟨ds, rest₁, hdigits, rfl, rfl⟩ := h
    obtain ⟨rfl, hne, hds⟩ := readDigits_split hdigits
    refine ⟨['+'], ds, rfl, hne, hds, ?_⟩
    intro rest' hrest'
    simp only [List.cons_append, List.nil_append, readPower, readDigits_append hne hds hrest',
      Option.map_some]
  · rw [readPower_digits (fun q hq => hminus ⟨q, hq⟩) (fun q hq => hplus ⟨q, hq⟩)] at h
    simp only [Option.map_eq_some_iff, Prod.mk.injEq, Prod.exists] at h
    obtain ⟨ds, rest₁, hdigits, rfl, rfl⟩ := h
    obtain ⟨rfl, hne, hds⟩ := readDigits_split hdigits
    refine ⟨[], ds, rfl, hne, hds, ?_⟩
    intro rest' hrest'
    have hhead : ∀ c : Char, Decimal.isDigit c = false → ∀ q, ds ++ rest' ≠ c :: q := by
      intro c hc q heq
      cases ds with
      | nil => exact hne rfl
      | cons d ds =>
        have hd := hds d (by simp)
        simp only [List.cons_append, List.cons.injEq] at heq
        rw [heq.1, hc] at hd
        cases hd
    rw [List.nil_append, readPower_digits (hhead '-' (by decide)) (hhead '+' (by decide)),
      readDigits_append hne hds hrest', Option.map_some]

theorem readExponent_split {s rest : List Char} {e : Option (Bool × List Char)}
    (h : readExponent s = some (e, rest)) :
    ∃ p, s = p ++ rest ∧ (p = [] ∨ ∃ c q ds, (c = 'e' ∨ c = 'E') ∧ p = c :: (q ++ ds) ∧ ds ≠ [] ∧
        ∀ c ∈ ds, Decimal.isDigit c = true) ∧
      ∀ rest', Stops rest' → readExponent (p ++ rest') = some (e, rest') := by
  by_cases hletter : ∃ c r, s = c :: r ∧ (c = 'e' ∨ c = 'E')
  · obtain ⟨c, r, rfl, hc⟩ := hletter
    rw [readExponent_letter hc] at h
    obtain ⟨q, ds, rfl, hne, hds, hread⟩ := readPower_split h
    refine ⟨c :: (q ++ ds), rfl, .inr ⟨c, q, ds, hc, rfl, hne, hds⟩, ?_⟩
    intro rest' hrest'
    rw [List.cons_append, readExponent_letter hc]
    exact hread rest' (hrest'.mono (by intro d hd; simp [prolongs, hd]))
  · have hnone : ∀ s : List Char, (¬ ∃ c r, s = c :: r ∧ (c = 'e' ∨ c = 'E')) →
        readExponent s = some (none, s) := by
      intro s hs
      cases s with
      | nil => rfl
      | cons c r =>
        have hc : ¬ (c = 'e' ∨ c = 'E') := fun hc => hs ⟨c, r, rfl, hc⟩
        simp only [readExponent, if_neg hc]
    rw [hnone s hletter] at h
    cases h
    refine ⟨[], rfl, .inl rfl, ?_⟩
    intro rest' hrest'
    apply hnone
    rintro ⟨c, r, rfl, rfl | rfl⟩
    · have := clear_cons.mp hrest'
      simp [prolongs] at this
    · have := clear_cons.mp hrest'
      simp [prolongs] at this

theorem digit_last {ds : List Char} (hne : ds ≠ [])
    (hds : ∀ c ∈ ds, Decimal.isDigit c = true) :
    ∃ r c, ds = r ++ [c] ∧ Decimal.isDigit c = true :=
  ⟨ds.dropLast, ds.getLast hne, (List.dropLast_append_getLast hne).symm,
    hds _ (List.getLast_mem hne)⟩

theorem readNumeral_split {negative : Bool} {s rest : List Char} {w : Written}
    (h : readNumeral negative s = some (w, rest)) :
    ∃ p, s = p ++ rest ∧ (∃ c r, p = c :: r ∧ Decimal.isDigit c = true) ∧
      (∃ r c, p = r ++ [c] ∧ Decimal.isDigit c = true) ∧
      ∀ rest', Stops rest' → readNumeral negative (p ++ rest') = some (w, rest') := by
  simp only [readNumeral, Option.bind_eq_bind, Option.bind_eq_some_iff, Prod.exists,
    Option.pure_def, Option.some.injEq, Prod.mk.injEq] at h
  obtain ⟨ds, s₁, hwhole, f, s₂, hfraction, e, s₃, hexponent, rfl, rfl⟩ := h
  obtain ⟨rfl, hne, hds, hwhole'⟩ := readWhole_split hwhole
  obtain ⟨pf, rfl, hpf, hfraction'⟩ := readFraction_split hfraction
  obtain ⟨pe, rfl, hpe, hexponent'⟩ := readExponent_split hexponent
  refine ⟨ds ++ (pf ++ pe), by simp only [List.append_assoc], ?_, ?_, ?_⟩
  · cases ds with
    | nil => exact absurd rfl hne
    | cons c ds => exact ⟨c, ds ++ (pf ++ pe), rfl, hds c (by simp)⟩
  · rcases hpe with rfl | ⟨c, q, es, -, rfl, hes, hdigits⟩
    · rcases hpf with rfl | ⟨fs, rfl, hfs, hdigits⟩
      · simpa using digit_last hne hds
      · obtain ⟨r, d, rfl, hd⟩ := digit_last hfs hdigits
        exact ⟨ds ++ '.' :: r, d, by simp, hd⟩
    · obtain ⟨r, d, rfl, hd⟩ := digit_last hes hdigits
      exact ⟨ds ++ (pf ++ c :: (q ++ r)), d, by simp, hd⟩
  · intro rest' hrest'
    have hexp : Clear (fun c => Decimal.isDigit c || c = '.') (pe ++ rest') := by
      rcases hpe with rfl | ⟨c, q, es, hc, rfl, -, -⟩
      · exact hrest'.mono (by intro c hc; simp [prolongs] at hc ⊢; tauto)
      · rw [List.cons_append]
        apply clear_cons.mpr
        rcases hc with rfl | rfl <;> decide
    have hfrac : Clear Decimal.isDigit (pf ++ (pe ++ rest')) := by
      rcases hpf with rfl | ⟨fs, rfl, -, -⟩
      · exact hexp.mono (by intro c hc; simp [hc])
      · exact clear_cons.mpr (by decide)
    simp only [readNumeral, List.append_assoc, hwhole' _ hfrac, hfraction' _ hexp,
      hexponent' _ hrest', Option.bind_eq_bind, Option.bind_some, Option.pure_def]

theorem readUnits_escape {e : Char} {c : Char} (he : simpleEscape? e = some c) (r : List Char) :
    readUnits ('\\' :: e :: r) = (readUnits r).map fun (us, rest) => (.scalar c :: us, rest) := by
  have hu : e ≠ 'u' := by
    rintro rfl
    simp [simpleEscape?] at he
  rw [readUnits]
  · simp only [he, Option.bind_eq_bind, Option.bind_some]
    cases readUnits r <;> rfl
  · intro a b c d q heq
    exact absurd heq hu

theorem readUnits_hex {a b c d : Char} {n : Nat} (h : hex4? a b c d = some n) (r : List Char) :
    readUnits ('\\' :: 'u' :: a :: b :: c :: d :: r) =
      (readUnits r).map fun (us, rest) => (.ofNat n :: us, rest) := by
  rw [readUnits]
  simp only [h, Option.bind_eq_bind, Option.bind_some]
  cases readUnits r <;> rfl

theorem readUnits_plain {c : Char} (hquote : c ≠ '"') (hslash : c ≠ '\\') (hc : 0x20 ≤ c.toNat)
    (r : List Char) :
    readUnits (c :: r) = (readUnits r).map fun (us, rest) => (.scalar c :: us, rest) := by
  have hplain : ¬ (c = '\\' ∨ c.toNat < 0x20) := by
    rintro (h | h)
    · exact hslash h
    · omega
  rw [readUnits]
  · simp only [if_neg hplain, Option.bind_eq_bind]
    cases readUnits r <;> rfl
  · exact hquote
  · intro a b c' d q heq
    exact absurd heq hslash
  · intro e q heq
    exact absurd heq hslash

theorem readUnits_split {s rest : List Char} {us : List CodeUnit}
    (h : readUnits s = some (us, rest)) :
    ∃ p, s = p ++ '"' :: rest ∧
      ∀ rest', readUnits (p ++ '"' :: rest') = some (us, rest') := by
  fun_induction readUnits s generalizing us rest with
  | case1 => cases h
  | case2 r =>
    cases h
    exact ⟨[], rfl, fun rest' => by rw [List.nil_append, readUnits]⟩
  | case3 a b c d r ih =>
    simp only [Option.bind_eq_bind, Option.bind_eq_some_iff, Prod.exists, Option.pure_def,
      Option.some.injEq, Prod.mk.injEq] at h
    obtain ⟨n, hn, us', rest₁, hread, rfl, rfl⟩ := h
    obtain ⟨p, rfl, hp⟩ := ih hread
    refine ⟨'\\' :: 'u' :: a :: b :: c :: d :: p, rfl, fun rest' => ?_⟩
    simp only [List.cons_append, readUnits_hex hn, hp, Option.map_some]
  | case4 e r hu ih =>
    simp only [Option.bind_eq_bind, Option.bind_eq_some_iff, Prod.exists, Option.pure_def,
      Option.some.injEq, Prod.mk.injEq] at h
    obtain ⟨c, hc, us', rest₁, hread, rfl, rfl⟩ := h
    obtain ⟨p, rfl, hp⟩ := ih hread
    refine ⟨'\\' :: e :: p, rfl, fun rest' => ?_⟩
    simp only [List.cons_append, readUnits_escape hc, hp, Option.map_some]
  | case5 c r => cases h
  | case6 c r hquote hhex hslash hplain ih =>
    simp only [Option.bind_eq_bind, Option.bind_eq_some_iff, Prod.exists, Option.pure_def,
      Option.some.injEq, Prod.mk.injEq] at h
    obtain ⟨us', rest₁, hread, rfl, rfl⟩ := h
    obtain ⟨p, rfl, hp⟩ := ih hread
    refine ⟨c :: p, rfl, fun rest' => ?_⟩
    have hc : c ≠ '\\' ∧ 0x20 ≤ c.toNat := by
      constructor
      · exact fun h => hplain (.inl h)
      · exact Nat.le_of_not_lt fun h => hplain (.inr h)
    simp only [List.cons_append, readUnits_plain hquote hc.1 hc.2, hp, Option.map_some]

theorem readLiteral_split {s rest : List Char} {t : Option String}
    (h : readLiteral s = some (t, rest)) :
    ∃ p, s = p ++ '"' :: rest ∧ ∀ rest', readLiteral (p ++ '"' :: rest') = some (t, rest') := by
  simp only [readLiteral, Option.map_eq_some_iff, Prod.exists, Prod.mk.injEq] at h
  obtain ⟨us, rest₁, hunits, rfl, rfl⟩ := h
  obtain ⟨p, rfl, hp⟩ := readUnits_split hunits
  refine ⟨p, rfl, fun rest' => ?_⟩
  simp only [readLiteral, hp, Option.map_some]

end ScreenScript.Json.Written
