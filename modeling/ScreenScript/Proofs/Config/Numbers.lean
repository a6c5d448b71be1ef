import ScreenScript.Proofs.Config.Spelling
import Mathlib.Data.List.Induction

/-!
Numbers in a configuration, in any base and of any size. A number is read off the front of a text to
its end, if it is a word, and what is no word is refused, as are fractions and texts.
-/

namespace ScreenScript.Config.Reader

open Text Text.Ranges

/-- Digits and the number they make. Underscores stand anywhere but first. -/
inductive Digits (base : Nat) : Nat → List Char → Prop
  | one {c : Char} {d : Nat} (digit : digitOf base c = some d) : Digits base d [c]
  | digit {n d : Nat} {ds : List Char} {c : Char} (digits : Digits base n ds)
      (digit : digitOf base c = some d) : Digits base (base * n + d) (ds ++ [c])
  | underscore {n : Nat} {ds : List Char} (digits : Digits base n ds) : Digits base n (ds ++ ['_'])

inductive Announces : Nat → List Char → Prop
  | hexadecimal : Announces 16 ['0', 'x']
  | octal : Announces 8 ['0', 'o']
  | binary : Announces 2 ['0', 'b']
  | decimal : Announces 10 []

inductive Unsigned : Nat → List Char → Prop
  | mk {base n : Nat} {p ds e : List Char} (announced : Announces base p)
      (digits : Digits base n ds) (ending : e = [] ∨ e = ['u', '6', '4']) :
      Unsigned n (p ++ (ds ++ e))

inductive Integer : Int → List Char → Prop
  | bare {n : Nat} {t : List Char} (number : Unsigned n t) : Integer n t
  | plus {n : Nat} {t : List Char} (number : Unsigned n t) : Integer n ('+' :: t)
  | minus {n : Nat} {t : List Char} (number : Unsigned n t) : Integer (-n) ('-' :: t)

def inWord (n : Nat) : Option Nat :=
  if n < UInt64.size then some n else none

theorem inWord_eq_some_iff {m n : Nat} : inWord m = some n ↔ m = n ∧ n < UInt64.size := by
  rw [inWord, Option.ite_none_right_eq_some, Option.some.injEq]
  constructor
  · rintro ⟨hlt, rfl⟩
    exact ⟨rfl, hlt⟩
  · rintro ⟨rfl, hlt⟩
    exact ⟨hlt, rfl⟩

theorem hexDigit?_of_digitOf {base : Nat} {c : Char} {d : Nat} (h : digitOf base c = some d) :
    hexDigit? c = some d ∧ d < base := by
  simp only [digitOf, Option.bind_eq_some_iff, Option.ite_none_right_eq_some,
    Option.some.injEq] at h
  obtain ⟨e, he, hlt, rfl⟩ := h
  exact ⟨he, hlt⟩

theorem digits?_concat (base : Nat) (ds : List Char) (c : Char) :
    digits? base (ds ++ [c]) = (digits? base ds).bind fun n =>
      if c = '_' then some n else (digitOf base c).bind fun d => inWord (base * n + d) := by
  rw [digits?, List.foldl_append]
  rfl

/-- The number goes on growing digit by digit, and what is no word does not become one again. -/
theorem digits?_digits {base n : Nat} (hbase : 0 < base) {ds : List Char}
    (h : Digits base n ds) : digits? base ds = inWord n := by
  induction h with
  | @one c d hd =>
    have hc : c ≠ '_' := by
      rintro rfl
      cases hd
    rw [← List.nil_append [c], digits?_concat, hd]
    simp [digits?, hc]
  | @digit n d ds c _ hd ih =>
    have hc : c ≠ '_' := by
      rintro rfl
      cases hd
    have hgrows : n ≤ base * n + d := by
      have := Nat.le_mul_of_pos_left n hbase
      omega
    rw [digits?_concat, ih, hd]
    simp only [if_neg hc, Option.bind_some]
    by_cases hn : n < UInt64.size
    · rw [inWord, if_pos hn, Option.bind_some]
    · rw [inWord, if_neg hn, inWord, if_neg (by omega), Option.bind_none]
  | underscore _ ih =>
    rw [digits?_concat, ih]
    cases inWord _ <;> rfl

theorem digits?_none {base : Nat} {c : Char} (hc : c ≠ '_') (h : digitOf base c = none)
    (ds es : List Char) : digits? base (ds ++ c :: es) = none := by
  have hstuck : ∀ es : List Char, es.foldl (fun n c => do
      let n ← n
      if c = '_' then pure n
      else
        let n := base * n + (← digitOf base c)
        if n < UInt64.size then pure n else none) (none : Option Nat) = none := by
    intro es
    induction es with
    | nil => rfl
    | cons e es ih => exact ih
  rw [digits?, List.foldl_append, List.foldl_cons]
  convert hstuck es
  simp [hc, h]

def isPart (c : Char) : Bool :=
  c = '_' || (hexDigit? c).isSome

theorem Digits.part {base n : Nat} {ds : List Char} (h : Digits base n ds) :
    ∀ c ∈ ds, c = '_' ∨ ∃ d, digitOf base c = some d := by
  induction h with
  | one hd =>
    intro c hc
    rw [List.mem_singleton] at hc
    subst hc
    exact .inr ⟨_, hd⟩
  | digit _ hd ih =>
    intro c hc
    rcases List.mem_append.mp hc with hc | hc
    · exact ih c hc
    · rw [List.mem_singleton] at hc
      subst hc
      exact .inr ⟨_, hd⟩
  | underscore _ ih =>
    intro c hc
    rcases List.mem_append.mp hc with hc | hc
    · exact ih c hc
    · exact .inl (List.mem_singleton.mp hc)

theorem Digits.isPart {base n : Nat} {ds : List Char} (h : Digits base n ds) :
    ∀ c ∈ ds, isPart c = true := by
  intro c hc
  rcases h.part c hc with rfl | ⟨d, hd⟩
  · rfl
  · simp [Reader.isPart, (hexDigit?_of_digitOf hd).1]

theorem Digits.head {base n : Nat} {ds : List Char} (h : Digits base n ds) :
    ∃ c d es, ds = c :: es ∧ digitOf base c = some d := by
  induction h with
  | one hd => exact ⟨_, _, _, rfl, hd⟩
  | digit _ _ ih =>
    obtain ⟨c, d, es, rfl, hd⟩ := ih
    exact ⟨c, d, _, rfl, hd⟩
  | underscore _ ih =>
    obtain ⟨c, d, es, rfl, hd⟩ := ih
    exact ⟨c, d, _, rfl, hd⟩

theorem isRawPart_of_isPart {c : Char} (h : isPart c = true) : isRawPart c = true := by
  have hchars : ('0' ≤ c ∧ c ≤ '9') ∨ ('A' ≤ c ∧ c ≤ 'F') ∨ c = '_' ∨ ('a' ≤ c ∧ c ≤ 'f') := by
    simp only [isPart, hexDigit?, Bool.or_eq_true, decide_eq_true_eq] at h
    grind
  simp only [Char.le_def, UInt32.le_iff_toNat_le] at hchars
  have hcodes : (0x30 ≤ c.toNat ∧ c.toNat ≤ 0x39) ∨ (0x41 ≤ c.toNat ∧ c.toNat ≤ 0x46) ∨
      c.toNat = 0x5f ∨ (0x61 ≤ c.toNat ∧ c.toNat ≤ 0x66) := by
    rcases hchars with h | h | rfl | h
    · exact .inl h
    · exact .inr (.inl h)
    · exact .inr (.inr (.inl rfl))
    · exact .inr (.inr (.inr h))
  have hnear : near c.toNat = true := by
    simp only [near, Bool.or_eq_true, Bool.and_eq_true, decide_eq_true_eq]
    omega
  rw [isRawPart_near hnear]
  simp only [restRanges, List.any_cons, List.any_nil, Bool.or_eq_true, Bool.and_eq_true,
    decide_eq_true_eq]
  omega

def based : List Char → Nat × List Char
  | '0' :: 'x' :: r => (16, r)
  | '0' :: 'o' :: r => (8, r)
  | '0' :: 'b' :: r => (2, r)
  | r => (10, r)

def unsignedIn (base : Nat) (s : List Char) : Option (Nat × List Char) :=
  let ds := s.takeWhile isPart
  if ds.isEmpty || ds.head? = some '_' then none
  else (digits? base ds).bind fun n =>
    let r := s.dropWhile isPart
    let ending := r.takeWhile isRawPart
    if ending.isEmpty || ending = ['u', '6', '4'] then some (n, r.dropWhile isRawPart) else none

theorem unsigned_eq (s : List Char) : unsigned s = unsignedIn (based s).1 (based s).2 := by
  unfold unsigned
  split
  next base s' hsplit =>
    have hbased : based s = (base, s') := hsplit
    rw [hbased]
    change (if (s'.takeWhile isPart).isEmpty || (s'.takeWhile isPart).head? = some '_' then _
      else _) = _
    rw [unsignedIn]
    split
    · rfl
    · rfl

theorem based_plain {s : List Char}
    (h : ∀ c q, s = '0' :: c :: q → c ≠ 'x' ∧ c ≠ 'o' ∧ c ≠ 'b') : based s = (10, s) := by
  unfold based
  split
  · next r => exact absurd rfl (h 'x' r rfl).1
  · next r => exact absurd rfl (h 'o' r rfl).2.1
  · next r => exact absurd rfl (h 'b' r rfl).2.2
  · rfl

theorem based_digits {n : Nat} {ds : List Char} (h : Digits 10 n ds) {r : List Char}
    (hr : ∀ c q, r = c :: q → c ≠ 'x' ∧ c ≠ 'o' ∧ c ≠ 'b') : based (ds ++ r) = (10, ds ++ r) := by
  apply based_plain
  intro c q heq
  obtain ⟨e, d, es, rfl, -⟩ := h.head
  rw [List.cons_append] at heq
  have htail := (List.cons.inj heq).2
  cases es with
  | nil => exact hr c q htail
  | cons e' es =>
    obtain ⟨rfl, -⟩ := List.cons.inj htail
    rcases h.part e' (by simp) with rfl | ⟨d, hd⟩
    · decide
    · refine ⟨?_, ?_, ?_⟩ <;>
        · rintro rfl
          cases hd

theorem takeWhile_isPart {ds r : List Char} (hds : ∀ c ∈ ds, isPart c = true)
    (hr : ∀ c q, r = c :: q → isPart c = false) :
    (ds ++ r).takeWhile isPart = ds ∧ (ds ++ r).dropWhile isPart = r := by
  rw [List.takeWhile_append_of_pos hds, List.dropWhile_append_of_pos hds]
  cases r with
  | nil => simp
  | cons c r => simp [hr c r rfl]

theorem unsignedIn_digits {base n : Nat} (hbase : 0 < base) {ds : List Char}
    (h : Digits base n ds) {e r : List Char} (he : e = [] ∨ e = ['u', '6', '4']) (hr : Ends r) :
    unsignedIn base (ds ++ (e ++ r)) = (inWord n).map (·, r) := by
  have hstop : ∀ c q, e ++ r = c :: q → isPart c = false := by
    rintro c q heq
    rcases he with rfl | rfl
    · by_contra hpart
      rw [Bool.not_eq_false] at hpart
      have := isRawPart_of_isPart hpart
      rw [hr c q heq] at this
      cases this
    · cases heq
      decide
  have hword : ∀ c ∈ e, isRawPart c = true := by
    rcases he with rfl | rfl
    · intro c hc
      cases hc
    · intro c hc
      have hc' : c = 'u' ∨ c = '6' ∨ c = '4' := by simpa using hc
      rcases hc' with rfl | rfl | rfl <;>
        · rw [isRawPart_near (by decide)]
          decide
  obtain ⟨htake, hdrop⟩ := takeWhile_isPart h.isPart hstop
  obtain ⟨htake', hdrop'⟩ := takeWhile_ends (fun _ h => h) hword hr
  have hhead : (ds.isEmpty || ds.head? = some '_') = false := by
    obtain ⟨c, d, es, rfl, hd⟩ := h.head
    have hc : c ≠ '_' := by
      rintro rfl
      cases hd
    simp [hc]
  have hending : (e.isEmpty || e = ['u', '6', '4']) = true := by
    rcases he with rfl | rfl <;> rfl
  simp only [unsignedIn, htake, hdrop, htake', hdrop', hhead, hending, digits?_digits hbase h,
    Bool.false_eq_true, if_false, if_true]
  cases inWord n <;> rfl

theorem unsigned_append {n : Nat} {t r : List Char} (h : Unsigned n t) (hr : Ends r) :
    unsigned (t ++ r) = (inWord n).map (·, r) := by
  obtain ⟨happ, hds, he⟩ := h
  rename_i base p ds e
  rw [unsigned_eq, List.append_assoc, List.append_assoc]
  cases happ with
  | hexadecimal => exact unsignedIn_digits (by decide) hds he hr
  | octal => exact unsignedIn_digits (by decide) hds he hr
  | binary => exact unsignedIn_digits (by decide) hds he hr
  | decimal =>
    rw [List.nil_append, based_digits hds]
    · exact unsignedIn_digits (by decide) hds he hr
    · intro c q heq
      rcases he with rfl | rfl
      · have hc := hr c q heq
        refine ⟨?_, ?_, ?_⟩ <;>
          · rintro rfl
            rw [isRawPart_near (by decide)] at hc
            revert hc
            decide
      · cases heq
        decide

/-- Digits with a point or an exponent, whatever comes after these. -/
inductive Fractional : List Char → Prop
  | point {n : Nat} {ds : List Char} (digits : Digits 10 n ds) (q : List Char) :
      Fractional (ds ++ '.' :: q)
  | leadingPoint (q : List Char) : Fractional ('.' :: q)
  | exponent {n : Nat} {ds : List Char} {e : Char} (digits : Digits 10 n ds)
      (mark : e = 'e' ∨ e = 'E') (q : List Char) : Fractional (ds ++ e :: q)

/-- A string or a character of any kind, whatever comes after its opening mark. -/
inductive Quoted : List Char → Prop
  | mk {kind hashes : List Char} {mark : Char} (q : List Char)
      (kinds : kind = [] ∨ kind = ['r'] ∨ kind = ['b'] ∨ kind = ['b', 'r'])
      (hashed : ∀ c ∈ hashes, c = '#') (marks : mark = '"' ∨ mark = '\'') :
      Quoted (kind ++ (hashes ++ mark :: q))

theorem Fractional.append {t : List Char} (h : Fractional t) (r : List Char) :
    Fractional (t ++ r) := by
  cases h with
  | point hds q =>
    rw [List.append_assoc]
    exact .point hds _
  | leadingPoint q => exact .leadingPoint _
  | exponent hds he q =>
    rw [List.append_assoc]
    exact .exponent hds he _

theorem unsignedIn_point {n : Nat} {ds : List Char} (h : Digits 10 n ds) (q : List Char) :
    unsignedIn 10 (ds ++ '.' :: q) = none := by
  have hdot : ∀ c q', '.' :: q = c :: q' → isPart c = false := by
    rintro c q' heq
    cases heq
    decide
  have hgoes : isRawPart '.' = true := rfl
  obtain ⟨htake, hdrop⟩ := takeWhile_isPart h.isPart hdot
  simp [unsignedIn, htake, hdrop, hgoes]

theorem unsignedIn_none {s ds es : List Char} {c : Char} (hc : c ≠ '_')
    (hdigit : digitOf 10 c = none) (htake : s.takeWhile isPart = ds ++ c :: es) :
    unsignedIn 10 s = none := by
  rw [unsignedIn, htake, digits?_none hc hdigit]
  split <;> rfl

theorem unsigned_fractional {t : List Char} (h : Fractional t) : unsigned t = none := by
  rw [unsigned_eq]
  cases h with
  | point hds q =>
    rw [based_digits hds]
    · exact unsignedIn_point hds q
    · rintro c q' heq
      cases heq
      decide
  | leadingPoint q => rfl
  | @exponent n ds e hds he q =>
    have hpart : isPart e = true := by
      rcases he with rfl | rfl <;> rfl
    have htake : (ds ++ e :: q).takeWhile isPart = ds ++ e :: q.takeWhile isPart := by
      rw [List.takeWhile_append_of_pos hds.isPart, List.takeWhile_cons_of_pos hpart]
    rw [based_digits hds]
    · apply unsignedIn_none _ _ htake
      · rcases he with rfl | rfl <;> decide
      · rcases he with rfl | rfl <;> rfl
    · rintro c q' heq
      cases heq
      rcases he with rfl | rfl <;> decide

theorem unsigned_cons_none {c : Char} (h : digitOf 10 c = none) (q : List Char) :
    unsigned (c :: q) = none := by
  have hbased : based (c :: q) = (10, c :: q) := by
    apply based_plain
    intro d q' heq
    cases heq
    cases h
  rw [unsigned_eq, hbased]
  by_cases hc : c = '_'
  · subst hc
    simp [unsignedIn, isPart]
  · by_cases hpart : isPart c = true
    · have htake : (c :: q).takeWhile isPart = [] ++ c :: q.takeWhile isPart :=
        List.takeWhile_cons_of_pos hpart
      exact unsignedIn_none hc h htake
    · simp [unsignedIn, hpart]

theorem Quoted.head {t : List Char} (h : Quoted t) :
    ∃ c q, t = c :: q ∧ (c = '"' ∨ c = '\'' ∨ c = '#' ∨ c = 'r' ∨ c = 'b') := by
  obtain ⟨q, hkind, hhash, hmark⟩ := h
  rename_i kind hashes mark
  rcases hkind with rfl | rfl | rfl | rfl
  · cases hashes with
    | nil => exact ⟨_, _, rfl, hmark.imp_right .inl⟩
    | cons c hashes => exact ⟨_, _, rfl, .inr (.inr (.inl (hhash c List.mem_cons_self)))⟩
  · exact ⟨_, _, rfl, .inr (.inr (.inr (.inl rfl)))⟩
  · exact ⟨_, _, rfl, .inr (.inr (.inr (.inr rfl)))⟩
  · exact ⟨_, _, rfl, .inr (.inr (.inr (.inr rfl)))⟩

theorem Unsigned.head {n : Nat} {t : List Char} (h : Unsigned n t) :
    ∃ c q d, t = c :: q ∧ digitOf 10 c = some d := by
  obtain ⟨happ, hds, -⟩ := h
  cases happ with
  | hexadecimal => exact ⟨_, _, _, rfl, rfl⟩
  | octal => exact ⟨_, _, _, rfl, rfl⟩
  | binary => exact ⟨_, _, _, rfl, rfl⟩
  | decimal =>
    obtain ⟨c, d, es, rfl, hd⟩ := hds.head
    exact ⟨c, _, d, rfl, hd⟩

theorem digit_toNat {c : Char} {d : Nat} (h : digitOf 10 c = some d) :
    0x30 ≤ c.toNat ∧ c.toNat ≤ 0x39 := by
  obtain ⟨hhex, hlt⟩ := hexDigit?_of_digitOf h
  simp only [hexDigit?] at hhex
  split at hhex
  · next hrange =>
    simp only [Char.le_def, UInt32.le_iff_toNat_le] at hrange
    exact hrange
  · have hten : ¬10 ≤ d := by omega
    split at hhex
    · cases hhex
      exact absurd (Nat.le_add_left ..) hten
    · split at hhex
      · cases hhex
        exact absurd (Nat.le_add_left ..) hten
      · cases hhex

theorem Fractional.head {t : List Char} (h : Fractional t) :
    ∃ c q, t = c :: q ∧ 0x2e ≤ c.toNat ∧ c.toNat ≤ 0x39 ∧ c ≠ '/' := by
  have hdigit : ∀ {c : Char} {d : Nat}, digitOf 10 c = some d →
      0x2e ≤ c.toNat ∧ c.toNat ≤ 0x39 ∧ c ≠ '/' := by
    intro c d hd
    obtain ⟨hlo, hhi⟩ := digit_toNat hd
    refine ⟨by omega, hhi, ?_⟩
    rintro rfl
    cases hd
  cases h with
  | point hds q =>
    obtain ⟨c, d, es, rfl, hd⟩ := hds.head
    exact ⟨c, _, rfl, hdigit hd⟩
  | leadingPoint q => exact ⟨_, _, rfl, by decide⟩
  | exponent hds _ q =>
    obtain ⟨c, d, es, rfl, hd⟩ := hds.head
    exact ⟨c, _, rfl, hdigit hd⟩

theorem digits_of_digits? {base n : Nat} {ds : List Char} (hne : ds ≠ [])
    (hfirst : ds.head? ≠ some '_') (h : digits? base ds = some n) :
    Digits base n ds ∧ n < UInt64.size := by
  induction ds using List.reverseRecOn generalizing n with
  | nil => exact absurd rfl hne
  | append_singleton ds c ih =>
    rw [digits?_concat, Option.bind_eq_some_iff] at h
    obtain ⟨m, hm, h⟩ := h
    cases ds with
    | nil =>
      have hc : c ≠ '_' := by simpa using hfirst
      cases hm
      rw [if_neg hc, Option.bind_eq_some_iff] at h
      obtain ⟨d, hd, h⟩ := h
      obtain ⟨hn, hlt⟩ := inWord_eq_some_iff.mp h
      rw [Nat.mul_zero, Nat.zero_add] at hn
      subst hn
      exact ⟨.one hd, hlt⟩
    | cons e ds =>
      obtain ⟨hds, hlt⟩ := ih (List.cons_ne_nil e ds) (by simpa using hfirst) hm
      split at h
      · next hc =>
        cases h
        subst hc
        exact ⟨.underscore hds, hlt⟩
      · obtain ⟨d, hd, h⟩ := Option.bind_eq_some_iff.mp h
        obtain ⟨rfl, hlt⟩ := inWord_eq_some_iff.mp h
        exact ⟨.digit hds hd, hlt⟩

theorem unsignedIn_some {base n : Nat} {s r : List Char} (h : unsignedIn base s = some (n, r)) :
    ∃ ds e, s = ds ++ (e ++ r) ∧ Digits base n ds ∧ (e = [] ∨ e = ['u', '6', '4']) ∧
      n < UInt64.size ∧ Ends r := by
  simp only [unsignedIn] at h
  split at h
  · cases h
  · next hfirst =>
    simp only [Bool.or_eq_true, decide_eq_true_eq, not_or] at hfirst
    obtain ⟨m, hm, h⟩ := Option.bind_eq_some_iff.mp h
    split at h
    · next hending =>
      cases h
      obtain ⟨hds, hlt⟩ := digits_of_digits? (by simpa using hfirst.1) hfirst.2 hm
      refine ⟨_, (s.dropWhile isPart).takeWhile isRawPart, ?_, hds, ?_, hlt, ends_dropWhile _⟩
      · rw [List.takeWhile_append_dropWhile, List.takeWhile_append_dropWhile]
      · simpa using hending
    · cases h

theorem announces_based (s : List Char) :
    ∃ p, Announces (based s).1 p ∧ s = p ++ (based s).2 := by
  unfold based
  split
  · exact ⟨_, .hexadecimal, rfl⟩
  · exact ⟨_, .octal, rfl⟩
  · exact ⟨_, .binary, rfl⟩
  · exact ⟨_, .decimal, rfl⟩

theorem unsigned_some {n : Nat} {s r : List Char} (h : unsigned s = some (n, r)) :
    ∃ t, s = t ++ r ∧ Unsigned n t ∧ n < UInt64.size ∧ Ends r := by
  rw [unsigned_eq] at h
  obtain ⟨ds, e, hs, hds, he, hlt, hr⟩ := unsignedIn_some h
  obtain ⟨p, hp, hsplit⟩ := announces_based s
  refine ⟨p ++ (ds ++ e), ?_, .mk hp hds he, hlt, hr⟩
  rw [List.append_assoc, List.append_assoc, ← hs, ← hsplit]

end ScreenScript.Config.Reader
