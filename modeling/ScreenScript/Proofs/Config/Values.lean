import ScreenScript.Proofs.Config.Numbers

/-!
What an entry of a configuration says: a number with its sign, that there is none, or what is none.
A value is read to its end, and gives what the field is set to, if it is one for the field.
-/

namespace ScreenScript.Config.Reader

inductive Written where
  | integer (v : Int)
  | fraction
  | quoted
  /-- That there is no number. -/
  | absent
  | wrapped (w : Written)

/-- The end of a wrapping; a comma may stand in it. -/
inductive Closing : List Char → Prop
  | plain {g : List Char} (gap : Gap g) : Closing (g ++ [')'])
  | comma {g₁ g₂ : List Char} (before : Gap g₁) (after : Gap g₂) :
      Closing (g₁ ++ ',' :: (g₂ ++ [')']))

inductive Spells : Written → List Char → Prop
  | integer {v : Int} {t : List Char} (number : Integer v t) : Spells (.integer v) t
  | fraction {t : List Char} (number : Fractional t) : Spells .fraction t
  | signedFraction {c : Char} {t : List Char} (sign : c = '+' ∨ c = '-')
      (number : Fractional t) : Spells .fraction (c :: t)
  | quoted {t : List Char} (literal : Quoted t) : Spells .quoted t
  | absent : Spells .absent ['N', 'o', 'n', 'e']
  | wrapped {w : Written} {g₁ g₂ t e : List Char} (before : Gap g₁) (after : Gap g₂)
      (inner : Spells w t) (closing : Closing e) :
      Spells (.wrapped w) (['S', 'o', 'm', 'e'] ++ (g₁ ++ '(' :: (g₂ ++ (t ++ e))))

namespace Written

def number? : Written → Option Nat
  | integer v => if 0 ≤ v then inWord v.toNat else none
  | _ => none

def fits (x : Extensions) (f : Field) (w : Written) : Option (Option Nat) :=
  if f.optional then
    match w with
    | absent => some none
    | wrapped w => w.number?.map some
    | w => if x.implicitSome then w.number?.map some else none
  else w.number?.map some

inductive Misfit : Written → Prop
  | negative {v : Int} (h : v < 0) : Misfit (integer v)
  | large {v : Int} (h : UInt64.size ≤ v) : Misfit (integer v)
  | fraction : Misfit fraction
  | quoted : Misfit quoted
  | wrapped {w : Written} (h : Misfit w) : Misfit (wrapped w)

theorem Misfit.number? {w : Written} (h : Misfit w) : w.number? = none := by
  cases h with
  | negative h =>
    rw [Written.number?, if_neg (by omega)]
  | @large v h =>
    have hsize : ¬v.toNat < UInt64.size := by
      have := Int.self_le_toNat v
      omega
    rw [Written.number?, inWord, if_neg hsize, ite_self]
  | fraction => rfl
  | quoted => rfl
  | wrapped _ => rfl

theorem Misfit.fits {w : Written} (h : Misfit w) (x : Extensions) (f : Field) :
    w.fits x f = none := by
  unfold Written.fits
  split
  · cases h with
    | wrapped h => simp [h.number?]
    | negative h => simp [(Misfit.negative h).number?]
    | large h => simp [(Misfit.large h).number?]
    | fraction => simp [Misfit.fraction.number?]
    | quoted => simp [Misfit.quoted.number?]
  · rw [h.number?, Option.map_none]

end Written

theorem number_cons {c : Char} (hplus : c ≠ '+') (hminus : c ≠ '-') (q : List Char) :
    number (c :: q) = unsigned (c :: q) := by
  unfold number
  split
  · next heq =>
    cases heq
    exact absurd rfl hplus
  · next heq =>
    cases heq
    exact absurd rfl hminus
  · rfl

theorem number_none {c : Char} (h : digitOf 10 c = none) (hplus : c ≠ '+') (hminus : c ≠ '-')
    (q : List Char) : number (c :: q) = none := by
  rw [number_cons hplus hminus, unsigned_cons_none h]

theorem number_integer {v : Int} {t r : List Char} (h : Integer v t) (hr : Ends r) :
    number (t ++ r) = ((Written.integer v).number?).map (·, r) := by
  cases h with
  | bare h =>
    have hplain : number (t ++ r) = unsigned (t ++ r) := by
      obtain ⟨c, q, d, rfl, hd⟩ := h.head
      apply number_cons
      · rintro rfl
        cases hd
      · rintro rfl
        cases hd
    rw [hplain, unsigned_append h hr]
    simp [Written.number?]
  | plus h =>
    rw [List.cons_append, number, unsigned_append h hr]
    simp [Written.number?]
  | @minus n t h =>
    rw [List.cons_append, number, unsigned_append h hr]
    cases n with
    | zero => simp [Written.number?, inWord]
    | succ n =>
      have hneg : ¬ (0 : Int) ≤ -((n + 1 : Nat) : Int) := by omega
      rw [Written.number?, if_neg hneg]
      simp only [inWord]
      split <;> rfl

theorem number_fractional {t : List Char} (h : Fractional t) : number t = none := by
  obtain ⟨c, q, rfl, hlo, -, -⟩ := h.head
  rw [number_cons, unsigned_fractional h]
  · rintro rfl
    revert hlo
    decide
  · rintro rfl
    revert hlo
    decide

theorem Integer.number? {n : Nat} (h : n < UInt64.size) :
    (Written.integer n).number? = some n := by
  simp [Written.number?, inWord, h]

theorem number_eq_some_iff {n : Nat} {s r : List Char} : number s = some (n, r) ↔
    ∃ t, s = t ++ r ∧ Integer n t ∧ n < UInt64.size ∧ Ends r := by
  constructor
  · intro h
    unfold number at h
    split at h
    · obtain ⟨t, rfl, ht, hn⟩ := unsigned_some h
      exact ⟨'+' :: t, rfl, .plus ht, hn⟩
    · obtain ⟨⟨m, q⟩, hm, h⟩ := Option.bind_eq_some_iff.mp h
      obtain ⟨hzero, h⟩ := Option.ite_none_right_eq_some.mp h
      subst hzero
      cases h
      obtain ⟨t, rfl, ht, hn⟩ := unsigned_some hm
      exact ⟨'-' :: t, rfl, .minus ht, hn⟩
    · obtain ⟨t, rfl, ht, hn⟩ := unsigned_some h
      exact ⟨t, rfl, .bare ht, hn⟩
  · rintro ⟨t, rfl, ht, hlt, hr⟩
    rw [number_integer ht hr]
    simp [Written.number?, inWord, hlt]

theorem number_some {n : Nat} {s r : List Char} (h : number s = some (n, r)) :
    ∃ t, Spells (.integer n) t ∧ (Written.integer n).number? = some n ∧ s = t ++ r := by
  obtain ⟨t, rfl, ht, hlt, -⟩ := number_eq_some_iff.mp h
  exact ⟨t, .integer ht, Integer.number? hlt, rfl⟩

theorem number_append {w : Written} {t r : List Char} (h : Spells w t) (hr : Ends r) :
    number (t ++ r) = w.number?.map (·, r) := by
  cases h with
  | integer h => exact number_integer h hr
  | fraction h => exact number_fractional (h.append r)
  | signedFraction hsign h =>
    have hunsigned := unsigned_fractional (h.append r)
    rcases hsign with rfl | rfl
    · rw [List.cons_append, number, hunsigned]
      rfl
    · rw [List.cons_append, number, hunsigned]
      rfl
  | quoted h =>
    obtain ⟨c, q, rfl, hc⟩ := h.head
    rw [List.cons_append]
    rcases hc with rfl | rfl | rfl | rfl | rfl <;>
      exact number_none rfl (by decide) (by decide) _
  | absent => exact number_none rfl (by decide) (by decide) _
  | wrapped => exact number_none rfl (by decide) (by decide) _

theorem expect_append (w : String) (r : List Char) : expect w (w.toList ++ r) = some r := by
  simp [expect, ← String.length_toList]

theorem expect_cons_none {w : String} {c d : Char} {cs : List Char} (hw : w.toList = d :: cs)
    (hne : d ≠ c) (q : List Char) : expect w (c :: q) = none := by
  simp [expect, hw, List.isPrefixOf, hne]

theorem word_append {w : String} {r : List Char} (hr : r.head?.any nameRest.contains = false) :
    word w (w.toList ++ r) = some r := by
  simp [word, expect_append, hr]

theorem word_none {w : String} {c d : Char} {cs : List Char} (hw : w.toList = d :: cs)
    (hne : d ≠ c) (q : List Char) : word w (c :: q) = none := by
  simp [word, expect_cons_none hw hne]

theorem comma_append {g : List Char} (hg : Gap g) (s : List Char) :
    comma (g ++ ',' :: s) = (skip s).map (true, ·) := by
  have hskip : skip (g ++ ',' :: s) = some (',' :: s) := skip_mark (by decide) hg s
  simp only [comma, hskip, Option.bind_eq_bind, Option.bind_some]
  cases skip s <;> rfl

theorem comma_closed {g : List Char} (hg : Gap g) (s : List Char) :
    comma (g ++ ')' :: s) = some (false, ')' :: s) := by
  have hskip : skip (g ++ ')' :: s) = some (')' :: s) := skip_mark (by decide) hg s
  simp only [comma, hskip, Option.bind_eq_bind, Option.bind_some]
  rfl

theorem comma_closing {e : List Char} (h : Closing e) (r : List Char) :
    ∃ b, comma (e ++ r) = some (b, ')' :: r) := by
  cases h with
  | plain hg =>
    refine ⟨false, ?_⟩
    rw [List.append_assoc]
    exact comma_closed hg r
  | comma hg hg' =>
    refine ⟨true, ?_⟩
    rw [List.append_assoc, List.cons_append, comma_append hg, List.append_assoc,
      List.singleton_append, skip_mark (by decide) hg', Option.map_some]

theorem Closing.ends {e : List Char} (h : Closing e) (r : List Char) : Ends (e ++ r) := by
  cases h with
  | plain hg =>
    rw [List.append_assoc]
    exact ends_mark (by decide) hg r
  | comma hg hg' =>
    rw [List.append_assoc]
    exact ends_mark (by decide) hg _

theorem Spells.head {w : Written} {t : List Char} (h : Spells w t) :
    ∃ c q, t = c :: q ∧ isSpace c = false ∧ c ≠ '/' ∧
      ((c ≠ 'N' ∧ c ≠ 'S') ∨ w = .absent ∨ ∃ w', w = .wrapped w') := by
  have hcode : ∀ {c : Char}, 0x2e ≤ c.toNat → c.toNat ≤ 0x39 → c ≠ '/' →
      isSpace c = false ∧ c ≠ '/' ∧
        ((c ≠ 'N' ∧ c ≠ 'S') ∨ w = .absent ∨ ∃ w', w = .wrapped w') := by
    intro c hlo hhi hslash
    refine ⟨?_, hslash, .inl ⟨?_, ?_⟩⟩
    · simp only [isSpace, Bool.or_eq_false_iff, Bool.and_eq_false_iff, decide_eq_false_iff_not]
      omega
    · rintro rfl
      revert hhi
      decide
    · rintro rfl
      revert hhi
      decide
  have hdigit : ∀ {c : Char} {d : Nat}, digitOf 10 c = some d → isSpace c = false ∧ c ≠ '/' ∧
      ((c ≠ 'N' ∧ c ≠ 'S') ∨ w = .absent ∨ ∃ w', w = .wrapped w') := by
    intro c d hd
    obtain ⟨hlo, hhi⟩ := digit_toNat hd
    apply hcode (by omega) hhi
    rintro rfl
    cases hd
  cases h with
  | integer h =>
    cases h with
    | bare h =>
      obtain ⟨c, q, d, rfl, hd⟩ := h.head
      exact ⟨c, q, rfl, hdigit hd⟩
    | plus h => exact ⟨_, _, rfl, by decide, by decide, .inl (by decide)⟩
    | minus h => exact ⟨_, _, rfl, by decide, by decide, .inl (by decide)⟩
  | fraction h =>
    obtain ⟨c, q, rfl, hlo, hhi, hslash⟩ := h.head
    exact ⟨c, q, rfl, hcode hlo hhi hslash⟩
  | signedFraction hsign h =>
    refine ⟨_, _, rfl, ?_⟩
    rcases hsign with rfl | rfl
    · exact ⟨by decide, by decide, .inl (by decide)⟩
    · exact ⟨by decide, by decide, .inl (by decide)⟩
  | quoted h =>
    obtain ⟨c, q, rfl, hc⟩ := h.head
    refine ⟨c, q, rfl, ?_⟩
    rcases hc with rfl | rfl | rfl | rfl | rfl <;>
      exact ⟨by decide, by decide, .inl (by decide)⟩
  | absent => exact ⟨_, _, rfl, by decide, by decide, .inr (.inl rfl)⟩
  | wrapped => exact ⟨_, _, rfl, by decide, by decide, .inr (.inr ⟨_, rfl⟩)⟩

theorem fits_required {x : Extensions} {f : Field} (hf : f.optional = false) (w : Written) :
    w.fits x f = w.number?.map some := by
  simp [Written.fits, hf]

theorem optional_bare (x : Extensions) {c : Char} (hnone : c ≠ 'N') (hsome : c ≠ 'S')
    (q : List Char) : optional x (c :: q) =
      if x.implicitSome then (number (c :: q)).map fun (n, r) => (some n, r) else none := by
  rw [optional, word_none (w := "None") rfl hnone.symm, word_none (w := "Some") rfl hsome.symm]
  rfl

theorem skip_spells {w : Written} {g t : List Char} (hg : Gap g) (h : Spells w t) (r : List Char) :
    skip (g ++ (t ++ r)) = some (t ++ r) := by
  obtain ⟨c, q, rfl, hspace, hslash, -⟩ := h.head
  rw [skip_append hg, List.cons_append, skip_cons hspace hslash]

theorem optional_wrapped (x : Extensions) {w : Written} {g₁ g₂ t e : List Char} (h₁ : Gap g₁)
    (h₂ : Gap g₂) (ht : Spells w t) (he : Closing e) (r : List Char) :
    optional x (['S', 'o', 'm', 'e'] ++ (g₁ ++ '(' :: (g₂ ++ (t ++ (e ++ r))))) =
      w.number?.map fun n => (some n, r) := by
  have hword : word "Some" (['S', 'o', 'm', 'e'] ++ (g₁ ++ '(' :: (g₂ ++ (t ++ (e ++ r))))) =
      some (g₁ ++ '(' :: (g₂ ++ (t ++ (e ++ r)))) :=
    word_append (head?_any_ends (fun _ => isRawPart_of_rest) (ends_mark (by decide) h₁ _))
  have hnone : word "None" (['S', 'o', 'm', 'e'] ++ (g₁ ++ '(' :: (g₂ ++ (t ++ (e ++ r))))) =
      none := word_none rfl (by decide) _
  have hskip : skip (g₁ ++ '(' :: (g₂ ++ (t ++ (e ++ r)))) =
      some ('(' :: (g₂ ++ (t ++ (e ++ r)))) := skip_mark (by decide) h₁ _
  obtain ⟨b, hcomma⟩ := comma_closing he r
  rw [optional, hnone, hword, Option.bind_some, hskip]
  simp only [skip_spells h₂ ht, number_append ht (he.ends r), Option.bind_eq_bind,
    Option.bind_some]
  cases w.number? with
  | none => rfl
  | some n => simp [hcomma]

theorem optional_append (x : Extensions) {w : Written} {t r : List Char} (h : Spells w t)
    (hr : Ends r) {f : Field} (hf : f.optional = true) :
    optional x (t ++ r) = (w.fits x f).map (·, r) := by
  have hbare : w ≠ .absent → (∀ w', w ≠ .wrapped w') →
      optional x (t ++ r) = (w.fits x f).map (·, r) := by
    intro habsent hwrapped
    have hfits : w.fits x f = if x.implicitSome then w.number?.map some else none := by
      cases w <;> simp_all [Written.fits]
    have hnumber := number_append h hr
    obtain ⟨c, q, rfl, -, -, ⟨hnone, hsome⟩ | h | ⟨w', h⟩⟩ := h.head
    · rw [List.cons_append] at hnumber ⊢
      rw [optional_bare x hnone hsome, hnumber, hfits]
      split
      · cases w.number? <;> rfl
      · rfl
    · exact absurd h habsent
    · exact absurd h (hwrapped w')
  cases h with
  | absent =>
    have hword : word "None" (['N', 'o', 'n', 'e'] ++ r) = some r :=
      word_append (head?_any_ends (fun _ => isRawPart_of_rest) hr)
    rw [optional, hword, Written.fits, if_pos hf]
    rfl
  | wrapped h₁ h₂ ht he =>
    have happ := optional_wrapped x h₁ h₂ ht he r
    simp only [List.append_assoc, List.cons_append] at happ ⊢
    rw [happ, Written.fits, if_pos hf, Option.map_map]
    rfl
  | integer h => exact hbare (by simp) (by simp)
  | fraction h => exact hbare (by simp) (by simp)
  | signedFraction hsign h => exact hbare (by simp) (by simp)
  | quoted h => exact hbare (by simp) (by simp)

theorem value_append (x : Extensions) (f : Field) {w : Written} {t r : List Char}
    (h : Spells w t) (hr : Ends r) : value x f (t ++ r) = (w.fits x f).map (·, r) := by
  by_cases hf : f.optional = true
  · rw [value, if_pos hf, optional_append x h hr hf]
  · rw [value, if_neg hf, number_append h hr, fits_required (by simpa using hf)]
    cases w.number? <;> rfl

theorem expect_some {w : String} {s r : List Char} (h : expect w s = some r) :
    s = w.toList ++ r := by
  rw [expect, Option.ite_none_right_eq_some, Option.some.injEq] at h
  obtain ⟨hfront, rfl⟩ := h
  obtain ⟨t, rfl⟩ := List.isPrefixOf_iff_prefix.mp hfront
  simp [← String.length_toList]

theorem word_some {w : String} {s r : List Char} (h : word w s = some r) : s = w.toList ++ r := by
  rw [word, Option.bind_eq_some_iff] at h
  obtain ⟨q, hq, h⟩ := h
  rw [Option.ite_none_left_eq_some] at h
  cases h.2
  exact expect_some hq

theorem comma_some {s q : List Char} {b : Bool} (h : comma s = some (b, q)) :
    (b = false ∧ skip s = some q) ∨
      (b = true ∧ ∃ r, skip s = some (',' :: r) ∧ skip r = some q) := by
  obtain ⟨p, hp, h⟩ := Option.bind_eq_some_iff.mp h
  split at h
  · next r =>
    obtain ⟨q', hq, h⟩ := Option.bind_eq_some_iff.mp h
    cases h
    exact .inr ⟨rfl, r, hp, hq⟩
  · cases h
    exact .inl ⟨rfl, hp⟩

theorem closing_of_comma {s r : List Char} {b : Bool} (h : comma s = some (b, ')' :: r)) :
    ∃ e, Closing e ∧ s = e ++ r := by
  rcases comma_some h with ⟨-, hskip⟩ | ⟨-, q, hcomma, hskip⟩
  · obtain ⟨g, hg, rfl⟩ := gap_of_skip hskip
    exact ⟨g ++ [')'], .plain hg, by simp⟩
  · obtain ⟨g, hg, rfl⟩ := gap_of_skip hcomma
    obtain ⟨g', hg', rfl⟩ := gap_of_skip hskip
    exact ⟨g ++ ',' :: (g' ++ [')']), .comma hg hg', by simp⟩

theorem optional_some {x : Extensions} {s r : List Char} {v : Option Nat} {f : Field}
    (hf : f.optional = true) (h : optional x s = some (v, r)) :
    ∃ w t, Spells w t ∧ w.fits x f = some v ∧ s = t ++ r := by
  unfold optional at h
  simp only at h
  split at h
  · next q hword =>
    cases h
    exact ⟨.absent, _, .absent, by rw [Written.fits, if_pos hf], word_some hword⟩
  · split at h
    · next q hsome =>
      obtain ⟨p, hword, hopen⟩ := Option.bind_eq_some_iff.mp hsome
      obtain ⟨g₁, h₁, rfl⟩ := gap_of_skip hopen
      obtain ⟨q', hskip, h⟩ := Option.bind_eq_some_iff.mp h
      obtain ⟨⟨n, q₁⟩, hn, h⟩ := Option.bind_eq_some_iff.mp h
      obtain ⟨⟨b, q₂⟩, hcomma, h⟩ := Option.bind_eq_some_iff.mp h
      split at h
      · next heq =>
        cases heq
        cases h
        obtain ⟨t, ht, hword', rfl⟩ := number_some hn
        obtain ⟨c, t', rfl, -⟩ := ht.head
        obtain ⟨g₂, h₂, rfl⟩ := gap_of_skip hskip
        obtain ⟨e, he, rfl⟩ := closing_of_comma hcomma
        refine ⟨_, _, .wrapped h₁ h₂ ht he, ?_, ?_⟩
        · simp [Written.fits, hf, hword']
        · rw [word_some hword]
          simp
      · cases h
    · split at h
      · next himplicit =>
        obtain ⟨⟨n, q⟩, hn, h⟩ := Option.map_eq_some_iff.mp h
        cases h
        obtain ⟨t, ht, hword, rfl⟩ := number_some hn
        refine ⟨.integer n, t, ht, ?_, rfl⟩
        simp [Written.fits, hf, himplicit, hword]
      · cases h

theorem value_some {x : Extensions} {f : Field} {s r : List Char} {v : Option Nat}
    (h : value x f s = some (v, r)) : ∃ w t, Spells w t ∧ w.fits x f = some v ∧ s = t ++ r := by
  unfold value at h
  split at h
  · next hf => exact optional_some hf h
  · next hf =>
    obtain ⟨⟨n, q⟩, hn, h⟩ := Option.map_eq_some_iff.mp h
    cases h
    obtain ⟨t, ht, hword, rfl⟩ := number_some hn
    refine ⟨.integer n, t, ht, ?_, rfl⟩
    rw [fits_required (by simpa using hf), hword, Option.map_some]

end ScreenScript.Config.Reader
