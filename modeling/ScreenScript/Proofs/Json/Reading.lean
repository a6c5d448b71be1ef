import ScreenScript.Host.Answer
import ScreenScript.Proofs.Json.Scanning

/-!
Reading is local: whatever value is read off the front of a text is spelt by a piece of it that is
read as this value wherever it stands.
-/

namespace ScreenScript.Json.Written

def opensValue (c : Char) : Bool :=
  c = '"' || c = '[' || c = '\x7b' || c = '-' || c = 't' || c = 'f' || c = 'n' ||
    Decimal.isDigit c

theorem isBlank_of_isDigit {c : Char} (h : Decimal.isDigit c = true) :
    Text.isBlank c = false := by
  simp only [Decimal.isDigit, Bool.and_eq_true, decide_eq_true_eq, Char.le_def,
    UInt32.le_iff_toNat_le] at h
  have hlow : ('0' : Char).val.toNat = 48 := rfl
  have hhigh : ('9' : Char).val.toNat = 57 := rfl
  have hnat : c.toNat = c.val.toNat := rfl
  simp only [Text.isBlank, Bool.or_eq_false_iff, Bool.and_eq_false_iff, decide_eq_false_iff_not]
  omega

theorem isBlank_of_opensValue {c : Char} (h : opensValue c = true) : Text.isBlank c = false := by
  simp only [opensValue, Bool.or_eq_true, decide_eq_true_eq] at h
  rcases h with ((((((rfl | rfl) | rfl) | rfl) | rfl) | rfl) | rfl) | h
  all_goals first | decide | exact isBlank_of_isDigit h

theorem isSpace_of_opensValue {c : Char} (h : opensValue c = true) : isSpace c = false := by
  by_contra hspace
  rw [Bool.not_eq_false] at hspace
  have hblank := isBlank_of_opensValue h
  rw [isBlank_of_isSpace hspace] at hblank
  cases hblank

/-- The text `p` alone is read as `w`, with room for twice its length of fuel. -/
def Reads (p : List Char) (w : Written) : Prop :=
  ∀ fuel rest, 2 * p.length ≤ fuel → Stops rest → readValue fuel (p ++ rest) = some (w, rest)

structure Spells (p : List Char) (w : Written) : Prop where
  opens : ∃ c r, p = c :: r ∧ opensValue c = true
  closes : ∃ r c, p = r ++ [c] ∧ Text.isBlank c = false
  reads : Reads p w

structure SpellsItems (q : List Char) (ws : List Written) : Prop where
  closes : ∃ r, q = r ++ [']']
  reads : ∀ fuel rest, 2 * q.length ≤ fuel → readItems fuel (q ++ rest) = some (ws, rest)

structure SpellsMembers (q : List Char) (ms : List (Option String × Written)) : Prop where
  closes : ∃ r, q = r ++ ['\x7d']
  reads : ∀ fuel rest, 2 * q.length ≤ fuel → readMembers fuel (q ++ rest) = some (ms, rest)

theorem Spells.spaced {p : List Char} {w : Written} (h : Spells p w) {sp : List Char}
    (hsp : Spaces sp) : Reads (sp ++ p) w := by
  intro fuel rest hfuel hrest
  rw [← readValue_skipSpace, List.append_assoc, skipSpace_append hsp, readValue_skipSpace]
  apply h.reads _ _ _ hrest
  simp only [List.length_append] at hfuel
  omega

theorem spells_literal {p : List Char} {t : Option String}
    (h : ∀ rest, readLiteral (p ++ '"' :: rest) = some (t, rest)) :
    Spells ('"' :: p ++ ['"']) (.string t) := by
  refine ⟨⟨'"', _, rfl, by decide⟩, ⟨'"' :: p, '"', rfl, by decide⟩, ?_⟩
  intro fuel rest hfuel hrest
  obtain ⟨fuel, rfl⟩ : ∃ n, fuel = n + 1 := ⟨fuel - 1, by simp at hfuel; omega⟩
  have hskip := skipSpace_cons (c := '"') (by decide) (p ++ ['"'] ++ rest)
  rw [List.cons_append, List.cons_append, readValue, hskip]
  simp only [List.append_assoc, List.cons_append, List.nil_append, h, Option.map_some]

theorem spells_negative {p : List Char} {w : Written}
    (hlast : ∃ r c, p = r ++ [c] ∧ Decimal.isDigit c = true)
    (h : ∀ rest, Stops rest → readNumeral true (p ++ rest) = some (w, rest)) :
    Spells ('-' :: p) w := by
  obtain ⟨r, c, rfl, hc⟩ := hlast
  refine ⟨⟨'-', _, rfl, by decide⟩, ⟨'-' :: r, c, rfl, isBlank_of_isDigit hc⟩, ?_⟩
  intro fuel rest hfuel hrest
  obtain ⟨fuel, rfl⟩ : ∃ n, fuel = n + 1 := ⟨fuel - 1, by simp at hfuel; omega⟩
  rw [List.cons_append, readValue, skipSpace_cons (by decide)]
  exact h rest hrest

theorem readValue_digit {c : Char} (hc : Decimal.isDigit c = true) (fuel : Nat) (r : List Char) :
    readValue (fuel + 1) (c :: r) = readNumeral false (c :: r) := by
  have hspace : isSpace c = false := isSpace_of_opensValue (by simp [opensValue, hc])
  have hne : ∀ d : Char, Decimal.isDigit d = false → c ≠ d := by
    rintro d hd rfl
    rw [hd] at hc
    cases hc
  rw [readValue, skipSpace_cons hspace]
  split
  · next heq => cases heq
  all_goals first
    | next heq => exact absurd (List.cons.inj heq).1 (hne _ (by decide))
    | rfl

theorem spells_numeral {p : List Char} {w : Written}
    (hfirst : ∃ c r, p = c :: r ∧ Decimal.isDigit c = true)
    (hlast : ∃ r c, p = r ++ [c] ∧ Decimal.isDigit c = true)
    (h : ∀ rest, Stops rest → readNumeral false (p ++ rest) = some (w, rest)) :
    Spells p w := by
  obtain ⟨c, q, hp, hc⟩ := hfirst
  obtain ⟨r, d, hp', hd⟩ := hlast
  refine ⟨⟨c, q, hp, by simp [opensValue, hc]⟩, ⟨r, d, hp', isBlank_of_isDigit hd⟩, ?_⟩
  intro fuel rest hfuel hrest
  obtain ⟨fuel, rfl⟩ : ∃ n, fuel = n + 1 := ⟨fuel - 1, by simp [hp] at hfuel; omega⟩
  rw [← h rest hrest, hp, List.cons_append, readValue_digit hc]

theorem expect_append (word : List Char) (w : Written) (rest : List Char) :
    expect word w (word ++ rest) = some (w, rest) := by
  have hprefix : word.isPrefixOf (word ++ rest) = true :=
    List.isPrefixOf_iff_prefix.mpr (List.prefix_append word rest)
  rw [expect, if_pos hprefix, List.drop_left]

theorem expect_split {word s rest : List Char} {w w' : Written}
    (h : expect word w s = some (w', rest)) : w' = w ∧ s = word ++ rest := by
  rw [expect] at h
  split at h
  · next hprefix =>
    cases h
    obtain ⟨r, rfl⟩ := List.isPrefixOf_iff_prefix.mp hprefix
    exact ⟨rfl, by rw [List.drop_left]⟩
  · cases h

theorem spells_word {c : Char} {word : List Char} {w : Written}
    (hfirst : opensValue c = true) (hlast : ∃ r d, c :: word = r ++ [d] ∧ Text.isBlank d = false)
    (h : ∀ fuel r, readValue (fuel + 1) (c :: r) = expect word w r) : Spells (c :: word) w := by
  refine ⟨⟨c, word, rfl, hfirst⟩, hlast, ?_⟩
  intro fuel rest hfuel hrest
  obtain ⟨fuel, rfl⟩ : ∃ n, fuel = n + 1 := ⟨fuel - 1, by simp at hfuel; omega⟩
  rw [List.cons_append, h, expect_append]

theorem spells_null : Spells "null".toList .null := by
  apply spells_word (c := 'n')
  · decide
  · exact ⟨"nul".toList, 'l', rfl, by decide⟩
  · intro fuel r
    rw [readValue, skipSpace_cons (by decide)]
    rfl

theorem spells_true : Spells "true".toList (.bool true) := by
  apply spells_word (c := 't')
  · decide
  · exact ⟨"tru".toList, 'e', rfl, by decide⟩
  · intro fuel r
    rw [readValue, skipSpace_cons (by decide)]
    rfl

theorem spells_false : Spells "false".toList (.bool false) := by
  apply spells_word (c := 'f')
  · decide
  · exact ⟨"fals".toList, 'e', rfl, by decide⟩
  · intro fuel r
    rw [readValue, skipSpace_cons (by decide)]
    rfl

theorem spells_array_nil {sp : List Char} (hsp : Spaces sp) :
    Spells ('[' :: (sp ++ [']'])) (.array []) := by
  refine ⟨⟨'[', _, rfl, by decide⟩, ⟨'[' :: sp, ']', rfl, by decide⟩, ?_⟩
  intro fuel rest hfuel hrest
  obtain ⟨fuel, rfl⟩ : ∃ n, fuel = n + 1 := ⟨fuel - 1, by simp at hfuel; omega⟩
  rw [List.cons_append, List.append_assoc, readValue, skipSpace_cons (by decide)]
  simp only [List.cons_append, List.nil_append, skipSpace_spaced hsp (c := ']') (by decide)]

theorem readItems_bracket {s r : List Char} (h : skipSpace s = ']' :: r) (fuel : Nat) :
    readItems fuel s = none := by
  have hvalue : ∀ fuel, readValue fuel s = none := by
    intro fuel
    cases fuel with
    | zero => rfl
    | succ fuel =>
      rw [readValue, h]
      rfl
  cases fuel with
  | zero => rfl
  | succ fuel =>
    rw [readItems, hvalue]
    rfl

theorem SpellsItems.array {q : List Char} {ws : List Written} (h : SpellsItems q ws) :
    Spells ('[' :: q) (.array ws) := by
  obtain ⟨r, hq⟩ := h.closes
  refine ⟨⟨'[', _, rfl, by decide⟩, ⟨'[' :: r, ']', by rw [hq]; rfl, by decide⟩, ?_⟩
  intro fuel rest hfuel hrest
  obtain ⟨fuel, rfl⟩ : ∃ n, fuel = n + 1 := ⟨fuel - 1, by simp at hfuel; omega⟩
  have hread := h.reads fuel rest (by simp at hfuel; omega)
  rw [List.cons_append, readValue, skipSpace_cons (by decide)]
  simp only
  split
  · next heq =>
    rw [readItems_bracket heq] at hread
    cases hread
  · rw [readItems_skipSpace, hread, Option.map_some]

theorem spellsItems_last {p : List Char} {w : Written} (h : Reads p w) {sp : List Char}
    (hsp : Spaces sp) : SpellsItems (p ++ (sp ++ [']'])) [w] := by
  refine ⟨⟨p ++ sp, by simp⟩, ?_⟩
  intro fuel rest hfuel
  obtain ⟨fuel, rfl⟩ : ∃ n, fuel = n + 1 := ⟨fuel - 1, by simp at hfuel; omega⟩
  have hstops : Stops (sp ++ ']' :: rest) := stops_spaced hsp (by decide) rest
  have hread := h fuel (sp ++ ']' :: rest) (by simp at hfuel; omega) hstops
  simp only [List.append_assoc, List.cons_append, List.nil_append, readItems, hread,
    Option.bind_eq_bind, Option.bind_some, skipSpace_spaced hsp (c := ']') (by decide)]

theorem spellsItems_cons {p : List Char} {w : Written} (h : Reads p w) {sp : List Char}
    (hsp : Spaces sp) {q : List Char} {ws : List Written} (hq : SpellsItems q ws) :
    SpellsItems (p ++ (sp ++ ',' :: q)) (w :: ws) := by
  obtain ⟨r, hr⟩ := hq.closes
  refine ⟨⟨p ++ (sp ++ ',' :: r), by simp [hr]⟩, ?_⟩
  intro fuel rest hfuel
  obtain ⟨fuel, rfl⟩ : ∃ n, fuel = n + 1 := ⟨fuel - 1, by simp at hfuel; omega⟩
  have hstops : Stops (sp ++ ',' :: (q ++ rest)) := stops_spaced hsp (by decide) _
  have hread := h fuel _ (by simp at hfuel; omega) hstops
  have hitems := hq.reads fuel rest (by simp at hfuel; omega)
  simp only [List.append_assoc, List.cons_append, readItems, hread, Option.bind_eq_bind,
    Option.bind_some, skipSpace_spaced hsp (c := ',') (by decide), hitems, Option.map_some]

theorem spells_object_nil {sp : List Char} (hsp : Spaces sp) :
    Spells ('\x7b' :: (sp ++ ['\x7d'])) (.object []) := by
  refine ⟨⟨'\x7b', _, rfl, by decide⟩, ⟨'\x7b' :: sp, '\x7d', rfl, by decide⟩, ?_⟩
  intro fuel rest hfuel hrest
  obtain ⟨fuel, rfl⟩ : ∃ n, fuel = n + 1 := ⟨fuel - 1, by simp at hfuel; omega⟩
  rw [List.cons_append, List.append_assoc, readValue, skipSpace_cons (by decide)]
  simp only [List.cons_append, List.nil_append, skipSpace_spaced hsp (c := '\x7d') (by decide)]

theorem readMembers_bracket {s r : List Char} (h : skipSpace s = '\x7d' :: r) (fuel : Nat) :
    readMembers fuel s = none := by
  cases fuel with
  | zero => rfl
  | succ fuel =>
    rw [readMembers, h]
    rfl

theorem SpellsMembers.object {q : List Char} {ms : List (Option String × Written)}
    (h : SpellsMembers q ms) : Spells ('\x7b' :: q) (.object ms) := by
  obtain ⟨r, hq⟩ := h.closes
  refine ⟨⟨'\x7b', _, rfl, by decide⟩, ⟨'\x7b' :: r, '\x7d', by rw [hq]; rfl, by decide⟩, ?_⟩
  intro fuel rest hfuel hrest
  obtain ⟨fuel, rfl⟩ : ∃ n, fuel = n + 1 := ⟨fuel - 1, by simp at hfuel; omega⟩
  have hread := h.reads fuel rest (by simp at hfuel; omega)
  rw [List.cons_append, readValue, skipSpace_cons (by decide)]
  simp only
  split
  · next heq =>
    rw [readMembers_bracket heq] at hread
    cases hread
  · rw [readMembers_skipSpace, hread, Option.map_some]

/-- A key with its quotation marks, and space on either side of it. -/
structure SpellsKey (k : List Char) (key : Option String) : Prop where
  reads : ∀ rest, ∃ r, skipSpace (k ++ ':' :: rest) = '"' :: r ∧
    ∃ s, readLiteral r = some (key, s) ∧ skipSpace s = ':' :: rest

theorem spellsKey {p : List Char} {key : Option String}
    (h : ∀ rest, readLiteral (p ++ '"' :: rest) = some (key, rest)) {sp sp' : List Char}
    (hsp : Spaces sp) (hsp' : Spaces sp') : SpellsKey (sp ++ '"' :: (p ++ '"' :: sp')) key := by
  constructor
  intro rest
  refine ⟨p ++ '"' :: (sp' ++ ':' :: rest), ?_, sp' ++ ':' :: rest, h _, ?_⟩
  · simp only [List.append_assoc, List.cons_append]
    exact skipSpace_spaced hsp (by decide) _
  · exact skipSpace_spaced hsp' (by decide) _

theorem readMembers_member {k p : List Char} {key : Option String} {w : Written}
    (hk : SpellsKey k key) (h : Reads p w) {fuel : Nat} (hfuel : 2 * p.length ≤ fuel)
    {rest : List Char} (hrest : Stops rest) :
    readMembers (fuel + 1) (k ++ ':' :: (p ++ rest)) =
      match skipSpace rest with
      | ',' :: r => (readMembers fuel r).map fun (ms, rest) => ((key, w) :: ms, rest)
      | '\x7d' :: r => some ([(key, w)], r)
      | _ => none := by
  obtain ⟨r, hquote, s, hkey, hcolon⟩ := hk.reads (p ++ rest)
  have hvalue := h fuel rest hfuel hrest
  rw [readMembers, hquote]
  simp only [hkey, hcolon, Option.bind_eq_bind, Option.bind_some]
  exact hvalue ▸ rfl

theorem spellsMembers_last {k p : List Char} {key : Option String} {w : Written}
    (hk : SpellsKey k key) (h : Reads p w) {sp : List Char} (hsp : Spaces sp) :
    SpellsMembers (k ++ ':' :: (p ++ (sp ++ ['\x7d']))) [(key, w)] := by
  refine ⟨⟨k ++ ':' :: (p ++ sp), by simp⟩, ?_⟩
  intro fuel rest hfuel
  obtain ⟨fuel, rfl⟩ : ∃ n, fuel = n + 1 := ⟨fuel - 1, by simp at hfuel; omega⟩
  have hstops : Stops (sp ++ '\x7d' :: rest) := stops_spaced hsp (by decide) rest
  have hmember := readMembers_member hk h (show 2 * p.length ≤ fuel by simp at hfuel; omega) hstops
  rw [skipSpace_spaced hsp (c := '\x7d') (by decide)] at hmember
  simpa only [List.append_assoc, List.cons_append, List.nil_append] using hmember

theorem spellsMembers_cons {k p : List Char} {key : Option String} {w : Written}
    (hk : SpellsKey k key) (h : Reads p w) {sp : List Char} (hsp : Spaces sp) {q : List Char}
    {ms : List (Option String × Written)} (hq : SpellsMembers q ms) :
    SpellsMembers (k ++ ':' :: (p ++ (sp ++ ',' :: q))) ((key, w) :: ms) := by
  obtain ⟨r, hr⟩ := hq.closes
  refine ⟨⟨k ++ ':' :: (p ++ (sp ++ ',' :: r)), by simp [hr]⟩, ?_⟩
  intro fuel rest hfuel
  obtain ⟨fuel, rfl⟩ : ∃ n, fuel = n + 1 := ⟨fuel - 1, by simp at hfuel; omega⟩
  have hstops : Stops (sp ++ ',' :: (q ++ rest)) := stops_spaced hsp (by decide) _
  have hmember := readMembers_member hk h (show 2 * p.length ≤ fuel by simp at hfuel; omega) hstops
  have hmembers := hq.reads fuel rest (by simp at hfuel; omega)
  rw [skipSpace_spaced hsp (c := ',') (by decide)] at hmember
  simpa only [List.append_assoc, List.cons_append, hmembers, Option.map_some] using hmember

theorem readKey_split {s rest : List Char} {key : Option String} {r s' : List Char}
    (hquote : skipSpace s = '"' :: r) (hkey : readLiteral r = some (key, s'))
    (hcolon : skipSpace s' = ':' :: rest) : ∃ k, s = k ++ ':' :: rest ∧ SpellsKey k key := by
  obtain ⟨sp, hsp, hs⟩ := skipSpace_split s
  obtain ⟨p, rfl, hp⟩ := readLiteral_split hkey
  obtain ⟨sp', hsp', hs'⟩ := skipSpace_split s'
  rw [hcolon] at hs'
  rw [hquote, hs'] at hs
  exact ⟨sp ++ '"' :: (p ++ '"' :: sp'), by simp [hs], spellsKey hp hsp hsp'⟩

theorem readMembers_some {fuel : Nat} {s rest : List Char} {ms : List (Option String × Written)}
    (h : readMembers (fuel + 1) s = some (ms, rest)) :
    ∃ r key s' s'' w s₃, skipSpace s = '"' :: r ∧ readLiteral r = some (key, s') ∧
      skipSpace s' = ':' :: s'' ∧ readValue fuel s'' = some (w, s₃) ∧
      ((∃ r ms', skipSpace s₃ = ',' :: r ∧ readMembers fuel r = some (ms', rest) ∧
          ms = (key, w) :: ms') ∨
        skipSpace s₃ = '\x7d' :: rest ∧ ms = [(key, w)]) := by
  rw [readMembers] at h
  split at h
  · next r hquote =>
    simp only [Option.bind_eq_bind, Option.bind_eq_some_iff, Prod.exists] at h
    obtain ⟨key, s', hkey, h⟩ := h
    split at h
    · next s'' hcolon =>
      simp only [Option.bind_eq_some_iff, Prod.exists] at h
      obtain ⟨w, s₃, hvalue, h⟩ := h
      refine ⟨r, key, s', s'', w, s₃, hquote, hkey, hcolon, hvalue, ?_⟩
      split at h
      · next r₃ hcomma =>
        simp only [Option.map_eq_some_iff, Prod.exists, Prod.mk.injEq] at h
        obtain ⟨ms', rest', hmembers, rfl, rfl⟩ := h
        exact .inl ⟨r₃, ms', hcomma, hmembers, rfl⟩
      · next r₃ hbrace =>
        cases h
        exact .inr ⟨hbrace, rfl⟩
      · cases h
    · cases h
  · cases h

theorem readItems_some {fuel : Nat} {s rest : List Char} {ws : List Written}
    (h : readItems (fuel + 1) s = some (ws, rest)) :
    ∃ w s', readValue fuel s = some (w, s') ∧
      ((∃ r ws', skipSpace s' = ',' :: r ∧ readItems fuel r = some (ws', rest) ∧ ws = w :: ws') ∨
        skipSpace s' = ']' :: rest ∧ ws = [w]) := by
  rw [readItems] at h
  simp only [Option.bind_eq_bind, Option.bind_eq_some_iff, Prod.exists] at h
  obtain ⟨w, s', hvalue, h⟩ := h
  refine ⟨w, s', hvalue, ?_⟩
  split at h
  · next r hcomma =>
    simp only [Option.map_eq_some_iff, Prod.exists, Prod.mk.injEq] at h
    obtain ⟨ws', rest', hitems, rfl, rfl⟩ := h
    exact .inl ⟨r, ws', hcomma, hitems, rfl⟩
  · next r hbracket =>
    cases h
    exact .inr ⟨hbracket, rfl⟩
  · cases h

/-- What a fuel of `fuel` reads is spelt by what it reads it from. -/
structure Local (fuel : Nat) : Prop where
  value : ∀ {s w rest}, readValue fuel s = some (w, rest) →
    ∃ sp p, Spaces sp ∧ s = sp ++ (p ++ rest) ∧ Spells p w
  items : ∀ {s ws rest}, readItems fuel s = some (ws, rest) → ∃ q, s = q ++ rest ∧ SpellsItems q ws
  members : ∀ {s ms rest}, readMembers fuel s = some (ms, rest) →
    ∃ q, s = q ++ rest ∧ SpellsMembers q ms

theorem readItems_local {fuel : Nat} (ih : Local fuel) {s rest : List Char} {ws : List Written}
    (h : readItems (fuel + 1) s = some (ws, rest)) : ∃ q, s = q ++ rest ∧ SpellsItems q ws := by
  obtain ⟨w, s', hvalue, hnext⟩ := readItems_some h
  obtain ⟨sp, p, hsp, rfl, hp⟩ := ih.value hvalue
  obtain ⟨sp', hsp', hs'⟩ := skipSpace_split s'
  rcases hnext with ⟨r, ws', hcomma, hitems, rfl⟩ | ⟨hbracket, rfl⟩
  · obtain ⟨q, rfl, hq⟩ := ih.items hitems
    rw [hcomma] at hs'
    exact ⟨_, by simp [hs'], spellsItems_cons (hp.spaced hsp) hsp' hq⟩
  · rw [hbracket] at hs'
    exact ⟨_, by simp [hs'], spellsItems_last (hp.spaced hsp) hsp'⟩

theorem readMembers_local {fuel : Nat} (ih : Local fuel) {s rest : List Char}
    {ms : List (Option String × Written)} (h : readMembers (fuel + 1) s = some (ms, rest)) :
    ∃ q, s = q ++ rest ∧ SpellsMembers q ms := by
  obtain ⟨r, key, s', s'', w, s₃, hquote, hkey, hcolon, hvalue, hnext⟩ :=
    readMembers_some h
  obtain ⟨k, rfl, hk⟩ := readKey_split hquote hkey hcolon
  obtain ⟨sp, p, hsp, rfl, hp⟩ := ih.value hvalue
  obtain ⟨sp', hsp', hs'⟩ := skipSpace_split s₃
  rcases hnext with ⟨r, ms', hcomma, hmembers, rfl⟩ | ⟨hbrace, rfl⟩
  · obtain ⟨q, rfl, hq⟩ := ih.members hmembers
    rw [hcomma] at hs'
    exact ⟨_, by simp [hs'], spellsMembers_cons hk (hp.spaced hsp) hsp' hq⟩
  · rw [hbrace] at hs'
    exact ⟨_, by simp [hs'], spellsMembers_last hk (hp.spaced hsp) hsp'⟩

theorem readValue_local {fuel : Nat} (ih : Local fuel) {s rest : List Char} {w : Written}
    (h : readValue (fuel + 1) s = some (w, rest)) :
    ∃ sp p, Spaces sp ∧ s = sp ++ (p ++ rest) ∧ Spells p w := by
  obtain ⟨sp, hsp, hs⟩ := skipSpace_split s
  suffices ∃ p, skipSpace s = p ++ rest ∧ Spells p w by
    obtain ⟨p, hp, hw⟩ := this
    exact ⟨sp, p, hsp, by rw [← hp]; exact hs, hw⟩
  rw [readValue] at h
  split at h
  · cases h
  · next r heq =>
    simp only [Option.map_eq_some_iff, Prod.exists, Prod.mk.injEq] at h
    obtain ⟨t, rest', hliteral, rfl, rfl⟩ := h
    obtain ⟨p, rfl, hp⟩ := readLiteral_split hliteral
    exact ⟨_, by rw [heq]; simp, spells_literal hp⟩
  · next r heq =>
    obtain ⟨sp', hsp', hr⟩ := skipSpace_split r
    split at h
    · next r' hbracket =>
      cases h
      rw [hbracket] at hr
      exact ⟨_, by rw [heq, hr]; simp, spells_array_nil hsp'⟩
    · simp only [Option.map_eq_some_iff, Prod.exists, Prod.mk.injEq] at h
      obtain ⟨ws, rest', hitems, rfl, rfl⟩ := h
      rw [readItems_skipSpace] at hitems
      obtain ⟨q, rfl, hq⟩ := ih.items hitems
      exact ⟨_, by rw [heq]; rfl, hq.array⟩
  · next r heq =>
    obtain ⟨sp', hsp', hr⟩ := skipSpace_split r
    split at h
    · next r' hbrace =>
      cases h
      rw [hbrace] at hr
      exact ⟨_, by rw [heq, hr]; simp, spells_object_nil hsp'⟩
    · simp only [Option.map_eq_some_iff, Prod.exists, Prod.mk.injEq] at h
      obtain ⟨ms, rest', hmembers, rfl, rfl⟩ := h
      rw [readMembers_skipSpace] at hmembers
      obtain ⟨q, rfl, hq⟩ := ih.members hmembers
      exact ⟨_, by rw [heq]; rfl, hq.object⟩
  · next r heq =>
    obtain ⟨p, rfl, -, hlast, hp⟩ := readNumeral_split h
    exact ⟨_, by rw [heq]; rfl, spells_negative hlast hp⟩
  · next r heq =>
    obtain ⟨rfl, rfl⟩ := expect_split h
    exact ⟨_, by rw [heq]; rfl, spells_true⟩
  · next r heq =>
    obtain ⟨rfl, rfl⟩ := expect_split h
    exact ⟨_, by rw [heq]; rfl, spells_false⟩
  · next r heq =>
    obtain ⟨rfl, rfl⟩ := expect_split h
    exact ⟨_, by rw [heq]; rfl, spells_null⟩
  · obtain ⟨p, heq, hfirst, hlast, hp⟩ := readNumeral_split h
    exact ⟨p, heq, spells_numeral hfirst hlast hp⟩

theorem reading_local : ∀ fuel, Local fuel := by
  intro fuel
  -- Values, items and members call one another with one step less.
  induction fuel with
  | zero => exact ⟨by rintro s w rest ⟨⟩, by rintro s ws rest ⟨⟩, by rintro s ms rest ⟨⟩⟩
  | succ fuel ih => exact ⟨readValue_local ih, readItems_local ih, readMembers_local ih⟩

theorem parse_spelt {s : String} {w : Written} (h : parse? s = some w) :
    ∃ sp p sp', Spaces sp ∧ Spaces sp' ∧ s.toList = sp ++ (p ++ sp') ∧ Spells p w := by
  rw [parse?] at h
  split at h
  · next w' rest hread =>
    split at h
    · next hempty =>
      cases h
      obtain ⟨sp, p, hsp, hs, hp⟩ := (reading_local _).value hread
      obtain ⟨sp', hsp', hrest⟩ := skipSpace_split rest
      rw [List.isEmpty_iff.mp hempty, List.append_nil] at hrest
      rw [hrest] at hs
      exact ⟨sp, p, sp', hsp, hsp', hs, hp⟩
    · cases h
  · cases h

theorem Spells.parse {p : List Char} {w : Written} (h : Spells p w) {sp sp' : List Char}
    (hsp : Spaces sp) (hsp' : Spaces sp') :
    parse? (String.ofList (sp ++ (p ++ sp'))) = some w := by
  have hstops : Stops sp' := by
    rintro c r rfl
    exact prolongs_of_isSpace (hsp' c (by simp))
  have hread := h.spaced hsp (2 * (sp ++ (p ++ sp')).length + 2) sp'
    (by simp only [List.length_append]; omega) hstops
  rw [List.append_assoc] at hread
  have hskip : skipSpace sp' = [] := by
    rw [← List.append_nil sp', skipSpace_append hsp']
    rfl
  rw [parse?]
  simp only [String.toList_ofList, hread, hskip, List.isEmpty_nil, if_true]

theorem trimText_spelt {s : String} {sp p sp' : List Char} {w : Written} (hsp : Spaces sp)
    (hsp' : Spaces sp') (hs : s.toList = sp ++ (p ++ sp')) (hp : Spells p w) :
    Text.trimText s = String.ofList p := by
  obtain ⟨c, r, rfl, hc⟩ := hp.opens
  obtain ⟨r', d, hlast, hd⟩ := hp.closes
  have hcb := isBlank_of_opensValue hc
  have hstart : Text.trimStart s.toList = c :: r ++ sp' := by
    rw [hs, Text.trimStart, List.dropWhile_append_of_pos fun d hd => isBlank_of_isSpace (hsp d hd)]
    exact List.dropWhile_cons_of_neg (by rw [hcb]; decide)
  have hblank : ∀ d ∈ sp'.reverse, Text.isBlank d = true := by
    intro d hd
    exact isBlank_of_isSpace (hsp' d (List.mem_reverse.mp hd))
  have hend : Text.trimEnd (c :: r ++ sp') = c :: r := by
    rw [Text.trimEnd, List.reverse_append, List.dropWhile_append_of_pos hblank, hlast,
      List.reverse_append, List.reverse_singleton, List.singleton_append,
      List.dropWhile_cons_of_neg (by rw [hd]; decide), List.reverse_cons, List.reverse_reverse]
  rw [Text.trimText, Text.trim, hstart, hend]

theorem parse_trimText {s : String} {w : Written} (h : parse? s = some w) :
    parse? (Text.trimText s) = some w := by
  obtain ⟨sp, p, sp', hsp, hsp', hs, hp⟩ := parse_spelt h
  rw [trimText_spelt hsp hsp' hs hp]
  have hparse := hp.parse Spaces.nil Spaces.nil
  rwa [List.nil_append, List.append_nil] at hparse

end ScreenScript.Json.Written

namespace ScreenScript

open Json

theorem Answer.json_of_parse {s : String} {w : Written} (h : Written.parse? s = some w) :
    Answer.json? s = Value.ofWritten? maxDepth w := by
  rw [Answer.json?, Value.parse?, Written.parse_trimText h, Option.bind_some]

end ScreenScript
