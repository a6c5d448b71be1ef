import ScreenScript.Proofs.Pattern.Recency
import ScreenScript.Proofs.Pattern.Spans
import ScreenScript.Proofs.Pattern.Tokens

namespace ScreenScript.Pattern

namespace Expr

def whole (e : Expr) : Expr :=
  .seq (.anchor .textStart .word) (.seq e (.seq (.anchor .textEnd .word) .empty))

theorem occursIn_whole (e : Expr) (text : List Char) :
    e.whole.occursIn text = true ↔ e.Spans text 0 text.length := by
  have hstart : ∀ i, i ≤ text.length →
      (Anchor.textStart.holds .word (charBefore none text i) text[i]? = true ↔ i = 0) := by
    intro i hi
    cases i with
    | zero => simp [Anchor.holds, charBefore]
    | succ i =>
      rw [charBefore, List.getElem?_eq_getElem hi]
      simp [Anchor.holds]
  have hend : ∀ j, j ≤ text.length →
      (Anchor.textEnd.holds .word (charBefore none text j) text[j]? = true ↔ j = text.length) := by
    intro j hj
    simp only [Anchor.holds, Option.isNone_iff_eq_none, List.getElem?_eq_none_iff]
    omega
  rw [occursIn_iff]
  constructor
  · rintro ⟨i, j, hi, k, ⟨rfl, -, hanchor⟩, l, he, m, ⟨rfl, hl, hanchor'⟩, -⟩
    obtain rfl := (hstart i hi).mp hanchor
    obtain rfl := (hend l hl).mp hanchor'
    exact he
  · intro he
    exact ⟨0, text.length, Nat.zero_le _, 0, ⟨rfl, Nat.zero_le _, (hstart 0 (Nat.zero_le _)).mpr rfl⟩,
      text.length, he, text.length,
      ⟨rfl, Nat.le_refl _, (hend text.length (Nat.le_refl _)).mpr rfl⟩, rfl⟩

end Expr

namespace Parser

/-- A pattern that is read to its end, before it is measured. -/
def whole? (s : List Char) : Option Part :=
  match readExpr (2 * s.length + 1) {} [] [] s with
  | some ((p, _), []) => some p
  | _ => none

theorem whole?_of_read {fuel : Nat} {s : List Char} (h : 2 * s.length + 1 ≤ fuel) :
    whole? s = match readExpr fuel {} [] [] s with
      | some ((p, _), []) => some p
      | _ => none := by
  rw [readExpr_fuel h]
  rfl

theorem parse?_eq (s : List Char) :
    parse? s = (whole? s).bind fun p => if p.acceptable then some p.expr else none := by
  rw [parse?, whole?_of_read (show 2 * s.length + 1 ≤ 2 * s.length + 2 by omega)]
  rcases readExpr (2 * s.length + 2) {} [] [] s with _ | ⟨⟨p, sc⟩, _ | ⟨c, r⟩⟩ <;> rfl

theorem readExpr_rest {fuel : Nat} {sc : Scope} {alts : List Part} {items : List Item}
    {s r : List Char} {x : Part × Scope} (h : readExpr fuel sc alts items s = some (x, r)) :
    r = [] ∨ ∃ u, r = ')' :: u := by
  induction fuel generalizing sc alts items s with
  | zero => cases h
  | succ fuel ih =>
    rw [readExpr_succ] at h
    cases hv : skipSpaced sc.modes s with
    | nil =>
      rw [hv] at h
      cases h
      exact .inl rfl
    | cons c v =>
      rw [hv, expression] at h
      split at h
      · next hc =>
        cases h
        exact .inr ⟨v, by rw [hc]⟩
      · obtain ⟨⟨_ | ⟨lo, hi⟩ | ⟨i, sc⟩, r'⟩, -, hrest⟩ := Option.bind_eq_some_iff.mp h
        · exact ih hrest
        · obtain ⟨items, -, hrest⟩ := Option.bind_eq_some_iff.mp hrest
          exact ih hrest
        · exact ih hrest

def anchoredChars (s : List Char) : List Char :=
  '^' :: '(' :: '?' :: ':' :: (s ++ [')', '$'])

theorem anchored_toList (p : String) : (anchored p).toList = anchoredChars p.toList := by
  simp [anchored, anchoredChars]

theorem readExpr_cons {fuel : Nat} {sc : Scope} {alts : List Part} {items : List Item} {c : Char}
    (hc : c ≠ ')') (hsc : sc.modes.spaced = false) (r : List Char) :
    readExpr (fuel + 1) sc alts items (c :: r) =
      (readToken fuel sc c r).bind fun y => expressionFrom fuel sc alts items y.1 y.2 := by
  have hvisible : Visible sc.modes c := by
    intro h
    rw [hsc] at h
    cases h
  rw [readExpr_succ, skipSpaced_cons hvisible, expression, if_neg hc]

theorem readExpr_opening (fuel : Nat) (s : List Char) :
    readExpr (fuel + 3) {} [] [] ('^' :: '(' :: '?' :: ':' :: s) =
      (readExpr fuel {} [] [] s).bind fun y => (closeGroup {} y.1 y.2).bind fun z =>
        readExpr (fuel + 1) z.1.2 [] [z.1.1, .part (anchorPart {} .textStart)] z.2 := by
  have hgroup : readToken (fuel + 1) {} '(' ('?' :: ':' :: s) =
      ((readExpr fuel {} [] [] s).bind fun y => closeGroup {} y.1 y.2).map fun z =>
        (.item z.1.1 z.1.2, z.2) :=
    congrArg (Option.map fun z : (Item × Scope) × List Char => (Token.item z.1.1 z.1.2, z.2))
      (readGroup_succ fuel {} ('?' :: ':' :: s))
  rw [readExpr_cons (by decide) rfl]
  change readExpr (fuel + 2) {} [] [.part (anchorPart {} .textStart)] ('(' :: '?' :: ':' :: s) = _
  rw [readExpr_cons (by decide) rfl, hgroup, Option.bind_map, Option.bind_assoc]
  rfl

theorem readExpr_end (fuel : Nat) (names : List String) (g : Part) :
    readExpr (fuel + 2) { names := names } [] [.part g, .part (anchorPart {} .textStart)] ['$'] =
      some ((.sequence [anchorPart {} .textStart, g, anchorPart {} .textEnd], { names := names }),
        []) := by
  rw [readExpr_cons (by decide) rfl]
  rfl

theorem whole?_anchoredChars (s : List Char) : whole? (anchoredChars s) =
    match (readExpr (2 * s.length + 10) {} [] [] (s ++ [')', '$'])).bind fun y =>
        (closeGroup {} y.1 y.2).bind fun z => readExpr (2 * s.length + 11) z.1.2 []
          [z.1.1, .part (anchorPart {} .textStart)] z.2 with
      | some ((p, _), []) => some p
      | _ => none := by
  have hfuel : 2 * (anchoredChars s).length + 1 ≤ 2 * s.length + 13 := by
    simp only [anchoredChars, List.length_cons, List.length_append, List.length_nil]
    omega
  rw [whole?_of_read hfuel, anchoredChars, readExpr_opening]

theorem whole?_anchored_closed {s : List Char} {p : Part} {sc : Scope}
    (h : readExpr (2 * s.length + 10) {} [] [] (s ++ [')', '$']) = some ((p, sc), [')', '$'])) :
    whole? (anchoredChars s) = if p.group.acceptable then
      some (.sequence [anchorPart {} .textStart, p.group, anchorPart {} .textEnd]) else none := by
  rw [whole?_anchoredChars, h, Option.bind_some, closeGroup]
  split_ifs
  · simp only [Option.map_some, Option.bind_some]
    rw [readExpr_end]
  · rfl

theorem whole?_anchored_open {s r : List Char} {x : Part × Scope}
    (h : readExpr (2 * s.length + 10) {} [] [] (s ++ [')', '$']) = some (x, r))
    (hr : ∀ u, r ≠ ')' :: u) : whole? (anchoredChars s) = none := by
  rw [whole?_anchoredChars, h, Option.bind_some, closeGroup]
  · rfl
  · exact hr

theorem whole?_eq_some {s : List Char} {p : Part} : whole? s = some p ↔
    ∃ sc, readExpr (2 * s.length + 10) {} [] [] s = some ((p, sc), []) := by
  rw [whole?_of_read (show 2 * s.length + 1 ≤ 2 * s.length + 10 by omega)]
  constructor
  · intro h
    split at h
    · next sc hs =>
      cases h
      exact ⟨sc, hs⟩
    · cases h
  · rintro ⟨sc, hs⟩
    rw [hs]

theorem closing_cons (u : List Char) : Closing (')' :: u) := ⟨u, rfl⟩

/-- Whether the parenthesis behind a valid pattern is lost, within a comment, does not hang on what
comes behind it in the line. -/
theorem read_closed {s : List Char} {p : Part} (hp : whole? s = some p) :
    (whole? (s ++ [')']) = none ∧ ∃ sc, readExpr (2 * s.length + 10) {} [] [] (s ++ [')', '$']) =
        some ((p, sc), [')', '$'])) ∨
      (whole? (s ++ [')']) = some p ∧ ∃ sc, readExpr (2 * s.length + 10) {} [] [] (s ++ [')', '$']) =
        some ((p, sc), [])) := by
  obtain ⟨sc, hs⟩ := whole?_eq_some.mp hp
  have hfuel : 2 * (s ++ [')']).length + 1 ≤ 2 * s.length + 10 := by
    rw [List.length_append, List.length_singleton]
    omega
  rw [whole?_of_read hfuel]
  cases ((readExpr_steady (2 * s.length + 10)).2 {} [] [] s).outcome with
  | same own longer =>
    obtain ⟨rfl, rfl⟩ := Prod.mk.inj (Option.some.inj (own.symm.trans hs))
    left
    rw [longer _ (closing_cons [])]
    exact ⟨rfl, sc, longer _ (closing_cons ['$'])⟩
  | refused own => exact absurd (own.symm.trans hs) nofun
  | swallowed own longer line =>
    obtain ⟨rfl, -⟩ := Prod.mk.inj (Option.some.inj (own.symm.trans hs))
    right
    rw [line _ (closing_cons []) (by decide)]
    exact ⟨rfl, sc, line _ (closing_cons ['$']) (by decide)⟩

/-- Where the reader of the pattern alone comes to a parenthesis that no group opened, all in front
of it is a pattern. -/
theorem whole?_front {fuel : Nat} {q u : List Char} {x : Part × Scope} (hfuel : 2 * q.length + 1 ≤ fuel)
    (h : readExpr fuel {} [] [] (q ++ ')' :: u) = some (x, ')' :: u)) : whole? q = some x.1 := by
  rw [whole?_of_read hfuel]
  cases ((readExpr_steady fuel).2 {} [] [] q).outcome with
  | @same y r own longer =>
    obtain ⟨rfl, hr⟩ := Prod.mk.inj (Option.some.inj ((longer _ (closing_cons u)).symm.trans h))
    obtain rfl := List.append_left_eq_self.mp hr
    rw [own]
  | refused own longer =>
    rcases longer _ (closing_cons u) _ _ h with hlt | ⟨w, -, hstuck⟩
    · exact absurd hlt (Nat.lt_irrefl _)
    · exact hstuck.elim
  | swallowed own longer => exact absurd (longer _ (closing_cons u) _ _ h) (Nat.lt_irrefl _)

theorem whole?_anchored_unread {s : List Char} (hs : whole? s = none) {p : Part}
    (h : whole? (anchoredChars s) = some p) :
    ∃ q r p, s = q ++ ')' :: r ∧ whole? q = some p ∧ p.group.acceptable = true := by
  have hsteady := (readExpr_steady (2 * s.length + 10)).2 {} [] [] s
  cases hsteady.outcome with
  | @same x r own longer =>
    rcases readExpr_rest own with rfl | ⟨u, rfl⟩
    · rw [whole?_eq_some.mpr ⟨x.2, own⟩] at hs
      cases hs
    obtain ⟨q, rfl⟩ := hsteady.suffix x _ own
    refine ⟨q, u, x.1, rfl, whole?_front ?_ own, ?_⟩
    · simp only [List.length_append]
      omega
    · by_contra hacceptable
      rw [whole?_anchoredChars, longer _ (closing_cons ['$']), Option.bind_some, List.cons_append,
        closeGroup, if_neg hacceptable] at h
      cases h
  | refused own longer =>
    cases hread : readExpr (2 * s.length + 10) {} [] [] (s ++ [')', '$']) with
    | none =>
      rw [whole?_anchoredChars, hread] at h
      cases h
    | some y =>
      obtain ⟨x, r⟩ := y
      -- the rest is too short for the parenthesis of the group, and the other character is no end
      have hshort : r.length < 2 := by
        rcases longer _ (closing_cons ['$']) x r hread with hlt | ⟨w, -, hstuck⟩
        · exact hlt
        · exact hstuck.elim
      have hsuffix := ((readExpr_steady _).2 {} [] [] (s ++ [')', '$'])).suffix x r hread
      have hopen : ∀ u, r ≠ ')' :: u := by
        rintro u rfl
        obtain rfl : u = [] := List.eq_nil_of_length_eq_zero (by
          rw [List.length_cons] at hshort
          omega)
        obtain ⟨q, hq⟩ := hsuffix
        have hlast := congrArg List.getLast? hq
        simp at hlast
      rw [whole?_anchored_open hread hopen] at h
      cases h
  | @swallowed x own =>
    rw [whole?_eq_some.mpr ⟨x.2, own⟩] at hs
    cases hs

/-- The anchors and the group need two levels of nesting and the room of two steps. -/
def Fits (p : Part) : Prop :=
  p.depth + 2 ≤ Part.maxDepth ∧ p.room + 2 * Part.step ≤ Part.maxRoom

instance (p : Part) : Decidable (Fits p) :=
  inferInstanceAs (Decidable (_ ∧ _))

theorem acceptable_iff {p : Part} :
    p.acceptable = true ↔ p.depth ≤ Part.maxDepth ∧ p.room ≤ Part.maxRoom := by
  rw [Part.acceptable, Bool.and_eq_true, decide_eq_true_eq, decide_eq_true_eq]

theorem acceptable_of_group {p : Part} (h : p.group.acceptable = true) : p.acceptable = true := by
  obtain ⟨hdepth, hroom⟩ := acceptable_iff.mp h
  exact acceptable_iff.mpr ⟨(Nat.le_succ _).trans hdepth, hroom⟩

theorem Fits.group {p : Part} (h : Fits p) : p.group.acceptable = true :=
  acceptable_iff.mpr ⟨(Nat.le_succ _).trans h.1, (Nat.le_add_right _ _).trans h.2⟩

theorem acceptable_anchored {p : Part} :
    (Part.sequence [anchorPart {} .textStart, p.group, anchorPart {} .textEnd]).acceptable = true ↔
      Fits p := by
  have hdepth : (Part.sequence [anchorPart {} .textStart, p.group, anchorPart {} .textEnd]).depth =
      p.depth + 2 := by
    simp [Part.sequence, anchorPart, Part.group]
  have hroom : (Part.sequence [anchorPart {} .textStart, p.group, anchorPart {} .textEnd]).room =
      p.room + 2 * Part.step := by
    simp only [Part.sequence, anchorPart, Part.group, List.foldl_cons, List.foldl_nil]
    omega
  rw [acceptable_iff, hdepth, hroom, Fits]

theorem parse?_anchored_closed {s : List Char} {p : Part} (hp : whole? s = some p)
    (hclosed : whole? (s ++ [')']) = none) :
    parse? (anchoredChars s) = if Fits p then some p.expr.whole else none := by
  obtain ⟨-, sc, hread⟩ := (read_closed hp).resolve_right fun h => by
    rw [hclosed] at h
    cases h.1
  rw [parse?_eq, whole?_anchored_closed hread]
  by_cases hfits : Fits p
  · rw [if_pos hfits.group, Option.bind_some, if_pos (acceptable_anchored.mpr hfits), if_pos hfits]
    rfl
  · rw [if_neg hfits]
    split
    · rw [Option.bind_some, if_neg fun h => hfits (acceptable_anchored.mp h)]
    · rfl

theorem parse?_anchored_open {s : List Char} {p : Part} (hp : whole? s = some p)
    (hopen : whole? (s ++ [')']) ≠ none) : parse? (anchoredChars s) = none := by
  obtain ⟨-, sc, hread⟩ := (read_closed hp).resolve_left fun h => hopen h.1
  rw [parse?_eq, whole?_anchored_open hread nofun, Option.bind_none]

theorem parse?_eq_some {s : List Char} {e : Expr} :
    parse? s = some e ↔ ∃ p, whole? s = some p ∧ p.acceptable = true ∧ p.expr = e := by
  rw [parse?_eq, Option.bind_eq_some_iff]
  constructor
  · rintro ⟨p, hp, h⟩
    split at h
    · next hacceptable => exact ⟨p, hp, hacceptable, Option.some.inj h⟩
    · cases h
  · rintro ⟨p, hp, hacceptable, he⟩
    exact ⟨p, hp, by rw [if_pos hacceptable, he]⟩

end Parser

def own? (pattern : String) : Option Expr :=
  Parser.parse? pattern.toList

/-- With a closing parenthesis behind it the pattern is valid as before: its last line ends in a
comment. -/
def EndsInComment (pattern : String) : Prop :=
  (Parser.parse? (pattern.toList ++ [')'])).isSome

instance (pattern : String) : Decidable (EndsInComment pattern) :=
  inferInstanceAs (Decidable (_ = true))

def HasRoom (pattern : String) : Prop :=
  ∃ p ∈ Parser.whole? pattern.toList, Parser.Fits p

instance (pattern : String) : Decidable (HasRoom pattern) :=
  inferInstanceAs (Decidable (∃ p ∈ Parser.whole? pattern.toList, Parser.Fits p))

open ScreenScript.Pattern.Parser in
theorem compile?_own {p : String} {e : Expr} (h : own? p = some e) :
    (HasRoom p ∧ ¬EndsInComment p ∧ compile? p = some e.whole) ∨
      ((¬HasRoom p ∨ EndsInComment p) ∧ compile? p = none) := by
  obtain ⟨part, hpart, hacceptable, rfl⟩ := parse?_eq_some.mp h
  have hroom : HasRoom p ↔ Fits part := by
    simp [HasRoom, hpart]
  rw [compile?, anchored_toList]
  by_cases hclosed : whole? (p.toList ++ [')']) = none
  · have hcomment : ¬EndsInComment p := by
      rw [EndsInComment, parse?_eq, hclosed]
      simp
    rw [parse?_anchored_closed hpart hclosed, hroom]
    by_cases hfits : Fits part
    · exact .inl ⟨hfits, hcomment, if_pos hfits⟩
    · exact .inr ⟨.inl hfits, if_neg hfits⟩
  · have hcomment : EndsInComment p := by
      obtain ⟨hlost, -⟩ := (read_closed hpart).resolve_left fun h => hclosed h.1
      rw [EndsInComment, parse?_eq, hlost, Option.bind_some, if_pos hacceptable]
      rfl
    exact .inr ⟨.inr hcomment, parse?_anchored_open hpart hclosed⟩

open ScreenScript.Pattern.Parser in
theorem compile?_not_own {p : String} {e : Expr} (hown : own? p = none) (h : compile? p = some e) :
    ∃ q r, p = q ++ ")" ++ r ∧ (own? q).isSome := by
  rw [compile?, anchored_toList] at h
  have hunread : whole? p.toList = none := by
    by_contra hread
    obtain ⟨part', hpart'⟩ := Option.ne_none_iff_exists'.mp hread
    have hfits : Fits part' := by
      by_contra hfits
      by_cases hclosed : whole? (p.toList ++ [')']) = none
      · rw [parse?_anchored_closed hpart' hclosed, if_neg hfits] at h
        cases h
      · rw [parse?_anchored_open hpart' hclosed] at h
        cases h
    rw [own?, parse?_eq, hpart', Option.bind_some, if_pos (acceptable_of_group hfits.group)] at hown
    cases hown
  obtain ⟨part, hpart, -, -⟩ := parse?_eq_some.mp h
  obtain ⟨q, r, part', hp, hq, hgroup⟩ := whole?_anchored_unread hunread hpart
  refine ⟨String.ofList q, String.ofList r, ?_, ?_⟩
  · rw [← String.toList_inj, hp]
    simp
  · rw [own?, String.toList_ofList, parse?_eq, hq, Option.bind_some,
      if_pos (acceptable_of_group hgroup)]
    rfl

def MatchesWhole (pattern text : String) : Prop :=
  ∃ e, own? pattern = some e ∧ e.Spans text.toList 0 text.toList.length

def MatchesPasted (pattern text : String) : Prop :=
  ∃ e, compile? pattern = some e ∧ ∃ i j, i ≤ text.toList.length ∧ e.Spans text.toList i j

theorem verdict_iff_pasted (p text : String) : verdict p text = true ↔ MatchesPasted p text := by
  simp only [verdict, MatchesPasted, Option.any_eq_true, Expr.occursIn_iff]

theorem pasted_iff_of_own {p : String} (hp : (own? p).isSome) (text : String) :
    MatchesPasted p text ↔ HasRoom p ∧ ¬EndsInComment p ∧ MatchesWhole p text := by
  obtain ⟨e, he⟩ := Option.isSome_iff_exists.mp hp
  rw [← verdict_iff_pasted, verdict]
  rcases compile?_own he with ⟨hroom, hcomment, hcompile⟩ | ⟨hnot, hcompile⟩
  · rw [hcompile, Option.any_some, Expr.occursIn_whole]
    simp [MatchesWhole, he, hroom, hcomment]
  · rw [hcompile, Option.any_none]
    constructor
    · intro h
      cases h
    · rintro ⟨hroom, hcomment, -⟩
      exact absurd hnot (by simp [hroom, hcomment])

namespace Cache

/-- After any requests a text matches a pattern if some span of it matches what the pattern becomes
between the anchors. For a pattern that is valid by itself this is the match of the whole text,
unless the pattern ends in a comment or is too deep or large for the anchors, when nothing matches;
and a pattern that is not matches only if a parenthesis of it closes the group that it is put in,
with a valid pattern in front. -/
theorem matchesAll_own_pattern (n : Nat) (rs : List Request) (p text : String) :
    let c := (ofCapacity n).after rs
    ((c.matchesAll p text).1 = true ↔ MatchesPasted p text) ∧
      ((own? p).isSome → ((c.matchesAll p text).1 = true ↔
        HasRoom p ∧ ¬EndsInComment p ∧ MatchesWhole p text)) ∧
      (own? p = none → (c.matchesAll p text).1 = true →
        ∃ q r, p = q ++ ")" ++ r ∧ (own? q).isSome) := by
  intro c
  have hc : c.Kept := (kept_ofCapacity n).after rs
  rw [matchesAll_eq hc, verdict_iff_pasted]
  refine ⟨Iff.rfl, fun hown => pasted_iff_of_own hown text, ?_⟩
  rintro hown ⟨e, he, -⟩
  exact compile?_not_own hown he

/-- The longer alternative matches the whole of its text. The second pattern is not valid by itself
and matches a text that begins with its first letter; the third is valid, and its comment takes the
end of the group away. -/
theorem alternatives_parenthesis_comment :
    let c := (ofCapacity 1).after [.fetch "("]
    ((own? "a|ab").isSome ∧ (c.matchesAll "a|ab" "ab").1 = true ∧ MatchesWhole "a|ab" "ab") ∧
      (own? "a)|(?:b" = none ∧ (c.matchesAll "a)|(?:b" "axx").1 = true ∧
        ∃ q r, "a)|(?:b" = q ++ ")" ++ r ∧ (own? q).isSome) ∧
      (own? "(?x)a#").isSome ∧ (c.matchesAll "(?x)a#" "a").1 ≠ true := by
  intro c
  obtain ⟨-, hown, -⟩ := matchesAll_own_pattern 1 [.fetch "("] "a|ab" "ab"
  obtain ⟨-, -, hnot⟩ := matchesAll_own_pattern 1 [.fetch "("] "a)|(?:b" "axx"
  obtain ⟨-, hcomment, -⟩ := matchesAll_own_pattern 1 [.fetch "("] "(?x)a#" "a"
  have hsome : (own? "a|ab").isSome := by decide +kernel
  have hmatch : (c.matchesAll "a|ab" "ab").1 = true := by decide +kernel
  have hnone : own? "a)|(?:b" = none := Option.isNone_iff_eq_none.mp (by decide +kernel)
  have hmatch' : (c.matchesAll "a)|(?:b" "axx").1 = true := by decide +kernel
  have hsome' : (own? "(?x)a#").isSome := by decide +kernel
  have hends : EndsInComment "(?x)a#" := by decide +kernel
  refine ⟨⟨hsome, hmatch, ((hown hsome).mp hmatch).2.2⟩, ⟨hnone, hmatch', hnot hnone hmatch'⟩,
    hsome', ?_⟩
  intro h
  exact ((hcomment hsome').mp h).2.1 hends

end Cache

end ScreenScript.Pattern
