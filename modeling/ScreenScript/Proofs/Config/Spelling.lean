import ScreenScript.Config.Reader
import ScreenScript.Proofs.Text.Tables
import Mathlib.Data.List.TakeWhile
import Mathlib.Tactic.Common

/-!
What stands between the words of a configuration, and the words that are names: a gap is skipped to
its end, and a name is read up to the first character that cannot be part of one.
-/

namespace ScreenScript.Config.Reader

open Text Text.Ranges

/-- The ASCII characters, and a stretch past them with all the space there is. -/
def near (n : Nat) : Bool := n < 0x86 || (0x200e ≤ n && n ≤ 0x2029)

def far (r : Nat × Nat) : Bool := 0x86 ≤ r.1 && (r.2 < 0x200e || 0x2029 < r.1)

/-- An ascending table in which nothing is near after its first ranges. -/
structure Opens (t : Ranges) (first : List (Nat × Nat)) : Prop where
  sorted : ascending 0 t.toList = true
  start : t.toList.take first.length = first
  later : (t.toList.drop first.length).all far = true

theorem contains_of_opens {t : Ranges} {first : List (Nat × Nat)} (h : Opens t first) {c : Char}
    (hc : near c.toNat = true) :
    t.contains c = first.any fun r => r.1 ≤ c.toNat && c.toNat ≤ r.2 := by
  have hrest : ((t.toList.drop first.length).any fun r =>
      r.1 ≤ c.toNat && c.toNat ≤ r.2) = false := by
    rw [List.any_eq_false]
    intro r hr
    have hfar := List.all_eq_true.mp h.later r hr
    simp only [near, far, Bool.or_eq_true, Bool.and_eq_true, decide_eq_true_eq] at hc hfar ⊢
    omega
  have hsplit : t.toList = first ++ t.toList.drop first.length := by
    conv_lhs => rw [← List.take_append_drop first.length t.toList, h.start]
  rw [contains_eq_covers h.sorted, covers, ← Array.any_toList, hsplit, List.any_append, hrest,
    Bool.or_false]

theorem map_toList_cons (cs : List Char) {ls : List String} {css : List (List Char)}
    (h : ls.map String.toList = css) :
    (String.ofList cs :: ls).map String.toList = cs :: css := by
  rw [List.map_cons, String.toList_ofList, h]

/-- A table in lines is taken apart line by line, so that it can be gone through. -/
theorem opens_of_lines {text : String} {ls : List String} {css : List (List Char)}
    {first : List (Nat × Nat)} (htext : text = String.join ls) (hls : ls.map String.toList = css)
    (hasc : Ranges.ascending 0 (listed none none css.flatten) = true)
    (hfirst : (listed none none css.flatten).take first.length = first)
    (hrest : ((listed none none css.flatten).drop first.length).all far = true) :
    Opens (.ofText text) first := by
  have hchars : text.toList = css.flatten := by
    rw [htext, ← hls]
    simp [List.flatMap]
  have hlist : (ofText text).toList = listed none none css.flatten := by
    rw [← toList_ofText, ← hchars, String.ofList_toList]
  refine ⟨?_, ?_, ?_⟩
  · rw [hlist, hasc]
  · rw [hlist, hfirst]
  · rw [hlist, hrest]

def startRanges : List (Nat × Nat) := [(0x41, 0x5a), (0x61, 0x7a)]

def restRanges : List (Nat × Nat) := [(0x30, 0x39), (0x41, 0x5a), (0x5f, 0x5f), (0x61, 0x7a)]

theorem nameStart_opens : Opens nameStart startRanges := by
  apply opens_of_lines rfl
  · repeat apply map_toList_cons
    exact rfl
  · decide +kernel
  · decide +kernel
  · decide +kernel

theorem nameRest_opens : Opens nameRest restRanges := by
  apply opens_of_lines rfl
  · repeat apply map_toList_cons
    exact rfl
  · decide +kernel
  · decide +kernel
  · decide +kernel

def Begins (c : Char) : Prop :=
  c = '_' ∨ nameStart.contains c = true

theorem isRawPart_near {c : Char} (h : near c.toNat = true) :
    isRawPart c = (c = '.' || c = '+' || c = '-' ||
      restRanges.any fun r => r.1 ≤ c.toNat && c.toNat ≤ r.2) := by
  rw [isRawPart, contains_of_opens nameRest_opens h]

/-- What ends a name or a number, and is no part of a gap. -/
def isMark (c : Char) : Bool :=
  near c.toNat && !isSpace c && c ≠ '/' &&
    !(c = '.' || c = '+' || c = '-' || restRanges.any fun r => r.1 ≤ c.toNat && c.toNat ≤ r.2)

theorem isRawPart_of_isMark {c : Char} (h : isMark c = true) : isRawPart c = false := by
  simp only [isMark, Bool.and_eq_true, Bool.not_eq_true'] at h
  rw [isRawPart_near h.1.1.1, h.2]

theorem isRawPart_of_rest {c : Char} (h : nameRest.contains c = true) : isRawPart c = true := by
  simp [isRawPart, h]

theorem isSpace_toNat {c : Char} (h : isSpace c = true) :
    c.toNat ≤ 0x20 ∨ c.toNat = 0x85 ∨ c.toNat = 0x200e ∨ c.toNat = 0x200f ∨ c.toNat = 0x2028 ∨
      c.toNat = 0x2029 := by
  simp only [isSpace, Bool.or_eq_true, Bool.and_eq_true, decide_eq_true_eq] at h
  omega

theorem near_of_isSpace {c : Char} (h : isSpace c = true) : near c.toNat = true := by
  have := isSpace_toNat h
  simp only [near, Bool.or_eq_true, Bool.and_eq_true, decide_eq_true_eq]
  omega

theorem isRawPart_of_isSpace {c : Char} (h : isSpace c = true) : isRawPart c = false := by
  have hn := isSpace_toNat h
  have hmark : ∀ d : Char, 0x20 < d.toNat → d.toNat < 0x80 → c ≠ d := by
    rintro d hlo hhi rfl
    omega
  rw [isRawPart_near (near_of_isSpace h)]
  simp only [hmark '.' (by decide) (by decide), hmark '+' (by decide) (by decide),
    hmark '-' (by decide) (by decide), restRanges, List.any_cons, List.any_nil, Bool.or_false,
    decide_false, Bool.or_eq_false_iff, Bool.and_eq_false_iff, decide_eq_false_iff_not, true_and]
  omega

theorem not_begins {c : Char} (h : near c.toNat = true) (hc : c ≠ '_')
    (hout : (startRanges.any fun r => r.1 ≤ c.toNat && c.toNat ≤ r.2) = false) : ¬Begins c := by
  rintro (rfl | hstart)
  · exact hc rfl
  · rw [contains_of_opens nameStart_opens h, hout] at hstart
    cases hstart

theorem Begins.isSpace {c : Char} (h : Begins c) : isSpace c = false := by
  by_contra hspace
  rw [Bool.not_eq_false] at hspace
  have hn := isSpace_toNat hspace
  refine not_begins (near_of_isSpace hspace) ?_ ?_ h
  · rintro rfl
    revert hspace
    decide
  · simp only [startRanges, List.any_cons, List.any_nil, Bool.or_false, Bool.or_eq_false_iff,
      Bool.and_eq_false_iff, decide_eq_false_iff_not]
    omega

/-- The rest of a block comment with some comments open in it, up to its own end. -/
inductive CommentRest : Nat → List Char → Prop
  | close : CommentRest 0 ['*', '/']
  | leave {depth : Nat} {t : List Char} (rest : CommentRest depth t) :
      CommentRest (depth + 1) ('*' :: '/' :: t)
  | enter {depth : Nat} {t : List Char} (rest : CommentRest (depth + 1) t) :
      CommentRest depth ('/' :: '*' :: t)
  | other {depth : Nat} {c : Char} {t : List Char} (opens : c = '/' → t.head? ≠ some '*')
      (closes : c = '*' → t.head? ≠ some '/') (rest : CommentRest depth t) :
      CommentRest depth (c :: t)

inductive Gap : List Char → Prop
  | nil : Gap []
  | space {c : Char} {g : List Char} (space : isSpace c = true) (gap : Gap g) : Gap (c :: g)
  | line {t g : List Char} (text : '\n' ∉ t) (gap : Gap g) : Gap ('/' :: '/' :: (t ++ '\n' :: g))
  | block {t g : List Char} (text : CommentRest 0 t) (gap : Gap g) : Gap ('/' :: '*' :: (t ++ g))

/-- What may come last: a gap, in which a comment need not end with its line. -/
inductive Ending : List Char → Prop
  | gap {g : List Char} (gap : Gap g) : Ending g
  | line {g t : List Char} (gap : Gap g) (text : '\n' ∉ t) : Ending (g ++ '/' :: '/' :: t)

theorem skip_cons {c : Char} (hspace : isSpace c = false) (hslash : c ≠ '/') (r : List Char) :
    skip (c :: r) = some (c :: r) := by
  unfold skip
  split
  · next h => cases h
  · next h => cases h; exact absurd rfl hslash
  · next h => cases h; exact absurd rfl hslash
  · next h =>
    cases h
    simp [hspace]

theorem skip_space {c : Char} (h : isSpace c = true) (r : List Char) : skip (c :: r) = skip r := by
  have hslash : c ≠ '/' := by
    rintro rfl
    revert h
    decide
  conv_lhs => unfold skip
  split
  · next h => cases h
  · next h => cases h; exact absurd rfl hslash
  · next h => cases h; exact absurd rfl hslash
  · next heq =>
    cases heq
    simp [h]

theorem skip_mark_cons {c : Char} (h : isMark c = true) (r : List Char) :
    skip (c :: r) = some (c :: r) := by
  simp only [isMark, Bool.and_eq_true, Bool.not_eq_true', decide_eq_true_eq] at h
  exact skip_cons h.1.1.2 h.1.2 r

theorem skipLine_append {t : List Char} (h : '\n' ∉ t) (r : List Char) :
    skipLine (t ++ '\n' :: r) = skip r := by
  induction t with
  | nil => simp [skipLine]
  | cons c t ih =>
    simp only [List.mem_cons, not_or] at h
    rw [List.cons_append, skipLine, ih h.2]
    rintro rfl
    exact h.1 rfl

theorem skipLine_all {t : List Char} (h : '\n' ∉ t) : skipLine t = some [] := by
  induction t with
  | nil => simp [skipLine]
  | cons c t ih =>
    simp only [List.mem_cons, not_or] at h
    rw [skipLine, ih h.2]
    rintro rfl
    exact h.1 rfl

theorem CommentRest.ne_nil {depth : Nat} {t : List Char} (h : CommentRest depth t) : t ≠ [] := by
  cases h <;> exact List.cons_ne_nil _ _

theorem skipBlock_append {depth : Nat} {t : List Char} (h : CommentRest depth t) (r : List Char) :
    skipBlock depth (t ++ r) = skip r := by
  induction h with
  | close => simp [skipBlock]
  | leave _ ih => simp [skipBlock, ih]
  | enter _ ih => simp [skipBlock, ih]
  | @other depth c t hopens hcloses hrest ih =>
    obtain ⟨d, q, rfl⟩ := List.exists_cons_of_ne_nil hrest.ne_nil
    simp only [List.head?_cons, ne_eq, Option.some.injEq] at hopens hcloses
    rw [List.cons_append, skipBlock, ih]
    · rintro q' rfl heq
      cases heq
      exact hopens rfl rfl
    · rintro q' rfl heq
      cases heq
      exact hcloses rfl rfl

theorem skip_append {g : List Char} (h : Gap g) (r : List Char) : skip (g ++ r) = skip r := by
  induction h with
  | nil => rfl
  | space hc _ ih => rw [List.cons_append, skip_space hc, ih]
  | line ht _ ih =>
    rw [List.cons_append, List.cons_append, List.append_assoc, List.cons_append, skip,
      skipLine_append ht, ih]
  | block ht _ ih =>
    rw [List.cons_append, List.cons_append, List.append_assoc, skip, skipBlock_append ht, ih]

theorem skip_mark {c : Char} (hc : isMark c = true) {g : List Char} (hg : Gap g) (r : List Char) :
    skip (g ++ c :: r) = some (c :: r) := by
  rw [skip_append hg, skip_mark_cons hc]

theorem skip_ending {e : List Char} (h : Ending e) : skip e = some [] := by
  cases h with
  | gap hg =>
    have := skip_append hg []
    rw [List.append_nil] at this
    rw [this, skip]
  | line hg ht => rw [skip_append hg, skip, skipLine_all ht]

theorem skip_of_skip {s s' : List Char} (h : skip s = some s') : skip s' = some s' := by
  refine skip.induct (fun s => ∀ s', skip s = some s' → skip s' = some s')
    (fun depth s => ∀ s', skipBlock depth s = some s' → skip s' = some s')
    (fun s => ∀ s', skipLine s = some s' → skip s' = some s')
    ?_ ?_ ?_ ?_ ?stop ?_ ?_ ?_ ?_ ?_ ?_ ?_ ?_ s s' h
  case stop =>
    intro c r hline hblock hspace s' h
    have hstop : skip (c :: r) = some (c :: r) := by
      rw [skip, if_neg hspace]
      · exact hline
      · exact hblock
    rw [hstop] at h
    cases h
    exact hstop
  all_goals
    intros
    simp_all [skip, skipBlock, skipLine]

theorem Gap.append {g g' : List Char} (h : Gap g) (h' : Gap g') : Gap (g ++ g') := by
  induction h with
  | nil => exact h'
  | space hc _ ih => exact .space hc ih
  | line ht _ ih =>
    rw [List.cons_append, List.cons_append, List.append_assoc]
    exact .line ht ih
  | block ht _ ih =>
    rw [List.cons_append, List.cons_append, List.append_assoc]
    exact .block ht ih

theorem Ending.gap_append {g e : List Char} (hg : Gap g) (he : Ending e) : Ending (g ++ e) := by
  cases he with
  | gap he => exact .gap (hg.append he)
  | line he ht =>
    rw [← List.append_assoc]
    exact .line (hg.append he) ht

/-- The text that is skipped is a gap, or the rest of the text. -/
def Skips (s r : List Char) : Prop :=
  (∃ g, Gap g ∧ s = g ++ r) ∨ (r = [] ∧ Ending s)

theorem Skips.gap_append {g s r : List Char} (hg : Gap g) (h : Skips s r) : Skips (g ++ s) r := by
  rcases h with ⟨g', hg', rfl⟩ | ⟨rfl, he⟩
  · exact .inl ⟨g ++ g', hg.append hg', (List.append_assoc ..).symm⟩
  · exact .inr ⟨rfl, .gap_append hg he⟩

theorem skips_of_skip {s r : List Char} (h : skip s = some r) : Skips s r := by
  refine skip.induct (fun s => ∀ r, skip s = some r → Skips s r)
    (fun depth s => ∀ r, skipBlock depth s = some r →
      ∃ t s', CommentRest depth t ∧ s = t ++ s' ∧ Skips s' r)
    (fun s => ∀ r, skipLine s = some r → ∃ t, '\n' ∉ t ∧
      ((s = t ∧ r = []) ∨ ∃ s', s = t ++ '\n' :: s' ∧ Skips s' r))
    ?nil ?line ?block ?space ?stop ?unclosed ?enter ?close ?leave ?inside ?lineEnd ?newline ?inLine
    s r h
  case nil =>
    intro r h
    cases h
    exact .inl ⟨[], .nil, rfl⟩
  case line =>
    intro q ih r h
    rw [skip] at h
    obtain ⟨t, ht, ⟨rfl, rfl⟩ | ⟨s', rfl, hs'⟩⟩ := ih r h
    · exact .inr ⟨rfl, .line .nil ht⟩
    · have hgap : Gap ('/' :: '/' :: (t ++ '\n' :: [])) := .line ht .nil
      simpa using hs'.gap_append hgap
  case block =>
    intro q ih r h
    rw [skip] at h
    obtain ⟨t, s', ht, rfl, hs'⟩ := ih r h
    have hgap : Gap ('/' :: '*' :: (t ++ [])) := .block ht .nil
    simpa using hs'.gap_append hgap
  case space =>
    intro c q hline hblock hc ih r h
    rw [skip_space hc] at h
    exact (ih r h).gap_append (.space hc .nil)
  case stop =>
    intro c q hline hblock hc r h
    rw [skip, if_neg hc] at h
    · cases h
      exact .inl ⟨[], .nil, rfl⟩
    · exact hline
    · exact hblock
  case unclosed =>
    intro depth r h
    cases h
  case enter =>
    intro depth q ih r h
    rw [skipBlock] at h
    obtain ⟨t, s', ht, rfl, hs'⟩ := ih r h
    exact ⟨_, s', .enter ht, rfl, hs'⟩
  case close =>
    intro q ih r h
    rw [skipBlock, if_pos rfl] at h
    exact ⟨_, q, .close, rfl, ih r h⟩
  case leave =>
    intro depth q hdepth ih r h
    rw [skipBlock, if_neg hdepth] at h
    obtain ⟨depth, rfl⟩ := Nat.exists_eq_succ_of_ne_zero hdepth
    obtain ⟨t, s', ht, rfl, hs'⟩ := ih r h
    exact ⟨_, s', .leave ht, rfl, hs'⟩
  case inside =>
    intro depth c q hopens hcloses ih r h
    rw [skipBlock] at h
    · obtain ⟨t, s', ht, rfl, hs'⟩ := ih r h
      refine ⟨_, s', .other ?_ ?_ ht, rfl, hs'⟩
      · intro hc hhead
        obtain ⟨t', rfl⟩ := List.head?_eq_some_iff.mp hhead
        exact hopens _ hc rfl
      · intro hc hhead
        obtain ⟨t', rfl⟩ := List.head?_eq_some_iff.mp hhead
        exact hcloses _ hc rfl
    · exact hopens
    · exact hcloses
  case lineEnd =>
    intro r h
    cases h
    exact ⟨[], List.not_mem_nil, .inl ⟨rfl, rfl⟩⟩
  case newline =>
    intro q ih r h
    rw [skipLine] at h
    exact ⟨[], List.not_mem_nil, .inr ⟨q, rfl, ih r h⟩⟩
  case inLine =>
    intro c q hc ih r h
    rw [skipLine] at h
    · obtain ⟨t, ht, hs⟩ := ih r h
      refine ⟨c :: t, ?_, ?_⟩
      · simp only [List.mem_cons, not_or]
        exact ⟨fun hn => hc hn.symm, ht⟩
      · rcases hs with ⟨rfl, rfl⟩ | ⟨s', rfl, hs'⟩
        · exact .inl ⟨rfl, rfl⟩
        · exact .inr ⟨s', rfl, hs'⟩
    · exact hc

inductive Name : String → List Char → Prop
  | plain {c : Char} {cs : List Char} (first : Begins c)
      (rest : ∀ d ∈ cs, nameRest.contains d = true) : Name (String.ofList (c :: cs)) (c :: cs)
  | raw {cs : List Char} (nonempty : cs ≠ []) (parts : ∀ d ∈ cs, isRawPart d = true) :
      Name (String.ofList cs) ('r' :: '#' :: cs)

/-- Nothing here prolongs a name or a number before it. -/
def Ends (r : List Char) : Prop :=
  ∀ c q, r = c :: q → isRawPart c = false

theorem ends_cons {c : Char} {r : List Char} : Ends (c :: r) ↔ isRawPart c = false := by
  constructor
  · intro h
    exact h c r rfl
  · rintro h d q heq
    cases heq
    exact h

theorem Gap.cases_append {g : List Char} (h : Gap g) (r : List Char) :
    g = [] ∨ ∃ c q, g ++ r = c :: q ∧ (isSpace c = true ∨ c = '/') := by
  cases h with
  | nil => exact .inl rfl
  | space hc _ => exact .inr ⟨_, _, rfl, .inl hc⟩
  | line => exact .inr ⟨_, _, rfl, .inr rfl⟩
  | block => exact .inr ⟨_, _, rfl, .inr rfl⟩

theorem ends_append {g r : List Char} (hg : Gap g) (hr : Ends r) : Ends (g ++ r) := by
  rcases hg.cases_append r with rfl | ⟨c, q, heq, hc⟩
  · exact hr
  · rw [heq, ends_cons]
    rcases hc with hc | rfl
    · exact isRawPart_of_isSpace hc
    · rw [isRawPart_near (by decide)]
      decide

theorem ends_mark {c : Char} (hc : isMark c = true) {g : List Char} (hg : Gap g) (r : List Char) :
    Ends (g ++ c :: r) :=
  ends_append hg (ends_cons.mpr (isRawPart_of_isMark hc))

theorem head?_mark {c : Char} (hc : c ≠ '#') {g : List Char} (hg : Gap g) (r : List Char) :
    (g ++ c :: r).head? ≠ some '#' := by
  rcases hg.cases_append (c :: r) with rfl | ⟨d, q, heq, hd⟩
  · simpa using hc
  · rw [heq, List.head?_cons]
    rintro hhash
    cases hhash
    rcases hd with hd | hd
    · revert hd
      decide
    · cases hd

theorem takeWhile_ends {p : Char → Bool} (hp : ∀ c, p c = true → isRawPart c = true)
    {t r : List Char} (ht : ∀ c ∈ t, p c = true) (hr : Ends r) :
    (t ++ r).takeWhile p = t ∧ (t ++ r).dropWhile p = r := by
  rw [List.takeWhile_append_of_pos ht, List.dropWhile_append_of_pos ht]
  cases r with
  | nil => simp
  | cons c r =>
    have hc : p c = false := by
      by_contra hpc
      rw [Bool.not_eq_false] at hpc
      rw [ends_cons, hp c hpc] at hr
      cases hr
    simp [hc]

theorem head?_any_ends {p : Char → Bool} (hp : ∀ c, p c = true → isRawPart c = true)
    {r : List Char} (hr : Ends r) : r.head?.any p = false := by
  cases r with
  | nil => rfl
  | cons c r =>
    rw [ends_cons] at hr
    rw [List.head?_cons, Option.any_some]
    by_contra hpc
    rw [Bool.not_eq_false] at hpc
    rw [hp c hpc] at hr
    cases hr

def plain : List Char → Bool
  | [] => false
  | c :: cs =>
    (c = '_' || near c.toNat && startRanges.any fun r => r.1 ≤ c.toNat && c.toNat ≤ r.2) &&
      cs.all fun d => near d.toNat && restRanges.any fun r => r.1 ≤ d.toNat && d.toNat ≤ r.2

theorem name_of_plain {n : String} (h : plain n.toList = true) : Name n n.toList := by
  rw [← String.ofList_toList (s := n)]
  rw [String.toList_ofList]
  cases hn : n.toList with
  | nil =>
    rw [hn] at h
    cases h
  | cons c cs =>
    rw [hn, plain] at h
    simp only [Bool.and_eq_true, Bool.or_eq_true, decide_eq_true_eq, List.all_eq_true] at h
    obtain ⟨hfirst, hrest⟩ := h
    refine .plain ?_ ?_
    · rcases hfirst with hc | ⟨hnear, hc⟩
      · exact .inl hc
      · exact .inr ((contains_of_opens nameStart_opens hnear).trans hc)
    · intro d hd
      exact (contains_of_opens nameRest_opens (hrest d hd).1).trans (hrest d hd).2

theorem name_append {n : String} {t r : List Char} (h : Name n t) (hr : Ends r)
    (hhash : r.head? ≠ some '#') : name (t ++ r) = some (n, r) := by
  cases h with
  | raw hne hparts =>
    obtain ⟨htake, hdrop⟩ := takeWhile_ends (fun _ h => h) hparts hr
    simp [name, htake, hdrop, hne]
  | @plain c cs hfirst hrest =>
    obtain ⟨htake, hdrop⟩ := takeWhile_ends (fun _ => isRawPart_of_rest) hrest hr
    have hraw : ∀ q, c = 'r' → cs ++ r = '#' :: q → False := by
      rintro q rfl heq
      cases cs with
      | nil =>
        rw [List.nil_append] at heq
        rw [heq] at hhash
        exact hhash rfl
      | cons d cs =>
        cases heq
        have hd := hrest '#' List.mem_cons_self
        rw [contains_of_opens nameRest_opens (by decide)] at hd
        revert hd
        decide
    have hbegins : (c = '_' || nameStart.contains c) = true := by
      simpa [Begins] using hfirst
    rw [List.cons_append, name]
    · simp only [hbegins, htake, hdrop, head?_any_ends (fun _ h => h) hr, if_true,
        Bool.false_eq_true, if_false]
    · intro q hc heq
      exact hraw q hc heq

theorem Name.head {n : String} {t : List Char} (h : Name n t) :
    ∃ c q, t = c :: q ∧ isSpace c = false ∧ c ≠ '/' ∧ c ≠ '#' ∧ c ≠ '(' ∧ c ≠ ')' := by
  cases h with
  | @plain c cs hfirst _ =>
    refine ⟨c, cs, rfl, hfirst.isSpace, ?_, ?_, ?_, ?_⟩ <;>
      · rintro rfl
        exact not_begins (by decide) (by decide) (by decide) hfirst
  | raw => exact ⟨_, _, rfl, by decide, by decide, by decide, by decide, by decide⟩

theorem skip_name {n : String} {g t : List Char} (hg : Gap g) (h : Name n t) (r : List Char) :
    skip (g ++ (t ++ r)) = some (t ++ r) := by
  obtain ⟨c, q, rfl, hspace, hslash, -⟩ := h.head
  rw [skip_append hg, List.cons_append, skip_cons hspace hslash]

theorem ends_dropWhile (s : List Char) : Ends (s.dropWhile isRawPart) := by
  intro c q heq
  have := List.head?_dropWhile_not isRawPart s
  rw [heq] at this
  simpa using this

theorem gap_of_skip_ne {s r : List Char} (h : skip s = some r) (hr : r ≠ []) :
    ∃ g, Gap g ∧ s = g ++ r := by
  rcases skips_of_skip h with hg | ⟨hnil, -⟩
  · exact hg
  · exact absurd hnil hr

theorem gap_of_skip {s : List Char} {c : Char} {r : List Char} (h : skip s = some (c :: r)) :
    ∃ g, Gap g ∧ s = g ++ c :: r :=
  gap_of_skip_ne h (List.cons_ne_nil c r)

theorem ending_of_skip {s : List Char} (h : skip s = some []) : Ending s := by
  rcases skips_of_skip h with ⟨g, hg, rfl⟩ | ⟨-, he⟩
  · rw [List.append_nil]
    exact .gap hg
  · exact he

theorem name_some {s r : List Char} {n : String} (h : name s = some (n, r)) :
    ∃ t, Name n t ∧ s = t ++ r := by
  unfold name at h
  split at h
  · next q =>
    simp only at h
    split at h
    · cases h
    · next hne =>
      cases h
      refine ⟨_, .raw (by simpa using hne) fun c hc => List.mem_takeWhile_imp hc, ?_⟩
      simp
  · next c q _ =>
    split at h
    · next hfirst =>
      simp only at h
      split at h
      · cases h
      · cases h
        refine ⟨_, .plain ?_ fun c hc => List.mem_takeWhile_imp hc, ?_⟩
        · simpa [Begins] using hfirst
        · simp
    · cases h
  · cases h

end ScreenScript.Config.Reader
