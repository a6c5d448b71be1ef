import ScreenScript.Pattern.Parser
import Mathlib.Data.List.Basic
import Mathlib.Data.List.TakeWhile
import Mathlib.Tactic.Common

/-!
Readers that take a piece off the front of a pattern, and what they make of a pattern that goes on
with a closing parenthesis: the same piece, unless it was the end that they stopped at.
-/

namespace ScreenScript.Pattern.Parser

abbrev Reader (α : Type) := List Char → Option (α × List Char)

def Closing (t : List Char) : Prop :=
  ∃ u, t = ')' :: u

theorem Closing.ne_cons {s t : List Char} {c : Char} (ht : Closing t) (hc : c ≠ ')')
    (hs : ∀ r, s ≠ c :: r) (r : List Char) : s ++ t ≠ c :: r := by
  obtain ⟨u, rfl⟩ := ht
  intro h
  cases s with
  | nil => exact hc (List.cons.inj h).1.symm
  | cons d s => exact hs s (by rw [(List.cons.inj h).1])

theorem starts_or_not (c : Char) (s : List Char) : (∃ r, s = c :: r) ∨ ∀ r, s ≠ c :: r := by
  by_cases h : ∃ r, s = c :: r
  · exact .inl h
  · exact .inr fun r hr => h ⟨r, hr⟩

/-- What a reader makes of `s` alone, and of `s` with a text behind it that closes a group. Where it
refuses `s` it may come to an end in that text, or stop in front of it with a rest that is `stuck`:
one that the reader to come refuses. Where it reads all of `s` it may do so within a comment, which
goes on to the end of the line. -/
inductive Outcome {α : Type} (stuck : α → List Char → Prop) (R : Reader α) (s : List Char) :
    Prop where
  | same {x : α} {r : List Char} (own : R s = some (x, r))
      (longer : ∀ t, Closing t → R (s ++ t) = some (x, r ++ t))
  | refused (own : R s = none)
      (longer : ∀ t, Closing t → ∀ x r, R (s ++ t) = some (x, r) →
        r.length < t.length ∨ ∃ w, r = w ++ t ∧ stuck x w)
  | swallowed {x : α} (own : R s = some (x, []))
      (longer : ∀ t, Closing t → ∀ y r, R (s ++ t) = some (y, r) → r.length < t.length)
      (line : ∀ t, Closing t → '\n' ∉ t → R (s ++ t) = some (x, []))

/-- What is left is an end of the text, and the reader has an outcome. -/
structure Steady {α : Type} (stuck : α → List Char → Prop) (R : Reader α) (s : List Char) :
    Prop where
  suffix : ∀ x r, R s = some (x, r) → r <:+ s
  outcome : Outcome stuck R s

def never {α : Type} (_ : α) (_ : List Char) : Prop :=
  False

section

variable {α β : Type} {stuck : α → List Char → Prop} {stuck' : β → List Char → Prop}
  {R P : Reader α} {Q : α → Reader β} {s : List Char}

theorem Steady.read (x : α) (s : List Char) : Steady stuck (fun s => some (x, s)) s := by
  constructor
  · rintro y r ⟨⟩
    exact List.suffix_refl s
  · exact .same rfl fun _ _ => rfl

theorem Steady.of_refused (own : R s = none) (longer : ∀ t, Closing t → ∀ x r,
    R (s ++ t) = some (x, r) → r.length < t.length ∨ ∃ w, r = w ++ t ∧ stuck x w) :
    Steady stuck R s := by
  refine ⟨?_, .refused own longer⟩
  intro x r h
  rw [own] at h
  cases h

theorem Steady.of_none (own : R s = none) (longer : ∀ t, Closing t → R (s ++ t) = none) :
    Steady stuck R s := by
  refine .of_refused own ?_
  intro t ht x r h
  rw [longer t ht] at h
  cases h

theorem Steady.at_end (own : R [] = none)
    (hclose : ∀ u x r, R (')' :: u) = some (x, r) → r <:+ u) : Steady stuck R [] := by
  refine .of_refused own ?_
  rintro t ⟨u, rfl⟩ x r h
  exact .inl (Nat.lt_succ_of_le (hclose u x r h).length_le)

theorem Steady.at_close {o : Option α} (own : R [] = none)
    (hclose : ∀ u, R (')' :: u) = o.map fun x => (x, u)) : Steady stuck R [] := by
  refine .at_end own fun u x r h => ?_
  rw [hclose, Option.map_eq_some_iff] at h
  obtain ⟨y, -, hy⟩ := h
  cases hy
  exact List.suffix_refl u

theorem Outcome.of_eq {s' : List Char} (h : Outcome stuck P s) (hs : R s' = P s)
    (ht : ∀ t, Closing t → R (s' ++ t) = P (s ++ t)) : Outcome stuck R s' := by
  cases h with
  | same own longer => exact .same (hs.trans own) fun t h => (ht t h).trans (longer t h)
  | refused own longer =>
    exact .refused (hs.trans own) fun t h x r hr => longer t h x r ((ht t h).symm.trans hr)
  | swallowed own longer line =>
    exact .swallowed (hs.trans own) (fun t h x r hr => longer t h x r ((ht t h).symm.trans hr))
      fun t h hline => (ht t h).trans (line t h hline)

theorem Steady.give (o : Option α) (s : List Char) :
    Steady stuck (fun s => o.map fun x => (x, s)) s := by
  cases o with
  | none => exact .of_none rfl fun _ _ => rfl
  | some x => exact .read x s

theorem Steady.of_eq {s' : List Char} (h : Steady stuck P s) (hs : R s' = P s)
    (ht : ∀ t, Closing t → R (s' ++ t) = P (s ++ t)) (hsuffix : s <:+ s') :
    Steady stuck R s' := by
  refine ⟨?_, h.outcome.of_eq hs ht⟩
  intro x r hr
  exact (h.suffix x r (hs ▸ hr)).trans hsuffix

theorem Steady.congr (h : Steady stuck P s) (hR : ∀ s, R s = P s) : Steady stuck R s :=
  h.of_eq (hR s) (fun t _ => hR (s ++ t)) (List.suffix_refl s)

theorem Steady.cons {c : Char} (h : Steady stuck P s) (hR : ∀ s, R (c :: s) = P s) :
    Steady stuck R (c :: s) :=
  h.of_eq (hR s) (fun t _ => hR (s ++ t)) (List.suffix_cons c s)

theorem Steady.of_append (hsuffix : ∀ x r, R s = some (x, r) → r <:+ s)
    (happend : ∀ t, Closing t → R (s ++ t) = (R s).map fun y => (y.1, y.2 ++ t)) :
    Steady stuck R s := by
  refine ⟨hsuffix, ?_⟩
  cases hs : R s with
  | none =>
    refine .refused hs ?_
    intro t ht x r h
    rw [happend t ht, hs] at h
    cases h
  | some y =>
    refine .same hs ?_
    intro t ht
    rw [happend t ht, hs, Option.map_some]

theorem Steady.branch {c : Char} {Q : Reader α} (hc : c ≠ ')') (hyes : ∀ r, Steady stuck P r)
    (hno : ∀ s, Steady stuck Q s) (hcons : ∀ r, R (c :: r) = P r)
    (hother : ∀ s, (∀ r, s ≠ c :: r) → R s = Q s) (s : List Char) : Steady stuck R s := by
  obtain ⟨r, rfl⟩ | hs := starts_or_not c s
  · exact (hyes r).cons hcons
  · exact (hno s).of_eq (hother s hs) (fun t ht => hother _ (ht.ne_cons hc hs)) (List.suffix_refl s)

theorem Steady.mono {stuck' : α → List Char → Prop} (h : Steady stuck R s)
    (hstuck : ∀ x w, stuck x w → stuck' x w) : Steady stuck' R s := by
  refine ⟨h.suffix, ?_⟩
  cases h.outcome with
  | same own longer => exact .same own longer
  | refused own longer =>
    refine .refused own fun t ht x r hr => ?_
    rcases longer t ht x r hr with hlt | ⟨w, hw, hstop⟩
    · exact .inl hlt
    · exact .inr ⟨w, hw, hstuck x w hstop⟩
  | swallowed own longer line => exact .swallowed own longer line

theorem Steady.bind (hR : Steady stuck R s) (hQ : ∀ x r, Steady stuck' (Q x) r)
    (hstuck : ∀ x w, stuck x w → Q x w = none) :
    Steady stuck' (fun s => (R s).bind fun y => Q y.1 y.2) s := by
  have hrest : ∀ {s y r}, ((R s).bind fun y => Q y.1 y.2) = some (y, r) →
      ∃ x r', R s = some (x, r') ∧ Q x r' = some (y, r) ∧ r <:+ r' := by
    intro s y r h
    obtain ⟨⟨x, r'⟩, hx, hy⟩ := Option.bind_eq_some_iff.mp h
    exact ⟨x, r', hx, hy, (hQ x r').suffix y r hy⟩
  constructor
  · intro y r h
    obtain ⟨x, r', hx, -, hr⟩ := hrest h
    exact hr.trans (hR.suffix x r' hx)
  · cases hR.outcome with
    | @same x r own longer =>
      refine (hQ x r).outcome.of_eq ?_ ?_
      · rw [own, Option.bind_some]
      · intro t ht
        rw [longer t ht, Option.bind_some]
    | refused own longer =>
      refine .refused (by rw [own, Option.bind_none]) ?_
      intro t ht y r h
      obtain ⟨x, r', hx, hy, hr⟩ := hrest h
      rcases longer t ht x r' hx with hlt | ⟨w, rfl, hstop⟩
      · exact .inl (hr.length_le.trans_lt hlt)
      -- the second reader refuses the rest that the first is stuck with
      · cases (hQ x w).outcome with
        | same own' => exact absurd ((hstuck x w hstop).symm.trans own') nofun
        | refused _ longer' => exact longer' t ht y r hy
        | swallowed own' => exact absurd ((hstuck x w hstop).symm.trans own') nofun
    | @swallowed x own longer line =>
      have hshort : ∀ t, Closing t → ∀ y r, ((R (s ++ t)).bind fun y => Q y.1 y.2) = some (y, r) →
          r.length < t.length := by
        intro t ht y r h
        obtain ⟨x, r', hx, -, hr⟩ := hrest h
        exact hr.length_le.trans_lt (longer t ht x r' hx)
      cases hy : Q x [] with
      | none =>
        refine .refused (by rw [own, Option.bind_some, hy]) ?_
        intro t ht y r h
        exact .inl (hshort t ht y r h)
      | some y =>
        obtain ⟨y, r⟩ := y
        obtain rfl := List.suffix_nil.mp ((hQ x []).suffix y r hy)
        refine .swallowed (by rw [own, Option.bind_some, hy]) hshort ?_
        intro t ht hline
        rw [line t ht hline, Option.bind_some, hy]

theorem Steady.map (f : α → β) (h : Steady stuck R s)
    (hstuck : ∀ x w, stuck x w → stuck' (f x) w) :
    Steady stuck' (fun s => (R s).map fun y => (f y.1, y.2)) s := by
  constructor
  · intro y r hr
    obtain ⟨⟨x, r'⟩, hx, hy⟩ := Option.map_eq_some_iff.mp hr
    cases hy
    exact h.suffix x _ hx
  · cases h.outcome with
    | same own longer =>
      refine .same (by rw [own, Option.map_some]) ?_
      intro t ht
      rw [longer t ht, Option.map_some]
    | refused own longer =>
      refine .refused (by rw [own, Option.map_none]) ?_
      intro t ht y r hr
      obtain ⟨⟨x, r'⟩, hx, hy⟩ := Option.map_eq_some_iff.mp hr
      cases hy
      rcases longer t ht x _ hx with hlt | ⟨w, hw, hstop⟩
      · exact .inl hlt
      · exact .inr ⟨w, hw, hstuck x w hstop⟩
    | swallowed own longer line =>
      refine .swallowed (by rw [own, Option.map_some]) ?_ ?_
      · intro t ht y r hr
        obtain ⟨⟨x, r'⟩, hx, hy⟩ := Option.map_eq_some_iff.mp hr
        cases hy
        exact longer t ht x _ hx
      · intro t ht hline
        rw [line t ht hline, Option.map_some]

theorem Steady.filterMap (f : α → Option β) (h : Steady never R s) :
    Steady stuck' (fun s => (R s).bind fun y => (f y.1).map fun x => (x, y.2)) s :=
  h.bind (Q := fun x s => (f x).map fun z => (z, s)) (fun x r => .give (f x) r) nofun

end

section

variable {m : Modes}

theorem isBlank_paren : Text.isBlank ')' = false := by decide

def Visible (m : Modes) (c : Char) : Prop :=
  m.spaced = true → Text.isBlank c = false ∧ c ≠ '#'

theorem visible_paren : Visible m ')' := fun _ => ⟨isBlank_paren, by decide⟩

theorem skipSpaced_cons {c : Char} (h : Visible m c) (r : List Char) :
    skipSpaced m (c :: r) = c :: r := by
  rw [skipSpaced]
  cases hm : m.spaced with
  | false => rfl
  | true =>
    obtain ⟨hblank, hc⟩ := h hm
    simp [hblank, hc]

theorem skipSpaced_suffix (m : Modes) (s : List Char) :
    skipSpaced m s <:+ s ∧ skipSpaced.skipComment m s <:+ s := by
  induction s with
  | nil => exact ⟨List.suffix_refl _, List.suffix_refl _⟩
  | cons c r ih =>
    constructor
    · rw [skipSpaced]
      split_ifs
      · exact List.suffix_refl _
      · exact ih.1.trans (List.suffix_cons c r)
      · exact ih.2.trans (List.suffix_cons c r)
      · exact List.suffix_refl _
    · rw [skipSpaced.skipComment.eq_def]
      split
      · next heq => cases heq
      · next heq =>
        cases heq
        exact ih.1.trans (List.suffix_cons ..)
      · next heq =>
        cases heq
        exact ih.2.trans (List.suffix_cons ..)

theorem skipComment_line {t : List Char} (h : '\n' ∉ t) : skipSpaced.skipComment m t = [] := by
  induction t with
  | nil => rfl
  | cons c t ih =>
    rw [List.mem_cons, not_or] at h
    rw [skipSpaced.skipComment.eq_def]
    split
    · rfl
    · next heq =>
      cases heq
      exact absurd rfl h.1
    · next heq =>
      cases heq
      exact ih h.2

def skipped (m : Modes) : Reader Unit :=
  fun s => some ((), skipSpaced m s)

theorem skipped_outcome (m : Modes) (s : List Char) : Outcome never (skipped m) s ∧
    Outcome never (fun s => some ((), skipSpaced.skipComment m s)) s := by
  induction s with
  | nil =>
    constructor
    · refine .same rfl ?_
      rintro t ⟨u, rfl⟩
      rw [skipped, List.nil_append, skipSpaced_cons visible_paren]
      rfl
    · refine .swallowed rfl ?_ ?_
      · rintro t ⟨u, rfl⟩ y r h
        have hr : skipSpaced.skipComment m u = r := (Prod.mk.inj (Option.some.inj h)).2
        have hle := (skipSpaced_suffix m u).2.length_le
        rw [hr] at hle
        exact Nat.lt_succ_of_le hle
      · intro t _ hline
        rw [List.nil_append, skipComment_line hline]
  | cons c r ih =>
    constructor
    · by_cases hvisible : Visible m c
      · refine .same (r := c :: r) (by rw [skipped, skipSpaced_cons hvisible]) ?_
        intro t _
        rw [skipped, List.cons_append, skipSpaced_cons hvisible]
      · simp only [Visible, Classical.not_imp, not_and, not_not] at hvisible
        obtain ⟨hm, hc⟩ := hvisible
        cases hblank : Text.isBlank c with
        | true =>
          have hskip : ∀ s, skipped m (c :: s) = skipped m s := by
            intro s
            rw [skipped, skipped, skipSpaced]
            simp [hm, hblank]
          exact ih.1.of_eq (hskip r) fun t _ => hskip (r ++ t)
        | false =>
          have hskip : ∀ s, skipped m (c :: s) = some ((), skipSpaced.skipComment m s) := by
            intro s
            have hcomment := hc hblank
            subst hcomment
            rw [skipped, skipSpaced]
            simp [hm, hblank]
          exact ih.2.of_eq (hskip r) fun t _ => hskip (r ++ t)
    · by_cases hc : c = '\n'
      · subst hc
        exact ih.1.of_eq rfl fun _ _ => rfl
      · have hskip : ∀ s, skipSpaced.skipComment m (c :: s) = skipSpaced.skipComment m s := by
          intro s
          rw [skipSpaced.skipComment.eq_def]
          split
          · next heq => cases heq
          · next heq => exact absurd (List.cons.inj heq).1 hc
          · next heq =>
            cases heq
            rfl
        exact ih.2.of_eq (by rw [hskip]) fun t _ => by rw [List.cons_append, hskip]

theorem skipped_steady (m : Modes) (s : List Char) : Steady never (skipped m) s := by
  refine ⟨?_, (skipped_outcome m s).1⟩
  rintro x r ⟨⟩
  exact (skipSpaced_suffix m s).1

theorem skipSpaced_closing (m : Modes) (s : List Char) :
    (∀ t, Closing t → skipSpaced m (s ++ t) = skipSpaced m s ++ t) ∨
      skipSpaced m s = [] ∧ (∀ t, Closing t → (skipSpaced m (s ++ t)).length < t.length) ∧
        ∀ t, Closing t → '\n' ∉ t → skipSpaced m (s ++ t) = [] := by
  have hrest : ∀ {s r : List Char}, skipped m s = some ((), r) → skipSpaced m s = r := fun h =>
    (Prod.mk.inj (Option.some.inj h)).2
  cases (skipped_steady m s).outcome with
  | same own longer =>
    left
    intro t ht
    rw [hrest own, hrest (longer t ht)]
  | refused own => cases own
  | swallowed own longer line =>
    exact .inr ⟨hrest own, fun t ht => longer t ht () _ rfl, fun t ht h => hrest (line t ht h)⟩

theorem Steady.skip {α : Type} {stuck : α → List Char → Prop} {R : Reader α}
    (h : ∀ r, Steady stuck R r) (m : Modes) (s : List Char) :
    Steady stuck (fun s => R (skipSpaced m s)) s :=
  (skipped_steady m s).bind (Q := fun _ => R) (fun _ => h) nofun

end

section

def piece (e : Char) : Reader (List Char) := fun s =>
  match s.dropWhile (· != e) with
  | _ :: r => some (s.takeWhile (· != e), r)
  | [] => none

theorem piece_of_mem {e : Char} {q : List Char} (hq : e ∉ q) (r : List Char) :
    piece e (q ++ e :: r) = some (q, r) := by
  have hpos : ∀ c ∈ q, (c != e) = true := by
    intro c hc
    have hne : c ≠ e := fun h => hq (h ▸ hc)
    simpa using hne
  rw [piece, List.dropWhile_append_of_pos hpos, List.takeWhile_append_of_pos hpos]
  simp

theorem piece_of_not_mem {e : Char} {s : List Char} (h : e ∉ s) : piece e s = none := by
  have hnil : s.dropWhile (· != e) = [] := by
    rw [List.dropWhile_eq_nil_iff]
    intro c hc
    have hne : c ≠ e := fun heq => h (heq ▸ hc)
    simpa using hne
  rw [piece, hnil]

theorem piece_some {e : Char} {s q r : List Char} (h : piece e s = some (q, r)) :
    s = q ++ e :: r ∧ e ∉ q := by
  have hmem : e ∈ s := by
    by_contra hmem
    rw [piece_of_not_mem hmem] at h
    cases h
  obtain ⟨q', r', hs, hq'⟩ := List.eq_append_cons_of_mem hmem
  rw [hs, piece_of_mem hq'] at h
  cases h
  exact ⟨hs, hq'⟩

theorem piece_steady (e : Char) (s : List Char) : Steady never (piece e) s := by
  constructor
  · intro q r h
    obtain ⟨rfl, -⟩ := piece_some h
    exact ⟨q ++ [e], by simp⟩
  · by_cases hmem : e ∈ s
    · obtain ⟨q, r, rfl, hq⟩ := List.eq_append_cons_of_mem hmem
      refine .same (piece_of_mem hq r) ?_
      intro t _
      rw [List.append_assoc, List.cons_append, piece_of_mem hq]
    · refine .refused (piece_of_not_mem hmem) ?_
      intro t ht q r h
      -- the first `e` of the whole lies in what comes behind
      obtain ⟨q', r', ht', hq'⟩ : ∃ q' r', t = q' ++ e :: r' ∧ e ∉ q' := by
        apply List.eq_append_cons_of_mem
        have hboth : e ∈ s ++ t := by
          rw [(piece_some h).1]
          simp
        exact (List.mem_append.mp hboth).resolve_left hmem
      have hnot : e ∉ s ++ q' := by simp [hmem, hq']
      rw [ht', ← List.append_assoc, piece_of_mem hnot] at h
      cases h
      left
      rw [ht', List.length_append, List.length_cons]
      omega

theorem dropWhile_closing {p : Char → Bool} (hp : p ')' = false) (s : List Char) {t : List Char}
    (ht : Closing t) : (s ++ t).dropWhile p = s.dropWhile p ++ t := by
  obtain ⟨u, rfl⟩ := ht
  induction s with
  | nil => simp [hp]
  | cons c s ih =>
    rw [List.cons_append, List.dropWhile_cons, List.dropWhile_cons, ih]
    split <;> rfl

theorem takeWhile_closing {p : Char → Bool} (hp : p ')' = false) (s : List Char) {t : List Char}
    (ht : Closing t) : (s ++ t).takeWhile p = s.takeWhile p := by
  obtain ⟨u, rfl⟩ := ht
  induction s with
  | nil => simp [hp]
  | cons c s ih =>
    rw [List.cons_append, List.takeWhile_cons, List.takeWhile_cons, ih]

def taking (n : Nat) : Reader (List Char) := fun s =>
  if s.length < n then none else some (s.take n, s.drop n)

theorem taking_steady (n : Nat) (s : List Char) : Steady never (taking n) s := by
  constructor
  · intro x r h
    unfold taking at h
    split_ifs at h
    cases h
    exact List.drop_suffix n s
  · unfold taking
    by_cases hlength : s.length < n
    · refine .refused (if_pos hlength) ?_
      intro t ht x r h
      split_ifs at h
      cases h
      obtain ⟨u, rfl⟩ := ht
      left
      rw [List.length_drop, List.length_append, List.length_cons]
      omega
    · refine .same (if_neg hlength) ?_
      intro t _
      have hle : n ≤ s.length := Nat.le_of_not_lt hlength
      rw [if_neg (by rw [List.length_append]; omega), List.take_append_of_le_length hle,
        List.drop_append_of_le_length hle]

end

end ScreenScript.Pattern.Parser
