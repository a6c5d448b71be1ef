import ScreenScript.Proofs.Pattern.Steadiness

/-!
What the readers of escapes, sets in brackets, counts, mode letters and names make of a pattern that
goes on with a closing parenthesis.
-/

namespace ScreenScript.Pattern.Parser

variable {m : Modes}

section

def hexScalar? (ds : List Char) : Option Char :=
  (hexValue? ds).bind scalar?

theorem readHex_brace (width : Nat) (r : List Char) : readHex width ('\x7b' :: r) =
    (piece '\x7d' r).bind fun y =>
      (if y.1.isEmpty then none else hexScalar? y.1).map fun x => (x, y.2) := by
  rw [readHex, piece]
  cases r.dropWhile (· != '\x7d') with
  | nil => rfl
  | cons _ rest =>
    simp only [Option.bind_some]
    split
    · rfl
    · cases hv : hexValue? (r.takeWhile (· != '\x7d')) with
      | none => simp [hexScalar?, hv]
      | some v => cases hs : scalar? v <;> simp [hexScalar?, hv, hs]

theorem readHex_digits {width : Nat} {s : List Char} (hs : ∀ r, s ≠ '\x7b' :: r) :
    readHex width s =
      (taking width s).bind fun y => (hexScalar? y.1).map fun x => (x, y.2) := by
  rw [readHex.eq_def]
  split
  · next r => exact absurd rfl (hs r)
  · rw [taking]
    split
    · rfl
    · cases hv : hexValue? (s.take width) with
      | none => simp [hexScalar?, hv]
      | some v => cases hs : scalar? v <;> simp [hexScalar?, hv, hs]

theorem readHex_steady (width : Nat) (s : List Char) : Steady never (readHex width) s :=
  Steady.branch (by decide) (fun r => (piece_steady '\x7d' r).filterMap fun ds =>
      if ds.isEmpty then none else hexScalar? ds)
    (fun s => (taking_steady width s).filterMap hexScalar?) (readHex_brace width)
    (fun _ => readHex_digits) s

theorem readByte_brace (m : Modes) (r : List Char) :
    readByte m ('\x7b' :: r) = readHex 2 ('\x7b' :: r) :=
  rfl

def byteScalar? (m : Modes) (ds : List Char) : Option Char :=
  (hexScalar? ds).filter fun c => m.unicode || c.toNat < 0x80

theorem readByte_digits {m : Modes} {s : List Char} (hs : ∀ r, s ≠ '\x7b' :: r) :
    readByte m s = (taking 2 s).bind fun y => (byteScalar? m y.1).map fun x => (x, y.2) := by
  have hbyte : readByte m s = (readHex 2 s).filter fun y => m.unicode || y.1.toNat < 0x80 := by
    rw [readByte.eq_def]
    split
    · next r => exact absurd rfl (hs r)
    · rfl
  rw [hbyte, readHex_digits hs]
  cases taking 2 s with
  | none => rfl
  | some y =>
    simp only [Option.bind_some, byteScalar?]
    cases hexScalar? y.1 with
    | none => rfl
    | some c => 
      simp only [Option.map_some, Option.filter_some]
      split <;> rfl

theorem readByte_steady (m : Modes) (s : List Char) : Steady never (readByte m) s :=
  Steady.branch (by decide) (fun r => (piece_steady '\x7d' r).filterMap fun ds =>
      if ds.isEmpty then none else hexScalar? ds)
    (fun s => (taking_steady 2 s).filterMap (byteScalar? m))
    (fun r => (readByte_brace m r).trans (readHex_brace 2 r)) (fun _ => readByte_digits) s

theorem readProperty_char {negated : Bool} {c : Char} (hu : m.unicode = true) (hslash : c ≠ '\\')
    (hbrace : c ≠ '\x7b') (s : List Char) : readProperty m negated (c :: s) =
      ((Class.category? (Class.looseName [c])).map fun a =>
        Class.complementIf (negated != false) (Class.foldedIf m.ignoreCase a)).map
          fun x => (x, s) := by
  simp only [readProperty, hu, Bool.not_true, Bool.false_eq_true, if_false]
  rw [Option.map_map]
  rfl

theorem readProperty_steady (m : Modes) (negated : Bool) (s : List Char) :
    Steady never (readProperty m negated) s := by
  cases hu : m.unicode with
  | false =>
    have hnone : ∀ s, readProperty m negated s = none := by
      intro s
      simp [readProperty, hu]
    exact (Steady.give none s).congr hnone
  | true =>
    cases s with
    | nil =>
      have hnil : readProperty m negated [] = none := by simp [readProperty, hu]
      exact .at_close hnil (readProperty_char hu (by decide) (by decide))
    | cons c r =>
      by_cases hslash : c = '\\'
      · subst hslash
        have hnone : ∀ s, readProperty m negated ('\\' :: s) = none := by
          intro s
          simp [readProperty, hu]
        exact (Steady.give none r).cons hnone
      by_cases hbrace : c = '\x7b'
      · subst hbrace
        refine ((piece_steady '\x7d' r).filterMap fun name => (propertySet? name).map fun y =>
          Class.complementIf (negated != y.1) (Class.foldedIf m.ignoreCase y.2)).cons ?_
        intro s
        simp only [readProperty, hu, Bool.not_true, Bool.false_eq_true, if_false, piece]
        cases s.dropWhile (· != '\x7d') with
        | nil => rfl
        | cons _ rest => simp [Option.map_map, Function.comp_def]
      · exact (Steady.give _ r).cons (readProperty_char hu hslash hbrace)

def namedEdge? (name : List Char) : Option Anchor :=
  match String.ofList name with
  | "start" => some .wordStart
  | "end" => some .wordEnd
  | "start-half" => some .wordStartHalf
  | "end-half" => some .wordEndHalf
  | _ => none

/-- A brace alone, which begins neither a narrowed edge nor a count. -/
def stuckEdge (a : Anchor) (w : List Char) : Prop :=
  a = .wordEdge ∧ w = ['\x7b']

theorem readWordEdge_steady (s : List Char) : Steady stuckEdge readWordEdge s := by
  obtain ⟨r, rfl⟩ | hs := starts_or_not '\x7b' s
  · cases r with
    | nil =>
      refine .of_refused rfl ?_
      rintro t ⟨u, rfl⟩ x r h
      cases h
      exact .inr ⟨['\x7b'], rfl, rfl, rfl⟩
    | cons c r =>
      by_cases hc : c.isAlpha ∨ c = '-'
      · have hname : ∀ s, readWordEdge ('\x7b' :: c :: s) =
            (piece '\x7d' (c :: s)).bind fun y => (namedEdge? y.1).map fun a => (a, y.2) := by
          intro s
          simp only [readWordEdge, hc, if_true, piece]
          cases (c :: s).dropWhile (· != '\x7d') with
          | nil => rfl
          | cons _ rest =>
            simp only [Option.bind_some, namedEdge?]
            generalize String.ofList ((c :: s).takeWhile (· != '\x7d')) = name
            split <;> simp
        exact ((piece_steady '\x7d' (c :: r)).filterMap namedEdge?).of_eq (hname r)
          (fun t _ => hname (r ++ t)) (List.suffix_cons ..)
      · have hplain : ∀ s, readWordEdge ('\x7b' :: c :: s) = some (.wordEdge, '\x7b' :: c :: s) := by
          intro s
          simp [readWordEdge, hc]
        exact (Steady.read .wordEdge _).of_eq (hplain r) (fun t _ => hplain (r ++ t))
          (List.suffix_refl _)
  · have hplain : ∀ s, (∀ r, s ≠ '\x7b' :: r) → readWordEdge s = some (.wordEdge, s) := by
      intro s hs
      unfold readWordEdge
      split
      · next c r => exact absurd rfl (hs _)
      · exact absurd rfl (hs _)
      · rfl
    exact (Steady.read .wordEdge s).of_eq (hplain s hs)
      (fun t ht => hplain _ (ht.ne_cons (by decide) hs)) (List.suffix_refl s)

def stuckEscape (e : Escape) (w : List Char) : Prop :=
  e = .anchor .wordEdge ∧ w = ['\x7b']

def plainEscape? (m : Modes) (c : Char) : Option Escape :=
  (readEscape m [c]).map (·.1)

theorem readEscape_plain {c : Char} (hx : c ≠ 'x') (hu : c ≠ 'u') (hU : c ≠ 'U') (hp : c ≠ 'p')
    (hP : c ≠ 'P') (hb : c ≠ 'b') (r : List Char) :
    readEscape m (c :: r) = (plainEscape? m c).map fun e => (e, r) := by
  unfold plainEscape? readEscape
  simp only [hx, hu, hU, hp, hP, or_self, if_false]
  split
  · cases shorthand m c <;> rfl
  split
  · rfl
  cases control? c with
  | some d => rfl
  | none =>
    dsimp only
    split <;> first | rfl | exact absurd rfl hb

theorem readEscape_steady (m : Modes) (s : List Char) : Steady stuckEscape (readEscape m) s := by
  cases s with
  | nil =>
    exact .at_close rfl (readEscape_plain (by decide) (by decide) (by decide) (by decide) (by decide)
      (by decide))
  | cons c r =>
    by_cases hx : c = 'x'
    · subst hx
      exact ((readByte_steady m r).map Escape.literal nofun).cons fun _ => rfl
    by_cases hu : c = 'u'
    · subst hu
      exact ((readHex_steady 4 r).map Escape.literal nofun).cons fun _ => rfl
    by_cases hU : c = 'U'
    · subst hU
      exact ((readHex_steady 8 r).map Escape.literal nofun).cons fun _ => rfl
    by_cases hp : c = 'p'
    · subst hp
      exact ((readProperty_steady m false r).map Escape.set nofun).cons fun _ => rfl
    by_cases hP : c = 'P'
    · subst hP
      exact ((readProperty_steady m true r).map Escape.set nofun).cons fun _ => rfl
    by_cases hb : c = 'b'
    · subst hb
      refine ((readWordEdge_steady r).map Escape.anchor ?_).cons fun _ => rfl
      rintro a w ⟨rfl, hw⟩
      exact ⟨rfl, hw⟩
    · exact (Steady.give (plainEscape? m c) r).cons (readEscape_plain hx hu hU hp hP hb)

end

section

theorem readClassItem_steady (m : Modes) (c : Char) (s : List Char) :
    Steady stuckEscape (fun s => readClassItem m (c :: s)) s := by
  by_cases hc : c = '\\'
  · subst hc
    exact readEscape_steady m s
  · refine (Steady.read (.literal c) s).congr fun s => ?_
    rw [readClassItem.eq_def]
    split
    · next h => cases h
    · next h => exact absurd (List.cons.inj h).1 hc
    · next h =>
      cases h
      rfl

def single? (m : Modes) : Escape → Option Class
  | .literal c => if m.unicode || c.toNat < 0x80 then some (.char c) else none
  | .set a => some a
  | .anchor _ => none

def range? (m : Modes) : Escape → Escape → Option Class
  | .literal a, .literal b =>
    if a.toNat ≤ b.toNat && (m.unicode || b.toNat < 0x80) then some (.range a.toNat b.toNat)
    else none
  | _, _ => none

def rangeFrom (m : Modes) (first : Escape) (c : Char) : Reader Class := fun s =>
  (readClassItem m (c :: s)).bind fun y => (range? m first y.1).map fun a => (a, y.2)

/-- What comes behind a hyphen, less space, decides whether it makes a range; if not, the hyphen is
left, with `r` behind it. -/
def afterHyphen (m : Modes) (first : Escape) (r : List Char) : List Char → Option (Class × List Char)
  | [] => none
  | c :: s =>
    if c = ']' ∨ c = '-' then (single? m first).map fun a => (a, '-' :: r)
    else rangeFrom m first c s

def afterItem (m : Modes) (first : Escape) : Reader Class
  | [] => none
  | c :: r =>
    if c = '-' then afterHyphen m first r (skipSpaced m r)
    else (single? m first).map fun a => (a, c :: r)

theorem single?_map (first : Escape) (s : List Char) :
    ((single? m first).bind fun a => some (a, s)) = (single? m first).map fun a => (a, s) := by
  cases single? m first <;> rfl

theorem rangeFrom_eq (first : Escape) (c : Char) (s : List Char) :
    ((readClassItem m (c :: s)).bind fun y => match first, y.1 with
      | .literal a, .literal b =>
        if a.toNat ≤ b.toNat && (m.unicode || b.toNat < 0x80) then
          some (.range a.toNat b.toNat, y.2)
        else none
      | _, _ => none) = rangeFrom m first c s := by
  rw [rangeFrom]
  cases readClassItem m (c :: s) with
  | none => rfl
  | some y =>
    obtain ⟨last, rest⟩ := y
    simp only [Option.bind_some]
    split
    · simp only [range?]
      split <;> rfl
    · next h =>
      rw [range?]
      · rfl
      · exact h

theorem readClassRange_eq (s : List Char) : readClassRange m s =
    (readClassItem m s).bind fun y => afterItem m y.1 (skipSpaced m y.2) := by
  unfold readClassRange
  cases readClassItem m s with
  | none => rfl
  | some y =>
    obtain ⟨first, r⟩ := y
    change _ = afterItem m first (skipSpaced m r)
    generalize hv : skipSpaced m r = v
    simp only [bind, Option.bind_some]
    rw [hv]
    split
    · rfl
    · next w =>
      change _ = afterHyphen m first w (skipSpaced m w)
      split
      · next hw => rw [hw, afterHyphen]
      · next hw =>
        rw [hw, afterHyphen, if_pos (.inl rfl)]
        exact single?_map first _
      · next hw =>
        rw [hw, afterHyphen, if_pos (.inr rfl)]
        exact single?_map first _
      · next hnil hbracket hhyphen =>
        cases hw : skipSpaced m w with
        | nil => exact absurd hw hnil
        | cons c w =>
          have hc : ¬(c = ']' ∨ c = '-') := by
            rintro (rfl | rfl)
            · exact hbracket w hw
            · exact hhyphen w hw
          rw [afterHyphen, if_neg hc]
          exact rangeFrom_eq first c w
    · next hnil hhyphen =>
      cases v with
      | nil => exact absurd rfl hnil
      | cons c v =>
        have hc : c ≠ '-' := fun h => hhyphen v (by rw [h])
        rw [afterItem, if_neg hc]
        exact single?_map first _

/-- Nothing, or a hyphen with a comment behind it that is not at its end. -/
def stuckHyphen (m : Modes) {α : Type} (_ : α) (w : List Char) : Prop :=
  w = [] ∨ ∃ r, w = '-' :: r ∧ skipSpaced m r = []

theorem rangeFrom_steady (m : Modes) (first : Escape) (c : Char) (s : List Char) :
    Steady never (rangeFrom m first c) s := by
  refine (readClassItem_steady m c s).bind (Q := fun e s => (range? m first e).map fun a => (a, s))
    (fun e r => .give _ r) ?_
  rintro e w ⟨rfl, -⟩
  cases first <;> rfl

theorem afterItem_anchor (a : Anchor) (r : List Char) : afterItem m (.anchor a) r = none := by
  cases r with
  | nil => rfl
  | cons c r =>
    rw [afterItem]
    split
    · cases skipSpaced m r with
      | nil => rfl
      | cons c s =>
        rw [afterHyphen]
        split
        · rfl
        · rw [rangeFrom]
          cases readClassItem m (c :: s) <;> rfl
    · rfl

theorem afterItem_steady (m : Modes) (first : Escape) (r : List Char) :
    Steady (stuckHyphen m) (afterItem m first) r := by
  cases r with
  | nil =>
    refine .of_refused rfl ?_
    rintro t ⟨u, rfl⟩ x r h
    obtain ⟨a, -, ha⟩ := Option.map_eq_some_iff.mp h
    cases ha
    exact .inr ⟨[], rfl, .inl rfl⟩
  | cons c r =>
    by_cases hc : c = '-'
    · subst hc
      have heq : ∀ s, afterItem m first ('-' :: s) = afterHyphen m first s (skipSpaced m s) :=
        fun _ => rfl
      rcases skipSpaced_closing m r with hlonger | ⟨hv, hshort, -⟩
      · cases hv : skipSpaced m r with
        | nil =>
          have hown : afterItem m first ('-' :: r) = none := by rw [heq, hv, afterHyphen]
          refine .of_refused hown ?_
          rintro t ⟨u, rfl⟩ x w h
          rw [List.cons_append, heq, hlonger _ ⟨u, rfl⟩, hv] at h
          have hsuffix := (rangeFrom_steady m first ')' u).suffix x w h
          exact .inl (Nat.lt_succ_of_le hsuffix.length_le)
        | cons c v =>
          by_cases hclose : c = ']' ∨ c = '-'
          · refine (Steady.give (single? m first) ('-' :: r)).of_eq ?_ ?_ (List.suffix_refl _)
            · rw [heq, hv, afterHyphen, if_pos hclose]
            · intro t ht
              rw [List.cons_append, heq, hlonger t ht, hv, List.cons_append, afterHyphen,
                if_pos hclose]
          · refine ((rangeFrom_steady m first c v).mono nofun).of_eq ?_ ?_ ?_
            · rw [heq, hv, afterHyphen, if_neg hclose]
            · intro t ht
              rw [List.cons_append, heq, hlonger t ht, hv, List.cons_append, afterHyphen,
                if_neg hclose]
            · have hsuffix := (skipSpaced_suffix m r).1
              rw [hv] at hsuffix
              exact (List.suffix_cons c v).trans (hsuffix.trans (List.suffix_cons '-' r))
      -- the comment behind the hyphen goes on, to a place where the range may go on as well
      · have hown : afterItem m first ('-' :: r) = none := by rw [heq, hv, afterHyphen]
        refine .of_refused hown ?_
        intro t ht x w h
        have hlt := hshort t ht
        rw [List.cons_append, heq] at h
        cases hw : skipSpaced m (r ++ t) with
        | nil =>
          rw [hw] at h
          cases h
        | cons c v =>
          rw [hw] at h hlt
          rw [afterHyphen] at h
          split at h
          · obtain ⟨a, -, ha⟩ := Option.map_eq_some_iff.mp h
            cases ha
            exact .inr ⟨'-' :: r, rfl, .inr ⟨r, rfl, hv⟩⟩
          · have hsuffix := (rangeFrom_steady m first c v).suffix x w h
            exact .inl ((Nat.lt_succ_of_le hsuffix.length_le).trans hlt)
    · have heq : ∀ s, afterItem m first (c :: s) = (single? m first).map fun a => (a, c :: s) := by
        intro s
        rw [afterItem, if_neg hc]
      exact (Steady.give (single? m first) (c :: r)).of_eq (heq r) (fun t _ => heq (r ++ t))
        (List.suffix_refl _)

theorem readClassRange_steady (m : Modes) (c : Char) (s : List Char) :
    Steady (stuckHyphen m) (fun s => readClassRange m (c :: s)) s := by
  have hbind := (readClassItem_steady m c s).bind (Q := fun e s => afterItem m e (skipSpaced m s))
    (fun e r => Steady.skip (afterItem_steady m e) m r) ?_
  · exact hbind.congr fun s => readClassRange_eq (c :: s)
  · rintro e w ⟨rfl, -⟩
    exact afterItem_anchor _ _

theorem ascii?_paren {q : List Char} (h : ')' ∈ q) : Class.ascii? (String.ofList q) = none := by
  have hne : ∀ name : String, ')' ∉ name.toList → String.ofList q ≠ name := by
    rintro name hname rfl
    exact hname (by rwa [String.toList_ofList])
  unfold Class.ascii?
  split
  case h_15 => rfl
  all_goals next heq => exact absurd heq (hne _ (by decide))

def asciiSet (negated : Bool) : Reader (Bool × Class) := fun r =>
  (piece ':' r).bind fun y => match y.2 with
    | ']' :: rest => (Class.ascii? (String.ofList y.1)).map fun c =>
        ((negated, c), rest)
    | _ => none

theorem asciiSet_append (negated : Bool) (r : List Char) {t : List Char} (ht : Closing t) :
    asciiSet negated (r ++ t) = (asciiSet negated r).map fun y => (y.1, y.2 ++ t) := by
  by_cases hmem : ':' ∈ r
  · obtain ⟨q, r, rfl, hq⟩ := List.eq_append_cons_of_mem hmem
    rw [List.append_assoc, List.cons_append, asciiSet, asciiSet, piece_of_mem hq, piece_of_mem hq]
    obtain ⟨u, rfl⟩ := ht
    simp only [Option.bind_some]
    cases r with
    | nil => rfl
    | cons c r =>
      by_cases hc : c = ']'
      · subst hc
        simp only [List.cons_append, Option.map_map]
        rfl
      · have hnone : ∀ s : List Char, (match c :: s with
            | ']' :: rest => (Class.ascii? (String.ofList q)).map fun c =>
              ((negated, c), rest)
            | _ => none) = none := by
          intro s
          split
          · next h => exact absurd (List.cons.inj h).1 hc
          · rfl
        rw [List.cons_append, hnone, hnone, Option.map_none]
  · -- a name that goes on behind `r` has the parenthesis in it
    have hlonger : asciiSet negated (r ++ t) = none := by
      rw [asciiSet]
      cases hp : piece ':' (r ++ t) with
      | none => rfl
      | some y =>
        obtain ⟨q, w⟩ := y
        obtain ⟨heq, hq⟩ := piece_some hp
        have hparen : ')' ∈ q := by
          obtain ⟨u, rfl⟩ := ht
          rcases List.append_eq_append_iff.mp heq with ⟨a, rfl, ha⟩ | ⟨a, rfl, ha⟩
          · cases a with
            | nil => exact absurd (List.cons.inj ha).1 (by decide)
            | cons c a =>
              rw [(List.cons.inj ha).1]
              simp
          · cases a with
            | nil => exact absurd (List.cons.inj ha).1 (by decide)
            | cons c a =>
              rw [(List.cons.inj ha).1] at hmem
              simp at hmem
        simp only [Option.bind_some]
        split
        · rw [ascii?_paren hparen, Option.map_none]
        · rfl
    rw [hlonger, asciiSet, piece_of_not_mem hmem, Option.bind_none, Option.map_none]

theorem asciiSet_eq (negated : Bool) (r : List Char) : asciiSet negated r =
    match r.dropWhile (· != ':') with
    | ':' :: ']' :: rest => (Class.ascii? (String.ofList (r.takeWhile (· != ':')))).map fun c =>
        ((negated, c), rest)
    | _ => none := by
  rw [asciiSet, piece]
  cases hr : r.dropWhile (· != ':') with
  | nil => rfl
  | cons c w =>
    have hc := List.head_dropWhile_not (· != ':') (l := r) (by rw [hr]; exact List.cons_ne_nil c w)
    simp only [hr, List.head_cons, bne_eq_false_iff_eq] at hc
    subst hc
    simp only [Option.bind_some]
    cases w with
    | nil => rfl
    | cons c w =>
      by_cases hc : c = ']'
      · subst hc
        rfl
      · split
        · next h => exact absurd (List.cons.inj h).1 hc
        · split
          · next h => exact absurd (List.cons.inj (List.cons.inj h).2).1 hc
          · rfl

def asciiCaret : List Char → Bool × List Char
  | '^' :: r => (true, r)
  | r => (false, r)

theorem readAsciiClass_named (r : List Char) :
    readAsciiClass ('[' :: ':' :: r) = asciiSet (asciiCaret r).1 (asciiCaret r).2 :=
  (asciiSet_eq _ _).symm

theorem readAsciiClass_caret (r : List Char) :
    readAsciiClass ('[' :: ':' :: '^' :: r) = asciiSet true r :=
  readAsciiClass_named _

theorem readAsciiClass_colon {r : List Char} (hr : ∀ s, r ≠ '^' :: s) :
    readAsciiClass ('[' :: ':' :: r) = asciiSet false r := by
  rw [readAsciiClass_named, asciiCaret]
  exact hr

theorem readAsciiClass_other {s : List Char} (hs : ∀ r, s ≠ ':' :: r) :
    readAsciiClass ('[' :: s) = none := by
  rw [readAsciiClass.eq_def]
  split
  · next h => exact absurd (List.cons.inj h).2 (hs _)
  · rfl

theorem readAsciiClass_append (s : List Char) {t : List Char} (ht : Closing t) :
    readAsciiClass ('[' :: s ++ t) =
      (readAsciiClass ('[' :: s)).map fun y => (y.1, y.2 ++ t) := by
  obtain ⟨r, rfl⟩ | hs := starts_or_not ':' s
  · obtain ⟨r, rfl⟩ | hr := starts_or_not '^' r
    · rw [List.cons_append, List.cons_append, List.cons_append, readAsciiClass_caret,
        readAsciiClass_caret]
      exact asciiSet_append true r ht
    · rw [List.cons_append, List.cons_append, readAsciiClass_colon hr,
        readAsciiClass_colon (ht.ne_cons (by decide) hr)]
      exact asciiSet_append false r ht
  · rw [List.cons_append, readAsciiClass_other hs,
      readAsciiClass_other (ht.ne_cons (by decide) hs), Option.map_none]

theorem asciiSet_suffix {negated : Bool} {r rest : List Char} {c : Bool × Class}
    (h : asciiSet negated r = some (c, rest)) : rest <:+ r := by
  obtain ⟨⟨q, w⟩, hp, hw⟩ := Option.bind_eq_some_iff.mp h
  have hsuffix := (piece_steady ':' r).suffix q w hp
  simp only at hw
  split at hw
  · obtain ⟨a, -, ha⟩ := Option.map_eq_some_iff.mp hw
    cases ha
    exact (List.suffix_cons ']' rest).trans hsuffix
  · cases hw

theorem readAsciiClass_suffix {s rest : List Char} {c : Bool × Class}
    (h : readAsciiClass ('[' :: s) = some (c, rest)) : rest <:+ s := by
  obtain ⟨r, rfl⟩ | hs := starts_or_not ':' s
  · refine List.IsSuffix.trans ?_ (List.suffix_cons ':' r)
    obtain ⟨r, rfl⟩ | hr := starts_or_not '^' r
    · rw [readAsciiClass_caret] at h
      exact (asciiSet_suffix h).trans (List.suffix_cons '^' r)
    · rw [readAsciiClass_colon hr] at h
      exact asciiSet_suffix h
  · rw [readAsciiClass_other hs] at h
    cases h

end

section

theorem readCount_append (s : List Char) {t : List Char} (ht : Closing t) :
    readCount (s ++ t) = (readCount s).map fun y => (y.1, y.2 ++ t) := by
  have hdigit : Decimal.isDigit ')' = false := by decide
  unfold readCount
  simp only [dropWhile_closing isBlank_paren _ ht, takeWhile_closing hdigit _ ht,
    dropWhile_closing hdigit _ ht]
  split <;> rfl

theorem readCount_steady (s : List Char) : Steady never readCount s := by
  refine .of_append ?_ fun t => readCount_append s
  intro n r h
  unfold readCount at h
  simp only at h
  split at h
  · cases h
  · cases h
    exact (List.dropWhile_suffix _).trans ((List.dropWhile_suffix _).trans (List.dropWhile_suffix _))

def upperCount (lo : Nat) : Reader (Nat × Option Nat)
  | '\x7d' :: r => some ((lo, none), '\x7d' :: r)
  | r => (readCount r).map fun y => ((lo, some y.1), y.2)

def upperCount? (m : Modes) (lo : Nat) : Reader (Nat × Option Nat)
  | ',' :: r => upperCount lo (skipSpaced m r)
  | r => some ((lo, some lo), r)

def endCounts (m : Modes) (lo : Nat) (bounds : Nat × Option Nat) : Reader (Nat × Option Nat)
  | '\x7d' :: r =>
    if bounds.2.any (· < lo) then none else some (bounds, skipReluctant (skipSpaced m r))
  | _ => none

theorem readCounts_eq (s : List Char) : readCounts m s =
    (readCount (skipSpaced m s)).bind fun y =>
      (upperCount? m y.1 y.2).bind fun z => endCounts m y.1 z.1 z.2 := by
  unfold readCounts
  cases readCount (skipSpaced m s) with
  | none => rfl
  | some y =>
    obtain ⟨lo, r⟩ := y
    simp only [bind, Option.bind_some]
    split
    · next r =>
      change _ = (upperCount lo (skipSpaced m r)).bind _
      split
      · next hbrace =>
        rw [hbrace]
        rfl
      · next hbrace =>
        rw [upperCount]
        · rfl
        · exact hbrace
    · next hcomma =>
      rw [upperCount?]
      · rfl
      · exact hcomma

theorem skipReluctant_steady {α : Type} (x : α) (s : List Char) :
    Steady never (fun s => some (x, skipReluctant s)) s := by
  refine Steady.branch (c := '?') (by decide) (Steady.read x) (Steady.read x) (fun _ => rfl) ?_ s
  intro s hs
  rw [skipReluctant]
  exact hs

theorem upperCount_steady (lo : Nat) (s : List Char) : Steady never (upperCount lo) s := by
  obtain ⟨r, rfl⟩ | hs := starts_or_not '\x7d' s
  · exact (Steady.read (lo, none) ('\x7d' :: r)).of_eq rfl (fun _ _ => rfl) (List.suffix_refl _)
  · have hcount : ∀ s, (∀ r, s ≠ '\x7d' :: r) →
        upperCount lo s = (readCount s).map fun y => ((lo, some y.1), y.2) := by
      intro s hs
      rw [upperCount]
      exact hs
    exact ((readCount_steady s).map (fun hi => (lo, some hi)) nofun).of_eq (hcount s hs)
      (fun t ht => hcount _ (ht.ne_cons (by decide) hs)) (List.suffix_refl s)

theorem upperCount?_steady (m : Modes) (lo : Nat) (s : List Char) :
    Steady never (upperCount? m lo) s := by
  refine Steady.branch (c := ',') (by decide) (Steady.skip (upperCount_steady lo) m)
    (Steady.read (lo, some lo)) (fun _ => rfl) ?_ s
  intro s hs
  rw [upperCount?]
  exact hs

theorem endCounts_steady (m : Modes) (lo : Nat) (bounds : Nat × Option Nat) (s : List Char) :
    Steady never (endCounts m lo bounds) s := by
  have hend : ∀ r, Steady never (fun r => endCounts m lo bounds ('\x7d' :: r)) r := by
    intro r
    by_cases hless : bounds.2.any (· < lo)
    · exact (Steady.give none r).congr fun s => if_pos hless
    · exact (Steady.skip (skipReluctant_steady bounds) m r).congr fun s => if_neg hless
  refine Steady.branch (by decide) hend (Steady.give none) (fun _ => rfl) ?_ s
  intro s hs
  rw [endCounts]
  · rfl
  · exact hs

theorem readCounts_steady (m : Modes) (s : List Char) : Steady never (readCounts m) s := by
  have hbounds : ∀ lo r, Steady never
      (fun r => (upperCount? m lo r).bind fun z => endCounts m lo z.1 z.2) r :=
    fun lo r => (upperCount?_steady m lo r).bind (endCounts_steady m lo) nofun
  refine Steady.congr ?_ readCounts_eq
  exact (Steady.skip readCount_steady m s).bind hbounds nofun

def stuckEnd {α : Type} (_ : α) (w : List Char) : Prop :=
  w = []

theorem readModes_steady (seen : List Char) (on : Bool) (m : Modes) (s : List Char) :
    Steady stuckEnd (readModes seen on m) s := by
  induction s generalizing seen on m with
  | nil =>
    refine .of_refused rfl ?_
    rintro t ⟨u, rfl⟩ x r h
    simp only [List.nil_append, readModes, or_true, if_true] at h
    split at h
    · cases h
    · cases h
      exact .inr ⟨[], rfl, rfl⟩
  | cons c r ih =>
    by_cases hend : c = ':' ∨ c = ')'
    · refine (Steady.give (if seen.getLast? = some '-' then none else some (m, seen)) (c :: r)).of_eq
        ?_ ?_ (List.suffix_refl _)
      · rw [readModes, if_pos hend]
        split <;> rfl
      · intro t _
        rw [List.cons_append, readModes, if_pos hend]
        split <;> rfl
    by_cases hseen : seen.contains c
    · have hnone : ∀ s, readModes seen on m (c :: s) = none := by
        intro s
        rw [readModes, if_neg hend, if_pos hseen]
      exact (Steady.give none r).cons hnone
    by_cases hoff : c = '-'
    · refine (ih (seen ++ [c]) false m).cons fun s => ?_
      rw [readModes, if_neg hend, if_neg hseen, if_pos hoff]
    · cases hset : setMode on m c with
      | none =>
        have hnone : ∀ s, readModes seen on m (c :: s) = none := by
          intro s
          rw [readModes, if_neg hend, if_neg hseen, if_neg hoff, hset]
          rfl
        exact (Steady.give none r).cons hnone
      | some m' =>
        refine (ih (seen ++ [c]) on m').cons fun s => ?_
        rw [readModes, if_neg hend, if_neg hseen, if_neg hoff, hset]
        rfl

def isNameStart (c : Char) : Bool :=
  c = '_' || (((Class.find? "alphabetic" Property.tables).map Text.Ranges.ofText).getD #[]).contains c

def isNamePart (c : Char) : Bool :=
  isNameStart c || c = '.' || c = '[' || c = ']' || Class.digit.contains c

def name? : List Char → Option String
  | [] => none
  | c :: cs => if isNameStart c && cs.all isNamePart then some (String.ofList (c :: cs)) else none

theorem readName_eq (s : List Char) :
    readName s = (piece '>' s).bind fun y => (name? y.1).map fun n => (n, y.2) := by
  rw [readName, piece]
  cases s.dropWhile (· != '>') with
  | nil => rfl
  | cons _ rest =>
    cases s.takeWhile (· != '>') with
    | nil => rfl
    | cons c cs =>
      change (if isNameStart c && cs.all isNamePart then some (String.ofList (c :: cs), rest)
        else none) = (name? (c :: cs)).map fun n => (n, rest)
      rw [name?]
      split <;> rfl

theorem readName_steady (s : List Char) : Steady never readName s :=
  ((piece_steady '>' s).filterMap name?).congr readName_eq

end

end ScreenScript.Pattern.Parser
