import ScreenScript.Proofs.Pattern.Reading

/-!
The readers of sets in brackets, groups and expressions, a token at a time: what they make of a
pattern that goes on with a closing parenthesis, and that the bound on their calls is high enough.
-/

namespace ScreenScript.Pattern.Parser

variable {m : Modes}

section

def caret (m : Modes) : Reader Bool := fun s =>
  some (match s with
    | '^' :: r => (true, skipSpaced m r)
    | r => (false, r))

def hyphens (m : Modes) : Reader (List Char) := fun s =>
  some (leadingHyphens m s.length s)

/-- A bracket with nothing in front of it stands for itself. -/
def firstMember (hs : List Char) : Reader Class := fun s =>
  some (match hs, s with
    | [], ']' :: r => (.char ']', r)
    | [], r => (.none, r)
    | _ :: _, r => (.char '-', r))

def finishedSet? (m : Modes) (negated : Bool) (y : Class × Nat) : Option (Class × Nat) :=
  (finished? m negated y.1).map fun c => (c, y.2)

theorem readBrackets_succ (fuel : Nat) (s : List Char) : readBrackets m (fuel + 1) s =
    (caret m (skipSpaced m s)).bind fun x => (hyphens m x.2).bind fun y =>
      (firstMember y.1 y.2).bind fun z => (readClassBody m fuel none z.1 1 z.2).bind fun w =>
        (finishedSet? m x.1 w.1).map fun c => (c, w.2) := by
  rw [readBrackets]
  simp only [finishedSet?, Option.map_map]
  rfl

inductive Member where
  | operator (o : Char)
  | set (c : Class) (depth : Nat)

def readMember (m : Modes) (fuel : Nat) (c : Char) : Reader Member := fun r =>
  if (c = '&' ∨ c = '-' ∨ c = '~') ∧ r.head? = some c then some (.operator c, r.tail)
  else if c = '[' then
    match readAsciiClass ('[' :: r) with
    | some y => (finished? m y.1.1 y.1.2).map fun a => (.set a 0, y.2)
    | none => (readBrackets m fuel r).map fun y => (.set y.1.1 (y.1.2 + 1), y.2)
  else (readClassRange m (c :: r)).map fun y => (.set y.1 0, y.2)

def classFrom (m : Modes) (fuel : Nat) (op : Option (Char × Class)) (acc : Class) (depth : Nat) :
    Member → Reader (Class × Nat)
  | .operator o => readClassBody m fuel (some (o, combine m op acc)) .none depth
  | .set c d => readClassBody m fuel op (.union acc c) (max depth d)

def classBody (m : Modes) (fuel : Nat) (op : Option (Char × Class)) (acc : Class) (depth : Nat) :
    Reader (Class × Nat)
  | [] => none
  | c :: r =>
    if c = ']' then some ((combine m op acc, depth), r)
    else (readMember m fuel c r).bind fun y => classFrom m fuel op acc depth y.1 y.2

def withNested (m : Modes) (fuel : Nat) (op : Option (Char × Class)) (acc : Class) (depth : Nat) :
    Reader (Class × Nat) := fun r =>
  match readAsciiClass ('[' :: r) with
  | some ((negated, c), r) => (finished? m negated c).bind fun c =>
    readClassBody m fuel op (.union acc c) depth r
  | none => (readBrackets m fuel r).bind fun y =>
    readClassBody m fuel op (.union acc y.1.1) (max depth (y.1.2 + 1)) y.2

theorem readClassBody_succ (fuel : Nat) (op : Option (Char × Class)) (acc : Class) (depth : Nat)
    (s : List Char) : readClassBody m (fuel + 1) op acc depth s =
      classBody m fuel op acc depth (skipSpaced m s) := by
  rw [readClassBody]
  generalize skipSpaced m s = v
  cases v with
  | nil => rfl
  | cons c r =>
    by_cases hclose : c = ']'
    · subst hclose
      rfl
    rw [classBody, if_neg hclose]
    by_cases hop : (c = '&' ∨ c = '-' ∨ c = '~') ∧ r.head? = some c
    · rw [readMember, if_pos hop]
      obtain ⟨hc, hr⟩ := hop
      obtain ⟨r, rfl⟩ := List.head?_eq_some_iff.mp hr
      rcases hc with rfl | rfl | rfl <;> rfl
    rw [readMember, if_neg hop]
    by_cases hopen : c = '['
    · subst hopen
      rw [if_pos rfl]
      change withNested m fuel op acc depth r = _
      unfold withNested
      cases readAsciiClass ('[' :: r) with
      | some y =>
        simp only
        cases finished? m y.1.1 y.1.2 <;> simp [classFrom]
      | none =>
        simp only
        cases readBrackets m fuel r <;> rfl
    · rw [if_neg hopen]
      have hrange : ((readClassRange m (c :: r)).bind fun y =>
          readClassBody m fuel op (.union acc y.1) depth y.2) =
          ((readClassRange m (c :: r)).map fun y => (Member.set y.1 0, y.2)).bind fun y =>
            classFrom m fuel op acc depth y.1 y.2 := by
        cases readClassRange m (c :: r) <;> simp [classFrom]
      rw [← hrange]
      split
      · next h => cases h
      · next h => exact absurd (List.cons.inj h).1 hclose
      · next h => cases h; exact absurd ⟨.inl rfl, rfl⟩ hop
      · next h => cases h; exact absurd ⟨.inr (.inl rfl), rfl⟩ hop
      · next h => cases h; exact absurd ⟨.inr (.inr rfl), rfl⟩ hop
      · next h => exact absurd (List.cons.inj h).1 hopen
      · rfl

theorem caret_steady (m : Modes) (s : List Char) : Steady never (caret m) s := by
  refine Steady.branch (c := '^') (by decide)
    (fun r => (Steady.skip (Steady.read true) m r)) (Steady.read false) (fun _ => rfl) ?_ s
  intro s hs
  rw [caret]
  exact hs

theorem leadingHyphens_other {fuel : Nat} {s : List Char} (hs : ∀ r, s ≠ '-' :: r) :
    leadingHyphens m fuel s = ([], s) := by
  rw [leadingHyphens]
  intro _ r _ h
  exact hs r h

theorem leadingHyphens_suffix (fuel : Nat) (s : List Char) : (leadingHyphens m fuel s).2 <:+ s := by
  induction fuel generalizing s with
  | zero => exact List.suffix_refl s
  | succ fuel ih =>
    obtain ⟨r, rfl⟩ | hs := starts_or_not '-' s
    · exact (ih _).trans ((skipSpaced_suffix m r).1.trans (List.suffix_cons '-' r))
    · have hnone : leadingHyphens m (fuel + 1) s = ([], s) := leadingHyphens_other hs
      simp [hnone]

theorem leadingHyphens_succ {fuel : Nat} {s : List Char} (h : s.length ≤ fuel) :
    leadingHyphens m (fuel + 1) s = leadingHyphens m fuel s := by
  induction fuel generalizing s with
  | zero =>
    obtain rfl := List.length_eq_zero_iff.mp (Nat.le_zero.mp h)
    rfl
  | succ fuel ih =>
    obtain ⟨r, rfl⟩ | hs := starts_or_not '-' s
    · have hle := (skipSpaced_suffix m r).1.length_le
      rw [leadingHyphens, leadingHyphens, ih (hle.trans (Nat.le_of_succ_le_succ h))]
    · rw [leadingHyphens_other hs, leadingHyphens_other hs]

theorem leadingHyphens_enough {fuel : Nat} {s : List Char} (h : s.length ≤ fuel) :
    leadingHyphens m fuel s = leadingHyphens m s.length s := by
  induction fuel, h using Nat.le_induction with
  | base => rfl
  | succ fuel hle ih => rw [leadingHyphens_succ hle, ih]

theorem hyphens_cons (r : List Char) : hyphens m ('-' :: r) =
    (hyphens m (skipSpaced m r)).map fun y => ('-' :: y.1, y.2) := by
  have hle := (skipSpaced_suffix m r).1.length_le
  rw [hyphens, hyphens, List.length_cons, leadingHyphens, leadingHyphens_enough hle]
  rfl

theorem hyphens_other {s : List Char} (hs : ∀ r, s ≠ '-' :: r) : hyphens m s = some ([], s) := by
  rw [hyphens, leadingHyphens_other hs]

theorem hyphens_suffix (s : List Char) : ∀ hs r, hyphens m s = some (hs, r) → r <:+ s := by
  intro hs r h
  have hsuffix := leadingHyphens_suffix (m := m) s.length s
  rw [hyphens, Option.some.injEq] at h
  rwa [h] at hsuffix

theorem hyphens_outcome (m : Modes) (n : Nat) (s : List Char) (hn : s.length ≤ n) :
    Outcome never (hyphens m) s := by
  -- on the length, since the space between the hyphens goes with them
  induction n generalizing s with
  | zero =>
    obtain rfl := List.length_eq_zero_iff.mp (Nat.le_zero.mp hn)
    refine (Steady.read [] []).outcome.of_eq rfl fun t ht => ?_
    exact hyphens_other (ht.ne_cons (by decide) (by simp))
  | succ n ih =>
    obtain ⟨r, rfl⟩ | hs := starts_or_not '-' s
    · have hle := (skipSpaced_suffix m r).1.length_le
      have hnext := ih (skipSpaced m r) (hle.trans (Nat.le_of_succ_le_succ hn))
      rcases skipSpaced_closing m r with hlonger | ⟨hv, hshort, hline⟩
      · have hmap : Steady never (fun s => (hyphens m s).map fun y => ('-' :: y.1, y.2))
            (skipSpaced m r) :=
          (Steady.mk (hyphens_suffix _) hnext).map ('-' :: ·) nofun
        refine hmap.outcome.of_eq (hyphens_cons r) ?_
        intro t ht
        rw [List.cons_append, hyphens_cons, hlonger t ht]
      · refine .swallowed (x := ['-']) ?_ ?_ ?_
        · rw [hyphens_cons, hv]
          rfl
        · intro t ht hs v h
          rw [List.cons_append, hyphens_cons, Option.map_eq_some_iff] at h
          obtain ⟨⟨hs', v'⟩, hv', heq⟩ := h
          cases heq
          exact (hyphens_suffix _ hs' _ hv').length_le.trans_lt (hshort t ht)
        · intro t ht hno
          rw [List.cons_append, hyphens_cons, hline t ht hno]
          rfl
    · exact (Steady.read [] s).outcome.of_eq (hyphens_other hs) fun t ht =>
        hyphens_other (ht.ne_cons (by decide) hs)

theorem hyphens_steady (m : Modes) (s : List Char) : Steady never (hyphens m) s :=
  ⟨hyphens_suffix s, hyphens_outcome m s.length s (Nat.le_refl _)⟩

theorem firstMember_steady (hs : List Char) (s : List Char) : Steady never (firstMember hs) s := by
  cases hs with
  | nil =>
    refine Steady.branch (c := ']') (by decide) (Steady.read (Class.char ']'))
      (Steady.read Class.none) (fun _ => rfl) ?_ s
    intro s hs
    rw [firstMember]
    exact hs
  | cons c hs => exact (Steady.read (Class.char '-') s).congr fun _ => rfl

theorem readMember_steady (m : Modes) {fuel : Nat}
    (hbrackets : ∀ s, Steady never (readBrackets m fuel) s) (c : Char) (s : List Char) :
    Steady (stuckHyphen m) (readMember m fuel c) s := by
  by_cases hop : (c = '&' ∨ c = '-' ∨ c = '~') ∧ s.head? = some c
  · obtain ⟨hc, hs⟩ := hop
    obtain ⟨r, rfl⟩ := List.head?_eq_some_iff.mp hs
    exact (Steady.read (Member.operator c) r).cons fun s => if_pos ⟨hc, rfl⟩
  -- nor does it become an operator by what closes the group
  have hop' : ∀ t, Closing t → ¬((c = '&' ∨ c = '-' ∨ c = '~') ∧ (s ++ t).head? = some c) := by
    rintro t ⟨u, rfl⟩ ⟨hc, ht⟩
    cases s with
    | nil =>
      obtain rfl := Option.some.inj ht
      exact absurd hc (by decide)
    | cons d s => exact hop ⟨hc, ht⟩
  by_cases hopen : c = '['
  · subst hopen
    cases hset : readAsciiClass ('[' :: s) with
    | some y =>
      refine (Steady.give ((finished? m y.1.1 y.1.2).map fun a => Member.set a 0) y.2).of_eq ?_ ?_
        (readAsciiClass_suffix hset)
      · rw [readMember, if_neg hop, if_pos rfl, hset, Option.map_map]
        rfl
      · intro t ht
        rw [readMember, if_neg (hop' t ht), if_pos rfl, ← List.cons_append,
          readAsciiClass_append s ht, hset, Option.map_some, Option.map_map]
        rfl
    | none =>
      refine ((hbrackets s).map (fun y => Member.set y.1 (y.2 + 1)) nofun).of_eq ?_ ?_
        (List.suffix_refl s)
      · rw [readMember, if_neg hop, if_pos rfl, hset]
      · intro t ht
        rw [readMember, if_neg (hop' t ht), if_pos rfl, ← List.cons_append,
          readAsciiClass_append s ht, hset, Option.map_none]
  · refine ((readClassRange_steady m c s).map (fun a => Member.set a 0) fun _ _ h => h).of_eq ?_ ?_
      (List.suffix_refl s)
    · rw [readMember, if_neg hop, if_neg hopen]
    · intro t ht
      rw [readMember, if_neg (hop' t ht), if_neg hopen]

theorem readClassBody_stuck (fuel : Nat) (op : Option (Char × Class)) (acc : Class) (depth : Nat)
    {w : List Char} (hw : w = [] ∨ ∃ r, w = '-' :: r ∧ skipSpaced m r = []) :
    readClassBody m fuel op acc depth w = none := by
  cases fuel with
  | zero => rfl
  | succ fuel =>
    rw [readClassBody_succ]
    rcases hw with rfl | ⟨r, rfl, hr⟩
    · rfl
    have hhyphen : ∀ r, skipSpaced m ('-' :: r) = '-' :: r := fun r =>
      skipSpaced_cons (fun _ => ⟨by decide, by decide⟩) r
    have hhead : ¬(('-' = '&' ∨ '-' = '-' ∨ '-' = '~') ∧ r.head? = some '-') := by
      rintro ⟨-, hhead⟩
      obtain ⟨r, rfl⟩ := List.head?_eq_some_iff.mp hhead
      rw [hhyphen] at hr
      cases hr
    have hrange : readClassRange m ('-' :: r) = none := by
      rw [readClassRange_eq]
      change afterItem m (.literal '-') (skipSpaced m r) = none
      rw [hr, afterItem]
    rw [hhyphen, classBody, if_neg (by decide), readMember, if_neg hhead, if_neg (by decide), hrange]
    rfl

theorem readBrackets_steady (m : Modes) (fuel : Nat) :
    (∀ s, Steady never (readBrackets m fuel) s) ∧
      ∀ op acc depth s, Steady never (readClassBody m fuel op acc depth) s := by
  induction fuel with
  | zero => exact ⟨fun s => .of_none rfl fun _ _ => rfl, fun _ _ _ s => .of_none rfl fun _ _ => rfl⟩
  | succ fuel ih =>
    constructor
    · intro s
      have hbody : ∀ negated start s, Steady never (fun s =>
          (readClassBody m fuel none start 1 s).bind fun y =>
            (finishedSet? m negated y.1).map fun a => (a, y.2)) s :=
        fun negated start s => (ih.2 none start 1 s).filterMap (finishedSet? m negated)
      have hstart : ∀ negated s, Steady never (fun s => (hyphens m s).bind fun y =>
          (firstMember y.1 y.2).bind fun z => (readClassBody m fuel none z.1 1 z.2).bind fun y =>
            (finishedSet? m negated y.1).map fun a => (a, y.2)) s :=
        fun negated s => (hyphens_steady m s).bind
          (fun hs s => (firstMember_steady hs s).bind (hbody negated) nofun) nofun
      refine Steady.congr ?_ (readBrackets_succ fuel)
      exact (Steady.skip (caret_steady m) m s).bind hstart nofun
    · intro op acc depth s
      have hmember : ∀ c s, Steady never (fun r =>
          (readMember m fuel c r).bind fun y => classFrom m fuel op acc depth y.1 y.2) s := by
        intro c s
        refine (readMember_steady m ih.1 c s).bind (Q := classFrom m fuel op acc depth) ?_ ?_
        · rintro (o | ⟨c, d⟩) r
          · exact ih.2 ..
          · exact ih.2 ..
        · rintro (o | ⟨c, d⟩) w hw
          · exact readClassBody_stuck fuel _ _ _ hw
          · exact readClassBody_stuck fuel _ _ _ hw
      refine Steady.congr ?_ (readClassBody_succ fuel op acc depth)
      refine Steady.skip (fun v => ?_) m s
      cases v with
      | nil =>
        exact .at_end rfl fun u => (hmember ')' u).suffix
      | cons c v =>
        by_cases hclose : c = ']'
        · subst hclose
          exact (Steady.read (combine m op acc, depth) v).cons fun _ => rfl
        · refine (hmember c v).cons fun s => ?_
          rw [classBody, if_neg hclose]

end

section

variable {sc : Scope}

/-- What stands between the parentheses: mode letters alone, or an expression to be read. -/
inductive Opening where
  | setting (m : Modes)
  | body (inner : Scope)

def namedOpening (sc : Scope) : Reader Opening := fun r =>
  (readName r).bind fun y =>
    (if sc.names.contains y.1 then none
      else some (Opening.body { sc with names := y.1 :: sc.names })).map fun o => (o, y.2)

def endModes (sc : Scope) (y : Modes × List Char) : Reader Opening
  | ':' :: r => some (.body { sc with modes := y.1 }, r)
  | ')' :: r => (if y.2.isEmpty then none else some (Opening.setting y.1)).map fun o => (o, r)
  | _ => none

def markedOpening (sc : Scope) : Reader Opening := fun s =>
  match s with
  | 'P' :: '<' :: r => namedOpening sc r
  | '<' :: r => if r.head? = some '=' ∨ r.head? = some '!' then none else namedOpening sc r
  | r => (readModes [] true sc.modes r).bind fun y => endModes sc y.1 y.2

def readOpening (sc : Scope) : Reader Opening
  | '?' :: r => markedOpening sc r
  | r => some (.body sc, r)

def closeGroup (sc : Scope) (y : Part × Scope) : Reader (Item × Scope)
  | ')' :: r =>
    (if y.1.group.acceptable then some (Item.part y.1.group, { y.2 with modes := sc.modes })
      else none).map fun x => (x, r)
  | _ => none

def groupFrom (fuel : Nat) (sc : Scope) : Opening → Reader (Item × Scope)
  | .setting m => fun r => some ((.setting, { sc with modes := m }), r)
  | .body inner => fun r => (readExpr fuel inner [] [] r).bind fun y => closeGroup sc y.1 y.2

def groupBody (fuel : Nat) (sc inner : Scope) : Reader (Item × Scope) := fun r =>
  (readExpr fuel inner [] [] r).bind fun y => match y.2 with
    | ')' :: r =>
      if y.1.1.group.acceptable then
        some ((.part y.1.1.group, { y.1.2 with modes := sc.modes }), r)
      else none
    | _ => none

theorem groupFrom_body (fuel : Nat) (sc inner : Scope) (r : List Char) :
    groupFrom fuel sc (.body inner) r = groupBody fuel sc inner r := by
  change (readExpr fuel inner [] [] r).bind (fun y => closeGroup sc y.1 y.2) = _
  congr 1
  funext y
  unfold closeGroup
  split
  · split <;> rfl
  · rfl

theorem namedOpening_bind (fuel : Nat) (sc : Scope) (r : List Char) :
    ((namedOpening sc r).bind fun y => groupFrom fuel sc y.1 y.2) = (readName r).bind fun y =>
      if sc.names.contains y.1 then none
      else groupBody fuel sc { sc with names := y.1 :: sc.names } y.2 := by
  rw [namedOpening, Option.bind_assoc]
  congr 1
  funext y
  split
  · rfl
  · exact groupFrom_body ..

theorem endModes_bind (fuel : Nat) (sc : Scope) (y : Modes × List Char) (s : List Char) :
    ((endModes sc y s).bind fun y => groupFrom fuel sc y.1 y.2) = match s with
      | ':' :: r => groupBody fuel sc { sc with modes := y.1 } r
      | ')' :: r => if y.2.isEmpty then none else some ((.setting, { sc with modes := y.1 }), r)
      | _ => none := by
  unfold endModes
  split
  · exact groupFrom_body ..
  · split <;> rfl
  · rfl

theorem markedOpening_modes {r : List Char} (hname : ∀ s, r ≠ 'P' :: '<' :: s)
    (hangle : ∀ s, r ≠ '<' :: s) : markedOpening sc r =
      (readModes [] true sc.modes r).bind fun y => endModes sc y.1 y.2 := by
  rw [markedOpening]
  · exact hname
  · exact hangle

theorem markedOpening_angle {r : List Char} (hequal : ∀ s, r ≠ '=' :: s) (hbang : ∀ s, r ≠ '!' :: s) :
    markedOpening sc ('<' :: r) = namedOpening sc r := by
  rw [markedOpening, if_neg]
  rintro (h | h)
  · obtain ⟨s, rfl⟩ := List.head?_eq_some_iff.mp h
    exact hequal s rfl
  · obtain ⟨s, rfl⟩ := List.head?_eq_some_iff.mp h
    exact hbang s rfl

theorem readOpening_plain {s : List Char} (hs : ∀ r, s ≠ '?' :: r) :
    readOpening sc s = some (.body sc, s) := by
  rw [readOpening]
  exact hs

theorem readGroup_succ (fuel : Nat) (sc : Scope) (s : List Char) : readGroup (fuel + 1) sc s =
    (readOpening sc s).bind fun y => groupFrom fuel sc y.1 y.2 := by
  rw [readGroup.eq_def]
  simp only [bind, Option.bind_none]
  split
  · exact (namedOpening_bind fuel sc _).symm
  · rfl
  · rfl
  · next hequal hbang =>
    rw [readOpening, markedOpening_angle hequal hbang]
    exact (namedOpening_bind fuel sc _).symm
  · next hname _ _ hangle =>
    rw [readOpening, markedOpening_modes hname hangle, Option.bind_assoc]
    exact congrArg _ (funext fun y => (endModes_bind fuel sc y.1 y.2).symm)
  · next hs =>
    rw [readOpening_plain hs]
    exact (groupFrom_body fuel sc sc s).symm

theorem namedOpening_steady (sc : Scope) (s : List Char) : Steady never (namedOpening sc) s :=
  (readName_steady s).filterMap fun name => if sc.names.contains name then none
    else some (Opening.body { sc with names := name :: sc.names })

theorem endModes_steady (sc : Scope) (y : Modes × List Char) (s : List Char) :
    Steady never (endModes sc y) s := by
  cases s with
  | nil =>
    exact .at_close rfl fun _ => rfl
  | cons c r =>
    by_cases hcolon : c = ':'
    · subst hcolon
      exact (Steady.read (Opening.body { sc with modes := y.1 }) r).cons fun _ => rfl
    by_cases hclose : c = ')'
    · subst hclose
      exact (Steady.give (if y.2.isEmpty then none else some (Opening.setting y.1)) r).cons
        fun _ => rfl
    · have hnone : ∀ s, endModes sc y (c :: s) = none := by
        intro s
        rw [endModes]
        · rintro r h
          exact hcolon (List.cons.inj h).1
        · rintro r h
          exact hclose (List.cons.inj h).1
      exact (Steady.give none r).cons hnone

theorem markedOpening_steady (sc : Scope) (s : List Char) : Steady never (markedOpening sc) s := by
  by_cases hname : ∃ r, s = 'P' :: '<' :: r
  · obtain ⟨r, rfl⟩ := hname
    exact (namedOpening_steady sc r).of_eq rfl (fun _ _ => rfl)
      ((List.suffix_cons '<' r).trans (List.suffix_cons 'P' _))
  obtain ⟨r, rfl⟩ | hangle := starts_or_not '<' s
  · by_cases hlook : r.head? = some '=' ∨ r.head? = some '!'
    · have hnone : ∀ t, markedOpening sc ('<' :: r ++ t) = none := by
        intro t
        rw [List.cons_append, markedOpening, if_pos]
        cases r with
        | nil => simp at hlook
        | cons c r => exact hlook
      exact .of_none (by simpa using hnone []) fun t _ => hnone t
    · rw [not_or] at hlook
      have hequal : ∀ s, r ≠ '=' :: s := fun s h => hlook.1 (by rw [h]; rfl)
      have hbang : ∀ s, r ≠ '!' :: s := fun s h => hlook.2 (by rw [h]; rfl)
      exact (namedOpening_steady sc r).of_eq (markedOpening_angle hequal hbang)
        (fun t ht => markedOpening_angle (ht.ne_cons (by decide) hequal)
          (ht.ne_cons (by decide) hbang)) (List.suffix_cons '<' r)
  · have hname : ∀ r, s ≠ 'P' :: '<' :: r := fun r h => hname ⟨r, h⟩
    -- what closes the group does not make a name of a `P` at the end
    have hname' : ∀ t, Closing t → ∀ r, s ++ t ≠ 'P' :: '<' :: r := by
      intro t ht r h
      cases s with
      | nil => exact ht.ne_cons (c := 'P') (by decide) (s := []) nofun _ h
      | cons c s =>
        obtain rfl := (List.cons.inj h).1
        exact ht.ne_cons (by decide) (fun r h => hname r (by rw [h])) r (List.cons.inj h).2
    refine Steady.of_eq (P := fun r => (readModes [] true sc.modes r).bind fun y =>
      endModes sc y.1 y.2) ?_ (markedOpening_modes hname hangle)
      (fun t ht => markedOpening_modes (hname' t ht) (ht.ne_cons (by decide) hangle))
      (List.suffix_refl s)
    refine (readModes_steady [] true sc.modes s).bind (endModes_steady sc) ?_
    rintro y w rfl
    rfl

theorem readOpening_steady (sc : Scope) (s : List Char) : Steady never (readOpening sc) s :=
  Steady.branch (c := '?') (by decide) (markedOpening_steady sc) (Steady.read (Opening.body sc))
    (fun _ => rfl) (fun _ => readOpening_plain) s

theorem closeGroup_steady (sc : Scope) (y : Part × Scope) (s : List Char) :
    Steady never (closeGroup sc y) s := by
  cases s with
  | nil =>
    exact .at_close rfl fun _ => rfl
  | cons c r =>
    by_cases hclose : c = ')'
    · subst hclose
      exact (Steady.give _ r).cons fun _ => rfl
    · have hnone : ∀ s, closeGroup sc y (c :: s) = none := by
        intro s
        rw [closeGroup]
        rintro r h
        exact hclose (List.cons.inj h).1
      exact (Steady.give none r).cons hnone

end

section

inductive Token where
  | branch
  | again (lo : Nat) (hi : Option Nat)
  | item (i : Item) (sc : Scope)

def escapePart (m : Modes) : Escape → Part
  | .literal c => literalPart m c
  | .set c => charsPart c 0
  | .anchor a => anchorPart m a

def plainPart? (m : Modes) (c : Char) : Option Part :=
  match c with
  | '.' => (dot m).map fun a => charsPart a 0
  | '^' => some (anchorPart m (if m.multiLine then if m.crlf then .crlfStart else .lineStart
      else .textStart))
  | '$' => some (anchorPart m (if m.multiLine then if m.crlf then .crlfEnd else .lineEnd
      else .textEnd))
  | c => some (literalPart m c)

def readToken (fuel : Nat) (sc : Scope) (c : Char) : Reader Token := fun r =>
  match c with
  | '|' => some (.branch, r)
  | '(' => (readGroup fuel sc (skipSpaced sc.modes r)).map fun y => (.item y.1.1 y.1.2, y.2)
  | '[' => (readBrackets sc.modes fuel r).map fun y => (.item (.part (charsPart y.1.1 y.1.2)) sc, y.2)
  | '*' => some (.again 0 none, skipReluctant r)
  | '+' => some (.again 1 none, skipReluctant r)
  | '?' => some (.again 0 (some 1), skipReluctant r)
  | '\x7b' => (readCounts sc.modes r).map fun y => (.again y.1.1 y.1.2, y.2)
  | '\\' => (readEscape sc.modes r).map fun y => (.item (.part (escapePart sc.modes y.1)) sc, y.2)
  | c => (plainPart? sc.modes c).map fun p => (.item (.part p) sc, r)

def expressionFrom (fuel : Nat) (sc : Scope) (alts : List Part) (items : List Item) :
    Token → Reader (Part × Scope)
  | .branch => readExpr fuel sc (close items :: alts) []
  | .again lo hi => fun r => (repeatLast items lo hi).bind fun items => readExpr fuel sc alts items r
  | .item i sc => readExpr fuel sc alts (i :: items)

def expression (fuel : Nat) (sc : Scope) (alts : List Part) (items : List Item) :
    Reader (Part × Scope)
  | [] => some ((.alternatives (alts.reverse ++ [close items]), sc), [])
  | c :: r =>
    if c = ')' then some ((.alternatives (alts.reverse ++ [close items]), sc), c :: r)
    else (readToken fuel sc c r).bind fun y => expressionFrom fuel sc alts items y.1 y.2

theorem readExpr_succ (fuel : Nat) (sc : Scope) (alts : List Part) (items : List Item)
    (s : List Char) : readExpr (fuel + 1) sc alts items s =
      expression fuel sc alts items (skipSpaced sc.modes s) := by
  rw [readExpr]
  simp only [bind, Option.bind_none]
  generalize skipSpaced sc.modes s = v
  split
  case h_1 | h_2 | h_3 | h_6 | h_7 | h_8 | h_11 | h_12 => rfl
  case h_4 | h_5 | h_13 =>
    rw [expression, if_neg (by decide)]
    simp only [readToken, Option.bind_map]
    rfl
  case h_9 r =>
    have hagain : expression fuel sc alts items ('\x7b' :: r) =
        (readCounts sc.modes r).bind fun y =>
          (repeatLast items y.1.1 y.1.2).bind fun items => readExpr fuel sc alts items y.2 := by
      rw [expression, if_neg (by decide)]
      simp only [readToken, Option.bind_map]
      rfl
    rw [hagain]
    cases items with
    | nil => cases readCounts sc.modes r <;> rfl
    | cons i items => rfl
  case h_10 => cases hdot : dot sc.modes <;> simp [expression, readToken, plainPart?, expressionFrom, hdot]
  case h_14 hclose _ _ _ _ _ _ _ _ _ _ _ =>
    rw [expression, if_neg hclose]
    simp only [readToken, plainPart?]
    rfl

/-- A brace alone is no count. -/
def stuckBrace {α : Type} (_ : α) (w : List Char) : Prop :=
  w = ['\x7b']

theorem readToken_steady {fuel : Nat} {sc : Scope}
    (hgroup : ∀ s, Steady never (readGroup fuel sc) s) (c : Char) (s : List Char) :
    Steady stuckBrace (readToken fuel sc c) s := by
  unfold readToken
  split
  · exact Steady.read _ s
  · exact (Steady.skip hgroup sc.modes s).map (fun y => Token.item y.1 y.2) nofun
  · exact ((readBrackets_steady sc.modes fuel).1 s).map
      (fun y => Token.item (.part (charsPart y.1 y.2)) sc) nofun
  · exact (skipReluctant_steady _ s).mono nofun
  · exact (skipReluctant_steady _ s).mono nofun
  · exact (skipReluctant_steady _ s).mono nofun
  · exact (readCounts_steady sc.modes s).map (fun y => Token.again y.1 y.2) nofun
  · refine (readEscape_steady sc.modes s).map
      (fun e => Token.item (.part (escapePart sc.modes e)) sc) ?_
    rintro e w ⟨-, hw⟩
    exact hw
  · exact (Steady.give ((plainPart? sc.modes c).map fun p => Token.item (.part p) sc) s).congr
      fun s => by rw [Option.map_map]; rfl

theorem readExpr_brace (fuel : Nat) (sc : Scope) (alts : List Part) (items : List Item) :
    readExpr fuel sc alts items ['\x7b'] = none := by
  cases fuel with
  | zero => rfl
  | succ fuel =>
    rw [readExpr_succ, skipSpaced_cons (fun _ => ⟨by decide, by decide⟩), expression,
      if_neg (by decide)]
    rfl

theorem readExpr_steady (fuel : Nat) :
    (∀ sc s, Steady never (readGroup fuel sc) s) ∧
      ∀ sc alts items s, Steady never (readExpr fuel sc alts items) s := by
  induction fuel with
  | zero =>
    exact ⟨fun _ s => .of_none rfl fun _ _ => rfl, fun _ _ _ s => .of_none rfl fun _ _ => rfl⟩
  | succ fuel ih =>
    constructor
    · intro sc s
      refine Steady.congr ?_ (readGroup_succ fuel sc)
      refine (readOpening_steady sc s).bind (Q := groupFrom fuel sc) ?_ nofun
      rintro (m | inner) r
      · exact Steady.read _ r
      · exact (ih.2 inner [] [] r).bind (closeGroup_steady sc) nofun
    · intro sc alts items s
      refine Steady.congr ?_ (readExpr_succ fuel sc alts items)
      refine Steady.skip (fun v => ?_) sc.modes s
      cases v with
      | nil =>
        refine (Steady.read (Part.alternatives (alts.reverse ++ [close items]), sc) []).of_eq rfl ?_
          (List.suffix_refl _)
        rintro t ⟨u, rfl⟩
        rfl
      | cons c v =>
        by_cases hclose : c = ')'
        · subst hclose
          exact (Steady.read (Part.alternatives (alts.reverse ++ [close items]), sc) (')' :: v)).of_eq
            rfl (fun _ _ => rfl) (List.suffix_refl _)
        · refine ((readToken_steady (ih.1 sc) c v).bind
            (Q := expressionFrom fuel sc alts items) ?_ ?_).cons fun s => ?_
          · rintro (_ | ⟨lo, hi⟩ | ⟨i, sc⟩) r
            · exact ih.2 ..
            · change Steady never (fun r => (repeatLast items lo hi).bind fun items =>
                readExpr fuel sc alts items r) r
              cases repeatLast items lo hi with
              | none => exact Steady.give none r
              | some items => exact ih.2 sc alts items r
            · exact ih.2 ..
          · rintro (_ | ⟨lo, hi⟩ | ⟨i, sc⟩) w rfl
            · exact readExpr_brace ..
            · change ((repeatLast items lo hi).bind fun items => readExpr fuel sc alts items _) = none
              cases repeatLast items lo hi with
              | none => rfl
              | some items => exact readExpr_brace ..
            · exact readExpr_brace ..
          · rw [expression, if_neg hclose]

end

/-! Each call but that of a group takes a character, so a bound of twice the length is enough. -/

section

theorem readBrackets_enough (m : Modes) (fuel : Nat) :
    (∀ s, 2 * s.length + 2 ≤ fuel → readBrackets m (fuel + 1) s = readBrackets m fuel s) ∧
      ∀ op acc depth s, 2 * s.length + 1 ≤ fuel →
        readClassBody m (fuel + 1) op acc depth s = readClassBody m fuel op acc depth s := by
  induction fuel with
  | zero => exact ⟨fun s h => by omega, fun _ _ _ s h => by omega⟩
  | succ fuel ih =>
    constructor
    · intro s hs
      rw [readBrackets_succ, readBrackets_succ]
      refine Option.bind_congr fun x hx => Option.bind_congr fun y hy =>
        Option.bind_congr fun z hz => ?_
      have hlength : z.2.length ≤ s.length :=
        (((firstMember_steady y.1 y.2).suffix z.1 z.2 hz).trans
          (((hyphens_steady m x.2).suffix y.1 y.2 hy).trans
            (((Steady.skip (caret_steady m) m s).suffix x.1 x.2 hx)))).length_le
      rw [ih.2 none z.1 1 z.2 (by omega)]
    · intro op acc depth s hs
      rw [readClassBody_succ, readClassBody_succ]
      have hle := (skipSpaced_suffix m s).1.length_le
      cases hv : skipSpaced m s with
      | nil => rfl
      | cons c r =>
        rw [hv, List.length_cons] at hle
        rw [classBody, classBody]
        split
        · rfl
        have hmember : readMember m (fuel + 1) c r = readMember m fuel c r := by
          rw [readMember, readMember, ih.1 r (by omega)]
        rw [hmember]
        refine Option.bind_congr fun y hy => ?_
        have hlength : y.2.length ≤ r.length :=
          ((readMember_steady m (readBrackets_steady m fuel).1 c r).suffix y.1 y.2 hy).length_le
        obtain ⟨o | ⟨c, d⟩, r'⟩ := y
        · exact ih.2 _ _ _ r' (by simp only at hlength; omega)
        · exact ih.2 _ _ _ r' (by simp only at hlength; omega)

theorem readExpr_enough (fuel : Nat) :
    (∀ sc s, 2 * s.length + 2 ≤ fuel → readGroup (fuel + 1) sc s = readGroup fuel sc s) ∧
      ∀ sc alts items s, 2 * s.length + 1 ≤ fuel →
        readExpr (fuel + 1) sc alts items s = readExpr fuel sc alts items s := by
  induction fuel with
  | zero => exact ⟨fun _ s h => by omega, fun _ _ _ s h => by omega⟩
  | succ fuel ih =>
    constructor
    · intro sc s hs
      rw [readGroup_succ, readGroup_succ]
      refine Option.bind_congr fun y hy => ?_
      have hlength : y.2.length ≤ s.length :=
        ((readOpening_steady sc s).suffix y.1 y.2 hy).length_le
      obtain ⟨m | inner, r⟩ := y
      · rfl
      · have hbody := ih.2 inner [] [] r (by simp only at hlength; omega)
        simp only [groupFrom, hbody]
    · intro sc alts items s hs
      rw [readExpr_succ, readExpr_succ]
      have hle := (skipSpaced_suffix sc.modes s).1.length_le
      cases hv : skipSpaced sc.modes s with
      | nil => rfl
      | cons c r =>
        rw [hv, List.length_cons] at hle
        rw [expression, expression]
        split
        · rfl
        have htoken : readToken (fuel + 1) sc c r = readToken fuel sc c r := by
          have hspace := (skipSpaced_suffix sc.modes r).1.length_le
          unfold readToken
          rw [ih.1 sc (skipSpaced sc.modes r) (by omega),
            (readBrackets_enough sc.modes fuel).1 r (by omega)]
        rw [htoken]
        refine Option.bind_congr fun y hy => ?_
        have hlength : y.2.length ≤ r.length :=
          ((readToken_steady ((readExpr_steady fuel).1 sc) c r).suffix y.1 y.2 hy).length_le
        obtain ⟨_ | ⟨lo, hi⟩ | ⟨i, sc⟩, r'⟩ := y
        · exact ih.2 _ _ _ r' (by simp only at hlength; omega)
        · exact Option.bind_congr fun items _ => ih.2 sc alts items r' (by simp only at hlength; omega)
        · exact ih.2 _ _ _ r' (by simp only at hlength; omega)

theorem readExpr_fuel {fuel : Nat} {s : List Char} (h : 2 * s.length + 1 ≤ fuel) (sc : Scope) :
    readExpr fuel sc [] [] s = readExpr (2 * s.length + 1) sc [] [] s := by
  induction fuel, h using Nat.le_induction with
  | base => rfl
  | succ fuel hle ih => rw [(readExpr_enough fuel).2 sc [] [] s hle, ih]

end

end ScreenScript.Pattern.Parser
