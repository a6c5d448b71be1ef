import ScreenScript.Pattern.Cache
import Mathlib.Data.Finset.Card
import Mathlib.Data.List.Nodup
import Mathlib.Tactic.Common

namespace ScreenScript.Pattern

inductive Request where
  | fetch (pattern : String)
  | test (pattern text : String)

def Request.pattern : Request → String
  | fetch p => p
  | test p _ => p

def Valid (pattern : String) : Prop :=
  (compile? pattern).isSome

instance (pattern : String) : Decidable (Valid pattern) :=
  inferInstanceAs (Decidable (_ = true))

def verdict (pattern text : String) : Bool :=
  (compile? pattern).any (·.occursIn text.toList)

/-- The patterns of a history, the most recent first, after one more look-up. -/
def touch (p : String) (ps : List String) : List String :=
  p :: ps.filter (· ≠ p)

def noted (ps : List String) (r : Request) : List String :=
  if Valid r.pattern then touch r.pattern ps else ps

def recency (rs : List Request) : List String :=
  rs.foldl noted []

def lookedUp (rs : List Request) : Finset String :=
  ((rs.map (·.pattern)).filter (Valid ·)).toFinset

theorem touch_nodup {p : String} {ps : List String} (h : ps.Nodup) : (touch p ps).Nodup := by
  rw [touch, List.nodup_cons]
  exact ⟨by simp, h.filter _⟩

theorem noted_nodup {ps : List String} (h : ps.Nodup) (r : Request) : (noted ps r).Nodup := by
  rw [noted]
  split_ifs
  · exact touch_nodup h
  · exact h

theorem foldl_noted_nodup (rs : List Request) {ps : List String} (h : ps.Nodup) :
    (rs.foldl noted ps).Nodup := by
  induction rs generalizing ps with
  | nil => exact h
  | cons r rs ih => exact ih (noted_nodup h r)

theorem take_touch {p : String} {ps : List String} (h : ps.Nodup) (n : Nat) :
    (touch p (ps.take n)).take n = (touch p ps).take n := by
  cases n with
  | zero => rfl
  | succ n =>
    simp only [touch, List.take_succ_cons, List.cons.injEq, true_and]
    induction ps generalizing n with
    | nil => rfl
    | cons q ps ih =>
      rw [List.nodup_cons] at h
      by_cases hq : q = p
      · subst hq
        have hkeep : ∀ l : List String, l ⊆ ps → l.filter (· ≠ q) = l := by
          intro l hl
          apply List.filter_eq_self.mpr
          intro x hx
          have hne : x ≠ q := fun heq => h.1 (heq ▸ hl hx)
          simpa using hne
        rw [List.take_succ_cons, List.filter_cons_of_neg (by simp),
          List.filter_cons_of_neg (by simp), hkeep _ (List.take_subset n ps),
          hkeep _ (List.Subset.refl ps), List.take_take, Nat.min_self]
      · rw [List.take_succ_cons, List.filter_cons_of_pos (by simpa using hq),
          List.filter_cons_of_pos (by simpa using hq)]
        cases n with
        | zero => rfl
        | succ n => rw [List.take_succ_cons, List.take_succ_cons, ih h.2]

theorem lookedUp_cons (r : Request) (rs : List Request) :
    lookedUp (r :: rs) = if Valid r.pattern then insert r.pattern (lookedUp rs) else lookedUp rs := by
  simp only [lookedUp, List.map_cons, List.filter_cons, decide_eq_true_eq]
  split_ifs
  · rw [List.toFinset_cons]
  · rfl

theorem foldl_noted_split {p : String} {rs : List Request} (hrs : ∀ r ∈ rs, r.pattern ≠ p)
    {front : List String} (hnodup : front.Nodup) (hp : p ∉ front) (back : List String) :
    ∃ front' back', rs.foldl noted (front ++ p :: back) = front' ++ p :: back' ∧ front'.Nodup ∧
      p ∉ front' ∧ front'.toFinset = front.toFinset ∪ lookedUp rs := by
  induction rs generalizing front back with
  | nil => exact ⟨front, back, rfl, hnodup, hp, by simp [lookedUp]⟩
  | cons r rs ih =>
    obtain ⟨hr, hrs⟩ := List.forall_mem_cons.mp hrs
    by_cases hvalid : Valid r.pattern
    · have htouch : noted (front ++ p :: back) r =
          touch r.pattern front ++ p :: back.filter (· ≠ r.pattern) := by
        have hne : p ≠ r.pattern := fun h => hr h.symm
        rw [noted, if_pos hvalid, touch, touch, List.filter_append,
          List.filter_cons_of_pos (by simpa using hne), List.cons_append]
      have hp' : p ∉ touch r.pattern front := by
        rw [touch, List.mem_cons, not_or]
        exact ⟨fun h => hr h.symm, fun h => hp (List.mem_of_mem_filter h)⟩
      obtain ⟨front', back', hfold, hnodup', hnot, hset⟩ :=
        ih hrs (touch_nodup hnodup) hp' (back.filter (· ≠ r.pattern))
      refine ⟨front', back', ?_, hnodup', hnot, ?_⟩
      · rw [List.foldl_cons, htouch, hfold]
      · rw [hset, lookedUp_cons, if_pos hvalid]
        ext x
        simp only [touch, Finset.mem_union, List.mem_toFinset, List.mem_cons, List.mem_filter,
          decide_eq_true_eq, Finset.mem_insert]
        by_cases hx : x = r.pattern
        · simp [hx]
        · simp [hx]
    · obtain ⟨front', back', hfold, hrest⟩ := ih hrs hnodup hp back
      refine ⟨front', back', ?_, ?_⟩
      · rw [List.foldl_cons, noted, if_neg hvalid, hfold]
      · rwa [lookedUp_cons, if_neg hvalid]

theorem mem_take_iff {p : String} {front back : List String} (hp : p ∉ front) (n : Nat) :
    p ∈ (front ++ p :: back).take n ↔ front.length < n := by
  rw [List.take_append, List.mem_append]
  constructor
  · rintro (h | h)
    · exact absurd (List.mem_of_mem_take h) hp
    · by_contra hle
      rw [Nat.sub_eq_zero_of_le (Nat.le_of_not_lt hle)] at h
      cases h
  · intro h
    obtain ⟨k, hk⟩ : ∃ k, n - front.length = k + 1 := ⟨n - front.length - 1, by omega⟩
    right
    rw [hk, List.take_succ_cons]
    exact List.mem_cons_self ..

namespace Cache

def patterns (c : Cache) : List String :=
  c.entries.map (·.pattern)

def serve (c : Cache) : Request → Cache
  | .fetch p => (c.lookup p).2
  | .test p text => (c.matchesAll p text).2

def after (c : Cache) (rs : List Request) : Cache :=
  rs.foldl serve c

structure Kept (c : Cache) : Prop where
  nodup : c.patterns.Nodup
  length_le : c.entries.length ≤ c.capacity
  compiled : ∀ m ∈ c.entries, compile? m.pattern = some m.expr
  older : ∀ m ∈ c.entries, m.stamp < c.fresh

theorem kept_ofCapacity (n : Nat) : (ofCapacity n).Kept :=
  ⟨List.nodup_nil, Nat.zero_le _, by simp [ofCapacity], by simp [ofCapacity]⟩

section

variable {c : Cache} {p : String}

theorem find_some {m : Matcher} (h : c.entries.find? (·.pattern = p) = some m) :
    m ∈ c.entries ∧ m.pattern = p :=
  ⟨List.mem_of_find?_eq_some h, by simpa using List.find?_some h⟩

theorem find_none (h : c.entries.find? (·.pattern = p) = none) : p ∉ c.patterns := by
  rw [patterns, List.mem_map]
  rintro ⟨m, hm, rfl⟩
  simpa using List.find?_eq_none.mp h m hm

theorem lookup_cases (c : Cache) (p : String) :
    (∃ m, m ∈ c.entries ∧ m.pattern = p ∧ c.lookup p = (some m,
      { c with entries := m :: c.entries.filter (·.pattern ≠ p) })) ∨
    (∃ e, p ∉ c.patterns ∧ compile? p = some e ∧ c.lookup p = (some ⟨p, e, c.fresh⟩,
      { c with entries := (⟨p, e, c.fresh⟩ :: c.entries).take c.capacity, fresh := c.fresh + 1 })) ∨
    p ∉ c.patterns ∧ compile? p = none ∧ c.lookup p = (none, c) := by
  rw [lookup]
  cases hfind : c.entries.find? (·.pattern = p) with
  | some m => exact .inl ⟨m, (find_some hfind).1, (find_some hfind).2, rfl⟩
  | none =>
    have hp := find_none hfind
    cases he : compile? p with
    | some e => exact .inr (.inl ⟨e, hp, rfl, rfl⟩)
    | none => exact .inr (.inr ⟨hp, rfl, rfl⟩)

theorem capacity_lookup (c : Cache) (p : String) : (c.lookup p).2.capacity = c.capacity := by
  obtain ⟨m, -, -, h⟩ | ⟨e, -, -, h⟩ | ⟨-, -, h⟩ := c.lookup_cases p
  all_goals rw [h]

theorem fresh_lookup (c : Cache) (p : String) : c.fresh ≤ (c.lookup p).2.fresh := by
  obtain ⟨m, -, -, h⟩ | ⟨e, -, -, h⟩ | ⟨-, -, h⟩ := c.lookup_cases p
  · rw [h]
  · rw [h]
    exact Nat.le_succ _
  · rw [h]

theorem patterns_filter (c : Cache) (p : String) :
    (c.entries.filter (·.pattern ≠ p)).map (·.pattern) = c.patterns.filter (· ≠ p) := by
  rw [patterns, List.filter_map]
  rfl

theorem lookup_result (hc : c.Kept) (p : String) :
    (c.lookup p).1.map (fun m => (m.pattern, m.expr)) = (compile? p).map fun e => (p, e) := by
  obtain ⟨m, hm, rfl, h⟩ | ⟨e, -, he, h⟩ | ⟨-, he, h⟩ := c.lookup_cases p
  · rw [h, hc.compiled m hm]
    rfl
  · rw [h, he]
    rfl
  · rw [h, he]
    rfl

theorem matchesAll_eq (hc : c.Kept) (p text : String) :
    c.matchesAll p text = (verdict p text, (c.lookup p).2) := by
  have hresult := lookup_result hc p
  rw [matchesAll, verdict]
  cases hlookup : c.lookup p with
  | mk m c' =>
    rw [hlookup] at hresult
    cases m with
    | none =>
      have hnone : compile? p = none := by simpa using hresult.symm
      rw [hnone]
      rfl
    | some m =>
      obtain ⟨e, he, heq⟩ := Option.map_eq_some_iff.mp hresult.symm
      have hexpr : e = m.expr := (Prod.mk.inj heq).2
      rw [he, hexpr]
      rfl

theorem serve_eq (hc : c.Kept) (r : Request) : c.serve r = (c.lookup r.pattern).2 := by
  cases r with
  | fetch p => rfl
  | test p text => exact congrArg Prod.snd (matchesAll_eq hc p text)

theorem lookup_patterns (hc : c.Kept) (hp : Valid p) :
    (c.lookup p).2.patterns = (touch p c.patterns).take c.capacity := by
  obtain ⟨m, hm, rfl, h⟩ | ⟨e, hfresh, -, h⟩ | ⟨-, he, -⟩ := c.lookup_cases p
  · rw [h]
    have hpatterns : ({ c with entries := m :: c.entries.filter (·.pattern ≠ m.pattern) } :
        Cache).patterns = touch m.pattern c.patterns := by
      rw [touch, ← patterns_filter]
      rfl
    have hlength : (touch m.pattern c.patterns).length ≤ c.capacity := by
      refine le_trans ?_ hc.length_le
      have hsub : touch m.pattern c.patterns ⊆ c.patterns := by
        rw [touch, List.cons_subset]
        exact ⟨List.mem_map.mpr ⟨m, hm, rfl⟩, List.filter_subset_self _⟩
      have hle := ((touch_nodup hc.nodup).subperm hsub).length_le
      rwa [patterns, List.length_map] at hle
    rw [hpatterns, List.take_of_length_le hlength]
  · have hself : c.patterns.filter (· ≠ p) = c.patterns := by
      apply List.filter_eq_self.mpr
      intro q hq
      have hne : q ≠ p := fun heq => hfresh (heq ▸ hq)
      simpa using hne
    rw [h, touch, hself, patterns, List.map_take]
    rfl
  · rw [Valid, he] at hp
    cases hp

theorem lookup_invalid (hp : ¬ Valid p) (hc : c.Kept) : c.lookup p = (none, c) := by
  obtain ⟨m, hm, rfl, -⟩ | ⟨e, -, he, -⟩ | ⟨-, -, h⟩ := c.lookup_cases p
  · exact absurd (by rw [Valid, hc.compiled m hm]; rfl) hp
  · exact absurd (by rw [Valid, he]; rfl) hp
  · exact h

theorem Kept.lookup (hc : c.Kept) (p : String) : (c.lookup p).2.Kept := by
  by_cases hp : Valid p
  · have hpatterns := lookup_patterns hc hp
    have hnodup : (c.lookup p).2.patterns.Nodup := by
      rw [hpatterns]
      exact (touch_nodup hc.nodup).sublist (List.take_sublist ..)
    have hlength : (c.lookup p).2.entries.length ≤ (c.lookup p).2.capacity := by
      have h := congrArg List.length hpatterns
      rw [patterns, List.length_map, List.length_take] at h
      rw [capacity_lookup, h]
      exact Nat.min_le_left ..
    obtain ⟨m, hm, -, h⟩ | ⟨e, -, he, h⟩ | ⟨-, -, h⟩ := c.lookup_cases p
    · refine ⟨hnodup, hlength, ?_, ?_⟩
      · rw [h]
        exact List.forall_mem_cons.mpr
          ⟨hc.compiled m hm, fun x hx => hc.compiled x (List.mem_of_mem_filter hx)⟩
      · rw [h]
        exact List.forall_mem_cons.mpr
          ⟨hc.older m hm, fun x hx => hc.older x (List.mem_of_mem_filter hx)⟩
    · refine ⟨hnodup, hlength, ?_, ?_⟩
      · rw [h]
        intro x hx
        rcases List.mem_cons.mp (List.mem_of_mem_take hx) with rfl | hx
        · exact he
        · exact hc.compiled x hx
      · rw [h]
        intro x hx
        rcases List.mem_cons.mp (List.mem_of_mem_take hx) with rfl | hx
        · exact Nat.lt_succ_self _
        · exact (hc.older x hx).trans (Nat.lt_succ_self _)
    · rwa [h]
  · rwa [lookup_invalid hp hc]

theorem after_cons (hc : c.Kept) (r : Request) (rs : List Request) :
    c.after (r :: rs) = (c.lookup r.pattern).2.after rs := by
  rw [← serve_eq hc]
  rfl

theorem Kept.after (hc : c.Kept) (rs : List Request) : (c.after rs).Kept := by
  induction rs generalizing c with
  | nil => exact hc
  | cons r rs ih =>
    rw [after_cons hc]
    exact ih (hc.lookup _)

theorem after_append (c : Cache) (rs rs' : List Request) :
    c.after (rs ++ rs') = (c.after rs).after rs' :=
  List.foldl_append

theorem capacity_after (hc : c.Kept) (rs : List Request) : (c.after rs).capacity = c.capacity := by
  induction rs generalizing c with
  | nil => rfl
  | cons r rs ih => rw [after_cons hc, ih (hc.lookup _), capacity_lookup]

theorem fresh_after (hc : c.Kept) (rs : List Request) : c.fresh ≤ (c.after rs).fresh := by
  induction rs generalizing c with
  | nil => exact Nat.le_refl _
  | cons r rs ih =>
    rw [after_cons hc]
    exact (fresh_lookup c r.pattern).trans (ih (hc.lookup _))

theorem patterns_after (hc : c.Kept) (rs : List Request) {ps : List String} (hps : ps.Nodup)
    (h : c.patterns = ps.take c.capacity) :
    (c.after rs).patterns = (rs.foldl noted ps).take c.capacity := by
  induction rs generalizing c ps with
  | nil => exact h
  | cons r rs ih =>
    have hnoted : (c.lookup r.pattern).2.patterns =
        (noted ps r).take (c.lookup r.pattern).2.capacity := by
      rw [capacity_lookup, noted]
      split_ifs with hvalid
      · rw [lookup_patterns hc hvalid, h, take_touch hps]
      · rw [lookup_invalid hvalid hc, h]
    rw [after_cons hc, ih (hc.lookup _) (noted_nodup hps r) hnoted, capacity_lookup, List.foldl_cons]

theorem mem_after {rs : List Request} (hc : c.Kept) (hrs : ∀ r ∈ rs, r.pattern ≠ p) {m : Matcher}
    (hm : m ∈ (c.after rs).entries) (hp : m.pattern = p) : m ∈ c.entries := by
  induction rs generalizing c with
  | nil => exact hm
  | cons r rs ih =>
    obtain ⟨hr, hrs⟩ := List.forall_mem_cons.mp hrs
    rw [after_cons hc] at hm
    have hlookup := ih (hc.lookup _) hrs hm
    obtain ⟨x, hx, -, h⟩ | ⟨e, -, -, h⟩ | ⟨-, -, h⟩ := c.lookup_cases r.pattern
    · rw [h] at hlookup
      rcases List.mem_cons.mp hlookup with rfl | hm'
      · exact hx
      · exact List.mem_of_mem_filter hm'
    · rw [h] at hlookup
      rcases List.mem_cons.mp (List.mem_of_mem_take hlookup) with rfl | hm'
      · exact absurd hp hr
      · exact hm'
    · rwa [h] at hlookup

theorem eq_of_pattern (hc : c.Kept) {m m' : Matcher} (hm : m ∈ c.entries) (hm' : m' ∈ c.entries)
    (h : m.pattern = m'.pattern) : m = m' :=
  List.inj_on_of_nodup_map hc.nodup hm hm' h

theorem lookup_mem (hroom : 0 < c.capacity) {m : Matcher} (h : (c.lookup p).1 = some m) :
    m ∈ (c.lookup p).2.entries ∧ m.pattern = p := by
  obtain ⟨x, hx, hp, heq⟩ | ⟨e, -, -, heq⟩ | ⟨-, -, heq⟩ := c.lookup_cases p
  · rw [heq] at h ⊢
    cases h
    exact ⟨List.mem_cons_self .., hp⟩
  · rw [heq] at h ⊢
    cases h
    obtain ⟨k, hk⟩ : ∃ k, c.capacity = k + 1 := ⟨c.capacity - 1, by omega⟩
    rw [hk, List.take_succ_cons]
    exact ⟨List.mem_cons_self .., rfl⟩
  · rw [heq] at h
    cases h

theorem lookup_same {m m' : Matcher} (hm : m.stamp < c.fresh)
    (hkept : ∀ x ∈ c.entries, x.pattern = p → x = m) (h : (c.lookup p).1 = some m') :
    m'.stamp = m.stamp ↔ p ∈ c.patterns := by
  obtain ⟨x, hx, hp, heq⟩ | ⟨e, hp, -, heq⟩ | ⟨-, -, heq⟩ := c.lookup_cases p
  · rw [heq] at h
    cases h
    rw [hkept m' hx hp]
    exact ⟨fun _ => List.mem_map.mpr ⟨m', hx, hp⟩, fun _ => rfl⟩
  · rw [heq] at h
    cases h
    exact ⟨fun hstamp => absurd hstamp.symm hm.ne, fun hmem => absurd hmem hp⟩
  · rw [heq] at h
    cases h

end

theorem lookup_again {c : Cache} (hc : c.Kept) (hroom : 0 < c.capacity) {rs : List Request}
    {ps : List String} {p : String} (hnodup : ps.Nodup) (hps : c.patterns = ps.take c.capacity)
    (hp : Valid p) (hrs : ∀ r ∈ rs, r.pattern ≠ p) :
    ∃ m m', (c.lookup p).1 = some m ∧ (((c.lookup p).2.after rs).lookup p).1 = some m' ∧
      (m'.stamp = m.stamp ↔ (lookedUp rs).card < c.capacity) := by
  have hfound : ∀ {d : Cache}, d.Kept → ∃ m, (d.lookup p).1 = some m := by
    intro d hd
    obtain ⟨e, he⟩ := Option.isSome_iff_exists.mp hp
    have hresult := lookup_result hd p
    rw [he, Option.map_some] at hresult
    obtain ⟨m, hm, -⟩ := Option.map_eq_some_iff.mp hresult
    exact ⟨m, hm⟩
  have hd := hc.lookup p
  obtain ⟨m, hm⟩ := hfound hc
  obtain ⟨m', hm'⟩ := hfound (hd.after rs)
  obtain ⟨hmem, hpattern⟩ := lookup_mem hroom hm
  refine ⟨m, m', hm, hm', ?_⟩
  have hstamp : m.stamp < ((c.lookup p).2.after rs).fresh :=
    (hd.older m hmem).trans_le (fresh_after hd rs)
  have hkept : ∀ x ∈ ((c.lookup p).2.after rs).entries, x.pattern = p → x = m := by
    intro x hx hxp
    exact eq_of_pattern hd (mem_after hd hrs hx hxp) hmem (hxp.trans hpattern.symm)
  rw [lookup_same hstamp hkept hm']
  -- the pattern is first now, and what comes in between is put in front of it
  have hfirst : (c.lookup p).2.patterns = (touch p ps).take (c.lookup p).2.capacity := by
    rw [lookup_patterns hc hp, capacity_lookup, hps, take_touch hnodup]
  obtain ⟨front, back, hfold, hfront, hnot, hset⟩ :=
    foldl_noted_split hrs List.nodup_nil (List.not_mem_nil) (ps.filter (· ≠ p))
  have hpatterns : ((c.lookup p).2.after rs).patterns = (front ++ p :: back).take c.capacity := by
    rw [patterns_after hd rs (touch_nodup hnodup) hfirst, capacity_lookup, ← hfold]
    rfl
  rw [hpatterns, mem_take_iff hnot, ← List.toFinset_card_of_nodup hfront, hset, List.toFinset_nil,
    Finset.empty_union]

/-- After any requests a store answers as one that compiles each pattern anew. It keeps no more
patterns than it has room for, none twice, and valid ones only; and a look-up gives the object of the
last look-up of the same pattern if and only if it has room for more than the valid patterns that
came in between. -/
theorem transparent_and_least_recently_used (n : Nat) (rs : List Request) :
    let c := (ofCapacity n).after rs
    (∀ p, (c.lookup p).1.map (fun m => (anchored m.pattern, m.expr)) =
        (compile? p).map fun e => (anchored p, e)) ∧
      (∀ p text, (c.matchesAll p text).1 = verdict p text) ∧
      c.entries.length ≤ max 1 n ∧ c.patterns.Nodup ∧ (∀ p ∈ c.patterns, Valid p) ∧
      ∀ before r between p, rs = before ++ r :: between → r.pattern = p → Valid p →
        (∀ q ∈ between, q.pattern ≠ p) →
        ∃ m m', (((ofCapacity n).after before).lookup p).1 = some m ∧ (c.lookup p).1 = some m' ∧
          (m'.stamp = m.stamp ↔ (lookedUp between).card < max 1 n) := by
  intro c
  have hfresh := kept_ofCapacity n
  have hc : c.Kept := hfresh.after rs
  have hcapacity : ∀ rs, ((ofCapacity n).after rs).capacity = max 1 n := capacity_after hfresh
  refine ⟨?_, ?_, ?_, hc.nodup, ?_, ?_⟩
  · intro p
    have hresult := congrArg (Option.map fun x => (anchored x.1, x.2)) (lookup_result hc p)
    simpa only [Option.map_map, Function.comp_def] using hresult
  · intro p text
    rw [matchesAll_eq hc]
  · rw [← hcapacity rs]
    exact hc.length_le
  · intro p hp
    obtain ⟨m, hm, rfl⟩ := List.mem_map.mp hp
    rw [Valid, hc.compiled m hm]
    rfl
  · rintro before r between p hrs rfl hvalid hbetween
    have hbefore := hfresh.after before
    have hpatterns : ((ofCapacity n).after before).patterns =
        (recency before).take ((ofCapacity n).after before).capacity := by
      rw [hcapacity, patterns_after hfresh before List.nodup_nil (List.take_nil).symm]
      rfl
    have hlast : c = (((ofCapacity n).after before).lookup r.pattern).2.after between := by
      show (ofCapacity n).after rs = _
      rw [hrs, after_append, after_cons hbefore]
    have hagain := lookup_again hbefore (by rw [hcapacity]; omega)
      (foldl_noted_nodup before List.nodup_nil) hpatterns hvalid hbetween
    rwa [hcapacity, ← hlast] at hagain

/-- One other pattern and an invalid one came in between: room for two is enough, room for one is
not. -/
theorem matcher_found_again :
    let between := [Request.test "b|c" "c", .fetch "("]
    ∀ n ∈ [0, 1, 2], ∃ m m', ((ofCapacity n).lookup "a").1 = some m ∧
      (((ofCapacity n).after (.fetch "a" :: between)).lookup "a").1 = some m' ∧
        (m'.stamp = m.stamp ↔ n = 2) := by
  intro between n hn
  obtain ⟨-, -, -, -, -, hagain⟩ :=
    transparent_and_least_recently_used n (.fetch "a" :: between)
  obtain ⟨m, m', hm, hm', hsame⟩ := hagain [] (.fetch "a") between "a" rfl rfl
    (by decide +kernel) (by decide)
  have hothers : (lookedUp between).card = 1 := by decide +kernel
  refine ⟨m, m', hm, hm', hsame.trans ?_⟩
  rw [hothers]
  simp only [List.mem_cons, List.not_mem_nil, or_false] at hn
  omega

end Cache

end ScreenScript.Pattern
