import ScreenScript.Json.Value
import Mathlib.Data.List.Perm.Basic
import Mathlib.Data.List.Nodup
import Mathlib.Tactic.Common

/-!
Sorting the members of an object moves them only, where no key is repeated. Of members with the same
key the last one stays.
-/

namespace ScreenScript.Json

open List

variable {α β : Type}

theorem putMember_perm {key : String} {v : α} {ms : List (String × α)}
    (h : key ∉ ms.map (·.1)) : putMember key v ms ~ (key, v) :: ms := by
  induction ms with
  | nil => rfl
  | cons m ms ih =>
    obtain ⟨k, w⟩ := m
    simp only [map_cons, mem_cons, not_or] at h
    rw [putMember]
    split_ifs with hlt heq
    · rfl
    · exact absurd heq h.1
    · exact ((ih h.2).cons (k, w)).trans (Perm.swap ..)

theorem mem_putMember {key : String} {v : α} {ms : List (String × α)}
    {m : String × α} (h : m ∈ putMember key v ms) : m = (key, v) ∨ m ∈ ms := by
  induction ms with
  | nil => exact .inl (mem_singleton.mp h)
  | cons n ms ih =>
    obtain ⟨k, w⟩ := n
    rw [putMember] at h
    split_ifs at h
    · exact mem_cons.mp h
    · exact (mem_cons.mp h).imp_right (mem_cons_of_mem _)
    · rcases mem_cons.mp h with rfl | h
      · exact .inr (mem_cons_self ..)
      · exact (ih h).imp_right (mem_cons_of_mem _)

theorem mem_of_getMember {key : String} {v : α} {ms : List (String × α)}
    (h : getMember key ms = some v) : ∃ k, (k, v) ∈ ms := by
  induction ms with
  | nil => cases h
  | cons m ms ih =>
    obtain ⟨k, w⟩ := m
    rw [getMember] at h
    split_ifs at h
    · cases h
      exact ⟨k, mem_cons_self ..⟩
    · obtain ⟨k', hk⟩ := ih h
      exact ⟨k', mem_cons_of_mem _ hk⟩

theorem mem_sortMembers {ms : List (String × α)} {m : String × α}
    (h : m ∈ sortMembers ms) : m ∈ ms := by
  suffices ∀ acc : List (String × α),
      m ∈ ms.foldl (fun acc m => putMember m.1 m.2 acc) acc → m ∈ acc ∨ m ∈ ms from
    (this [] h).resolve_left not_mem_nil
  clear h
  induction ms with
  | nil => exact fun acc h => .inl h
  | cons n ms ih =>
    intro acc h
    rw [foldl_cons] at h
    rcases ih _ h with h | h
    · rcases mem_putMember h with rfl | h
      · exact .inr (mem_cons_self ..)
      · exact .inl h
    · exact .inr (mem_cons_of_mem _ h)

theorem putMembers_perm (ms : List (String × α)) :
    ∀ acc : List (String × α), ((acc ++ ms).map (·.1)).Nodup →
      ms.foldl (fun acc m => putMember m.1 m.2 acc) acc ~ acc ++ ms := by
  induction ms with
  | nil =>
    intro acc _
    rw [append_nil, foldl_nil]
  | cons m ms ih =>
    intro acc hnodup
    have hmoved : acc ++ m :: ms ~ m :: acc ++ ms := perm_middle
    have hkeys : ((m :: acc ++ ms).map (·.1)).Nodup := (hmoved.map (·.1)).nodup_iff.mp hnodup
    have hfresh : m.1 ∉ acc.map (·.1) := by
      intro hmem
      rw [cons_append, map_cons, nodup_cons, map_append] at hkeys
      exact hkeys.1 (mem_append_left _ hmem)
    have hput : putMember m.1 m.2 acc ~ m :: acc := putMember_perm hfresh
    rw [foldl_cons]
    calc ms.foldl (fun acc m => putMember m.1 m.2 acc) (putMember m.1 m.2 acc)
        ~ putMember m.1 m.2 acc ++ ms :=
          ih _ (((hput.append_right ms).map (·.1)).nodup_iff.mpr hkeys)
      _ ~ m :: acc ++ ms := hput.append_right ms
      _ ~ acc ++ m :: ms := hmoved.symm

theorem sortMembers_perm {ms : List (String × α)} (h : (ms.map (·.1)).Nodup) :
    sortMembers ms ~ ms :=
  putMembers_perm ms [] h

theorem putMember_last {key : String} {v : α} {ms : List (String × α)}
    (h : ∀ m ∈ ms, m.1 < key) : putMember key v ms = ms ++ [(key, v)] := by
  induction ms with
  | nil => rfl
  | cons m ms ih =>
    obtain ⟨k, w⟩ := m
    obtain ⟨hk, hms⟩ := forall_mem_cons.mp h
    have hne : key ≠ k := by
      rintro rfl
      exact String.lt_irrefl key hk
    rw [putMember, if_neg (String.lt_asymm hk), if_neg hne, ih hms, cons_append]

theorem sortMembers_ascending {ms : List (String × α)}
    (h : (ms.map (·.1)).Pairwise (· < ·)) : sortMembers ms = ms := by
  suffices ∀ acc : List (String × α), ((acc ++ ms).map (·.1)).Pairwise (· < ·) →
      ms.foldl (fun acc m => putMember m.1 m.2 acc) acc = acc ++ ms from this [] h
  clear h
  induction ms with
  | nil =>
    intro acc _
    rw [append_nil, foldl_nil]
  | cons m ms ih =>
    intro acc h
    have hlast : ∀ n ∈ acc, n.1 < m.1 := by
      intro n hn
      rw [map_append, pairwise_append] at h
      exact h.2.2 n.1 (mem_map_of_mem hn) m.1 (mem_cons_self ..)
    have hmoved : acc ++ m :: ms = acc ++ [m] ++ ms := by rw [append_assoc, singleton_append]
    rw [hmoved] at h ⊢
    rw [foldl_cons, putMember_last hlast]
    exact ih _ h

theorem map_some_keys (ms : List (String × α)) :
    ms.map (fun m => some m.1) = (ms.map (·.1)).map some := by
  rw [map_map]
  rfl

def lastMember {κ : Type} [DecidableEq κ] (key : κ) (ms : List (κ × α)) : Option α :=
  (ms.reverse.find? (·.1 = key)).map (·.2)

theorem lastMember_cons {κ : Type} [DecidableEq κ] (key : κ) (m : κ × α) (ms : List (κ × α)) :
    lastMember key (m :: ms) = (lastMember key ms).or (if m.1 = key then some m.2 else none) := by
  rw [lastMember, lastMember, reverse_cons, find?_append, find?_singleton, Option.map_or]
  by_cases h : m.1 = key <;> simp [h]

theorem lastMember_eq_none {κ : Type} [DecidableEq κ] {key : κ} {ms : List (κ × α)} :
    lastMember key ms = none ↔ key ∉ ms.map (·.1) := by
  rw [lastMember, Option.map_eq_none_iff, find?_eq_none, mem_map, not_exists]
  simp only [mem_reverse, decide_eq_true_eq, not_and]

theorem mem_of_lastMember {κ : Type} [DecidableEq κ] {key : κ} {ms : List (κ × α)} {v : α}
    (h : lastMember key ms = some v) : (key, v) ∈ ms := by
  obtain ⟨m, hm, rfl⟩ := Option.map_eq_some_iff.mp h
  have hkey : m.1 = key := by simpa using find?_some hm
  exact mem_reverse.mp (hkey ▸ mem_of_find?_eq_some hm)

theorem getMember_putMember (key k : String) (v : α) (ms : List (String × α)) :
    getMember k (putMember key v ms) = if key = k then some v else getMember k ms := by
  induction ms with
  | nil => rfl
  | cons m ms ih =>
    obtain ⟨k', w⟩ := m
    rw [putMember]
    by_cases hlt : key < k'
    · rw [if_pos hlt, getMember]
    · rw [if_neg hlt]
      by_cases heq : key = k'
      · subst heq
        rw [if_pos rfl, getMember, getMember]
        split_ifs <;> rfl
      · rw [if_neg heq, getMember, getMember, ih]
        by_cases hk : k' = k
        · have hne : key ≠ k := hk ▸ heq
          rw [if_pos hk, if_neg hne, if_pos hk]
        · rw [if_neg hk, if_neg hk]

theorem getMember_sortMembers (key : String) (ms : List (String × α)) :
    getMember key (sortMembers ms) = lastMember key ms := by
  suffices ∀ acc : List (String × α),
      getMember key (ms.foldl (fun acc m => putMember m.1 m.2 acc) acc) =
        (lastMember key ms).or (getMember key acc) from (this []).trans (Option.or_none ..)
  induction ms with
  | nil => exact fun acc => rfl
  | cons m ms ih =>
    intro acc
    rw [foldl_cons, ih, getMember_putMember, lastMember_cons, Option.or_assoc]
    congr 1
    split_ifs <;> rfl

theorem putMember_pairwise {key : String} {v : α} {ms : List (String × α)}
    (h : (ms.map (·.1)).Pairwise (· < ·)) :
    ((putMember key v ms).map (·.1)).Pairwise (· < ·) := by
  induction ms with
  | nil => exact pairwise_singleton ..
  | cons m ms ih =>
    obtain ⟨k, w⟩ := m
    obtain ⟨hk, hms⟩ := pairwise_cons.mp h
    rw [putMember]
    split_ifs with hlt heq
    · refine pairwise_cons.mpr ⟨?_, h⟩
      intro k' hk'
      rcases mem_cons.mp hk' with rfl | hk'
      · exact hlt
      · exact String.lt_trans hlt (hk k' hk')
    · exact pairwise_cons.mpr ⟨heq ▸ hk, hms⟩
    · have hgt : k < key := Std.lt_of_le_of_ne (String.not_lt.mp hlt) (Ne.symm heq)
      refine pairwise_cons.mpr ⟨?_, ih hms⟩
      intro k' hk'
      obtain ⟨n, hn, rfl⟩ := mem_map.mp hk'
      rcases mem_putMember hn with rfl | hn
      · exact hgt
      · exact hk _ (mem_map_of_mem hn)

theorem sortMembers_pairwise (ms : List (String × α)) :
    ((sortMembers ms).map (·.1)).Pairwise (· < ·) := by
  suffices ∀ acc : List (String × α), (acc.map (·.1)).Pairwise (· < ·) →
      ((ms.foldl (fun acc m => putMember m.1 m.2 acc) acc).map (·.1)).Pairwise (· < ·) from
    this [] Pairwise.nil
  induction ms with
  | nil => exact fun acc h => h
  | cons m ms ih => exact fun acc h => ih _ (putMember_pairwise h)

theorem getMember_eq_none {key : String} {ms : List (String × α)} :
    getMember key ms = none ↔ key ∉ ms.map (·.1) := by
  induction ms with
  | nil => simp [getMember]
  | cons m ms ih =>
    rw [getMember, map_cons, mem_cons, not_or, ← ih]
    by_cases h : m.1 = key
    · simp [h]
    · simp [h, Ne.symm h]

theorem mem_keys_sortMembers {key : String} {ms : List (String × α)} :
    key ∈ (sortMembers ms).map (·.1) ↔ key ∈ ms.map (·.1) := by
  rw [← not_iff_not, ← getMember_eq_none, getMember_sortMembers, lastMember_eq_none]

theorem getMember_of_mem {key : String} {v : α} {ms : List (String × α)}
    (hkeys : (ms.map (·.1)).Pairwise (· < ·)) (h : (key, v) ∈ ms) :
    getMember key ms = some v := by
  induction ms with
  | nil => cases h
  | cons m ms ih =>
    obtain ⟨hfirst, hms⟩ := pairwise_cons.mp hkeys
    rw [getMember]
    rcases mem_cons.mp h with rfl | h
    · exact if_pos rfl
    · have hlt : m.1 < key := hfirst key (mem_map_of_mem h)
      rw [if_neg (Std.ne_of_lt hlt), ih hms h]

theorem find_perm {κ : Type} [DecidableEq κ] {es fs : List (κ × β)} (h : es ~ fs)
    (hkeys : (es.map (·.1)).Nodup) (k : κ) :
    es.find? (fun e => e.1 = k) = fs.find? (fun e => e.1 = k) := by
  induction h with
  | nil => rfl
  | cons e _ ih =>
    rw [map_cons, nodup_cons] at hkeys
    rw [find?_cons, find?_cons, ih hkeys.2]
  | swap e f es =>
    have hne : e.1 ≠ f.1 := by
      intro heq
      simp [heq] at hkeys
    by_cases he : e.1 = k
    · have hf : f.1 ≠ k := fun hf => hne (he.trans hf.symm)
      simp [he, hf]
    · simp [find?_cons, he]
  | trans hab _ ihab ihbc =>
    rw [ihab hkeys, ihbc ((hab.map (·.1)).nodup_iff.mp hkeys)]

namespace Value

variable {depth : Nat}

theorem ofMembers_cons {k : Option String} {w : Written} {ms : List (Option String × Written)}
    {vs : List (String × Value)} (h : ofMembers? depth ((k, w) :: ms) = some vs) :
    ∃ key v vs', k = some key ∧ ofWritten? depth w = some v ∧ ofMembers? depth ms = some vs' ∧
      vs = (key, v) :: vs' := by
  simp only [ofMembers?, Option.bind_eq_bind, Option.bind_eq_some_iff, Option.pure_def,
    Option.some.injEq] at h
  obtain ⟨key, hkey, v, hv, vs', hvs, rfl⟩ := h
  exact ⟨key, v, vs', hkey, hv, hvs, rfl⟩

theorem ofItems_cons {w : Written} {ws : List Written} {vs : List Value}
    (h : ofItems? depth (w :: ws) = some vs) :
    ∃ v vs', ofWritten? depth w = some v ∧ ofItems? depth ws = some vs' ∧ vs = v :: vs' := by
  simp only [ofItems?, Option.bind_eq_bind, Option.bind_eq_some_iff, Option.pure_def,
    Option.some.injEq] at h
  obtain ⟨v, hv, vs', hvs, rfl⟩ := h
  exact ⟨v, vs', hv, hvs, rfl⟩

theorem ofWritten_array {ws : List Written} {v : Value}
    (h : ofWritten? depth (.array ws) = some v) :
    ∃ vs, 0 < depth ∧ ofItems? (depth - 1) ws = some vs ∧ v = .array vs := by
  rw [ofWritten?] at h
  split_ifs at h with hdepth
  obtain ⟨vs, hvs, rfl⟩ := Option.map_eq_some_iff.mp h
  exact ⟨vs, Nat.pos_of_ne_zero hdepth, hvs, rfl⟩

theorem ofWritten_object {ms : List (Option String × Written)} {v : Value}
    (h : ofWritten? depth (.object ms) = some v) :
    ∃ vs, 0 < depth ∧ ofMembers? (depth - 1) ms = some vs ∧ v = .object (sortMembers vs) := by
  rw [ofWritten?] at h
  split_ifs at h with hdepth
  obtain ⟨vs, hvs, rfl⟩ := Option.map_eq_some_iff.mp h
  exact ⟨vs, Nat.pos_of_ne_zero hdepth, hvs, rfl⟩

theorem ofMembers_keys {ms : List (Option String × Written)} {vs : List (String × Value)}
    (h : ofMembers? depth ms = some vs) : ms.map (·.1) = vs.map fun m => some m.1 := by
  induction ms generalizing vs with
  | nil =>
    cases h
    rfl
  | cons m ms ih =>
    obtain ⟨key, v, vs', hkey, -, hvs, rfl⟩ := ofMembers_cons h
    rw [map_cons, map_cons, hkey, ih hvs]

theorem ofMembers_nodup {ms : List (Option String × Written)} {vs : List (String × Value)}
    (h : ofMembers? depth ms = some vs) (hkeys : (ms.map (·.1)).Nodup) :
    (vs.map (·.1)).Nodup := by
  rw [ofMembers_keys h, map_some_keys] at hkeys
  exact hkeys.of_map

end Value

end ScreenScript.Json
