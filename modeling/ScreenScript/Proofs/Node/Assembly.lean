import ScreenScript.Node.Descriptor
import ScreenScript.Proofs.Json.Members

/-!
A description does not depend on the order of its members, so it can be put together from the
members of a text as they are written or as an object sorts them.
-/

namespace ScreenScript.Node

open List Json

namespace Bounds

theorem edgeOf_perm {es fs : List (Edge × Option (Option Binary64))} (h : es ~ fs)
    (hkeys : (es.map (·.1)).Nodup) (e : Edge) : edgeOf es e = edgeOf fs e := by
  rw [edgeOf, edgeOf, find_perm h hkeys e]

theorem ofEdges_perm {es fs : List (Edge × Option (Option Binary64))} (h : es ~ fs) :
    ofEdges es = ofEdges fs := by
  have hnodup : (es.map (·.1)).Nodup ↔ (fs.map (·.1)).Nodup := (h.map (·.1)).nodup_iff
  by_cases hkeys : (es.map (·.1)).Nodup
  · rw [ofEdges, ofEdges, if_pos hkeys, if_pos (hnodup.mp hkeys)]
    simp only [edgeOf_perm h hkeys]
  · rw [ofEdges, ofEdges, if_neg hkeys, if_neg fun hfs => hkeys (hnodup.mpr hfs)]

end Bounds

namespace Info

theorem part_perm {α : Type} {rs ts : List (Slot × Reading)} (h : rs ~ ts)
    (hkeys : (rs.map (·.1)).Nodup) (s : Slot) (read : Reading → Option α) (default : α) :
    part rs s read default = part ts s read default := by
  rw [part, part, find_perm h hkeys s]

theorem ofReadings_perm {rs ts : List (Slot × Reading)} (h : rs ~ ts) :
    ofReadings rs = ofReadings ts := by
  have hnodup : (rs.map (·.1)).Nodup ↔ (ts.map (·.1)).Nodup := (h.map (·.1)).nodup_iff
  by_cases hkeys : (rs.map (·.1)).Nodup
  · rw [ofReadings, ofReadings, if_pos hkeys, if_pos (hnodup.mp hkeys)]
    simp only [textPart, flagPart, numberPart, part_perm h hkeys]
  · rw [ofReadings, ofReadings, if_neg hkeys, if_neg fun hts => hkeys (hnodup.mpr hts)]

end Info

/-- Two readings that a part cannot tell apart. -/
def Slot.Agree : Slot → Reading → Reading → Prop
  | .field _, r, t => r.text = t.text
  | .bounds, r, t => r.bounds = t.bounds
  | .flag _, r, t => r.flag = t.flag
  | .children, r, t => r.children = t.children
  | _, r, t => r.number = t.number

theorem Slot.Agree.refl (s : Slot) (r : Reading) : s.Agree r r := by
  cases s <;> rfl

/-- Members that give the same parts, with readings those parts cannot tell apart. -/
def Alike : List (Slot × Reading) → List (Slot × Reading) → Prop :=
  Forall₂ fun m n => m.1 = n.1 ∧ m.1.Agree m.2 n.2

namespace Alike

variable {rs ts : List (Slot × Reading)}

theorem refl (rs : List (Slot × Reading)) : Alike rs rs :=
  forall₂_same.mpr fun m _ => ⟨rfl, Slot.Agree.refl m.1 m.2⟩

theorem slots_eq (h : Alike rs ts) : rs.map (·.1) = ts.map (·.1) := by
  induction h with
  | nil => rfl
  | cons hm _ ih => rw [map_cons, map_cons, hm.1, ih]

theorem part_eq {α : Type} (h : Alike rs ts) (s : Slot) (read : Reading → Option α)
    (hread : ∀ r t, s.Agree r t → read r = read t) (default : α) :
    Info.part rs s read default = Info.part ts s read default := by
  induction h with
  | nil => rfl
  | @cons m n rs ts hm _ ih =>
    obtain ⟨s', r⟩ := m
    obtain ⟨s'', t⟩ := n
    obtain ⟨rfl, hagree⟩ := hm
    rw [Info.part, Info.part, find?_cons, find?_cons]
    by_cases hs : s' = s
    · subst hs
      simpa using hread r t hagree
    · simpa [hs, Info.part] using ih

theorem ofReadings_eq (h : Alike rs ts) : Info.ofReadings rs = Info.ofReadings ts := by
  have htext (f : Field) : Info.textPart rs f = Info.textPart ts f :=
    h.part_eq (.field f) _ (fun _ _ hagree => hagree) ""
  have hflag (f : Flag) : Info.flagPart rs f = Info.flagPart ts f :=
    h.part_eq (.flag f) _ (fun _ _ hagree => hagree) false
  have hnumber (s : Slot) (default : Int64)
      (hs : ∀ r t : Reading, s.Agree r t → r.number = t.number) :
      Info.numberPart rs s default = Info.numberPart ts s default :=
    h.part_eq s _ (fun r t hagree => by rw [hs r t hagree]) default
  have hindex := hnumber .indexInParent (-1) fun _ _ hagree => hagree
  have hdepth := hnumber .depth 0 fun _ _ hagree => hagree
  have horder := hnumber .drawingOrder 0 fun _ _ hagree => hagree
  have hcount := hnumber .childCount 0 fun _ _ hagree => hagree
  have hbounds := h.part_eq .bounds (·.bounds) (fun _ _ hagree => hagree) {}
  have hchildren := h.part_eq .children (·.children) (fun _ _ hagree => hagree) []
  simp only [Info.ofReadings, h.slots_eq, htext, hflag, hindex, hdepth, horder, hcount, hbounds,
    hchildren]

end Alike

namespace Slot

theorem mem_all (s : Slot) : s ∈ all := by
  cases s with
  | field f => cases f <;> decide
  | flag f => cases f <;> decide
  | _ => decide

theorem keys_disjoint : ∀ s ∈ all, ∀ t ∈ all, ∀ k ∈ s.keys, k ∈ t.keys → s = t := by
  decide +kernel

theorem ofKey?_eq_some {k : String} {s : Slot} : ofKey? k = some s ↔ k ∈ s.keys := by
  constructor
  · intro h
    simpa using find?_some h
  · intro hk
    have hsome : (ofKey? k).isSome := find?_isSome.mpr ⟨s, mem_all s, by simpa using hk⟩
    obtain ⟨t, ht⟩ := Option.isSome_iff_exists.mp hsome
    have hkt : k ∈ t.keys := by simpa using find?_some ht
    rw [ht, keys_disjoint s (mem_all s) t (mem_all t) k hk hkt]

theorem ofKey?_eq_none {k : String} : ofKey? k = none ↔ ∀ s : Slot, k ∉ s.keys := by
  simp [Option.eq_none_iff_forall_ne_some, ofKey?_eq_some]

end Slot

namespace Reading

def ofValue (v : Value) : Reading :=
  ⟨textOfValue v, numberOfValue v, flagOfValue v, boundsOfValue v, Info.childrenOf v⟩

def edgeMember (m : String × Value) : Option (Edge × Option (Option Binary64)) :=
  (Bounds.edgeOfKey? m.1).map fun e => (e, numberOfValue m.2)

def slotMember (m : String × Value) : Option (Slot × Reading) :=
  (Slot.ofKey? m.1).map fun s => (s, ofValue m.2)

theorem boundsOfValue_object (ms : List (String × Value)) :
    boundsOfValue (.object ms) = Bounds.ofEdges (ms.filterMap edgeMember) := rfl

theorem readings_eq (ms : List (String × Value)) : Info.readings ms = ms.filterMap slotMember := by
  induction ms with
  | nil => rfl
  | cons m ms ih =>
    obtain ⟨k, v⟩ := m
    rw [Info.readings, filterMap_cons, ih]
    cases hk : Slot.ofKey? k with
    | none => simp [slotMember, hk]
    | some s => simp [slotMember, hk, ofValue]

theorem boundsOfValue_sort {ms : List (String × Value)} (h : (ms.map (·.1)).Nodup) :
    boundsOfValue (.object (sortMembers ms)) = boundsOfValue (.object ms) := by
  rw [boundsOfValue_object, boundsOfValue_object]
  exact Bounds.ofEdges_perm ((sortMembers_perm h).filterMap edgeMember)

end Reading

theorem Info.ofValue_sort {ms : List (String × Value)} (h : (ms.map (·.1)).Nodup) :
    Info.ofValue? (.object (sortMembers ms)) = Info.ofValue? (.object ms) := by
  rw [Info.ofValue?, Info.ofValue?, Reading.readings_eq, Reading.readings_eq]
  exact Info.ofReadings_perm ((sortMembers_perm h).filterMap Reading.slotMember)

end ScreenScript.Node
