import ScreenScript.Host.Answer
import ScreenScript.Proofs.Json.Reading
import ScreenScript.Proofs.Node.Assembly
import Mathlib

namespace ScreenScript

open Json

namespace Json.Written

mutual

def Distinct : Written → Prop
  | .array ws => DistinctItems ws
  | .object ms => (ms.map (·.1)).Nodup ∧ DistinctMembers ms
  | _ => True

def DistinctItems : List Written → Prop
  | [] => True
  | w :: ws => Distinct w ∧ DistinctItems ws

def DistinctMembers : List (Option String × Written) → Prop
  | [] => True
  | (_, w) :: ms => Distinct w ∧ DistinctMembers ms

end

theorem distinctMembers_iff {ms : List (Option String × Written)} :
    DistinctMembers ms ↔ ∀ m ∈ ms, m.2.Distinct := by
  induction ms with
  | nil => simp [DistinctMembers]
  | cons m ms ih => rw [DistinctMembers, ih, List.forall_mem_cons]

end Json.Written

namespace Node.Reading

variable {depth : Nat}

theorem number_routes {w : Written} {v : Value} (h : Value.ofWritten? depth w = some v) :
    numberOfWritten w = numberOfValue v := by
  cases w with
  | null => cases h; rfl
  | bool b => cases h; rfl
  | number n =>
    obtain ⟨m, hm, rfl⟩ := Option.map_eq_some_iff.mp h
    rw [numberOfWritten, hm]
    rfl
  | string s =>
    obtain ⟨t, -, rfl⟩ := Option.map_eq_some_iff.mp h
    rfl
  | array ws =>
    obtain ⟨vs, -, -, rfl⟩ := Value.ofWritten_array h
    rfl
  | object ms =>
    obtain ⟨vs, -, -, rfl⟩ := Value.ofWritten_object h
    rfl

theorem numbers_routes {ws : List Written} {vs : List Value}
    (h : Value.ofItems? depth ws = some vs) :
    ws.map numberOfWritten = vs.map numberOfValue := by
  induction ws generalizing vs with
  | nil =>
    cases h
    rfl
  | cons w ws ih =>
    obtain ⟨v, vs', hv, hvs, rfl⟩ := Value.ofItems_cons h
    rw [List.map_cons, List.map_cons, number_routes hv, ih hvs]

theorem edges_routes {ms : List (Option String × Written)} {vs : List (String × Value)}
    (h : Value.ofMembers? depth ms = some vs) :
    edgesOfWritten ms = some (vs.filterMap edgeMember) := by
  induction ms generalizing vs with
  | nil =>
    cases h
    rfl
  | cons m ms ih =>
    obtain ⟨k, w⟩ := m
    obtain ⟨key, v, vs', rfl, hv, hvs, rfl⟩ := Value.ofMembers_cons h
    rw [edgesOfWritten, ih hvs, List.filterMap_cons]
    cases hkey : Bounds.edgeOfKey? key with
    | none => simp [edgeMember, hkey]
    | some e => simp [edgeMember, hkey, number_routes hv]

theorem routes {w : Written} {v : Value} (h : Value.ofWritten? (maxDepth - 1) w = some v)
    (hw : w.Distinct) : ofWritten w = ofValue v := by
  have hnumber := number_routes h
  cases w with
  | null => cases h; rfl
  | bool b => cases h; rfl
  | number n =>
    obtain ⟨m, -, rfl⟩ := Option.map_eq_some_iff.mp h
    rw [ofWritten, hnumber]
    rfl
  | string s =>
    obtain ⟨t, rfl, rfl⟩ := Option.map_eq_some_iff.mp h
    rfl
  | array ws =>
    obtain ⟨vs, -, hvs, rfl⟩ := Value.ofWritten_array h
    have hitems : Value.ofItems? (maxDepth - 2) ws = some vs := hvs
    have hbounds : boundsOfWritten (.array ws) = boundsOfValue (.array vs) := by
      rw [boundsOfWritten, boundsOfValue, numbers_routes hvs]
    have hchildren : childrenOfWritten (.array ws) = Info.childrenOf (.array vs) := by
      rw [childrenOfWritten, hitems]
      rfl
    rw [ofWritten, hbounds, hchildren]
    rfl
  | object ms =>
    obtain ⟨vs, -, hvs, rfl⟩ := Value.ofWritten_object h
    rw [Written.Distinct] at hw
    have hbounds : boundsOfWritten (.object ms) = boundsOfValue (.object (sortMembers vs)) := by
      rw [boundsOfWritten, edges_routes hvs, boundsOfValue_sort (Value.ofMembers_nodup hvs hw.1),
        boundsOfValue_object, Option.bind_some]
    rw [ofWritten, hbounds]
    rfl

theorem members_routes {ms : List (Option String × Written)} {vs : List (String × Value)}
    (h : Value.ofMembers? (maxDepth - 1) ms = some vs) (hms : Written.DistinctMembers ms) :
    ofMembers ms = some (vs.filterMap slotMember) := by
  induction ms generalizing vs with
  | nil =>
    cases h
    rfl
  | cons m ms ih =>
    obtain ⟨k, w⟩ := m
    obtain ⟨key, v, vs', rfl, hv, hvs, rfl⟩ := Value.ofMembers_cons h
    rw [Written.DistinctMembers] at hms
    rw [ofMembers, ih hvs hms.2, List.filterMap_cons]
    cases hkey : Slot.ofKey? key with
    | none => simp [slotMember, hkey]
    | some s => simp [slotMember, hkey, routes hv hms.1]

end Node.Reading

namespace Node.Info

theorem ofWritten_routes {ms : List (Option String × Written)} {v : Value}
    (h : Value.ofWritten? maxDepth (.object ms) = some v) (hms : (Written.object ms).Distinct) :
    ofWritten? (.object ms) = ofValue? v := by
  obtain ⟨vs, -, hvs, rfl⟩ := Value.ofWritten_object h
  rw [Written.Distinct] at hms
  rw [ofWritten?, Reading.members_routes hvs hms.2, ofValue_sort (Value.ofMembers_nodup hvs hms.1),
    ofValue?, Reading.readings_eq, Option.bind_some]

end Node.Info

theorem Answer.node_of_json {s : String} {v : Value} (h : Answer.json? s = some v) :
    Answer.node? (some s) = Node.Info.ofValue? v := by
  rw [Answer.node?, Option.bind_some, h, Option.bind_some]

namespace Node.Info

/-- Any object text that is a JSON value and repeats no key describes one node, or none, whether it
is decoded by itself or as what a host answers. -/
theorem decoding_routes_agree {s : String} {ms : List (Option String × Written)}
    (hobject : Written.parse? s = some (.object ms)) (hdistinct : (Written.object ms).Distinct)
    (hvalue : (Value.parse? s).isSome) :
    parse? s = Answer.node? (some s) ∧ (parse? s).toList = Answer.nodes (some s) := by
  obtain ⟨v, hv⟩ := Option.isSome_iff_exists.mp hvalue
  rw [Value.parse?, hobject, Option.bind_some] at hv
  have hjson : Answer.json? s = some v := by rw [Answer.json_of_parse hobject, hv]
  have hroutes : parse? s = ofValue? v := by
    rw [parse?, hobject, Option.bind_some, ofWritten_routes hv hdistinct]
  obtain ⟨vs, -, -, rfl⟩ := Value.ofWritten_object hv
  constructor
  · rw [hroutes, Answer.node_of_json hjson]
  · rw [hroutes, Answer.nodes, Option.bind_some, hjson]
    simp only [ofValues]
    split
    · next i hi => rw [hi]; rfl
    · next hi => rw [hi]; rfl

/-- On both routes numbers are cut, and a child that gives one part twice is dropped. -/
theorem mixed_text_decoded_alike :
    let s := "\x7b\"children\":[\x7b\"depth\":-2.5\x7d,\x7b\"id\":\"\",\"_id\":\"\"\x7d]\x7d"
    (parse? s = Answer.node? (some s) ∧ (parse? s).toList = Answer.nodes (some s)) ∧
      (parse? s).map (fun i => i.children.map (·.depth)) = some [-2] := by
  intro s
  have hs : Written.parse? s = some (.object [(some "children", .array
      [.object [(some "depth", .number ⟨true, ['2'], some ['5'], none⟩)],
        .object [(some "id", .string (some "")), (some "_id", .string (some ""))]])]) := by
    cbv
  refine ⟨decoding_routes_agree hs ?_ (by decide +kernel), by decide +kernel⟩
  simp [Written.Distinct, Written.DistinctItems, Written.DistinctMembers]

end Node.Info

end ScreenScript
