import ScreenScript.Proofs.Node.Embedded

namespace ScreenScript.Node

open Json Relation

def aliased : List String :=
  ["text", "id", "className", "desc", "packageName", "indexInParent", "depth", "drawingOrder",
    "childCount", "children"]

def unaliased : List String :=
  ["bounds", "clickable", "longClickable", "scrollable", "enabled", "checked", "selected",
    "focusable", "focused", "checkable", "editable", "visibleToUser"]

def spellings (name : String) : List String :=
  if name ∈ aliased then [name, "_" ++ name] else [name]

def Unknown (key : String) : Prop :=
  ∀ name ∈ aliased ++ unaliased, key ∉ spellings name

instance (key : String) : Decidable (Unknown key) :=
  inferInstanceAs (Decidable (∀ name ∈ aliased ++ unaliased, key ∉ spellings name))

/-- Coordinates that stand for the same number: nothing is zero. -/
def SameCoordinate (v w : Option Value) : Prop :=
  v.getD .null = w.getD .null ∨
    v.getD .null ∈ [.null, .number (.whole 0)] ∧ w.getD .null ∈ [.null, .number (.whole 0)]

/-- `vs` are the edges that the members `es` give, from the left clockwise; the last of them may be
missing. -/
def EdgesInOrder (es : List (String × Value)) (vs : List Value) : Prop :=
  (es.map (·.1)).Nodup ∧ vs.length ≤ 4 ∧ SameCoordinate (getMember "left" es) vs[0]? ∧
    SameCoordinate (getMember "top" es) vs[1]? ∧ SameCoordinate (getMember "right" es) vs[2]? ∧
    SameCoordinate (getMember "bottom" es) vs[3]?

/-- One change to how a descriptor is presented, in itself or in one of its entries. -/
inductive Restated : List (String × Value) → List (String × Value) → Prop
  | permuted {ms ns} (h : ms.Perm ns) : Restated ms ns
  | respelt {name v ms} (h : name ∈ aliased) : Restated ((name, v) :: ms) (("_" ++ name, v) :: ms)
  | unknown {key v ms} (h : Unknown key) : Restated ((key, v) :: ms) ms
  | nulled {name key ms} (h : name ∈ aliased ++ unaliased) (hkey : key ∈ spellings name)
      (habsent : ∀ m ∈ ms, m.1 ∉ spellings name) : Restated ((key, .null) :: ms) ms
  | edges {es vs ms} (h : EdgesInOrder es vs) :
      Restated (("bounds", .object es) :: ms) (("bounds", .array vs) :: ms)
  | entry {ms ns key as bs xs ys} (hkey : key = "_children" ∨ key = "children")
      (h : Restated ms ns) :
      Restated (as ++ (key, .array (xs ++ .object ms :: ys)) :: bs)
        (as ++ (key, .array (xs ++ .object ns :: ys)) :: bs)

def Denotes (s : String) (ms : List (String × Value)) : Prop :=
  ∃ ns, Answer.json? s = some (.object ns) ∧ ns.Perm ms

namespace Slot

theorem ofKey?_respelt : ∀ name ∈ aliased,
    ∃ s ∈ all, ofKey? name = some s ∧ ofKey? ("_" ++ name) = some s := by
  decide +kernel

theorem keys_known : ∀ s ∈ all, ∀ key ∈ s.keys,
    ∃ name ∈ aliased ++ unaliased, key ∈ spellings name := by
  decide +kernel

theorem spellings_keys : ∀ name ∈ aliased ++ unaliased, ∀ key ∈ spellings name,
    ∃ s ∈ all, key ∈ s.keys ∧ ∀ key' ∈ s.keys, key' ∈ spellings name := by
  decide +kernel

theorem ofKey?_unknown {key : String} (h : Unknown key) : ofKey? key = none := by
  apply ofKey?_eq_none.mpr
  intro s hs
  obtain ⟨name, hname, hkey⟩ := keys_known s (mem_all s) key hs
  exact h name hname hkey

theorem ofKey?_bounds : ofKey? "bounds" = some .bounds := by
  decide

end Slot

namespace Bounds

def place : Edge → Nat
  | .left => 0
  | .top => 1
  | .right => 2
  | .bottom => 3

theorem coordinate_same {v w : Option Value} (h : SameCoordinate v w) :
    coordinate (Reading.numberOfValue (v.getD .null)) =
      coordinate (Reading.numberOfValue (w.getD .null)) := by
  have hzero (u : Value) (hu : u ∈ [Value.null, .number (.whole 0)]) :
      coordinate (Reading.numberOfValue u) = some 0 := by
    rcases List.mem_cons.mp hu with rfl | hu
    · rfl
    · rw [List.mem_singleton.mp hu]
      decide
  rcases h with h | ⟨hv, hw⟩
  · rw [h]
  · rw [hzero _ hv, hzero _ hw]

theorem edgeOfKey?_eq_some {k : String} {e : Edge} : edgeOfKey? k = some e ↔ e.name = k := by
  constructor
  · intro h
    have hfind : Edge.all.find? (fun e => e.name = k) = some e := h
    simpa using List.find?_some hfind
  · rintro rfl
    cases e <;> decide

theorem edgeOf_members (es : List (String × Value)) (e : Edge) :
    edgeOf (es.filterMap Reading.edgeMember) e =
      coordinate (Reading.numberOfValue ((getMember e.name es).getD .null)) := by
  induction es with
  | nil => rfl
  | cons m es ih =>
    obtain ⟨k, v⟩ := m
    rw [getMember]
    by_cases hk : k = e.name
    · have hmember : Reading.edgeMember (k, v) = some (e, Reading.numberOfValue v) := by
        rw [Reading.edgeMember, edgeOfKey?_eq_some.mpr hk.symm, Option.map_some]
      rw [List.filterMap_cons_some hmember, edgeOf, List.find?_cons_of_pos (by simp), if_pos hk]
      rfl
    · rw [if_neg hk, ← ih]
      cases he : edgeOfKey? k with
      | none =>
        have hmember : Reading.edgeMember (k, v) = none := by simp [Reading.edgeMember, he]
        rw [List.filterMap_cons_none hmember]
      | some e' =>
        have hmember : Reading.edgeMember (k, v) = some (e', Reading.numberOfValue v) := by
          simp [Reading.edgeMember, he]
        have hne : e' ≠ e := by
          rintro rfl
          exact hk (edgeOfKey?_eq_some.mp he).symm
        rw [List.filterMap_cons_some hmember, edgeOf, List.find?_cons_of_neg (by simpa using hne)]
        rfl

theorem edgeOf_order (vs : List Value) (e : Edge) :
    edgeOf (Edge.all.zip (vs.map Reading.numberOfValue)) e =
      coordinate (Reading.numberOfValue ((vs[place e]?).getD .null)) := by
  match vs with
  | [] => cases e <;> rfl
  | [_] => cases e <;> rfl
  | [_, _] => cases e <;> rfl
  | [_, _, _] => cases e <;> rfl
  | _ :: _ :: _ :: _ :: _ => cases e <;> rfl

theorem order_nodup (rs : List (Option (Option Binary64))) :
    ((Edge.all.zip rs).map (·.1)).Nodup := by
  match rs with
  | [] => exact .nil
  | [_] => exact (by decide : [Edge.left].Nodup)
  | [_, _] => exact (by decide : [Edge.left, .top].Nodup)
  | [_, _, _] => exact (by decide : [Edge.left, .top, .right].Nodup)
  | _ :: _ :: _ :: _ :: _ => exact (by decide : Edge.all.Nodup)

theorem ofEdges_eq {es fs : List (Edge × Option (Option Binary64))}
    (hes : (es.map (·.1)).Nodup) (hfs : (fs.map (·.1)).Nodup)
    (h : ∀ e, edgeOf es e = edgeOf fs e) : ofEdges es = ofEdges fs := by
  simp only [ofEdges, if_pos hes, if_pos hfs, h]

end Bounds

theorem edgeMembers_nodup {es : List (String × Value)} (h : (es.map (·.1)).Nodup) :
    ((es.filterMap Reading.edgeMember).map (·.1)).Nodup := by
  have hkeys : (es.filterMap Reading.edgeMember).map (·.1) =
      (es.map (·.1)).filterMap Bounds.edgeOfKey? := by
    rw [List.map_filterMap, List.filterMap_map]
    congr 1
    funext m
    cases he : Bounds.edgeOfKey? m.1 <;> simp [Reading.edgeMember, he]
  rw [hkeys]
  apply h.filterMap
  intro k k' e he he'
  rw [← Bounds.edgeOfKey?_eq_some.mp he, ← Bounds.edgeOfKey?_eq_some.mp he']

theorem EdgesInOrder.boundsOfValue_eq {es : List (String × Value)} {vs : List Value}
    (h : EdgesInOrder es vs) :
    Reading.boundsOfValue (.object es) = Reading.boundsOfValue (.array vs) := by
  obtain ⟨hkeys, hlength, hleft, htop, hright, hbottom⟩ := h
  rw [Reading.boundsOfValue_object, Reading.boundsOfValue, Bounds.ofOrder,
    if_pos (by rwa [List.length_map])]
  apply Bounds.ofEdges_eq (edgeMembers_nodup hkeys) (Bounds.order_nodup _)
  intro e
  rw [Bounds.edgeOf_members, Bounds.edgeOf_order]
  apply Bounds.coordinate_same
  cases e with
  | left => exact hleft
  | top => exact htop
  | right => exact hright
  | bottom => exact hbottom

namespace Info

variable {rs : List (Slot × Reading)} {s : Slot}

theorem part_null {α : Type} (hs : s ∉ rs.map (·.1)) (s' : Slot) (read : Reading → Option α)
    (default : α) (hread : read (Reading.ofValue .null) = some default) :
    part ((s, Reading.ofValue .null) :: rs) s' read default = part rs s' read default := by
  rw [part, part, List.find?_cons]
  by_cases heq : s = s'
  · subst heq
    have hnone : rs.find? (·.1 = s) = none := by
      apply List.find?_eq_none.mpr
      intro m hm hms
      exact hs (List.mem_map.mpr ⟨m, hm, of_decide_eq_true hms⟩)
    simpa [hnone] using hread
  · simp [heq]

theorem ofReadings_null (hs : s ∉ rs.map (·.1)) :
    ofReadings ((s, Reading.ofValue .null) :: rs) = ofReadings rs := by
  have htext (f : Field) : textPart ((s, Reading.ofValue .null) :: rs) f = textPart rs f :=
    part_null hs _ _ _ rfl
  have hflag (f : Flag) : flagPart ((s, Reading.ofValue .null) :: rs) f = flagPart rs f :=
    part_null hs _ _ _ rfl
  have hnumber (t : Slot) (default : Int64) :
      numberPart ((s, Reading.ofValue .null) :: rs) t default = numberPart rs t default :=
    part_null hs _ _ _ rfl
  have hbounds := part_null hs .bounds (·.bounds) {} rfl
  have hchildren := part_null hs .children (·.children) [] rfl
  have hnodup : (((s, Reading.ofValue .null) :: rs).map (·.1)).Nodup ↔ (rs.map (·.1)).Nodup := by
    rw [List.map_cons, List.nodup_cons, and_iff_right hs]
  simp only [ofReadings, hnodup, htext, hflag, hnumber, hbounds, hchildren]

end Info

theorem slots_of_members (ms : List (String × Value)) :
    (ms.filterMap Reading.slotMember).map (·.1) = (ms.map (·.1)).filterMap Slot.ofKey? := by
  rw [List.map_filterMap, List.filterMap_map]
  congr 1
  funext m
  cases hs : Slot.ofKey? m.1 <;> simp [Reading.slotMember, hs]

theorem slotMember_of_key {k : String} {s : Slot} (h : Slot.ofKey? k = some s) (v : Value) :
    Reading.slotMember (k, v) = some (s, Reading.ofValue v) := by
  rw [Reading.slotMember, h, Option.map_some]

namespace Info

theorem ofValue_members (ms : List (String × Value)) :
    ofValue? (.object ms) = ofReadings (ms.filterMap Reading.slotMember) := by
  rw [ofValue?, Reading.readings_eq]

theorem ofValue_nulled {name key : String} {ms : List (String × Value)}
    (h : name ∈ aliased ++ unaliased) (hkey : key ∈ spellings name)
    (habsent : ∀ m ∈ ms, m.1 ∉ spellings name) :
    ofValue? (.object ((key, .null) :: ms)) = ofValue? (.object ms) := by
  obtain ⟨s, -, hs, hspellings⟩ := Slot.spellings_keys name h key hkey
  have hfresh : s ∉ (ms.filterMap Reading.slotMember).map (·.1) := by
    rw [slots_of_members]
    intro hmem
    obtain ⟨k, hk, hks⟩ := List.mem_filterMap.mp hmem
    obtain ⟨m, hm, rfl⟩ := List.mem_map.mp hk
    exact habsent m hm (hspellings m.1 (Slot.ofKey?_eq_some.mp hks))
  rw [ofValue_members, ofValue_members,
    List.filterMap_cons_some (slotMember_of_key (Slot.ofKey?_eq_some.mpr hs) _),
    ofReadings_null hfresh]

theorem ofValue_edges {es : List (String × Value)} {vs : List Value} (h : EdgesInOrder es vs)
    (ms : List (String × Value)) :
    ofValue? (.object (("bounds", .object es) :: ms)) =
      ofValue? (.object (("bounds", .array vs) :: ms)) := by
  rw [ofValue_members, ofValue_members,
    List.filterMap_cons_some (slotMember_of_key Slot.ofKey?_bounds _),
    List.filterMap_cons_some (slotMember_of_key Slot.ofKey?_bounds _)]
  exact Alike.ofReadings_eq (.cons ⟨rfl, h.boundsOfValue_eq⟩ (Alike.refl _))

theorem ofValue_restated {ms ns : List (String × Value)} (h : Restated ms ns) :
    ofValue? (.object ms) = ofValue? (.object ns) := by
  induction h with
  | permuted h =>
    rw [ofValue_members, ofValue_members]
    exact ofReadings_perm (h.filterMap _)
  | respelt h =>
    obtain ⟨s, -, hplain, hunderscore⟩ := Slot.ofKey?_respelt _ h
    rw [ofValue_members, ofValue_members, List.filterMap_cons_some (slotMember_of_key hplain _),
      List.filterMap_cons_some (slotMember_of_key hunderscore _)]
  | @unknown key v ms h =>
    have hmember : Reading.slotMember (key, v) = none := by
      rw [Reading.slotMember, Slot.ofKey?_unknown h, Option.map_none]
    rw [ofValue_members, ofValue_members, List.filterMap_cons_none hmember]
  | nulled h hkey habsent => exact ofValue_nulled h hkey habsent
  | edges h => exact ofValue_edges h _
  | entry hkey _ ih =>
    apply ofValue_entries hkey
    rw [List.filterMap_append, List.filterMap_append, List.filterMap_cons, List.filterMap_cons, ih]

theorem ofValue_equivalent {ms ns : List (String × Value)} (h : EqvGen Restated ms ns) :
    ofValue? (.object ms) = ofValue? (.object ns) := by
  induction h with
  | rel _ _ h => exact ofValue_restated h
  | refl _ => rfl
  | symm _ _ _ ih => exact ih.symm
  | trans _ _ _ _ _ ih ih' => exact ih.trans ih'

theorem ofValue_twice {name : String} (h : name ∈ aliased) {ms : List (String × Value)}
    (hplain : name ∈ ms.map (·.1)) (hunderscore : "_" ++ name ∈ ms.map (·.1)) :
    ofValue? (.object ms) = none := by
  obtain ⟨s, -, hs, hs'⟩ := Slot.ofKey?_respelt name h
  rw [ofValue_members, ofReadings, if_neg]
  rw [slots_of_members]
  intro hnodup
  have hne : name ≠ "_" ++ name := by
    intro heq
    have hlength := congrArg String.length heq
    simp at hlength
  have hpairs := List.pairwise_filterMap.mp hnodup
  have hsymm : Std.Symm fun k k' => ∀ a, Slot.ofKey? k = some a → ∀ b, Slot.ofKey? k' = some b →
      a ≠ b := ⟨fun _ _ hkk' a ha b hb => (hkk' b hb a ha).symm⟩
  exact hpairs.forall hplain hunderscore hne s hs s hs' rfl

end Info

namespace Denotes

variable {s : String} {ms : List (String × Value)}

theorem of_written (ws : List (Option String × Written))
    (hparse : Written.parse? (Text.trimText s) = some (.object ws))
    (hmembers : Value.ofMembers? (maxDepth - 1) ws = some ms) (hkeys : (ms.map (·.1)).Nodup) :
    Denotes s ms := by
  refine ⟨sortMembers ms, ?_, sortMembers_perm hkeys⟩
  rw [Answer.json?, Value.parse?, hparse, Option.bind_some, Value.ofWritten?, if_neg (by decide),
    hmembers]
  rfl

theorem node_eq (h : Denotes s ms) : Answer.node? (some s) = Info.ofValue? (.object ms) := by
  obtain ⟨ns, hjson, hperm⟩ := h
  rw [Answer.node_of_json hjson]
  exact Info.ofValue_restated (.permuted hperm)

theorem nodes_eq (h : Denotes s ms) :
    Answer.nodes (some s) = (Info.ofValue? (.object ms)).toList := by
  obtain ⟨ns, hjson, -⟩ := id h
  rw [← h.node_eq]
  apply Answer.nodes_of_no_array
  rintro vs hvs
  rw [hjson] at hvs
  cases hvs

end Denotes

/-- However the members of a descriptor are ordered, spelt, accompanied or left at `null`, and
whichever form its rectangle has, in itself and in its entries, it is the same node, or none, as a
value and as the answer of a host. With both keys of one part it is none. -/
theorem decoding_ignores_presentation :
    (∀ ms ns, EqvGen Restated ms ns →
      Info.ofValue? (.object ms) = Info.ofValue? (.object ns) ∧
        ∀ s t, Denotes s ms → Denotes t ns → Answer.node? (some s) = Answer.node? (some t) ∧
          Answer.nodes (some s) = Answer.nodes (some t)) ∧
      ∀ name ∈ aliased, ∀ ms : List (String × Value),
        name ∈ ms.map (·.1) → "_" ++ name ∈ ms.map (·.1) →
          Info.ofValue? (.object ms) = none ∧
            ∀ s, Denotes s ms → Answer.node? (some s) = none ∧ Answer.nodes (some s) = [] := by
  constructor
  · intro ms ns h
    have hvalue := Info.ofValue_equivalent h
    refine ⟨hvalue, fun s t hs ht => ⟨?_, ?_⟩⟩
    · rw [hs.node_eq, ht.node_eq, hvalue]
    · rw [hs.nodes_eq, ht.nodes_eq, hvalue]
  · intro name hname ms hplain hunderscore
    have hvalue := Info.ofValue_twice hname hplain hunderscore
    refine ⟨hvalue, fun s hs => ⟨?_, ?_⟩⟩
    · rw [hs.node_eq, hvalue]
    · rw [hs.nodes_eq, hvalue]
      rfl

/-- A key that says nothing, one that is unknown, a rectangle as an object, and the plain spelling,
against a list of edges and the underscored spelling. -/
theorem restated_text_decoded_alike :
    let s := "\x7b\"id\":null,\"x\":[],\"bounds\":\x7b\"bottom\":4,\"left\":1\x7d,\"text\":\"a\"\x7d"
    let t := "\x7b\"_text\":\"a\",\"bounds\":[1,0,null,4]\x7d"
    let u := "\x7b\"text\":\"a\",\"_text\":\"a\"\x7d"
    Answer.node? (some s) = Answer.node? (some t) ∧
      (Answer.node? (some t)).map (·.bounds) = some { left := 1, bottom := 4 } ∧
      Answer.node? (some u) = none := by
  intro s t u
  let one : Value := .number (.whole 1)
  let four : Value := .number (.whole 4)
  let es : List (String × Value) := [("bottom", four), ("left", one)]
  let vs : List Value := [one, .number (.whole 0), .null, four]
  let a : Value := .string "a"
  have hs : Denotes s [("id", .null), ("x", .array []), ("bounds", .object es), ("text", a)] :=
    .of_written [(some "id", .null), (some "x", .array []), (some "bounds", .object
      [(some "bottom", .number ⟨false, ['4'], none, none⟩),
        (some "left", .number ⟨false, ['1'], none, none⟩)]), (some "text", .string (some "a"))]
      (by cbv) (by cbv) (by decide)
  have ht : Denotes t [("_text", a), ("bounds", .array vs)] :=
    .of_written [(some "_text", .string (some "a")), (some "bounds", .array
      [.number ⟨false, ['1'], none, none⟩, .number ⟨false, ['0'], none, none⟩, .null,
        .number ⟨false, ['4'], none, none⟩])] (by cbv) (by cbv) (by decide)
  have hu : Denotes u [("text", a), ("_text", a)] :=
    .of_written [(some "text", .string (some "a")), (some "_text", .string (some "a"))]
      (by cbv) (by cbv) (by decide)
  have hedges : EdgesInOrder es vs := by
    refine ⟨by decide, by decide, .inl rfl, .inr ⟨?_, ?_⟩, .inl rfl, .inl rfl⟩
    · exact List.mem_cons_self ..
    · exact List.mem_cons_of_mem _ (List.mem_cons_self ..)
  have hidName : "id" ∈ aliased ++ unaliased := by decide
  have htextName : "text" ∈ aliased := by decide
  have hid : EqvGen Restated [("id", .null), ("x", .array []), ("bounds", .object es), ("text", a)]
      [("x", .array []), ("bounds", .object es), ("text", a)] :=
    .rel _ _ (.nulled hidName (by decide) (by decide))
  have hx : EqvGen Restated [("x", .array []), ("bounds", .object es), ("text", a)]
      [("bounds", .object es), ("text", a)] := .rel _ _ (.unknown (by decide))
  have hbounds : EqvGen Restated [("bounds", .object es), ("text", a)]
      [("bounds", .array vs), ("text", a)] := .rel _ _ (.edges hedges)
  have hswap : EqvGen Restated [("bounds", .array vs), ("text", a)]
      [("text", a), ("bounds", .array vs)] := .rel _ _ (.permuted (.swap ..))
  have htext : EqvGen Restated [("text", a), ("bounds", .array vs)]
      [("_text", a), ("bounds", .array vs)] := .rel _ _ (.respelt htextName)
  have h := (((hid.trans _ _ _ hx).trans _ _ _ hbounds).trans _ _ _ hswap).trans _ _ _ htext
  obtain ⟨hsame, htwice⟩ := decoding_ignores_presentation
  refine ⟨((hsame _ _ h).2 s t hs ht).1, by decide +kernel, ?_⟩
  exact ((htwice "text" (by decide) _ (by decide) (by decide)).2 u hu).1

end ScreenScript.Node
