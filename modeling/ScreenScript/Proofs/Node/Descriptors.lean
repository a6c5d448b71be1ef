import ScreenScript.Proofs.Json.RoundTrip
import ScreenScript.Proofs.Node.Decoded
import ScreenScript.Proofs.Node.Routes

namespace ScreenScript.Node

open Json

def Slot.spelling : Slot → String
  | field f => "_" ++ f.name
  | bounds => "bounds"
  | indexInParent => "_indexInParent"
  | depth => "_depth"
  | drawingOrder => "_drawingOrder"
  | childCount => "childCount"
  | flag f => f.name
  | children => "_children"

def Slot.own : List Slot :=
  Field.written.map field ++ [bounds, indexInParent, depth, drawingOrder, childCount] ++
    Flag.all.map flag

theorem Slot.ofKey_spelling (s : Slot) : Slot.ofKey? s.spelling = some s := by
  cases s with
  | field f => cases f <;> decide
  | flag f => cases f <;> decide
  | _ => decide

theorem Slot.spelling_injective : Function.Injective Slot.spelling := by
  intro s t h
  have hs := Slot.ofKey_spelling s
  rw [h, Slot.ofKey_spelling t] at hs
  exact (Option.some.inj hs).symm

theorem Slot.mem_own {s : Slot} (h : s ≠ .children) : s ∈ Slot.own := by
  cases s with
  | field f => cases f <;> decide
  | flag f => cases f <;> decide
  | children => exact absurd rfl h
  | _ => decide

namespace Bounds

def value (b : Bounds) : Value :=
  .object (Edge.all.map fun e => (e.name, .number (.whole (b.edge e).toInt)))

def throughReal (b : Bounds) : Bounds :=
  { left := Word.throughReal b.left, top := Word.throughReal b.top
    right := Word.throughReal b.right, bottom := Word.throughReal b.bottom }

theorem value_integral (b : Bounds) : b.value.Integral :=
  ⟨Value.integral_word _, Value.integral_word _, Value.integral_word _, Value.integral_word _,
    trivial⟩

theorem edgeOf_map (r : Edge → Option (Option Binary64)) (e : Edge) :
    edgeOf (Edge.all.map fun e => (e, r e)) e = coordinate (r e) := by
  cases e <;> rfl

theorem ofEdges_map (r : Edge → Option (Option Binary64)) :
    ofEdges (Edge.all.map fun e => (e, r e)) = (do
      let left ← coordinate (r .left)
      let top ← coordinate (r .top)
      let right ← coordinate (r .right)
      let bottom ← coordinate (r .bottom)
      pure { left, top, right, bottom }) := by
  have hnodup : ((Edge.all.map fun e => (e, r e)).map (·.1)).Nodup := by
    rw [List.map_map]
    exact (by decide : Edge.all.Nodup)
  rw [ofEdges, if_pos hnodup]
  simp only [edgeOf_map]

theorem boundsOfValue_value (b : Bounds) :
    Reading.boundsOfValue b.value.sorted = some b.throughReal := by
  have hkeys : ((Edge.all.map fun e => (e.name, Value.number (.whole (b.edge e).toInt))).map
      (·.1)).Nodup := by
    rw [List.map_map]
    exact (by decide : (Edge.all.map Edge.name).Nodup)
  have hedges : (Edge.all.map fun e => (e.name, Value.number (.whole (b.edge e).toInt))).filterMap
      Reading.edgeMember = Edge.all.map fun e => (e, some (some (.ofInt (b.edge e).toInt))) := rfl
  have hsorted : b.value.sorted = .object (sortMembers
      (Edge.all.map fun e => (e.name, Value.number (.whole (b.edge e).toInt)))) := rfl
  rw [hsorted, Reading.boundsOfValue_sort hkeys, Reading.boundsOfValue_object, hedges, ofEdges_map]
  rfl

theorem throughReal_exact {b : Bounds} (h : b.Words Exact) : b.throughReal = b := by
  have hleft : Word.throughReal b.left = b.left := h .left
  have htop : Word.throughReal b.top = b.top := h .top
  have hright : Word.throughReal b.right = b.right := h .right
  have hbottom : Word.throughReal b.bottom = b.bottom := h .bottom
  rw [throughReal, hleft, htop, hright, hbottom]

end Bounds

namespace Info

def slots (i : Info) : List Slot :=
  Slot.own ++ if i.children.isEmpty then [] else [.children]

def partValue (i : Info) (children : List Value) : Slot → Value
  | .field f => .string (i.field f)
  | .bounds => i.bounds.value
  | .indexInParent => .number (.whole i.indexInParent.toInt)
  | .depth => .number (.whole i.depth.toInt)
  | .drawingOrder => .number (.whole i.drawingOrder.toInt)
  | .childCount => .number (.whole i.childCount.toInt)
  | .flag f => .bool (i.flag f)
  | .children => .array children

mutual

def value : Info → Value
  | i@{ children, .. } =>
    .object ((slots i).map fun s => (s.spelling, partValue i (valueAll children) s))

def valueAll : List Info → List Value
  | [] => []
  | i :: is => value i :: valueAll is

end

mutual

def throughReal : Info → Info
  | i@{ children, .. } =>
    { i with
      bounds := i.bounds.throughReal
      indexInParent := Word.throughReal i.indexInParent
      depth := Word.throughReal i.depth
      drawingOrder := Word.throughReal i.drawingOrder
      childCount := Word.throughReal i.childCount
      children := throughRealAll children }

def throughRealAll : List Info → List Info
  | [] => []
  | i :: is => throughReal i :: throughRealAll is

end

theorem value_eq (i : Info) : i.value =
    .object (i.slots.map fun s => (s.spelling, i.partValue (valueAll i.children) s)) := by
  cases i
  rfl

theorem throughReal_eq (i : Info) : i.throughReal =
    { i with
      bounds := i.bounds.throughReal
      indexInParent := Word.throughReal i.indexInParent
      depth := Word.throughReal i.depth
      drawingOrder := Word.throughReal i.drawingOrder
      childCount := Word.throughReal i.childCount
      children := throughRealAll i.children } := by
  cases i
  rfl

mutual

theorem throughReal_exact : ∀ (i : Info), i.Words Exact → i.throughReal = i
  | i@{ children, .. }, h => by
    obtain ⟨hbounds, hindex, hdepth, horder, hcount, hchildren⟩ := words_iff.mp h
    rw [throughReal_eq, Bounds.throughReal_exact hbounds, hindex, hdepth, horder, hcount,
      throughRealAll_exact children hchildren]

theorem throughRealAll_exact : ∀ (is : List Info), WordsAll Exact is → throughRealAll is = is
  | [], _ => rfl
  | i :: is, h => by rw [throughRealAll, throughReal_exact i h.1, throughRealAll_exact is h.2]

end

theorem json_parts (i : Info) (kids : List Value) (h : jsonAll i.children = Value.printItems kids) :
    ownMembers i ++ (if i.children.isEmpty then []
        else [("_children", Value.printArray (jsonAll i.children))]) =
      i.slots.map fun s => (s.spelling, (i.partValue kids s).print) := by
  rw [h, slots, List.map_append]
  congr 1
  cases i.children.isEmpty <;> rfl

mutual

theorem json_value : ∀ i : Info, i.json = i.value.print
  | i@{ children, .. } => by
    rw [value, Value.print, Value.printMembers_eq, List.map_map, json]
    exact congrArg Value.printObject (json_parts _ (valueAll children) (jsonAll_value children))

theorem jsonAll_value : ∀ is : List Info, jsonAll is = Value.printItems (valueAll is)
  | [] => rfl
  | i :: is => by rw [jsonAll, json_value i, jsonAll_value is]; rfl

end

theorem descriptor_eq (i : Info) : i.descriptor = i.value.text := by
  rw [descriptor, json_value, Value.text]

theorem partValue_integral {i : Info} {kids : List Value} (h : Value.IntegralItems kids)
    (s : Slot) : (i.partValue kids s).Integral := by
  cases s with
  | field f => trivial
  | bounds => exact Bounds.value_integral _
  | indexInParent => exact Value.integral_word _
  | depth => exact Value.integral_word _
  | drawingOrder => exact Value.integral_word _
  | childCount => exact Value.integral_word _
  | flag f => trivial
  | children => exact h

mutual

theorem value_integral : ∀ i : Info, i.value.Integral
  | i@{ children, .. } => by
    rw [value, Value.Integral, Value.integralMembers_iff]
    intro m hm
    obtain ⟨s, -, rfl⟩ := List.mem_map.mp hm
    exact partValue_integral (valueAll_integral children) s

theorem valueAll_integral : ∀ is : List Info, Value.IntegralItems (valueAll is)
  | [] => trivial
  | i :: is => ⟨value_integral i, valueAll_integral is⟩

end

theorem depth_parts (i : Info) (kids : List Value) :
    Value.depthMembers (i.slots.map fun s => (s.spelling, i.partValue kids s)) =
      if i.children.isEmpty then 1 else Value.depthItems kids + 1 := by
  cases h : i.children.isEmpty
  · simp [slots, h, Slot.own, Field.written, Flag.all, Value.depthMembers, partValue, Value.depth,
      Bounds.value, Edge.all]
  · simp [slots, h, Slot.own, Field.written, Flag.all, Value.depthMembers, partValue, Value.depth,
      Bounds.value, Edge.all]

mutual

theorem depth_value : ∀ i : Info, i.value.depth = 2 * i.generations + 2
  | i@{ children, .. } => by
    have hkids := depth_valueAll children
    rw [value, Value.depth, depth_parts, hkids, generations]
    cases children with
    | nil => rfl
    | cons j js => rfl

theorem depth_valueAll : ∀ is : List Info,
    Value.depthItems (valueAll is) = 2 * generationsAll is
  | [] => rfl
  | i :: is => by
    rw [valueAll, Value.depthItems, generationsAll, depth_value i, depth_valueAll is]
    omega

end

theorem slots_nodup (i : Info) : i.slots.Nodup := by
  rw [slots]
  cases i.children.isEmpty <;> decide

theorem part_slots {α : Type} (ss : List Slot) (f : Slot → Reading) (s : Slot)
    (read : Reading → Option α) (default : α) :
    part (ss.map fun s => (s, f s)) s read default =
      if s ∈ ss then read (f s) else some default := by
  rw [part, List.find?_map]
  by_cases hs : s ∈ ss
  · have hfind : ss.find? ((fun m : Slot × Reading => m.1 = s) ∘ fun s => (s, f s)) = some s := by
      induction ss with
      | nil => cases hs
      | cons t ss ih =>
        rw [List.find?_cons]
        by_cases ht : t = s
        · simp [ht]
        · have hs' : s ∈ ss := (List.mem_cons.mp hs).resolve_left fun h => ht h.symm
          simpa [ht] using ih hs'
    rw [hfind, if_pos hs]
    rfl
  · have hfind : ss.find? ((fun m : Slot × Reading => m.1 = s) ∘ fun s => (s, f s)) = none := by
      apply List.find?_eq_none.mpr
      rintro t ht heq
      exact hs (of_decide_eq_true heq ▸ ht)
    rw [hfind, if_neg hs]
    rfl

theorem part_own {α : Type} {i : Info} {f : Slot → Reading} {s : Slot} (hs : s ≠ .children)
    {read : Reading → Option α} {default a : α} (h : read (f s) = some a) :
    part (i.slots.map fun s => (s, f s)) s read default = some a := by
  have hmem : s ∈ i.slots := List.mem_append_left _ (Slot.mem_own hs)
  rw [part_slots, if_pos hmem, h]

theorem numberPart_own {i : Info} {f : Slot → Reading} {s : Slot} (hs : s ≠ .children)
    {default n : Int64} (h : (f s).number = some (some (.ofInt n.toInt))) :
    numberPart (i.slots.map fun s => (s, f s)) s default = some (Word.throughReal n) := by
  apply part_own hs
  rw [h]
  rfl

theorem part_children {i : Info} {f : Slot → Reading} {is : List Info}
    (h : (f .children).children = some is) (hnil : i.children = [] → is = []) :
    part (i.slots.map fun s => (s, f s)) .children (·.children) [] = some is := by
  rw [part_slots, slots]
  cases hi : i.children with
  | nil =>
    rw [hnil hi, if_neg (by decide)]
  | cons j js =>
    have hmem : Slot.children ∈ Slot.own ++ [Slot.children] :=
      List.mem_append_right _ (List.mem_singleton.mpr rfl)
    exact (if_pos hmem).trans h

theorem ofReadings_parts {i : Info} {kids : List Value}
    (hkids : ofValues (Value.sortedItems kids) = throughRealAll i.children) :
    ofReadings (i.slots.map fun s => (s, Reading.ofValue (i.partValue kids s).sorted)) =
      some i.throughReal := by
  apply Parts.ofReadings
  · rw [throughReal_eq]
    constructor
    · exact fun f => part_own (by simp) rfl
    · exact part_own (by simp) (Bounds.boundsOfValue_value i.bounds)
    · exact numberPart_own (by simp) rfl
    · exact numberPart_own (by simp) rfl
    · exact numberPart_own (by simp) rfl
    · exact numberPart_own (by simp) rfl
    · exact fun f => part_own (by simp) rfl
    · apply part_children
      · exact congrArg some hkids
      · intro hnil
        rw [hnil]
        rfl
  · rw [List.map_map]
    exact (List.map_id i.slots).symm ▸ slots_nodup i

theorem keys_nodup (i : Info) (v : Slot → Value) :
    ((i.slots.map fun s => (s.spelling, v s)).map (·.1)).Nodup := by
  rw [List.map_map]
  exact (slots_nodup i).map Slot.spelling_injective

theorem slotMembers (ss : List Slot) (v : Slot → Value) :
    (ss.map fun s => (s.spelling, v s)).filterMap Reading.slotMember =
      ss.map fun s => (s, Reading.ofValue (v s)) := by
  induction ss with
  | nil => rfl
  | cons s ss ih =>
    have hs : Reading.slotMember (s.spelling, v s) = some (s, Reading.ofValue (v s)) := by
      rw [Reading.slotMember, Slot.ofKey_spelling, Option.map_some]
    rw [List.map_cons, List.filterMap_cons_some hs, ih, List.map_cons]

theorem ofValue_parts {i : Info} {kids : List Value}
    (hkids : ofValues (Value.sortedItems kids) = throughRealAll i.children) :
    ofValue? (Value.object (i.slots.map fun s => (s.spelling, i.partValue kids s))).sorted =
      some i.throughReal := by
  rw [Value.sorted, Value.sortedMembers_eq, List.map_map]
  exact (ofValue_sort (keys_nodup i fun s => (i.partValue kids s).sorted)).trans (by
    rw [ofValue?, Reading.readings_eq, slotMembers, ofReadings_parts hkids])

mutual

theorem ofValue_value : ∀ i : Info, ofValue? i.value.sorted = some i.throughReal
  | i@{ children, .. } => by
    rw [value]
    exact ofValue_parts (ofValues_valueAll children)

theorem ofValues_valueAll : ∀ is : List Info,
    ofValues (Value.sortedItems (valueAll is)) = throughRealAll is
  | [] => rfl
  | i :: is => by
    rw [valueAll, Value.sortedItems, ofValues, ofValue_value i, ofValues_valueAll is]
    rfl

end

theorem distinct_parts {i : Info} {kids : List Value}
    (h : Written.DistinctItems (Value.writtenItems kids)) :
    (Value.object (i.slots.map fun s => (s.spelling, i.partValue kids s))).written.Distinct := by
  rw [Value.written, Value.writtenMembers_eq, List.map_map, Written.Distinct]
  constructor
  · rw [List.map_map]
    exact (slots_nodup i).map ((Option.some_injective _).comp Slot.spelling_injective)
  · apply Written.distinctMembers_iff.mpr
    intro m hm
    obtain ⟨s, -, rfl⟩ := List.mem_map.mp hm
    cases s with
    | bounds =>
      refine ⟨?_, trivial, trivial, trivial, trivial, trivial⟩
      exact (by decide : ([some "left", some "top", some "right", some "bottom"]).Nodup)
    | children => exact h
    | _ => trivial

mutual

theorem distinct_value : ∀ i : Info, i.value.written.Distinct
  | i@{ children, .. } => by
    rw [value]
    exact distinct_parts (distinct_valueAll children)

theorem distinct_valueAll : ∀ is : List Info,
    Written.DistinctItems (Value.writtenItems (valueAll is))
  | [] => trivial
  | i :: is => ⟨distinct_value i, distinct_valueAll is⟩

end

theorem ofMembers_spelling (ss : List Slot) (w : Slot → Written) :
    Reading.ofMembers (ss.map fun s => (some s.spelling, w s)) =
      some (ss.map fun s => (s, Reading.ofWritten (w s))) := by
  induction ss with
  | nil => rfl
  | cons s ss ih =>
    rw [List.map_cons, Reading.ofMembers, ih, Slot.ofKey_spelling]
    rfl

/-- Children that are nested too deeply spoil the node they belong to. -/
theorem ofWritten_deep {i : Info} (h : 62 < i.generations) : ofWritten? i.value.written = none := by
  let kids := valueAll i.children
  have hdeep : ¬ Value.depthItems kids ≤ maxDepth - 2 := by
    rw [depth_valueAll, ← generations_eq]
    have hmax : maxDepth = 127 := rfl
    omega
  have hitems := Value.ofItems_written kids (maxDepth - 2) (valueAll_integral i.children)
  rw [if_neg hdeep] at hitems
  have hchildren : Reading.childrenOfWritten (i.partValue kids .children).written = none := by
    change (Value.ofItems? (maxDepth - 2) (Value.writtenItems kids)).map ofValues = none
    rw [hitems, Option.map_none]
  have hmem : Slot.children ∈ i.slots := by
    apply List.mem_append_right
    cases hi : i.children with
    | nil =>
      rw [generations_eq, hi] at h
      cases h
    | cons j js => exact List.mem_singleton.mpr rfl
  rw [value_eq, Value.written, Value.writtenMembers_eq, List.map_map, ofWritten?]
  change ((Reading.ofMembers (i.slots.map fun s => (some s.spelling,
    (i.partValue kids s).written))).bind ofReadings) = none
  rw [ofMembers_spelling, Option.bind_some]
  apply Option.eq_none_iff_forall_not_mem.mpr
  intro j hj
  have hpart := (parts_of_ofReadings hj).children
  rw [part_slots, if_pos hmem] at hpart
  change Reading.childrenOfWritten (i.partValue kids .children).written = _ at hpart
  rw [hchildren] at hpart
  cases hpart

theorem ofWritten_maxDepth (i : Info) : Value.ofWritten? maxDepth i.value.written =
    if i.generations ≤ 62 then some i.value.sorted else none := by
  rw [Value.ofWritten_written _ _ (value_integral i), depth_value]
  have hmax : maxDepth = 127 := rfl
  by_cases h : i.generations ≤ 62
  · rw [if_pos h, if_pos (by omega)]
  · rw [if_neg h, if_neg (by omega)]

theorem node_descriptor (i : Info) : Answer.node? (some i.descriptor) =
    if i.generations ≤ 62 then some i.throughReal else none := by
  have hparse := Value.written_of_text (value_integral i)
  rw [descriptor_eq, Answer.node?, Option.bind_some, Answer.json_of_parse hparse,
    ofWritten_maxDepth]
  split
  · rw [Option.bind_some, ofValue_value]
  · rfl

theorem parse_descriptor (i : Info) : parse? i.descriptor =
    if i.generations ≤ 62 then some i.throughReal else none := by
  rw [descriptor_eq, parse?, Value.written_of_text (value_integral i), Option.bind_some]
  by_cases h : i.generations ≤ 62
  · have hvalue := ofWritten_maxDepth i
    have hdistinct := distinct_value i
    rw [if_pos h] at hvalue ⊢
    rw [value_eq, Value.written] at hvalue hdistinct
    rw [value_eq, Value.written, ofWritten_routes hvalue hdistinct, ← value_eq, ofValue_value]
  · rw [if_neg h, ofWritten_deep (by omega)]

mutual

theorem Words.mono {P Q : Int64 → Prop} (hPQ : ∀ n, P n → Q n) :
    ∀ i : Info, i.Words P → i.Words Q
  | { children, .. }, h => by
    obtain ⟨hbounds, hindex, hdepth, horder, hcount, hchildren⟩ := h
    exact ⟨fun e => hPQ _ (hbounds e), hPQ _ hindex, hPQ _ hdepth, hPQ _ horder, hPQ _ hcount,
      WordsAll.mono hPQ children hchildren⟩

theorem WordsAll.mono {P Q : Int64 → Prop} (hPQ : ∀ n, P n → Q n) :
    ∀ is : List Info, WordsAll P is → WordsAll Q is
  | [], _ => trivial
  | i :: is, h => ⟨Words.mono hPQ i h.1, WordsAll.mono hPQ is h.2⟩

end

theorem descriptor_exact {i : Info} (hwords : i.Words Exact) (hgenerations : i.generations ≤ 62) :
    parse? i.descriptor = some i ∧ Answer.node? (some i.descriptor) = some i := by
  have hexact := throughReal_exact i hwords
  rw [parse_descriptor, node_descriptor, if_pos hgenerations, hexact]
  exact ⟨rfl, rfl⟩

theorem json_fine {s : String} {n : Nat}
    (hs : ∀ w, Written.parse? (Text.trimText s) = some w → w.depth ≤ n) {v : Value}
    (h : Answer.json? s = some v) : v.Fine n := by
  obtain ⟨w, hw, hv⟩ := Option.bind_eq_some_iff.mp h
  exact Value.ofWritten_fine w hv (hs w hw)

theorem nodes_fine {s : String} {n : Nat}
    (hs : ∀ w, Written.parse? (Text.trimText s) = some w → w.depth ≤ n) {i : Info}
    (h : i ∈ Answer.nodes (some s)) : i.Words Exact ∧ 2 * i.generations + 1 ≤ n := by
  rw [Answer.nodes, Option.bind_some] at h
  split at h
  · next vs hjson =>
    have hfine := json_fine hs hjson
    have hi := ofValues_fine vs hfine.2 i h
    exact ⟨hi.1, by omega⟩
  · next v _ hjson => exact ofValues_fine [v] ⟨json_fine hs hjson, trivial⟩ i h
  · cases h

theorem node_fine {s : String} {n : Nat}
    (hs : ∀ w, Written.parse? (Text.trimText s) = some w → w.depth ≤ n) {i : Info}
    (h : Answer.node? (some s) = some i) : i.Words Exact ∧ 2 * i.generations + 1 ≤ n := by
  rw [Answer.node?, Option.bind_some] at h
  obtain ⟨v, hjson, hi⟩ := Option.bind_eq_some_iff.mp h
  exact ofValue_fine v (json_fine hs hjson) hi

theorem parse_fine {s : String} {n : Nat}
    (hs : ∀ w, Written.parse? (Text.trimText s) = some w → w.depth ≤ n) {i : Info}
    (h : parse? s = some i) : i.Words Exact ∧ 2 * i.generations + 1 ≤ n := by
  obtain ⟨w, hw, hi⟩ := Option.bind_eq_some_iff.mp h
  exact ofWritten_fine (hs w (Written.parse_trimText hw)) hi

/-- What is decoded from a text of at most 126 levels is decoded from its descriptor again, and so
is every node with words of at most 53 bits and 62 generations of children. -/
theorem descriptor_normal_form (i : Info) :
    (∀ s, (∀ w, Written.parse? (Text.trimText s) = some w → w.depth ≤ 126) →
        parse? s = some i ∨ Answer.node? (some s) = some i ∨ i ∈ Answer.nodes (some s) →
        parse? i.descriptor = some i ∧ Answer.node? (some i.descriptor) = some i) ∧
      (i.generations ≤ 62 → i.Words (fun n => n.toInt.natAbs ≤ 2 ^ 53) →
        parse? i.descriptor = some i ∧ Answer.node? (some i.descriptor) = some i) := by
  constructor
  · intro s hs h
    have hfine : i.Words Exact ∧ 2 * i.generations + 1 ≤ 126 := by
      rcases h with h | h | h
      · exact parse_fine hs h
      · exact node_fine hs h
      · exact nodes_fine hs h
    exact descriptor_exact hfine.1 (by omega)
  · intro hgenerations hwords
    exact descriptor_exact (Words.mono (fun _ => Word.throughReal_small) i hwords) hgenerations

theorem saturated_node_decoded_again :
    let s := "[\x7b\"depth\":1e19\x7d]"
    let i : Info := { depth := Int64.maxValue }
    let j : Info := { text := "\"\\\x07é", childCount := 9007199254740992, children := [{}] }
    (i ∈ Answer.nodes (some s) ∧ parse? i.descriptor = some i ∧
        Answer.node? (some i.descriptor) = some i) ∧
      parse? j.descriptor = some j ∧ Answer.node? (some j.descriptor) = some j := by
  intro s i j
  have hparse : Written.parse? (Text.trimText s) = some (.array [.object
      [(some "depth", .number ⟨false, ['1'], none, some (false, ['1', '9'])⟩)]]) := by
    cbv
  have hs : ∀ w, Written.parse? (Text.trimText s) = some w → w.depth ≤ 126 := by
    intro w hw
    rw [hparse] at hw
    cases hw
    decide
  have hnumber : Numeral.number? ⟨false, ['1'], none, some (false, ['1', '9'])⟩ =
      some (.real (.finite false 4882812500000000 11)) := by
    decide +kernel
  have hjson : Answer.json? s =
      some (.array [.object [("depth", .number (.real (.finite false 4882812500000000 11)))]]) := by
    rw [Answer.json?, Value.parse?, hparse, Option.bind_some]
    simp [Value.ofWritten?, Value.ofItems?, Value.ofMembers?, hnumber, maxDepth, sortMembers,
      putMember]
  have hword : Binary64.toWord (.finite false 4882812500000000 11) = Int64.maxValue := by
    decide +kernel
  have hi : i ∈ Answer.nodes (some s) := by
    have hnodes : Answer.nodes (some s) = [{ depth := Int64.maxValue }] := by
      rw [Answer.nodes, Option.bind_some, hjson, ← hword]
      rfl
    rw [hnodes]
    exact List.mem_singleton.mpr rfl
  refine ⟨⟨hi, (descriptor_normal_form i).1 s hs (.inr (.inr hi))⟩, ?_⟩
  have hbounds := Bounds.default_words (P := fun n => n.toInt.natAbs ≤ 2 ^ 53) (by decide)
  apply (descriptor_normal_form j).2 (by decide)
  refine ⟨hbounds, by decide, by decide, by decide, by decide, ⟨hbounds, ?_⟩, trivial⟩
  exact ⟨by decide, by decide, by decide, by decide, trivial⟩

def lineage : Nat → Info
  | 0 => {}
  | n + 1 => { children := [lineage n] }

theorem lineage_generations (n : Nat) : (lineage n).generations = n := by
  induction n with
  | zero => rfl
  | succ n ih =>
    rw [lineage, generations, generationsAll, generationsAll, ih]
    omega

theorem lineage_words {P : Int64 → Prop} (hzero : P 0) (hindex : P (-1)) (n : Nat) :
    (lineage n).Words P := by
  have hbounds := Bounds.default_words hzero
  induction n with
  | zero => exact ⟨hbounds, hindex, hzero, hzero, hzero, trivial⟩
  | succ n ih => exact ⟨hbounds, hindex, hzero, hzero, hzero, ih, trivial⟩

theorem sixty_three_generations_rejected :
    (lineage 63).generations = 63 ∧ (lineage 63).Words (fun n => n.toInt.natAbs ≤ 2 ^ 53) ∧
      parse? (lineage 63).descriptor = none ∧
      Answer.node? (some (lineage 63).descriptor) = none := by
  have hgenerations := lineage_generations 63
  refine ⟨hgenerations, lineage_words (by decide) (by decide) 63, ?_, ?_⟩
  · rw [parse_descriptor, hgenerations, if_neg (by decide)]
  · rw [node_descriptor, hgenerations, if_neg (by decide)]

end Info

end ScreenScript.Node
