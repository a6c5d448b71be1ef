import ScreenScript.Node.Operation
import ScreenScript.Proofs.Node.Descriptors
import Mathlib.Logic.Relation

namespace ScreenScript

namespace Json.Numeral

theorem ofInt_injective : Function.Injective ofInt := by
  intro n m h
  have hsign := congrArg negative h
  have hdigits := congrArg (fun t => Decimal.value t.whole) h
  simp only [ofInt, value_ofNat, decide_eq_decide] at hsign hdigits
  omega

end Json.Numeral

namespace Node

open Json Relation

namespace Bounds

theorem key_eq (b : Bounds) : b.key = String.ofList b.json := by
  have hleft : "\x7b\"left\":".toList = '\x7b' :: (Value.printString "left" ++ [':']) := by decide
  have htop : ",\"top\":".toList = ',' :: (Value.printString "top" ++ [':']) := by decide
  have hright : ",\"right\":".toList = ',' :: (Value.printString "right" ++ [':']) := by decide
  have hbottom : ",\"bottom\":".toList = ',' :: (Value.printString "bottom" ++ [':']) := by decide
  rw [← String.toList_inj]
  delta key
  simp only [String.toList_append, hleft, htop, hright, hbottom]
  simp [json, Value.printObject, Edge.all, Edge.name, Word.text, Decimal.text, edge]

theorem key_text (b : Bounds) : b.key = b.value.text :=
  b.key_eq

theorem written_key (b : Bounds) : Written.parse? b.key = some b.value.written := by
  rw [key_text, Value.written_of_text b.value_integral]

theorem key_injective : Function.Injective key := by
  intro b c h
  have htree : b.value.written = c.value.written := by
    have hb := b.written_key
    rw [h, written_key] at hb
    exact (Option.some.inj hb).symm
  simp only [value, Edge.all, List.map_cons, List.map_nil, Value.written, Value.writtenMembers,
    edge, Written.object.injEq, List.cons.injEq, Prod.mk.injEq, Written.number.injEq, true_and,
    Json.Numeral.ofInt_injective.eq_iff, Int64.toInt_inj, and_true] at htree
  obtain ⟨hleft, htop, hright, hbottom⟩ := htree
  cases b
  cases c
  simp_all

theorem numberOfWritten_word (n : Int64) :
    Reading.numberOfWritten (.number (.ofInt n.toInt)) = some (some (.ofInt n.toInt)) := by
  obtain ⟨hlow, hhigh⟩ := Value.integral_word n
  rw [Reading.numberOfWritten, number_ofInt hlow hhigh]
  rfl

theorem parse_key (b : Bounds) : parse? b.key = some b.throughReal := by
  have hedges : Reading.edgesOfWritten (Edge.all.map fun e =>
      (some e.name, Written.number (.ofInt (b.edge e).toInt))) =
        some (Edge.all.map fun e => (e, some (some (.ofInt (b.edge e).toInt)))) := by
    simp only [Edge.all, List.map_cons, List.map_nil, Reading.edgesOfWritten, numberOfWritten_word]
    rfl
  have hwritten : b.value.written = .object (Edge.all.map fun e =>
      (some e.name, Written.number (.ofInt (b.edge e).toInt))) := rfl
  rw [parse?, written_key, hwritten]
  simp only [hedges, Option.bind_some, ofEdges_map]
  rfl

theorem json_key (b : Bounds) :
    (Answer.json? b.key).bind Reading.boundsOfValue = some b.throughReal := by
  have hdepth : b.value.depth ≤ maxDepth := (by decide : 1 ≤ 127)
  rw [Answer.json_of_parse b.written_key, Value.ofWritten_written _ _ b.value_integral,
    if_pos hdepth, Option.bind_some, boundsOfValue_value]

end Bounds

namespace Info

theorem descriptor_key (i : Info) : ∃ before after : List (String × List Char),
    i.descriptor = String.ofList
      (Value.printObject (before ++ ("bounds", i.bounds.key.toList) :: after)) ∧
    "bounds" ∉ before.map (·.1) ∧ "bounds" ∉ after.map (·.1) := by
  let numbers : List (String × Int64) := [("_indexInParent", i.indexInParent), ("_depth", i.depth),
    ("_drawingOrder", i.drawingOrder), ("childCount", i.childCount)]
  refine ⟨Field.written.map fun f => ("_" ++ f.name, Value.printString (i.field f)),
    numbers.map (fun m => (m.1, Decimal.ofInt m.2.toInt)) ++
      (Flag.all.map fun f => (f.name, Value.print (.bool (i.flag f)))) ++
      (if i.children.isEmpty then [] else [("_children", Value.printArray (jsonAll i.children))]),
    ?_, ?_, ?_⟩
  · rw [Bounds.key_eq, String.toList_ofList, descriptor]
    cases i
    simp [json, ownMembers, numbers]
  · rw [List.map_map]
    exact (by decide : "bounds" ∉ Field.written.map fun f => "_" ++ f.name)
  · simp only [List.map_append, List.map_map, List.mem_append, not_or]
    refine ⟨⟨?_, (by decide : "bounds" ∉ Flag.all.map Flag.name)⟩, ?_⟩
    · simp [numbers]
    · split <;> simp

theorem Words.descendant {P : Int64 → Prop} {i j : Info} (hi : i.Words P)
    (h : ReflTransGen (fun j k => k ∈ cachedChildren j) i j) : j.Words P := by
  induction h with
  | refl => exact hi
  | tail _ hk ih =>
    obtain ⟨-, -, -, -, -, hchildren⟩ := words_iff.mp ih
    exact wordsAll_iff.mp hchildren _ hk

theorem words_of_answer {s : String} {i : Info}
    (h : Answer.node? (some s) = some i ∨ i ∈ Answer.nodes (some s)) :
    i.Words Exact := by
  obtain ⟨n, hn⟩ : ∃ n, ∀ w, Written.parse? (Text.trimText s) = some w → w.depth ≤ n := by
    cases Written.parse? (Text.trimText s) with
    | none => exact ⟨0, nofun⟩
    | some w => exact ⟨w.depth, fun _ hw => Option.some.inj hw ▸ le_rfl⟩
  rcases h with h | h
  · exact (node_fine hn h).1
  · exact (nodes_fine hn h).1

end Info

/-- The key of every rectangle is its JSON text, and the text that a descriptor has for it; no other
rectangle has it; and for every node that comes with an answer, at whatever depth, the rectangle is
decoded from its key again, by itself or as a JSON value. -/
theorem key_identifies_rectangle :
    (∀ b : Bounds, b.key = b.value.text) ∧
    (∀ i : Info, ∃ before after : List (String × List Char),
      i.descriptor = String.ofList
        (Value.printObject (before ++ ("bounds", i.bounds.key.toList) :: after)) ∧
      "bounds" ∉ before.map (·.1) ∧ "bounds" ∉ after.map (·.1)) ∧
    (∀ b c : Bounds, b.key = c.key ↔ b = c) ∧
    ∀ s i j, Answer.node? (some s) = some i ∨ i ∈ Answer.nodes (some s) →
      ReflTransGen (fun j k => k ∈ cachedChildren j) i j →
      Bounds.parse? j.bounds.key = some j.bounds ∧
      (Answer.json? j.bounds.key).bind Reading.boundsOfValue = some j.bounds := by
  refine ⟨Bounds.key_text, Info.descriptor_key, fun b c => Bounds.key_injective.eq_iff, ?_⟩
  intro s i j hi hj
  have hwords := (Info.words_of_answer hi).descendant hj
  have hexact := Bounds.throughReal_exact (Info.words_iff.mp hwords).1
  rw [Bounds.parse_key, Bounds.json_key, hexact]
  exact ⟨rfl, rfl⟩

/-- An edge beyond the words, one that is `null`, a fraction and a missing one, of a node and of its
child. -/
theorem clamped_edges_decoded_again :
    let s := "\x7b\"bounds\":\x7b\"left\":1e19,\"top\":null,\"right\":-2.5\x7d," ++
      "\"_children\":[\x7b\"bounds\":[0.5,-1e30]\x7d]\x7d"
    let b : Bounds := { left := Int64.maxValue, right := -2 }
    let c : Bounds := { top := Int64.minValue }
    (∃ i j, Answer.node? (some s) = some i ∧ ReflTransGen (fun j k => k ∈ cachedChildren j) i j ∧
      i.bounds = b ∧ j.bounds = c ∧
      Bounds.parse? i.bounds.key = some i.bounds ∧ Bounds.parse? j.bounds.key = some j.bounds) ∧
    b.key = "\x7b\"left\":9223372036854775807,\"top\":0,\"right\":-2,\"bottom\":0\x7d" := by
  intro s b c
  have hs : (Answer.node? (some s)).map (fun i => (i.bounds, i.children.map (·.bounds))) =
      some (b, [c]) := by
    decide +kernel
  obtain ⟨i, hi, hbounds⟩ := Option.map_eq_some_iff.mp hs
  obtain ⟨hb, hchildren⟩ := Prod.mk.inj hbounds
  obtain ⟨j, hj, hc⟩ : ∃ j ∈ i.children, j.bounds = c := by
    rw [← List.mem_map, hchildren]
    exact List.mem_singleton.mpr rfl
  have hreached : ReflTransGen (fun j k => k ∈ cachedChildren j) i j := .single hj
  obtain ⟨-, -, -, hdecoded⟩ := key_identifies_rectangle
  exact ⟨⟨i, j, hi, hreached, hb, hc, (hdecoded s i i (.inl hi) .refl).1,
    (hdecoded s i j (.inl hi) hreached).1⟩, by decide +kernel⟩

end Node

end ScreenScript
