import ScreenScript.Proofs.Json.Depth
import ScreenScript.Proofs.Json.Reading
import ScreenScript.Proofs.Node.Routes

namespace ScreenScript

namespace Text

def Blanks (s : List Char) : Prop :=
  ∀ c ∈ s, isBlank c = true

structure Trimmed (s t : List Char) : Prop where
  split : ∃ a b, s = a ++ (t ++ b) ∧ Blanks a ∧ Blanks b
  head : ∀ c ∈ t.head?, isBlank c = false
  last : ∀ c ∈ t.getLast?, isBlank c = false

theorem dropWhile_blanks {a : List Char} (ha : Blanks a) (s : List Char) :
    (a ++ s).dropWhile isBlank = s.dropWhile isBlank :=
  List.dropWhile_append_of_pos ha

theorem dropWhile_clear {s : List Char} (h : ∀ c ∈ s.head?, isBlank c = false) :
    s.dropWhile isBlank = s := by
  cases s with
  | nil => rfl
  | cons c s => exact List.dropWhile_cons_of_neg (by simp [h c rfl])

theorem head_dropWhile (s : List Char) : ∀ c ∈ (s.dropWhile isBlank).head?, isBlank c = false := by
  intro c hc
  have h := List.head?_dropWhile_not isBlank s
  rw [hc] at h
  simpa using h

theorem trimEnd_blanks {b : List Char} (hb : Blanks b) (s : List Char) :
    trimEnd (s ++ b) = trimEnd s := by
  have hreverse : Blanks b.reverse := fun c hc => hb c (List.mem_reverse.mp hc)
  rw [trimEnd, List.reverse_append, dropWhile_blanks hreverse, trimEnd]

theorem trim_padded {a b : List Char} (ha : Blanks a) (hb : Blanks b) (s : List Char) :
    trim (a ++ (s ++ b)) = trim s := by
  have hall : b.dropWhile isBlank = [] := by
    simpa using dropWhile_blanks hb []
  rw [trim, trim, trimStart, trimStart, dropWhile_blanks ha, List.dropWhile_append, hall]
  split
  · next hempty => rw [List.isEmpty_iff.mp hempty]
  · exact trimEnd_blanks hb _

theorem trim_of_trimmed {s t : List Char} (h : Trimmed s t) : trim s = t := by
  obtain ⟨a, b, rfl, ha, hb⟩ := h.split
  have hlast : ∀ c ∈ t.reverse.head?, isBlank c = false := by
    rw [List.head?_reverse]
    exact h.last
  rw [trim_padded ha hb, trim, trimStart, dropWhile_clear h.head, trimEnd, dropWhile_clear hlast,
    List.reverse_reverse]

theorem trimEnd_split (s : List Char) : ∃ b, s = trimEnd s ++ b ∧ Blanks b := by
  refine ⟨(s.reverse.takeWhile isBlank).reverse, ?_, ?_⟩
  · rw [trimEnd, ← List.reverse_append, List.takeWhile_append_dropWhile, List.reverse_reverse]
  · intro c hc
    exact List.mem_takeWhile_imp (List.mem_reverse.mp hc)

theorem trimmed_trim (s : List Char) : Trimmed s (trim s) := by
  obtain ⟨b, hsplit, hb⟩ := trimEnd_split (trimStart s)
  refine ⟨⟨s.takeWhile isBlank, b, ?_, fun c hc => List.mem_takeWhile_imp hc, hb⟩, ?_, ?_⟩
  · rw [trim, ← hsplit, trimStart, List.takeWhile_append_dropWhile]
  · intro c hc
    have hhead : c ∈ (trimStart s).head? := by
      rw [hsplit, List.head?_append]
      rw [show (trimEnd (trimStart s)).head? = some c from hc]
      rfl
    exact head_dropWhile s c hhead
  · rw [trim, trimEnd, List.getLast?_reverse]
    exact head_dropWhile _

theorem trimmed_iff {s t : List Char} : Trimmed s t ↔ trim s = t :=
  ⟨trim_of_trimmed, fun h => h ▸ trimmed_trim s⟩

instance (s t : List Char) : Decidable (Trimmed s t) :=
  decidable_of_iff _ trimmed_iff.symm

end Text

namespace Json

/-- An array of texts, with nothing but commas added between them. -/
def arrayText (ts : List String) : String :=
  "[" ++ ",".intercalate ts ++ "]"

theorem arrayText_toList (ts : List String) :
    (arrayText ts).toList = '[' :: ([','].intercalate (ts.map String.toList) ++ [']']) := by
  rw [arrayText]
  simp [String.toList_intercalate]

namespace Written

theorem reads_text {t : String} {w : Written} (h : parse? t = some w) :
    ∃ q sp, Spaces sp ∧ t.toList = q ++ sp ∧ Reads q w := by
  obtain ⟨sp, p, sp', hsp, hsp', ht, hp⟩ := parse_spelt h
  exact ⟨sp ++ p, sp', hsp', by rw [ht, List.append_assoc], hp.spaced hsp⟩

theorem spellsItems_texts {ts : List String} {ws : List Written}
    (h : List.Forall₂ (fun t w => parse? t = some w) ts ws) (hne : ts ≠ []) :
    SpellsItems ([','].intercalate (ts.map String.toList) ++ [']']) ws := by
  induction h with
  | nil => exact absurd rfl hne
  | @cons t w ts ws ht hts ih =>
    obtain ⟨q, sp, hsp, heq, hq⟩ := reads_text ht
    cases hts with
    | nil =>
      have hlast := spellsItems_last hq hsp
      simpa [heq] using hlast
    | cons ht' hts =>
      have hcons := spellsItems_cons hq hsp (ih (List.cons_ne_nil _ _))
      simpa [heq] using hcons

theorem parse_arrayText {ts : List String} {ws : List Written}
    (h : List.Forall₂ (fun t w => parse? t = some w) ts ws) :
    parse? (arrayText ts) = some (.array ws) := by
  have hspells : Spells ('[' :: ([','].intercalate (ts.map String.toList) ++ [']'])) (.array ws) := by
    cases ts with
    | nil =>
      cases h
      exact spells_array_nil Spaces.nil
    | cons t ts => exact (spellsItems_texts h (List.cons_ne_nil t ts)).array
  have hparse := hspells.parse Spaces.nil Spaces.nil
  rw [List.nil_append, List.append_nil, ← arrayText_toList, String.ofList_toList] at hparse
  exact hparse

end Written

namespace Value

mutual

theorem ofWritten_allowed : ∀ (w : Written) {n m : Nat}, w.depth ≤ n → w.depth ≤ m →
    ofWritten? n w = ofWritten? m w
  | .null, _, _, _, _ => rfl
  | .bool _, _, _, _, _ => rfl
  | .number _, _, _, _, _ => rfl
  | .string _, _, _, _, _ => rfl
  | .array ws, n, m, hn, hm => by
    rw [Written.depth] at hn hm
    rw [ofWritten?, ofWritten?, if_neg (by omega), if_neg (by omega),
      ofItems_allowed ws (n := n - 1) (m := m - 1) (by omega) (by omega)]
  | .object ms, n, m, hn, hm => by
    rw [Written.depth] at hn hm
    rw [ofWritten?, ofWritten?, if_neg (by omega), if_neg (by omega),
      ofMembers_allowed ms (n := n - 1) (m := m - 1) (by omega) (by omega)]

theorem ofItems_allowed : ∀ (ws : List Written) {n m : Nat}, Written.depthItems ws ≤ n →
    Written.depthItems ws ≤ m → ofItems? n ws = ofItems? m ws
  | [], _, _, _, _ => rfl
  | w :: ws, _, _, hn, hm => by
    rw [Written.depthItems, Nat.max_le] at hn hm
    rw [ofItems?, ofItems?, ofWritten_allowed w hn.1 hm.1, ofItems_allowed ws hn.2 hm.2]

theorem ofMembers_allowed : ∀ (ms : List (Option String × Written)) {n m : Nat},
    Written.depthMembers ms ≤ n → Written.depthMembers ms ≤ m → ofMembers? n ms = ofMembers? m ms
  | [], _, _, _, _ => rfl
  | (_, w) :: ms, _, _, hn, hm => by
    rw [Written.depthMembers, Nat.max_le] at hn hm
    rw [ofMembers?, ofMembers?, ofWritten_allowed w hn.1 hm.1, ofMembers_allowed ms hn.2 hm.2]

end

end Value

end Json

namespace Answer

open Json Node

theorem ofValues_eq (vs : List Value) : Info.ofValues vs = vs.filterMap Info.ofValue? := by
  induction vs with
  | nil => rfl
  | cons v vs ih =>
    rw [Info.ofValues, List.filterMap_cons]
    cases Info.ofValue? v with
    | none => exact ih
    | some i => rw [ih]

def JsonText (levels : Nat) (t : String) : Prop :=
  (Value.parse? t).isSome ∧ ∃ w, Written.parse? t = some w ∧ w.depth ≤ levels

theorem JsonText.values {levels : Nat} {ts : List String} (h : ∀ t ∈ ts, JsonText levels t)
    (hlevels : levels ≤ maxDepth) : ∃ ws vs,
      List.Forall₂ (fun t w => Written.parse? t = some w) ts ws ∧
        Value.ofItems? levels ws = some vs ∧
        vs.filterMap Info.ofValue? = ts.filterMap fun t => node? (some t) := by
  induction ts with
  | nil => exact ⟨[], [], .nil, rfl, rfl⟩
  | cons t ts ih =>
    obtain ⟨⟨hvalue, w, hw, hdepth⟩, hts⟩ := List.forall_mem_cons.mp h
    obtain ⟨ws, vs, hws, hvs, hnodes⟩ := ih hts
    obtain ⟨v, hv⟩ := Option.isSome_iff_exists.mp hvalue
    rw [Value.parse?, hw, Option.bind_some] at hv
    have hnode : node? (some t) = Info.ofValue? v :=
      node_of_json (by rw [json_of_parse hw, hv])
    refine ⟨w :: ws, v :: vs, .cons hw hws, ?_, ?_⟩
    · rw [Value.ofItems?, Value.ofWritten_allowed w hdepth (hdepth.trans hlevels), hv, hvs]
      rfl
    · rw [List.filterMap_cons, List.filterMap_cons, hnode, hnodes]

theorem nodes_arrayText {ts : List String} (h : ∀ t ∈ ts, JsonText (maxDepth - 1) t) :
    nodes (some (arrayText ts)) = ts.filterMap fun t => node? (some t) := by
  obtain ⟨ws, vs, hws, hvs, hnodes⟩ := JsonText.values h (Nat.sub_le ..)
  have hjson : json? (arrayText ts) = some (.array vs) := by
    rw [json_of_parse (Written.parse_arrayText hws), Value.ofWritten?, if_neg (by decide), hvs]
    rfl
  rw [nodes, Option.bind_some, hjson, ← hnodes]
  exact ofValues_eq vs

theorem json?_eq {s : String} {t : List Char} (h : Text.Trimmed s.toList t) :
    json? s = Value.parse? (String.ofList t) := by
  rw [json?, Text.trimText, Text.trim_of_trimmed h]

theorem json?_padded {a b : String} (ha : Text.Blanks a.toList) (hb : Text.Blanks b.toList)
    (s : String) : json? (a ++ s ++ b) = json? s := by
  have htoList : (a ++ s ++ b).toList = a.toList ++ (s.toList ++ b.toList) := by simp
  rw [json?, json?, Text.trimText, Text.trimText, htoList, Text.trim_padded ha hb]

theorem nodes_of_no_array {s : String} (h : ∀ vs, json? s ≠ some (.array vs)) :
    nodes (some s) = (node? (some s)).toList := by
  rw [nodes, node?, Option.bind_some]
  cases hjson : json? s with
  | none => rfl
  | some v =>
    have hlone : Info.ofValues [v] = (Info.ofValue? v).toList := by
      rw [ofValues_eq]
      cases hv : Info.ofValue? v <;> simp [hv]
    split
    · next heq => exact absurd (hjson.trans heq) (h _)
    · next heq =>
      cases heq
      exact hlone
    · next heq => cases heq

/-- A single answer is a node exactly if the text without the blanks at its ends is an object that
describes one, and then it is that node. A list that is put together from texts is the nodes that
they are one by one, in order; any other text that is no array is a list of the node that it is; and
blanks at the ends make no difference. -/
theorem single_and_list_agree :
    (∀ s i, node? (some s) = some i ↔ ∃ t ms, Text.Trimmed s.toList t ∧
        Value.parse? (String.ofList t) = some (.object ms) ∧ Info.ofValue? (.object ms) = some i) ∧
      (∀ ts, (∀ t ∈ ts, JsonText 126 t) →
        nodes (some (arrayText ts)) = ts.filterMap fun t => node? (some t)) ∧
      (∀ s t, Text.Trimmed s.toList t → (∀ vs, Value.parse? (String.ofList t) ≠ some (.array vs)) →
        nodes (some s) = (node? (some s)).toList) ∧
      ∀ a s b, Text.Blanks a.toList → Text.Blanks b.toList →
        node? (some (a ++ s ++ b)) = node? (some s) ∧
          nodes (some (a ++ s ++ b)) = nodes (some s) := by
  refine ⟨?_, fun ts => nodes_arrayText, ?_, ?_⟩
  · intro s i
    rw [node?, Option.bind_some]
    constructor
    · intro h
      obtain ⟨v, hv, hi⟩ := Option.bind_eq_some_iff.mp h
      cases v with
      | object ms =>
        exact ⟨_, ms, Text.trimmed_trim s.toList, hv, hi⟩
      | _ => cases hi
    · rintro ⟨t, ms, ht, hv, hi⟩
      rw [json?_eq ht, hv, Option.bind_some, hi]
  · intro s t ht harray
    apply nodes_of_no_array
    intro vs
    rw [json?_eq ht]
    exact harray vs
  · intro a s b ha hb
    rw [node?, node?, nodes, nodes]
    simp only [Option.bind_some, json?_padded ha hb, and_self]

/-- Of a node, nothing, a list and an object that is no node, only the first is in the list; alone
and with an ideographic space in front it is that node as well. -/
theorem mixed_texts_answered_alike :
    let s := "\x7b\"_text\":\"a\"\x7d"
    let ts := [s, " null", "[[],1]", "\x7b\"id\":\"\",\"_id\":\"\"\x7d"]
    (node? (some s)).isSome ∧ nodes (some (arrayText ts)) = (node? (some s)).toList ∧
      nodes (some s) = (node? (some s)).toList ∧
      nodes (some ("\u3000" ++ s ++ "\n")) = (node? (some s)).toList := by
  intro s ts
  obtain ⟨hsingle, hlist, hlone, hpadding⟩ := single_and_list_agree
  have hs : Value.parse? s = some (.object [("_text", .string "a")]) := by cbv
  have htrimmed : Text.Trimmed s.toList s.toList := by decide +kernel
  have hnone : ∀ t ∈ [" null", "[[],1]", "\x7b\"id\":\"\",\"_id\":\"\"\x7d"],
      node? (some t) = none := by
    decide +kernel
  have htexts : ∀ t ∈ ts, JsonText 126 t := by
    simp only [ts, List.forall_mem_cons]
    refine ⟨⟨by decide +kernel, .object [(some "_text", .string (some "a"))], by cbv, by decide⟩,
      ⟨by decide +kernel, .null, by cbv, by decide⟩,
      ⟨by decide +kernel, .array [.array [], .number ⟨false, ['1'], none, none⟩], by cbv,
        by decide⟩,
      ⟨by decide +kernel, .object [(some "id", .string (some "")), (some "_id", .string (some ""))],
        by cbv, by decide⟩, fun _ h => absurd h List.not_mem_nil⟩
  have halone : nodes (some s) = (node? (some s)).toList := by
    refine hlone s s.toList htrimmed fun vs hvs => ?_
    rw [String.ofList_toList, hs] at hvs
    cases hvs
  refine ⟨?_, ?_, halone, ?_⟩
  · rw [(hsingle s _).mpr ⟨s.toList, _, htrimmed, by rw [String.ofList_toList, hs], rfl⟩]
    rfl
  · rw [hlist ts htexts, List.filterMap_cons, List.filterMap_eq_nil_iff.mpr hnone]
    cases node? (some s) <;> rfl
  · have hfront : Text.Blanks "\u3000".toList := by simp [Text.Blanks, Text.isBlank]
    have hback : Text.Blanks "\n".toList := by simp [Text.Blanks, Text.isBlank]
    rw [(hpadding _ s _ hfront hback).2, halone]

end Answer

end ScreenScript
