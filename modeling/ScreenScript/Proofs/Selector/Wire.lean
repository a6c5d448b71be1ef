import ScreenScript.Proofs.Json.Printing
import ScreenScript.Selector.Store

namespace ScreenScript.Selector

open Json

theorem Kind.mem_all (k : Kind) : k ∈ Kind.all := by
  cases k with
  | text f m => cases f <;> cases m <;> decide
  | flag f => cases f <;> decide
  | depth => decide
  | drawingOrder => decide

theorem Kind.ofName_name (k : Kind) : Kind.ofName? k.name = some k := by
  have hall : ∀ k ∈ Kind.all, Kind.ofName? k.name = some k := by decide
  exact hall k k.mem_all

theorem Kind.name_of_ofName? {name : String} {k : Kind} (h : Kind.ofName? name = some k) :
    k.name = name := by
  simpa using List.find?_some h

namespace Condition

def written (c : Condition) : Written :=
  .object [(some "type", .string (some c.kind.name)), (some "value", .string (some c.value))]

theorem spells_json (c : Condition) : Written.Spells c.json c.written := by
  let text (m : String × String) : List Char := Value.printString m.2
  let tree (m : String × String) : Written := .string (some m.2)
  let key (m : String × String) : String := m.1
  have hspells : ∀ m ∈ [("type", c.kind.name), ("value", c.value)],
      Written.Spells (text m) (tree m) := fun m _ => spells_printString m.2
  exact @spells_printObject _ text tree key _ hspells

theorem parse_jsonAll (cs : List Condition) :
    Written.parse? (jsonAll cs) = some (.array (cs.map written)) := by
  have hspells := spells_printArray cs fun c _ => spells_json c
  have hparse := hspells.parse Written.Spaces.nil Written.Spaces.nil
  rwa [List.nil_append, List.append_nil] at hparse

theorem ofWritten_written (c : Condition) : ofWritten? c.written = some c := by
  have htype : only? "type" [(some "type", .string (some c.kind.name)),
      (some "value", .string (some c.value))] = some c.kind.name := rfl
  have hvalue : only? "value" [(some "type", .string (some c.kind.name)),
      (some "value", .string (some c.value))] = some c.value := rfl
  simp only [ofWritten?, written, htype, hvalue, ofTexts?, Kind.ofName_name, List.all_cons,
    List.all_nil, Option.isSome_some, Bool.and_self, if_true, Option.bind_eq_bind,
    Option.bind_some, Option.pure_def]

theorem mapM_written (cs : List Condition) : (cs.map written).mapM ofWritten? = some cs := by
  induction cs with
  | nil => rfl
  | cons c cs ih =>
    simp only [List.map_cons, List.mapM_cons, ofWritten_written, ih, Option.bind_eq_bind,
      Option.bind_some, Option.pure_def]

theorem parseAll_jsonAll (cs : List Condition) : parseAll? (jsonAll cs) = some cs := by
  rw [parseAll?, parse_jsonAll]
  exact mapM_written cs

theorem jsonAll_injective : Function.Injective jsonAll := by
  intro cs ds h
  have hcs := parseAll_jsonAll cs
  rw [h, parseAll_jsonAll] at hcs
  exact (Option.some.inj hcs).symm

end Condition

open Condition

/-- The text of a selector is an array with one object for each condition, in order, that holds the
name of its kind and its value. It is read as the selector's conditions, so no other list has this
text, and `[]` is the text of the empty list alone. Whatever text conditions are read from, they are
read again from their own. -/
theorem conditions_read_back :
    (∀ cs, Written.parse? (jsonAll cs) = some (.array (cs.map fun c => .object
      [(some "type", .string (some c.kind.name)), (some "value", .string (some c.value))]))) ∧
    (∀ cs, parseAll? (jsonAll cs) = some cs) ∧
    (∀ (s : Store) (h : Handle), parseAll? (s.text h) = some (s.conditions h)) ∧
    Function.Injective jsonAll ∧
    (∀ cs, jsonAll cs = "[]" ↔ cs = []) ∧
    ∀ text cs, parseAll? text = some cs → parseAll? (jsonAll cs) = some cs := by
  have hnil : jsonAll [] = "[]" := rfl
  have hselector : ∀ (s : Store) (h : Handle), parseAll? (s.text h) = some (s.conditions h) := by
    intro s h
    exact parseAll_jsonAll (s.conditions h)
  refine ⟨?_, parseAll_jsonAll, hselector, jsonAll_injective, ?_, fun _ cs _ => parseAll_jsonAll cs⟩
  · intro cs
    exact parse_jsonAll cs
  intro cs
  constructor
  · intro h
    exact jsonAll_injective (h.trans hnil.symm)
  · rintro rfl
    exact hnil

/-- A list with an array for an object, escapes and an unknown key. -/
theorem foreign_list_read_back :
    let text := "[[\"id\", \"\\ud83d\\ude00\"], \x7b\"x\": 1, \"value\": \"\\n\\u0041\", " ++
      "\"type\": \"depth\"\x7d]"
    let cs : List Condition := [⟨.text .id .exact, "😀"⟩, ⟨.depth, "\nA"⟩]
    parseAll? text = some cs ∧ parseAll? (jsonAll cs) = some cs := by
  intro text cs
  have htext : parseAll? text = some cs := by decide +kernel
  obtain ⟨-, -, -, -, -, hagain⟩ := conditions_read_back
  exact ⟨htext, hagain text cs htext⟩

end ScreenScript.Selector
