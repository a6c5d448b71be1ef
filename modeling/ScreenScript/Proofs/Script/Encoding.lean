import ScreenScript.Proofs.Json.RoundTrip
import ScreenScript.Script.Api.Namespaces

/-!
The JSON texts of script values, and the values that are read from them again.
-/

namespace ScreenScript.Script

open Json (Value.Integral Value.IntegralItems Value.IntegralMembers)

namespace Value

mutual

def Storable : Value → Prop
  | unit => True
  | bool _ => True
  | int _ => True
  | string _ => True
  | array vs => StorableItems vs
  | map es => (es.map (·.1)).Pairwise (· < ·) ∧ StorableEntries es
  | _ => False

def StorableItems : List Value → Prop
  | [] => True
  | v :: vs => Storable v ∧ StorableItems vs

def StorableEntries : List (String × Value) → Prop
  | [] => True
  | (_, v) :: es => Storable v ∧ StorableEntries es

end

mutual

def levels : Value → Nat
  | array vs => levelsItems vs + 1
  | map es => levelsEntries es + 1
  | _ => 0

def levelsItems : List Value → Nat
  | [] => 0
  | v :: vs => max (levels v) (levelsItems vs)

def levelsEntries : List (String × Value) → Nat
  | [] => 0
  | (_, v) :: es => max (levels v) (levelsEntries es)

end

/-- `j` is the JSON form of `v`, and is not changed by printing and reading but for its depth. -/
structure Codes (v : Value) (j : Json.Value) : Prop where
  json : json? v = some j
  integral : j.Integral
  depth : j.depth = v.levels
  sorted : j.sorted = j
  value : ofJson j = v

structure CodesItems (vs : List Value) (js : List Json.Value) : Prop where
  json : jsonItems? vs = some js
  integral : Value.IntegralItems js
  depth : Json.Value.depthItems js = levelsItems vs
  sorted : Json.Value.sortedItems js = js
  value : ofJsonItems js = vs

structure CodesEntries (es : List (String × Value)) (ms : List (String × Json.Value)) : Prop where
  json : jsonMembers? es = some ms
  integral : Value.IntegralMembers ms
  depth : Json.Value.depthMembers ms = levelsEntries es
  sorted : Json.Value.sortedMembers ms = ms
  value : ofJsonMembers ms = es

theorem keys_ofJson (ms : List (String × Json.Value)) :
    (ofJsonMembers ms).map (·.1) = ms.map (·.1) := by
  induction ms with
  | nil => rfl
  | cons m ms ih => rw [ofJsonMembers, List.map_cons, List.map_cons, ih]

theorem ofNumber_word (n : Int64) : ofNumber (.whole n.toInt) = int n := by
  have hfits : Word.fits n.toInt = true := by
    simp only [Word.fits, Bool.and_eq_true, decide_eq_true_eq]
    exact ⟨n.minValue_le_toInt, n.toInt_le⟩
  simp only [ofNumber, Word.ofInt?, hfits, if_true, Int64.ofInt_toInt]

mutual

theorem Storable.codes : ∀ v : Value, v.Storable → ∃ j, Codes v j
  | unit, _ => ⟨.null, rfl, trivial, rfl, rfl, rfl⟩
  | bool b, _ => ⟨.bool b, rfl, trivial, rfl, rfl, rfl⟩
  | int n, _ =>
    ⟨.number (.whole n.toInt), rfl, Json.Value.integral_word n, rfl, rfl, ofNumber_word n⟩
  | string s, _ => ⟨.string s, rfl, trivial, rfl, rfl, rfl⟩
  | array vs, h => by
    obtain ⟨js, hjs⟩ := Storable.codesItems vs h
    refine ⟨.array js, ?_, hjs.integral, ?_, ?_, ?_⟩
    · rw [json?, hjs.json, Option.map_some]
    · rw [Json.Value.depth, hjs.depth, levels]
    · rw [Json.Value.sorted, hjs.sorted]
    · rw [ofJson, hjs.value]
  | map es, h => by
    obtain ⟨ms, hms⟩ := Storable.codesEntries es h.2
    have hkeys : (ms.map (·.1)).Pairwise (· < ·) := by
      rw [← keys_ofJson, hms.value]
      exact h.1
    refine ⟨.object ms, ?_, hms.integral, ?_, ?_, ?_⟩
    · rw [json?, hms.json, Option.map_some]
    · rw [Json.Value.depth, hms.depth, levels]
    · rw [Json.Value.sorted, hms.sorted, Json.sortMembers_ascending hkeys]
    · rw [ofJson, hms.value]

theorem Storable.codesItems : ∀ vs : List Value, StorableItems vs → ∃ js, CodesItems vs js
  | [], _ => ⟨[], rfl, trivial, rfl, rfl, rfl⟩
  | v :: vs, h => by
    obtain ⟨j, hj⟩ := Storable.codes v h.1
    obtain ⟨js, hjs⟩ := Storable.codesItems vs h.2
    refine ⟨j :: js, ?_, ⟨hj.integral, hjs.integral⟩, ?_, ?_, ?_⟩
    · rw [jsonItems?, hj.json, hjs.json]
      rfl
    · rw [Json.Value.depthItems, hj.depth, hjs.depth, levelsItems]
    · rw [Json.Value.sortedItems, hj.sorted, hjs.sorted]
    · rw [ofJsonItems, hj.value, hjs.value]

theorem Storable.codesEntries : ∀ es : List (String × Value), StorableEntries es →
    ∃ ms, CodesEntries es ms
  | [], _ => ⟨[], rfl, trivial, rfl, rfl, rfl⟩
  | (k, v) :: es, h => by
    obtain ⟨j, hj⟩ := Storable.codes v h.1
    obtain ⟨ms, hms⟩ := Storable.codesEntries es h.2
    refine ⟨(k, j) :: ms, ?_, ⟨hj.integral, hms.integral⟩, ?_, ?_, ?_⟩
    · rw [jsonMembers?, hj.json, hms.json]
      rfl
    · rw [Json.Value.depthMembers, hj.depth, hms.depth, levelsEntries]
    · rw [Json.Value.sortedMembers, hj.sorted, hms.sorted]
    · rw [ofJsonMembers, hj.value, hms.value]

end

theorem Codes.read {v : Value} {j : Json.Value} (h : Codes v j)
    (hlevels : v.levels ≤ Json.maxDepth) : Answer.json? v.encoded = some j := by
  have htext : v.encoded = j.text := by rw [encoded, h.json, Option.getD_some]
  rw [htext, Answer.json_of_parse (Json.Value.written_of_text h.integral),
    Json.Value.ofWritten_written j Json.maxDepth h.integral, h.depth, if_pos hlevels, h.sorted]

/-- A stored unit is as good as nothing. -/
def present? : Value → Option Value
  | unit => none
  | v => some v

theorem present_ofNumber (n : Json.Number) : (ofNumber n).present? = some (ofNumber n) := by
  cases n with
  | whole n =>
    simp only [ofNumber]
    cases Word.ofInt? n <;> rfl
  | real x => rfl

theorem stored_encoded {v : Value} (hv : v.Storable) (hlevels : v.levels ≤ Json.maxDepth) :
    Api.storedValue? v.encoded = v.present? := by
  obtain ⟨j, hj⟩ := Storable.codes v hv
  rw [Api.storedValue?, hj.read hlevels, ← hj.value]
  cases j with
  | number n => exact (present_ofNumber n).symm
  | _ => rfl

end Value

end ScreenScript.Script
