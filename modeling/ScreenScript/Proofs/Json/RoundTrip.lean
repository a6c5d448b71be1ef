import ScreenScript.Proofs.Json.Printing
import ScreenScript.Proofs.Json.Members

/-!
A value whose numbers are whole is read back from its text, its members sorted, exactly if it is not
nested too deeply.
-/

namespace ScreenScript.Json

namespace Value

mutual

def written : Value → Written
  | null => .null
  | bool b => .bool b
  | number (.whole n) => .number (.ofInt n)
  | number (.real _) => .null
  | string s => .string (some s)
  | array vs => .array (writtenItems vs)
  | object ms => .object (writtenMembers ms)

def writtenItems : List Value → List Written
  | [] => []
  | v :: vs => written v :: writtenItems vs

def writtenMembers : List (String × Value) → List (Option String × Written)
  | [] => []
  | (k, v) :: ms => (some k, written v) :: writtenMembers ms

end

mutual

def Integral : Value → Prop
  | number (.whole n) => Int64.minValue.toInt ≤ n ∧ n < Numeral.wordLimit
  | number (.real _) => False
  | array vs => IntegralItems vs
  | object ms => IntegralMembers ms
  | _ => True

def IntegralItems : List Value → Prop
  | [] => True
  | v :: vs => Integral v ∧ IntegralItems vs

def IntegralMembers : List (String × Value) → Prop
  | [] => True
  | (_, v) :: ms => Integral v ∧ IntegralMembers ms

end

mutual

def depth : Value → Nat
  | array vs => depthItems vs + 1
  | object ms => depthMembers ms + 1
  | _ => 0

def depthItems : List Value → Nat
  | [] => 0
  | v :: vs => max (depth v) (depthItems vs)

def depthMembers : List (String × Value) → Nat
  | [] => 0
  | (_, v) :: ms => max (depth v) (depthMembers ms)

end

mutual

def sorted : Value → Value
  | array vs => array (sortedItems vs)
  | object ms => object (sortMembers (sortedMembers ms))
  | v => v

def sortedItems : List Value → List Value
  | [] => []
  | v :: vs => sorted v :: sortedItems vs

def sortedMembers : List (String × Value) → List (String × Value)
  | [] => []
  | (k, v) :: ms => (k, sorted v) :: sortedMembers ms

end

theorem printItems_eq (vs : List Value) : printItems vs = vs.map print := by
  induction vs with
  | nil => rfl
  | cons v vs ih => rw [printItems, ih, List.map_cons]

theorem printMembers_eq (ms : List (String × Value)) :
    printMembers ms = ms.map fun m => (m.1, print m.2) := by
  induction ms with
  | nil => rfl
  | cons m ms ih => rw [printMembers, ih, List.map_cons]

theorem writtenItems_eq (vs : List Value) : writtenItems vs = vs.map written := by
  induction vs with
  | nil => rfl
  | cons v vs ih => rw [writtenItems, ih, List.map_cons]

theorem writtenMembers_eq (ms : List (String × Value)) :
    writtenMembers ms = ms.map fun m => (some m.1, written m.2) := by
  induction ms with
  | nil => rfl
  | cons m ms ih => rw [writtenMembers, ih, List.map_cons]

theorem sortedItems_eq (vs : List Value) : sortedItems vs = vs.map sorted := by
  induction vs with
  | nil => rfl
  | cons v vs ih => rw [sortedItems, ih, List.map_cons]

theorem sortedMembers_eq (ms : List (String × Value)) :
    sortedMembers ms = ms.map fun m => (m.1, sorted m.2) := by
  induction ms with
  | nil => rfl
  | cons m ms ih => rw [sortedMembers, ih, List.map_cons]

theorem depthItems_le {vs : List Value} {n : Nat} :
    depthItems vs ≤ n ↔ ∀ v ∈ vs, v.depth ≤ n := by
  induction vs with
  | nil => simp [depthItems]
  | cons v vs ih => rw [depthItems, Nat.max_le, ih, List.forall_mem_cons]

theorem depthMembers_le {ms : List (String × Value)} {n : Nat} :
    depthMembers ms ≤ n ↔ ∀ m ∈ ms, m.2.depth ≤ n := by
  induction ms with
  | nil => simp [depthMembers]
  | cons m ms ih => rw [depthMembers, Nat.max_le, ih, List.forall_mem_cons]

theorem integral_word (n : Int64) : Integral (.number (.whole n.toInt)) := by
  have hlow := n.minValue_le_toInt
  have hhigh := n.toInt_le
  have hmax : Int64.maxValue.toInt = 2 ^ 63 - 1 := by decide
  have hlimit : Numeral.wordLimit = 2 ^ 64 := by decide
  exact ⟨hlow, by omega⟩

theorem integralItems_iff {vs : List Value} : IntegralItems vs ↔ ∀ v ∈ vs, v.Integral := by
  induction vs with
  | nil => simp [IntegralItems]
  | cons v vs ih => rw [IntegralItems, ih, List.forall_mem_cons]

theorem integralMembers_iff {ms : List (String × Value)} :
    IntegralMembers ms ↔ ∀ m ∈ ms, m.2.Integral := by
  induction ms with
  | nil => simp [IntegralMembers]
  | cons m ms ih => rw [IntegralMembers, ih, List.forall_mem_cons]

mutual

theorem spells_print : ∀ v : Value, v.Integral → Written.Spells v.print v.written
  | .null, _ => Written.spells_null
  | .bool b, _ => spells_printBool b
  | .number (.whole n), _ => spells_ofInt n
  | .number (.real _), h => h.elim
  | .string s, _ => spells_printString s
  | .array vs, h => by
    rw [print, written, printItems_eq, writtenItems_eq]
    exact spells_printArray vs (spells_items vs h)
  | .object ms, h => by
    rw [print, written, printMembers_eq, writtenMembers_eq]
    exact spells_printObject ms (spells_members ms h)

theorem spells_items : ∀ vs : List Value, IntegralItems vs →
    ∀ v ∈ vs, Written.Spells v.print v.written
  | [], _ => by simp
  | v :: vs, h => List.forall_mem_cons.mpr ⟨spells_print v h.1, spells_items vs h.2⟩

theorem spells_members : ∀ ms : List (String × Value), IntegralMembers ms →
    ∀ m ∈ ms, Written.Spells m.2.print m.2.written
  | [], _ => by simp
  | (_, v) :: ms, h => List.forall_mem_cons.mpr ⟨spells_print v h.1, spells_members ms h.2⟩

end

theorem level_within {α β : Type} (n k : Nat) (a : α) (f : α → β) :
    (if n = 0 then none else (if k ≤ n - 1 then some a else none).map f) =
      if k + 1 ≤ n then some (f a) else none := by
  by_cases hn : n = 0
  · simp [hn]
  · by_cases hle : k ≤ n - 1
    · have hle' : k + 1 ≤ n := by omega
      simp [hn, hle, hle']
    · have hle' : ¬ k + 1 ≤ n := by omega
      simp [hn, hle, hle']

mutual

theorem ofWritten_written : ∀ (v : Value) (n : Nat), v.Integral →
    ofWritten? n v.written = if v.depth ≤ n then some v.sorted else none
  | .null, n, _ => by simp [written, ofWritten?, depth, sorted]
  | .bool b, n, _ => by simp [written, ofWritten?, depth, sorted]
  | .number (.whole m), n, h => by
    rw [Integral] at h
    simp [written, ofWritten?, depth, sorted, number_ofInt h.1 h.2]
  | .number (.real _), n, h => h.elim
  | .string s, n, _ => by simp [written, ofWritten?, depth, sorted]
  | .array vs, n, h => by
    have hitems := ofItems_written vs (n - 1) h
    -- Reading counts the levels that are left, depth the levels that are used.
    rw [written, ofWritten?, hitems, depth, sorted, level_within]
  | .object ms, n, h => by
    have hmembers := ofMembers_written ms (n - 1) h
    rw [written, ofWritten?, hmembers, depth, sorted, level_within]

theorem ofItems_written : ∀ (vs : List Value) (n : Nat), IntegralItems vs →
    ofItems? n (writtenItems vs) = if depthItems vs ≤ n then some (sortedItems vs) else none
  | [], n, _ => by simp [writtenItems, ofItems?, depthItems, sortedItems]
  | v :: vs, n, h => by
    have hv := ofWritten_written v n h.1
    have hvs := ofItems_written vs n h.2
    rw [writtenItems, ofItems?, hv, hvs, depthItems, sortedItems]
    simp only [Nat.max_le]
    by_cases hle : v.depth ≤ n <;> by_cases hle' : depthItems vs ≤ n <;> simp [hle, hle']

theorem ofMembers_written : ∀ (ms : List (String × Value)) (n : Nat), IntegralMembers ms →
    ofMembers? n (writtenMembers ms) =
      if depthMembers ms ≤ n then some (sortedMembers ms) else none
  | [], n, _ => by simp [writtenMembers, ofMembers?, depthMembers, sortedMembers]
  | (k, v) :: ms, n, h => by
    have hv := ofWritten_written v n h.1
    have hms := ofMembers_written ms n h.2
    rw [writtenMembers, ofMembers?, hv, hms, depthMembers, sortedMembers]
    simp only [Nat.max_le]
    by_cases hle : v.depth ≤ n <;> by_cases hle' : depthMembers ms ≤ n <;> simp [hle, hle']

end

theorem written_of_text {v : Value} (h : v.Integral) : Written.parse? v.text = some v.written := by
  have hspells := (spells_print v h).parse Written.Spaces.nil Written.Spaces.nil
  rwa [List.nil_append, List.append_nil] at hspells

/-- Printing keeps a value up to the order of its members, down to the depth that is allowed. -/
theorem parse_text {v : Value} (h : v.Integral) :
    parse? v.text = if v.depth ≤ maxDepth then some v.sorted else none := by
  rw [parse?, written_of_text h, Option.bind_some, ofWritten_written v maxDepth h]

end Value

end ScreenScript.Json
