import ScreenScript.Proofs.Json.Members
import ScreenScript.Script.Evaluator

/-!
The texts that values and trees hold, and where the texts of a changed value come from.
-/

namespace ScreenScript.Script

namespace Value

mutual

/-- The texts at all depths. Keys of maps are no values. -/
def texts : Value → List String
  | string s => [s]
  | array vs => itemsTexts vs
  | map es => entriesTexts es
  | _ => []

def itemsTexts : List Value → List String
  | [] => []
  | v :: vs => texts v ++ itemsTexts vs

def entriesTexts : List (String × Value) → List String
  | [] => []
  | (_, v) :: es => texts v ++ entriesTexts es

end

def Within (ok : String → Prop) (v : Value) : Prop := ∀ t ∈ v.texts, ok t

variable {ok : String → Prop}

theorem Within.mono {ok' : String → Prop} {v : Value} (hv : v.Within ok) (h : ∀ t, ok t → ok' t) :
    v.Within ok' :=
  fun t ht => h t (hv t ht)

@[simp]
theorem within_string {s : String} : (string s).Within ok ↔ ok s := by
  simp [Within, texts]

@[simp]
theorem within_array {vs : List Value} : (array vs).Within ok ↔ ∀ v ∈ vs, v.Within ok := by
  unfold Within
  rw [texts]
  induction vs with
  | nil => simp [itemsTexts]
  | cons v vs ih => rw [itemsTexts, List.forall_mem_append, ih, List.forall_mem_cons]

@[simp]
theorem within_map {es : List (String × Value)} :
    (map es).Within ok ↔ ∀ e ∈ es, e.2.Within ok := by
  unfold Within
  rw [texts]
  induction es with
  | nil => simp [entriesTexts]
  | cons e es ih => rw [entriesTexts, List.forall_mem_append, ih, List.forall_mem_cons]

theorem within_of_texts {v : Value} (h : v.texts = []) : v.Within ok := by
  intro t ht
  rw [h] at ht
  cases ht

@[simp] theorem within_unit : unit.Within ok := within_of_texts rfl

@[simp] theorem within_bool {b : Bool} : (bool b).Within ok := within_of_texts rfl

@[simp] theorem within_int {n : Int64} : (int n).Within ok := within_of_texts rfl

@[simp] theorem within_float {x : Binary64} : (float x).Within ok := within_of_texts rfl

@[simp] theorem within_char {c : Char} : (char c).Within ok := within_of_texts rfl

@[simp] theorem within_range {lo hi : Int64} {closed : Bool} : (range lo hi closed).Within ok :=
  within_of_texts rfl

@[simp] theorem within_namespaceObject {n : Namespace} : (namespaceObject n).Within ok :=
  within_of_texts rfl

mutual

theorem le_size (v : Value) : v.Within (·.utf8ByteSize ≤ (Operator.size v).string) := by
  cases v with
  | string s => exact within_string.mpr (Nat.le_refl _)
  | array vs => exact le_itemsSize vs
  | map es => exact le_entriesSize es
  | _ => nofun

theorem le_itemsSize (vs : List Value) :
    ∀ t ∈ itemsTexts vs, t.utf8ByteSize ≤ (Operator.itemsSize vs).string := by
  match vs with
  | [] => nofun
  | v :: vs =>
    intro t ht
    simp only [Operator.itemsSize, Operator.Size.add, Nat.zero_add]
    rcases List.mem_append.mp ht with ht | ht
    · exact Nat.le_trans (le_size v t ht) (Nat.le_add_right _ _)
    · exact Nat.le_trans (le_itemsSize vs t ht) (Nat.le_add_left _ _)

theorem le_entriesSize (es : List (String × Value)) :
    ∀ t ∈ entriesTexts es, t.utf8ByteSize ≤ (Operator.entriesSize es).string := by
  match es with
  | [] => nofun
  | (_, v) :: es =>
    intro t ht
    simp only [Operator.entriesSize, Operator.Size.add, Nat.zero_add]
    rcases List.mem_append.mp ht with ht | ht
    · exact Nat.le_trans (le_size v t ht) (Nat.le_add_right _ _)
    · exact Nat.le_trans (le_entriesSize es t ht) (Nat.le_add_left _ _)

end

theorem within_of_size {v : Value} {n : Nat} (h : (Operator.size v).string ≤ n) :
    v.Within (·.utf8ByteSize ≤ n) :=
  (le_size v).mono fun _ ht => Nat.le_trans ht h

theorem Within.child {v : Value} (hv : v.Within ok) (k : Key) : (v.child k).Within ok := by
  unfold Value.child
  split
  · rename_i vs n
    rw [List.getD_eq_getElem?_getD]
    cases hn : vs[n]? with
    | none => simp
    | some w => exact within_array.mp hv w (List.mem_of_getElem? hn)
  · rename_i es s
    cases hs : Json.getMember s es with
    | none => simp
    | some w =>
      obtain ⟨k, hk⟩ := Json.mem_of_getMember hs
      exact within_map.mp hv _ hk
  · simp

theorem Within.follow {v : Value} (hv : v.Within ok) (ks : List Key) : (v.follow ks).Within ok := by
  unfold Value.follow
  induction ks generalizing v with
  | nil => exact hv
  | cons k ks ih => exact ih (hv.child k)

theorem Within.put {es : List (String × Value)} {v : Value} (hes : ∀ e ∈ es, e.2.Within ok)
    (hv : v.Within ok) (key : String) : ∀ e ∈ Json.putMember key v es, e.2.Within ok := by
  intro e he
  rcases Json.mem_putMember he with rfl | he
  · exact hv
  · exact hes e he

theorem Within.modifyAt {f : Value → Value} (hf : ∀ w, w.Within ok → (f w).Within ok)
    (ks : List Key) {v : Value} (hv : v.Within ok) : (modifyAt f ks v).Within ok := by
  induction ks generalizing v with
  | nil => exact hf v hv
  | cons k ks ih =>
    unfold Value.modifyAt
    split
    · rename_i heq
      cases heq
    · rename_i vs heq
      cases heq
      rw [within_array] at hv ⊢
      intro w hw
      obtain ⟨i, hi, rfl⟩ := List.mem_iff_getElem.mp hw
      rw [List.getElem_modify]
      split
      · exact ih (hv _ (List.getElem_mem _))
      · exact hv _ (List.getElem_mem _)
    · rename_i s _ es heq
      cases heq
      have hold := hv.child (.name s)
      exact within_map.mpr (Within.put (within_map.mp hv) (ih hold) s)
    · exact hv

end Value

namespace Operator

open Selector Value

variable {s : Store} {a b v : Value}

theorem calculate_texts {op : Arithmetic} (h : calculate op a b = .ok v) : v.texts = [] := by
  unfold calculate at h
  split at h
  · split at h
    · cases h
      rfl
    · cases h
  · cases h
    rfl
  · cases h
    rfl
  · cases h
    rfl
  · cases h

theorem span_texts {closed : Bool} (h : span closed a b = .ok v) : v.texts = [] := by
  unfold span at h
  split at h
  · cases h
    rfl
  · cases h

theorem map_bool_texts {r : Except Cause Bool} {f : Bool → Bool}
    (h : (r.map fun b => Value.bool (f b)) = .ok v) : v.texts = [] := by
  cases r with
  | error c => cases h
  | ok b =>
    cases h
    rfl

theorem compareValues_texts {c : Comparison} (h : compareValues c a b = .ok v) : v.texts = [] := by
  unfold compareValues at h
  split at h
  · cases h
    rfl
  · cases h
    rfl
  · split at h
    · cases h
      rfl
    · split at h
      · split at h
        · exact map_bool_texts h
        · exact map_bool_texts h
        · cases h
      · cases h

theorem unary?_texts {symbol : String} {f : Value → Except Cause Value}
    (hf : unary? symbol = some f) (h : f a = .ok v) : v.texts = [] := by
  unfold unary? at hf
  split at hf
  · cases hf
    dsimp only at h
    split at h
    · cases h
      rfl
    · cases h
  · cases hf
    unfold negate at h
    split at h
    · split at h
      · cases h
        rfl
      · cases h
    · cases h
      rfl
    · cases h
  · cases hf
    dsimp only at h
    split at h
    · cases h
      rfl
    · cases h
      rfl
    · cases h
  · cases hf

/-- Only concatenation yields values that hold texts. -/
theorem binary?_texts {symbol : String} {f : Value → Value → Except Cause Value}
    (hf : binary? s symbol = some f) (h : f a b = .ok v) :
    f = concatenate s ∨ v.texts = [] := by
  unfold binary? at hf
  split at hf
  · cases hf
    exact .inl rfl
  · cases hf
    exact .inr (span_texts h)
  · cases hf
    exact .inr (span_texts h)
  · split at hf
    · cases hf
      exact .inr (calculate_texts h)
    · obtain ⟨c, -, rfl⟩ := Option.map_eq_some_iff.mp hf
      exact .inr (compareValues_texts h)

/-- What a compound assignment makes of a text or an array, when it stores before it checks: a longer
text, or an array of the same texts. -/
theorem compound_stored {ok : String → Prop} {symbol : String} (h : compound s symbol a b = .ok v)
    (hf : Evaluator.checksFirst a b = false) (ha : a.Within ok) (hb : b.Within ok) :
    v.Within ok ∨ ∃ old more, ok old ∧ v = .string (old ++ more) := by
  unfold compound at h
  split at h
  · rename_i as b
    split at h
    · split at h
      · rename_i bs
        cases h
        rw [within_array] at ha hb ⊢
        exact .inl (List.forall_mem_append.mpr ⟨ha, hb⟩)
      · cases h
        rw [within_array] at ha ⊢
        exact .inl (List.forall_mem_append.mpr ⟨ha, List.forall_mem_singleton.mpr hb⟩)
    · cases h
  · rename_i harray
    split at h
    · rename_i f hop
      rcases binary?_texts hop h with rfl | hv
      · cases a with
        | string old =>
          cases h
          exact .inr ⟨old, _, within_string.mp ha, rfl⟩
        | array as => exact absurd rfl (harray as)
        | _ => cases hf
      · exact .inl (within_of_texts hv)
    · cases h

end Operator

end ScreenScript.Script
