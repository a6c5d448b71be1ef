import ScreenScript.Proofs.Json.Members
import ScreenScript.Proofs.Number.Rounding

/-!
A value that is read from a text is nested no deeper than the text, and has no numbers but those a
numeral can stand for.
-/

namespace ScreenScript.Json

namespace Written

mutual

def depth : Written → Nat
  | array ws => depthItems ws + 1
  | object ms => depthMembers ms + 1
  | _ => 0

def depthItems : List Written → Nat
  | [] => 0
  | w :: ws => max (depth w) (depthItems ws)

def depthMembers : List (Option String × Written) → Nat
  | [] => 0
  | (_, w) :: ms => max (depth w) (depthMembers ms)

end

theorem depthItems_le {ws : List Written} {n : Nat} :
    depthItems ws ≤ n ↔ ∀ w ∈ ws, w.depth ≤ n := by
  induction ws with
  | nil => simp [depthItems]
  | cons w ws ih => rw [depthItems, Nat.max_le, ih, List.forall_mem_cons]

theorem depthMembers_le {ms : List (Option String × Written)} {n : Nat} :
    depthMembers ms ≤ n ↔ ∀ m ∈ ms, m.2.depth ≤ n := by
  induction ms with
  | nil => simp [depthMembers]
  | cons m ms ih => rw [depthMembers, Nat.max_le, ih, List.forall_mem_cons]

end Written

namespace Value

mutual

/-- At most `n` levels, and numbers with 53 significant bits. -/
def Fine (n : Nat) : Value → Prop
  | number x => x.toReal.Proper
  | array vs => 0 < n ∧ FineItems (n - 1) vs
  | object ms => 0 < n ∧ FineMembers (n - 1) ms
  | _ => True

def FineItems (n : Nat) : List Value → Prop
  | [] => True
  | v :: vs => Fine n v ∧ FineItems n vs

def FineMembers (n : Nat) : List (String × Value) → Prop
  | [] => True
  | (_, v) :: ms => Fine n v ∧ FineMembers n ms

end

theorem fineItems_iff {n : Nat} {vs : List Value} : FineItems n vs ↔ ∀ v ∈ vs, Fine n v := by
  induction vs with
  | nil => simp [FineItems]
  | cons v vs ih => rw [FineItems, ih, List.forall_mem_cons]

theorem fineMembers_iff {n : Nat} {ms : List (String × Value)} :
    FineMembers n ms ↔ ∀ m ∈ ms, Fine n m.2 := by
  induction ms with
  | nil => simp [FineMembers]
  | cons m ms ih => rw [FineMembers, ih, List.forall_mem_cons]

mutual

theorem ofWritten_fine : ∀ (w : Written) {allowed n : Nat} {v : Value},
    ofWritten? allowed w = some v → w.depth ≤ n → Fine n v
  | .null, _, _, _, h, _ => by cases h; trivial
  | .bool _, _, _, _, h, _ => by cases h; trivial
  | .number t, _, _, _, h, _ => by
    obtain ⟨x, hx, rfl⟩ := Option.map_eq_some_iff.mp h
    exact Numeral.number_proper hx
  | .string _, _, _, _, h, _ => by
    obtain ⟨s, -, rfl⟩ := Option.map_eq_some_iff.mp h
    trivial
  | .array ws, _, n, _, h, hn => by
    obtain ⟨vs, -, hvs, rfl⟩ := ofWritten_array h
    rw [Written.depth] at hn
    exact ⟨by omega, ofItems_fine ws hvs (by omega)⟩
  | .object ms, _, n, _, h, hn => by
    obtain ⟨vs, -, hvs, rfl⟩ := ofWritten_object h
    rw [Written.depth] at hn
    have hmembers := fineMembers_iff.mp (ofMembers_fine ms hvs (n := n - 1) (by omega))
    exact ⟨by omega, fineMembers_iff.mpr fun m hm => hmembers m (mem_sortMembers hm)⟩

theorem ofItems_fine : ∀ (ws : List Written) {allowed n : Nat} {vs : List Value},
    ofItems? allowed ws = some vs → Written.depthItems ws ≤ n → FineItems n vs
  | [], _, _, _, h, _ => by cases h; trivial
  | w :: ws, _, _, _, h, hn => by
    obtain ⟨v, vs', hv, hvs, rfl⟩ := ofItems_cons h
    rw [Written.depthItems, Nat.max_le] at hn
    exact ⟨ofWritten_fine w hv hn.1, ofItems_fine ws hvs hn.2⟩

theorem ofMembers_fine : ∀ (ms : List (Option String × Written)) {allowed n : Nat}
    {vs : List (String × Value)},
    ofMembers? allowed ms = some vs → Written.depthMembers ms ≤ n → FineMembers n vs
  | [], _, _, _, h, _ => by cases h; trivial
  | (_, w) :: ms, _, _, _, h, hn => by
    obtain ⟨key, v, vs', -, hv, hvs, rfl⟩ := ofMembers_cons h
    rw [Written.depthMembers, Nat.max_le] at hn
    exact ⟨ofWritten_fine w hv hn.1, ofMembers_fine ms hvs hn.2⟩

end

end Value

end ScreenScript.Json
