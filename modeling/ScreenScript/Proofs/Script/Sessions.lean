import ScreenScript.Proofs.Script.Places

/-!
The texts a session holds, in variables and in functions, and where those of a changed session come
from.
-/

namespace ScreenScript.Script

variable {ok : String → Prop}

def Session.texts (s : Session) : List String :=
  s.scope.flatMap (·.value.texts) ++ s.functions.flatMap fun f => stmtsTexts f.body

structure Session.Within (ok : String → Prop) (s : Session) : Prop where
  scope : ∀ v ∈ s.scope, v.value.Within ok
  functions : ∀ f ∈ s.functions, ∀ t ∈ stmtsTexts f.body, ok t

namespace Session

theorem within_iff {s : Session} : s.Within ok ↔ ∀ t ∈ s.texts, ok t := by
  unfold texts
  rw [List.forall_mem_append, List.forall_mem_flatMap, List.forall_mem_flatMap]
  exact ⟨fun hs => ⟨hs.scope, hs.functions⟩, fun hs => ⟨hs.1, hs.2⟩⟩

theorem within_any (s : Session) : s.Within fun _ => True :=
  ⟨fun _ _ _ _ => trivial, fun _ _ _ _ => trivial⟩

theorem Within.mono {ok' : String → Prop} {s : Session} (hs : s.Within ok)
    (h : ∀ t, ok t → ok' t) : s.Within ok' :=
  ⟨fun v hv => (hs.scope v hv).mono h, fun f hf t ht => h t (hs.functions f hf t ht)⟩

theorem Within.of_same {s t : Session} (hs : s.Within ok) (hscope : t.scope = s.scope)
    (hfunctions : t.functions = s.functions) : t.Within ok := by
  constructor
  · rw [hscope]
    exact hs.scope
  · rw [hfunctions]
    exact hs.functions

theorem Within.declare {s : Session} (hs : s.Within ok) {v : Value} (hv : v.Within ok)
    (name : String) (constant : Bool) : (s.declare name constant v).Within ok :=
  ⟨List.forall_mem_cons.mpr ⟨hv, hs.scope⟩, hs.functions⟩

theorem Within.rewind {s : Session} (hs : s.Within ok) (n : Nat) : (s.rewind n).Within ok :=
  ⟨fun v hv => hs.scope v (List.mem_of_mem_drop hv), hs.functions⟩

theorem Within.update {s : Session} (hs : s.Within ok) {f : Value → Value}
    (hf : ∀ v, v.Within ok → (f v).Within ok) (name : String) : (s.update name f).Within ok := by
  refine ⟨?_, hs.functions⟩
  have hscope := hs.scope
  unfold Session.update
  dsimp only
  generalize s.scope = vs at hscope
  induction vs with
  | nil => exact nofun
  | cons v vs ih =>
    rw [List.forall_mem_cons] at hscope
    unfold Session.modifyVariable
    split
    · exact List.forall_mem_cons.mpr ⟨hf _ hscope.1, hscope.2⟩
    · exact List.forall_mem_cons.mpr ⟨hscope.1, ih hscope.2⟩

end Session

namespace Place

def Within (ok : String → Prop) : Place → Prop
  | .variable _ _ => True
  | .value v => v.Within ok

theorem Within.read {p : Place} (hp : p.Within ok) {s : Session} (hs : s.Within ok) :
    (p.read s).Within ok := by
  match p with
  | .value v => exact hp
  | .variable name ks =>
    change Value.Within ok (((s.lookup? name).map fun v => v.value.follow ks).getD .unit)
    unfold Session.lookup?
    cases hfind : s.scope.find? (·.name = name) with
    | none => exact Value.within_unit
    | some v => exact (hs.scope v (List.mem_of_find?_eq_some hfind)).follow ks

theorem Within.child {p : Place} (hp : p.Within ok) (k : Key) : (p.child k).Within ok := by
  match p with
  | .value v => exact Value.Within.child hp k
  | .variable name ks => trivial

theorem entry_within {p : Place} (hp : p.Within ok) (name : String) (es : List (String × Value)) :
    (if (Json.getMember name es).isSome then p.child (.name name) else .value .unit).Within ok := by
  split
  · exact hp.child _
  · exact Value.within_unit

theorem write_within {s : Session} (hs : s.Within ok) {v : Value} (hv : v.Within ok) (p : Place) :
    (p.write s v).Within ok := by
  match p with
  | .value w => exact hs
  | .variable name ks =>
    exact hs.update (fun w hw => Value.Within.modifyAt (fun _ _ => hv) ks hw) name

end Place

end ScreenScript.Script
