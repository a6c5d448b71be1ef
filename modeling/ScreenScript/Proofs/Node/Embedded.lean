import ScreenScript.Proofs.Client.Replies
import ScreenScript.Proofs.Node.Answers
import ScreenScript.Proofs.Node.Decoded
import ScreenScript.Proofs.Script.Interrupts
import Mathlib.Logic.Relation

namespace ScreenScript.Node

open Json Relation

def entries : Value → List Value
  | .object ms =>
    match ms.find? fun m => m.1 = "_children" ∨ m.1 = "children" with
    | some (_, .array vs) => vs
    | _ => []
  | _ => []

/-- `x` is `v` or an entry at some depth below it, with nodes all the way, and is the node `j` by
itself. -/
inductive Below (v : Value) : Value → Info → Prop
  | top {i : Info} (h : Info.ofValue? v = some i) : Below v v i
  | entry {w x : Value} {j k : Info} (h : Below v w j) (hx : x ∈ entries w)
      (hk : Info.ofValue? x = some k) : Below v x k

/-- The second value is the first without one entry that is no node, at whatever depth. -/
inductive Thinned : Value → Value → Prop
  | here {as bs : List (String × Value)} {key : String} {xs ys : List Value} {x : Value}
      (hkey : key = "_children" ∨ key = "children") (hx : Info.ofValue? x = none) :
      Thinned (.object (as ++ (key, .array (xs ++ x :: ys)) :: bs))
        (.object (as ++ (key, .array (xs ++ ys)) :: bs))
  | deeper {as bs : List (String × Value)} {key : String} {xs ys : List Value} {x y : Value}
      (hkey : key = "_children" ∨ key = "children") (h : Thinned x y) :
      Thinned (.object (as ++ (key, .array (xs ++ x :: ys)) :: bs))
        (.object (as ++ (key, .array (xs ++ y :: ys)) :: bs))

theorem Slot.ofKey?_children {k : String} :
    Slot.ofKey? k = some .children ↔ k = "_children" ∨ k = "children" := by
  simp [Slot.ofKey?_eq_some, Slot.keys]

namespace Info

theorem childrenOf_entries {v : Value} {is : List Info} (h : childrenOf v = some is) :
    is = (match v with | .array vs => vs | _ => []).filterMap ofValue? := by
  cases v with
  | null => cases h; rfl
  | array vs =>
    cases h
    exact Answer.ofValues_eq vs
  | _ => cases h

theorem children_of_ofValue {v : Value} {i : Info} (h : ofValue? v = some i) :
    i.children = (entries v).filterMap ofValue? := by
  cases v with
  | object ms =>
    have hpart := (parts_of_ofReadings h).children
    have hmember : (fun m : String × Value =>
          (Reading.slotMember m).any fun r => decide (r.1 = Slot.children)) =
        fun m => decide (m.1 = "_children" ∨ m.1 = "children") := by
      funext m
      rw [Bool.eq_iff_iff, decide_eq_true_iff, ← Slot.ofKey?_children, Reading.slotMember]
      cases Slot.ofKey? m.1 <;> simp
    rw [Reading.readings_eq, part, List.find?_filterMap, hmember] at hpart
    rw [entries]
    cases hfind : ms.find? fun m => m.1 = "_children" ∨ m.1 = "children" with
    | none =>
      rw [hfind] at hpart
      exact (Option.some.inj hpart).symm
    | some m =>
      obtain ⟨k, x⟩ := m
      have hkey : Slot.ofKey? k = some .children := by
        have hk := List.find?_some hfind
        exact Slot.ofKey?_children.mpr (of_decide_eq_true hk)
      rw [hfind, Option.bind_some, Reading.slotMember, hkey] at hpart
      rw [childrenOf_entries hpart]
      cases x <;> rfl
  | _ => cases h

theorem ofValue_entries {as bs : List (String × Value)} {key : String} {vs ws : List Value}
    (hkey : key = "_children" ∨ key = "children")
    (h : vs.filterMap ofValue? = ws.filterMap ofValue?) :
    ofValue? (.object (as ++ (key, .array vs) :: bs)) =
      ofValue? (.object (as ++ (key, .array ws) :: bs)) := by
  have hmember (us : List Value) : Reading.slotMember (key, .array us) =
      some (.children, Reading.ofValue (.array us)) := by
    rw [Reading.slotMember, Slot.ofKey?_children.mpr hkey, Option.map_some]
  have hagree : Slot.children.Agree (Reading.ofValue (.array vs)) (Reading.ofValue (.array ws)) := by
    change some (ofValues vs) = some (ofValues ws)
    rw [Answer.ofValues_eq, Answer.ofValues_eq, h]
  rw [ofValue?, ofValue?, Reading.readings_eq, Reading.readings_eq, List.filterMap_append,
    List.filterMap_append, List.filterMap_cons_some (hmember vs),
    List.filterMap_cons_some (hmember ws)]
  apply Alike.ofReadings_eq
  exact List.rel_append (Alike.refl _) (.cons ⟨rfl, hagree⟩ (Alike.refl _))

theorem ofValue_thinned {v w : Value} (h : Thinned v w) : ofValue? v = ofValue? w := by
  induction h with
  | here hkey hx =>
    apply ofValue_entries hkey
    rw [List.filterMap_append, List.filterMap_append, List.filterMap_cons_none hx]
  | deeper hkey _ ih =>
    apply ofValue_entries hkey
    rw [List.filterMap_append, List.filterMap_append, List.filterMap_cons, List.filterMap_cons, ih]

end Info

theorem filterMap_texts {ts : List String} {vs : List Value}
    (h : List.Forall₂ (fun t x => Answer.json? t = some x) ts vs) :
    vs.filterMap Info.ofValue? = ts.filterMap fun t => Answer.node? (some t) := by
  induction h with
  | nil => rfl
  | cons ht _ ih =>
    rw [List.filterMap_cons, List.filterMap_cons, Answer.node_of_json ht, ih]

namespace Below

variable {v w : Value} {i j : Info}

theorem ofValue (h : Below v w j) : Info.ofValue? w = some j := by
  cases h with
  | top h => exact h
  | entry _ _ hk => exact hk

theorem cachedChildren_eq (h : Below v w j) :
    cachedChildren j = (entries w).filterMap Info.ofValue? :=
  Info.children_of_ofValue h.ofValue

theorem reached_iff (h : Info.ofValue? v = some i) :
    ReflTransGen (fun j k => k ∈ cachedChildren j) i j ↔ ∃ w, Below v w j := by
  constructor
  · intro hreached
    induction hreached with
    | refl => exact ⟨v, .top h⟩
    | tail _ hk ih =>
      obtain ⟨w, hw⟩ := ih
      rw [hw.cachedChildren_eq] at hk
      obtain ⟨x, hx, hk⟩ := List.mem_filterMap.mp hk
      exact ⟨x, .entry hw hx hk⟩
  · rintro ⟨w, hw⟩
    induction hw with
    | top h' =>
      rw [h] at h'
      cases h'
      exact .refl
    | entry hw hx hk ih =>
      apply ih.tail
      rw [hw.cachedChildren_eq]
      exact List.mem_filterMap.mpr ⟨_, hx, hk⟩

end Below

theorem function?_cachedChildren (i : Info) (p : Script.Position) :
    Script.Api.function? "cachedChildren" [.node i] p =
      some (pure (.ofNodes (cachedChildren i))) := by
  have hk : Selector.Kind.ofName? "cachedChildren" = none := by decide
  simp [Script.Api.function?, hk, Script.Api.method?, Script.Api.nodeMethod?]

section Clients

variable {σ : Type} (c : Client σ)

theorem perform_cachedChildren (i : Info) :
    c.perform (.cachedChildren i) = (.nodes (cachedChildren i), c) :=
  Client.perform_of_none c rfl

theorem perform_materialize {s : String} {v : Value} (h : Answer.json? s = some v) :
    c.perform (.materialize (some s)) = (.node (Info.ofValue? v), c) := by
  rw [Client.perform_of_none c rfl, Client.alone, Answer.node_of_json h]

end Clients

/-- Below a node, whether it comes as a text or as a value, lie the entries of its descriptor that
are nodes, at every depth. Each has for children, in order, the nodes that its own entries are by
themselves; the rest may be left out of the descriptor anywhere. To read the children asks the host
for nothing, and every command to any of the nodes goes over the bridge of the client, or of the
script, with its pause before text is typed. -/
theorem embedded_children_stand_alone {v : Value} {i : Info} (h : Info.ofValue? v = some i) :
    (∀ j, ReflTransGen (fun j k => k ∈ cachedChildren j) i j ↔ ∃ w, Below v w j) ∧
      (∀ w, Thinned v w → Info.ofValue? w = some i) ∧
      (∀ s, Answer.json? s = some v → ∀ (σ : Type) (c : Client σ),
        c.perform (.materialize (some s)) = (.node (some i), c)) ∧
      ∀ w j, Below v w j →
        cachedChildren j = (entries w).filterMap Info.ofValue? ∧
        (∀ ts, List.Forall₂ (fun t x => Answer.json? t = some x) ts (entries w) →
          cachedChildren j = ts.filterMap fun t => Answer.node? (some t)) ∧
        (∀ (σ : Type) (c : Client σ),
          c.perform (.cachedChildren j) = (.nodes (cachedChildren j), c) ∧
          ∀ command, c.perform (.command j command) =
            ((World.run c.host (command.program c.settle j) c.world c.depth).1,
              { c with
                world := (World.run c.host (command.program c.settle j) c.world c.depth).2 })) ∧
        ∀ p,
          (∃ a, Script.Api.function? "cachedChildren" [.node j] p = some a ∧
            ∀ ctx s, a ctx s = .done (.ok (.ofNodes (cachedChildren j)), s)) ∧
          ∀ text, ∃ a, Script.Api.function? "setText" [.node j, .string text] p = some a ∧
            ∀ ctx, a ctx = Script.Api.yes (setText ctx.config.settleDelayMs j text) ctx := by
  refine ⟨fun j => Below.reached_iff h, fun w hw => ?_, fun s hs σ c => ?_, fun w j hw => ?_⟩
  · rw [← Info.ofValue_thinned hw, h]
  · rw [perform_materialize c hs, h]
  have hkids := hw.cachedChildren_eq
  refine ⟨hkids, fun ts hts => ?_, fun σ c => ⟨perform_cachedChildren c j, fun command => ?_⟩,
    fun p => ⟨⟨_, function?_cachedChildren j p, fun _ _ => rfl⟩, fun text => ?_⟩⟩
  · rw [hkids, filterMap_texts hts]
  · exact Client.perform_of_program c rfl
  · exact ⟨_, Script.function?_setText j text p, fun _ => rfl⟩

/-- A list, a description with a text for a number, and `null` are left out on two levels. -/
theorem spoilt_entries_left_out :
    let leaf : Value := .object [("_text", .string "a")]
    let branch : Value := .object [("children", .array [.null, leaf])]
    let spoilt : Value := .object [("depth", .string "1")]
    let v : Value := .object [("_children", .array [.array [], branch, spoilt])]
    let i : Info := { children := [{ children := [{ text := "a" }] }] }
    Info.ofValue? v = some i ∧ cachedChildren i = [{ children := [{ text := "a" }] }] ∧
      ReflTransGen (fun j k => k ∈ cachedChildren j) i { text := "a" } := by
  intro leaf branch spoilt v i
  have h : Info.ofValue? v = some i := rfl
  obtain ⟨hreached, -, -, hbelow⟩ := embedded_children_stand_alone h
  have hbranch : Below v branch { children := [{ text := "a" }] } :=
    .entry (.top h) (.tail _ (.head _)) rfl
  have hleaf : Below v leaf { text := "a" } := .entry hbranch (.tail _ (.head _)) rfl
  exact ⟨h, (hbelow v i (.top h)).1, (hreached _).mpr ⟨leaf, hleaf⟩⟩

end ScreenScript.Node
