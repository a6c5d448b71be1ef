import Mathlib.Data.List.Nodup
import ScreenScript.Proofs.Client.Replies
import ScreenScript.Proofs.Selector.Wire

namespace ScreenScript

namespace Selector.Store

theorem conditions_create (s : Store) (h : Handle) :
    s.create.2.conditions h = s.conditions h := by
  simp only [create, conditions, Array.getD_eq_getD_getElem?, Array.getElem?_push]
  by_cases hnew : h = s.lists.size
  · simp [hnew]
  · simp [hnew]

theorem conditions_push_self (s : Store) {h : Handle} (c : Condition) (hh : h < s.lists.size) :
    (s.push h c).conditions h = s.conditions h ++ [c] := by
  simp only [push, conditions, Array.getD_eq_getD_getElem?, Array.getElem?_modify, if_pos]
  simp [hh]

theorem conditions_push_of_ne (s : Store) {h k : Handle} (c : Condition) (hne : h ≠ k) :
    (s.push h c).conditions k = s.conditions k := by
  simp [push, conditions, Array.getD_eq_getD_getElem?, Array.getElem?_modify, hne]

end Selector.Store

namespace Client

open Selector Node

variable {σ : Type}

def Operation.addition? : Operation → Option (Nat × Condition)
  | .push s k value => some (s, ⟨k, value⟩)
  | .flag s k on => some (s, ⟨k, if on then "true" else "false"⟩)
  | .number s k n => some (s, ⟨k, Word.text n⟩)
  | _ => none

def Operation.source? : Operation → Option Nat
  | .share s => some s
  | op => op.addition?.map (·.1)

/-- What operations tell of selectors. A selector is named by the place of the operation that created
it. -/
structure Annals where
  length : Nat := 0
  /-- The selector of each handle, in the order in which the handles were given. -/
  origins : List Nat := []
  /-- What was appended to which selector, the first first. -/
  appended : List (Nat × Condition) := []

namespace Annals

def conditions (a : Annals) (o : Nat) : List Condition :=
  (a.appended.filter (·.1 = o)).map (·.2)

def given (a : Annals) : Operation → List Nat
  | .create => [a.length]
  | op => (op.source?.bind fun s => a.origins[s]?).toList

def additions (a : Annals) (op : Operation) : List (Nat × Condition) :=
  (op.addition?.bind fun (s, c) => a.origins[s]?.map fun o => (o, c)).toList

def extend (a : Annals) (op : Operation) : Annals :=
  ⟨a.length + 1, a.origins ++ a.given op, a.appended ++ a.additions op⟩

def of (ops : List Operation) : Annals :=
  ops.foldl extend {}

end Annals

def unused (c : Client σ) : Client σ :=
  { c with store := {}, handles := [] }

def lists (c : Client σ) : List (List Condition) :=
  c.handles.map c.store.conditions

def ask (c : Client σ) (verb : String) (args : List String) (read : Option String → Reply) :
    Reply × Client σ :=
  let (a, world) := c.world.call c.host c.depth verb args
  (read a, { c with world })

inductive Selecting (c c' : Client σ) : Operation → Prop
  | create (hstore : c'.store = c.store.create.2)
      (hhandles : c'.handles = c.handles ++ [c.store.lists.size]) : Selecting c c' .create
  | share (s : Nat) (h : Handle) (hs : c.handles[s]? = some h) (hstore : c'.store = c.store)
      (hhandles : c'.handles = c.handles ++ [h]) : Selecting c c' (.share s)
  | append (op : Operation) (s : Nat) (k : Condition) (h : Handle)
      (hop : op.addition? = some (s, k)) (hs : c.handles[s]? = some h)
      (hstore : c'.store = c.store.push h k) (hhandles : c'.handles = c.handles ++ [h]) :
      Selecting c c' op
  | still (op : Operation) (hnew : op ≠ .create)
      (hop : ∀ s, op.source? = some s → c.handles[s]? = none) (hstore : c'.store = c.store)
      (hhandles : c'.handles = c.handles) : Selecting c c' op

theorem selecting_through (c : Client σ) (op : Operation) (s : Nat) (f : Handle → Reply × Client σ)
    (hnew : op ≠ .create) (hsource : ∀ t, op.source? = some t → t = s)
    (hf : ∀ h, c.handles[s]? = some h → Selecting c (f h).2 op) :
    Selecting c (c.through s f).2 op := by
  unfold through
  cases hs : c.handles[s]? with
  | none =>
    refine .still op hnew ?_ rfl rfl
    intro t ht
    rw [hsource t ht]
    exact hs
  | some h => exact hf h hs

theorem selecting_append (c : Client σ) (op : Operation) (s : Nat) (k : Condition)
    (hop : op.addition? = some (s, k)) (hsource : op.source? = some s) (hnew : op ≠ .create)
    (f : Store → Handle → Store) (hf : ∀ store h, f store h = store.push h k) :
    Selecting c (c.append s f).2 op := by
  apply selecting_through c op s _ hnew
  · intro t ht
    exact (Option.some.inj (hsource.symm.trans ht)).symm
  · intro h hs
    exact .append op s k h hop hs (hf c.store h) rfl

theorem selecting_alone (c : Client σ) (op : Operation) : Selecting c (c.alone op).2 op := by
  cases op with
  | create => exact .create rfl rfl
  | share s =>
    apply selecting_through c (.share s) s c.give nofun
    · intro t ht
      exact (Option.some.inj ht).symm
    · intro h hs
      exact .share s h hs rfl rfl
  | push s k value =>
    exact selecting_append c (.push s k value) s _ rfl rfl nofun _ fun _ _ => rfl
  | flag s k on => exact selecting_append c (.flag s k on) s _ rfl rfl nofun _ fun _ _ => rfl
  | number s k n => exact selecting_append c (.number s k n) s _ rfl rfl nofun _ fun _ _ => rfl
  | state s =>
    exact selecting_through c _ s _ nofun nofun fun h _ => .still _ nofun nofun rfl rfl
  | same s t =>
    apply selecting_through c (.same s t) s _ nofun nofun
    intro h _
    exact selecting_through c _ t _ nofun nofun fun k _ => .still _ nofun nofun rfl rfl
  | holds s i =>
    exact selecting_through c (.holds s i) s _ nofun nofun fun h _ => .still _ nofun nofun rfl rfl
  | _ => exact .still _ nofun nofun rfl rfl

theorem selecting_of_program (c : Client σ) (op : Operation) (p : Program Reply)
    (hp : c.program? op = some p) : Selecting c (c.perform op).2 op := by
  have hop : op ≠ .create ∧ op.source? = none := by
    cases op with
    | create | share | push | flag | number => cases hp
    | _ => exact ⟨nofun, rfl⟩
  rw [perform_of_program c hp]
  refine .still op hop.1 ?_ rfl rfl
  intro s hs
  exact absurd (hop.2.symm.trans hs) nofun

theorem selecting (c : Client σ) (op : Operation) : Selecting c (c.perform op).2 op := by
  cases hp : c.program? op with
  | none =>
    rw [perform_of_none c hp]
    exact selecting_alone c op
  | some p => exact selecting_of_program c op p hp

namespace Annals

theorem conditions_extend (a : Annals) (op : Operation) (o : Nat) :
    (a.extend op).conditions o =
      a.conditions o ++ ((a.additions op).filter (·.1 = o)).map (·.2) := by
  simp only [conditions, extend, List.filter_append, List.map_append]

theorem additions_of_none (a : Annals) {op : Operation} (hop : op.addition? = none) :
    a.additions op = [] := by
  rw [additions, hop]
  rfl

theorem additions_of_some (a : Annals) {op : Operation} {s o : Nat} {k : Condition}
    (hop : op.addition? = some (s, k)) (ho : a.origins[s]? = some o) :
    a.additions op = [(o, k)] := by
  simp only [additions, hop, Option.bind_some, ho, Option.map_some, Option.toList_some]

theorem given_of_ne (a : Annals) {op : Operation} (hnew : op ≠ .create) :
    a.given op = (op.source?.bind fun s => a.origins[s]?).toList := by
  cases op with
  | create => exact absurd rfl hnew
  | _ => rfl

theorem source_of_addition {op : Operation} {e : Nat × Condition}
    (hop : op.addition? = some e) : op.source? = some e.1 := by
  cases op with
  | push | flag | number =>
    cases hop
    rfl
  | _ => cases hop

theorem given_of_addition (a : Annals) {op : Operation} {s o : Nat} {k : Condition}
    (hop : op.addition? = some (s, k)) (ho : a.origins[s]? = some o) : a.given op = [o] := by
  have hnew : op ≠ .create := by
    rintro rfl
    cases hop
  rw [given_of_ne a hnew, source_of_addition hop]
  simp [ho]

theorem conditions_of_none (a : Annals) {op : Operation} (hop : op.addition? = none) (o : Nat) :
    (a.extend op).conditions o = a.conditions o := by
  rw [conditions_extend, additions_of_none a hop]
  exact List.append_nil _

theorem conditions_of_some (a : Annals) {op : Operation} {s p : Nat} {k : Condition}
    (hop : op.addition? = some (s, k)) (hp : a.origins[s]? = some p) (o : Nat) :
    (a.extend op).conditions o = if o = p then a.conditions o ++ [k] else a.conditions o := by
  rw [conditions_extend, additions_of_some a hop hp]
  by_cases ho : o = p
  · simp [ho]
  · simp [ho, Ne.symm ho]

/-- The selectors were created at the places `created`, the oldest first. -/
structure Agrees (created : List Nat) (a : Annals) (c : Client σ) : Prop where
  nodup : created.Nodup
  past : ∀ o ∈ created, o < a.length
  early : ∀ e ∈ a.appended, e.1 < a.length
  size : c.store.lists.size = created.length
  origins : a.origins.map some = c.handles.map (created[·]?)
  conditions : ∀ h o, created[h]? = some o → c.store.conditions h = a.conditions o

namespace Agrees

variable {created : List Nat} {a : Annals} {c c' : Client σ}

theorem origin (ha : Agrees created a c) {s : Nat} {h : Handle} (hs : c.handles[s]? = some h) :
    ∃ o, created[h]? = some o ∧ a.origins[s]? = some o := by
  have hmap := congrArg (·[s]?) ha.origins
  simp only [List.getElem?_map, hs, Option.map_some] at hmap
  obtain ⟨o, ho, hcreated⟩ := Option.map_eq_some_iff.mp hmap
  exact ⟨o, hcreated.symm, ho⟩

theorem handle (ha : Agrees created a c) {s o : Nat} (ho : a.origins[s]? = some o) :
    ∃ h, c.handles[s]? = some h ∧ created[h]? = some o := by
  have hmap := congrArg (·[s]?) ha.origins
  simp only [List.getElem?_map, ho, Option.map_some] at hmap
  obtain ⟨h, hs, hcreated⟩ := Option.map_eq_some_iff.mp hmap.symm
  exact ⟨h, hs, hcreated⟩

theorem origin_none (ha : Agrees created a c) {s : Nat} (hs : c.handles[s]? = none) :
    a.origins[s]? = none := by
  cases ho : a.origins[s]? with
  | none => rfl
  | some o =>
    obtain ⟨h, hh, -⟩ := ha.handle ho
    exact absurd (hs.symm.trans hh) nofun

theorem origin_lt (ha : Agrees created a c) {s o : Nat} (ho : a.origins[s]? = some o) :
    o < a.length := by
  obtain ⟨h, -, hcreated⟩ := ha.handle ho
  exact ha.past o (List.mem_of_getElem? hcreated)

theorem early_extend (ha : Agrees created a c) (op : Operation) :
    ∀ e ∈ (a.extend op).appended, e.1 < (a.extend op).length := by
  intro e he
  apply Nat.lt_succ_of_lt
  rcases List.mem_append.mp he with hold | hnew
  · exact ha.early e hold
  · obtain ⟨⟨s, k⟩, -, hadded⟩ := Option.bind_eq_some_iff.mp (Option.mem_toList.mp hnew)
    obtain ⟨o, ho, rfl⟩ := Option.map_eq_some_iff.mp hadded
    exact ha.origin_lt ho

theorem extend (ha : Agrees created a c) (op : Operation) (new : List Handle)
    (hsize : c'.store.lists.size = c.store.lists.size) (hhandles : c'.handles = c.handles ++ new)
    (hgiven : (a.given op).map some = new.map (created[·]?))
    (hconditions : ∀ h o, created[h]? = some o →
      c'.store.conditions h = (a.extend op).conditions o) : Agrees created (a.extend op) c' where
  nodup := ha.nodup
  past o ho := Nat.lt_succ_of_lt (ha.past o ho)
  early := ha.early_extend op
  size := hsize.trans ha.size
  origins := by
    rw [hhandles, List.map_append, ← hgiven, ← ha.origins]
    exact List.map_append
  conditions := hconditions

theorem handle_lt (ha : Agrees created a c) {h : Handle} (hh : h ∈ c.handles) :
    h < created.length := by
  obtain ⟨s, hs⟩ := List.mem_iff_getElem?.mp hh
  obtain ⟨o, ho, -⟩ := ha.origin hs
  exact (List.getElem?_eq_some_iff.mp ho).1

theorem unique (ha : Agrees created a c) {h k : Handle} {o : Nat} (hh : created[h]? = some o)
    (hk : created[k]? = some o) : h = k :=
  (List.getElem?_inj (List.getElem?_eq_some_iff.mp hh).1 ha.nodup).mp (hh.trans hk.symm)

theorem conditions_new (ha : Agrees created a c) : a.conditions a.length = [] := by
  have hnone : a.appended.filter (·.1 = a.length) = [] := by
    apply List.filter_eq_nil_iff.mpr
    intro e he
    simp [Nat.ne_of_lt (ha.early e he)]
  rw [Annals.conditions, hnone]
  rfl

theorem create (ha : Agrees created a c) (hstore : c'.store = c.store.create.2)
    (hhandles : c'.handles = c.handles ++ [c.store.lists.size]) :
    Agrees (created ++ [a.length]) (a.extend .create) c' where
  nodup := by
    have hnew : a.length ∉ created := fun hmem => Nat.lt_irrefl _ (ha.past _ hmem)
    exact List.nodup_append_comm.mp (List.nodup_cons.mpr ⟨hnew, ha.nodup⟩)
  past o ho := by
    rcases List.mem_append.mp ho with hold | hnew
    · exact Nat.lt_succ_of_lt (ha.past o hold)
    · rw [List.mem_singleton.mp hnew]
      exact Nat.lt_succ_self _
  early := ha.early_extend .create
  size := by
    rw [hstore, List.length_append, ← ha.size]
    exact Array.size_push _
  origins := by
    have hold : c.handles.map ((created ++ [a.length])[·]?) = c.handles.map (created[·]?) := by
      apply List.map_congr_left
      intro h hh
      exact List.getElem?_append_left (ha.handle_lt hh)
    have hnew : (created ++ [a.length])[c.store.lists.size]? = some a.length := by
      rw [ha.size]
      exact List.getElem?_concat_length
    rw [hhandles, List.map_append, hold, ← ha.origins, List.map_singleton, hnew]
    exact List.map_append
  conditions h o ho := by
    rw [hstore, Store.conditions_create, conditions_of_none a rfl]
    by_cases hlt : h < created.length
    · rw [List.getElem?_append_left hlt] at ho
      exact ha.conditions h o ho
    · have hlast : h = created.length := by
        have hbound := (List.getElem?_eq_some_iff.mp ho).1
        rw [List.length_append, List.length_singleton] at hbound
        exact Nat.le_antisymm (Nat.le_of_lt_succ hbound) (Nat.le_of_not_lt hlt)
      rw [hlast, List.getElem?_concat_length] at ho
      rw [← Option.some.inj ho, ha.conditions_new, hlast, ← ha.size]
      simp [Store.conditions]

theorem append (ha : Agrees created a c) {op : Operation} {s : Nat} {k : Condition} {h : Handle}
    (hadd : op.addition? = some (s, k)) (hs : c.handles[s]? = some h)
    (hstore : c'.store = c.store.push h k) (hhandles : c'.handles = c.handles ++ [h]) :
    Agrees created (a.extend op) c' := by
  obtain ⟨o, hcreated, ho⟩ := ha.origin hs
  have hlt : h < c.store.lists.size := by
    rw [ha.size]
    exact (List.getElem?_eq_some_iff.mp hcreated).1
  refine ha.extend op [h] ?_ hhandles ?_ ?_
  · rw [hstore]
    exact Array.size_modify
  · rw [given_of_addition a hadd ho]
    simp [hcreated]
  intro j p hp
  rw [hstore, conditions_of_some a hadd ho]
  by_cases hj : h = j
  · subst hj
    have hsame : p = o := Option.some.inj (hp.symm.trans hcreated)
    rw [if_pos hsame, Store.conditions_push_self _ _ hlt, ha.conditions h p hp]
  · have hother : p ≠ o := by
      rintro rfl
      exact hj (ha.unique hcreated hp)
    rw [if_neg hother, Store.conditions_push_of_ne _ _ hj, ha.conditions j p hp]

theorem share (ha : Agrees created a c) {s : Nat} {h : Handle} (hs : c.handles[s]? = some h)
    (hstore : c'.store = c.store) (hhandles : c'.handles = c.handles ++ [h]) :
    Agrees created (a.extend (.share s)) c' := by
  obtain ⟨o, hcreated, ho⟩ := ha.origin hs
  refine ha.extend _ [h] (by rw [hstore]) hhandles ?_ ?_
  · simp [given, Operation.source?, ho, hcreated]
  intro k p hp
  rw [hstore, conditions_of_none a rfl]
  exact ha.conditions k p hp

theorem still (ha : Agrees created a c) {op : Operation} (hnew : op ≠ .create)
    (hsource : ∀ s, op.source? = some s → c.handles[s]? = none) (hstore : c'.store = c.store)
    (hhandles : c'.handles = c.handles) : Agrees created (a.extend op) c' := by
  have hgiven : a.given op = [] := by
    rw [given_of_ne a hnew]
    cases hs : op.source? with
    | none => rfl
    | some s => simp [ha.origin_none (hsource s hs)]
  -- A handle that was never given appends to no selector.
  have hadditions : a.additions op = [] := by
    cases hadd : op.addition? with
    | none => exact additions_of_none a hadd
    | some e =>
      have hs := hsource e.1 (source_of_addition hadd)
      simp [additions, hadd, ha.origin_none hs]
  refine ha.extend op [] (by rw [hstore]) ?_ ?_ ?_
  · rw [hhandles, List.append_nil]
  · rw [hgiven]
    rfl
  intro h o ho
  rw [hstore, conditions_extend, hadditions]
  simp [ha.conditions h o ho]

theorem step (ha : Agrees created a c) {op : Operation} (hop : Selecting c c' op) :
    ∃ created', Agrees created' (a.extend op) c' := by
  cases hop with
  | create hstore hhandles => exact ⟨_, ha.create hstore hhandles⟩
  | share s h hs hstore hhandles => exact ⟨created, ha.share hs hstore hhandles⟩
  | append _ s k h hadd hs hstore hhandles => exact ⟨created, ha.append hadd hs hstore hhandles⟩
  | still _ hnew hsource hstore hhandles => exact ⟨created, ha.still hnew hsource hstore hhandles⟩

theorem after (ha : Agrees created a c) (ops : List Operation) :
    ∃ created', Agrees created' (ops.foldl Annals.extend a) (c.after ops) := by
  induction ops generalizing created a c with
  | nil => exact ⟨created, ha⟩
  | cons op ops ih =>
    obtain ⟨created', ha'⟩ := ha.step (selecting c op)
    exact ih ha'

theorem of_unused (c : Client σ) (ops : List Operation) :
    ∃ created, Agrees created (Annals.of ops) (c.unused.after ops) := by
  have hstart : Agrees [] {} c.unused :=
    ⟨List.nodup_nil, nofun, nofun, rfl, rfl, nofun⟩
  exact hstart.after ops

theorem lists (ha : Agrees created a c) : c.lists = a.origins.map a.conditions := by
  apply List.ext_getElem?
  intro s
  simp only [Client.lists, List.getElem?_map]
  cases hs : c.handles[s]? with
  | none => simp only [ha.origin_none hs, Option.map_none]
  | some h =>
    obtain ⟨o, hcreated, ho⟩ := ha.origin hs
    simp only [ho, Option.map_some, ha.conditions h o hcreated]

theorem step_lists (ha : Agrees created a c) (op : Operation) :
    (c.perform op).2.lists = (a.origins ++ a.given op).map (a.extend op).conditions := by
  obtain ⟨created', ha'⟩ := ha.step (selecting c op)
  exact ha'.lists

theorem same (ha : Agrees created a c) {s t o p : Nat} (ho : a.origins[s]? = some o)
    (hp : a.origins[t]? = some p) : c.perform (.same s t) = (.flag (decide (o = p)), c) := by
  obtain ⟨h, hs, hh⟩ := ha.handle ho
  obtain ⟨k, ht, hk⟩ := ha.handle hp
  have hiff : h = k ↔ o = p := by
    constructor
    · rintro rfl
      exact Option.some.inj (hh.symm.trans hk)
    · rintro rfl
      exact ha.unique hh hk
  have hbeq : (h == k) = decide (o = p) := by
    rw [Bool.eq_iff_iff, beq_iff_eq, decide_eq_true_iff]
    exact hiff
  simp only [perform, program?, alone, through, hs, ht, hbeq]

end Agrees

end Annals

theorem perform_state (c : Client σ) {s : Nat} {h : Handle} (hs : c.handles[s]? = some h) :
    c.perform (.state s) =
      (.state (c.store.conditions h) (c.store.text h) (c.store.debug h), c) := by
  simp only [perform, program?, alone, through, hs]

theorem perform_terminal (c : Client σ) (t : Terminal) {s : Nat} {h : Handle}
    (hs : c.handles[s]? = some h) :
    c.perform (.terminal s t) = c.ask t.verb (c.store.text h :: t.extra) fun b => t.read b := by
  simp only [perform, program?, hs, Option.map_some, Terminal.program_eq]
  rfl

theorem perform_find (c : Client σ) (i : Info) {s : Nat} {h : Handle}
    (hs : c.handles[s]? = some h) :
    c.perform (.find i s) = c.ask Verb.nodeFind [key i, c.store.text h] fun b =>
      .nodes (Answer.nodes b) := by
  simp only [perform, program?, hs, Option.map_some]
  rfl

theorem perform_findOne (c : Client σ) (i : Info) {s : Nat} {h : Handle}
    (hs : c.handles[s]? = some h) :
    c.perform (.findOne i s) = c.ask Verb.nodeFind [key i, c.store.text h] fun b =>
      .node (Answer.nodes b).head? := by
  simp only [perform, program?, hs, Option.map_some]
  rfl

/-- Handles of one selector show what was appended to it through any of them, and nothing else; they
are the same if and only if one operation created their selector. Every request made of a selector
is sent with a text that is read as what was appended so far. -/
theorem handles_show_their_selector (client : Client σ) (ops : List Operation) :
    let a := Annals.of ops
    let c := client.unused.after ops
    c.lists = a.origins.map a.conditions ∧
    (∀ s o, a.origins[s]? = some o →
      (∀ t p, a.origins[t]? = some p → c.perform (.same s t) = (.flag (decide (o = p)), c)) ∧
      (∃ debug, c.perform (.state s) =
        (.state (a.conditions o) (Condition.jsonAll (a.conditions o)) debug, c)) ∧
      ∃ text, Condition.parseAll? text = some (a.conditions o) ∧
        (∀ t, c.perform (.terminal s t) = c.ask t.verb (text :: t.extra) fun b => t.read b) ∧
        (∀ i, c.perform (.find i s) = c.ask Verb.nodeFind [key i, text] fun b =>
          .nodes (Answer.nodes b)) ∧
        ∀ i, c.perform (.findOne i s) = c.ask Verb.nodeFind [key i, text] fun b =>
          .node (Answer.nodes b).head?) ∧
    (∀ op : Operation, op.addition? = none → c.lists <+: (c.perform op).2.lists) ∧
    ∀ (op : Operation) t k p, op.addition? = some (t, k) → a.origins[t]? = some p →
      ∀ s o : Nat, a.origins[s]? = some o → (c.perform op).2.lists[s]? =
        some (if o = p then a.conditions o ++ [k] else a.conditions o) := by
  intro a c
  obtain ⟨created, ha⟩ := Annals.Agrees.of_unused client ops
  refine ⟨ha.lists, ?_, ?_, ?_⟩
  · intro s o ho
    obtain ⟨h, hs, hcreated⟩ := ha.handle ho
    have hconditions : c.store.conditions h = a.conditions o := ha.conditions h o hcreated
    refine ⟨fun t p hp => ha.same ho hp, ⟨c.store.debug h, ?_⟩, c.store.text h, ?_, ?_, ?_, ?_⟩
    · rw [c.perform_state hs, Store.text, hconditions]
    · rw [Store.text, hconditions, Condition.parseAll_jsonAll]
    · exact fun t => c.perform_terminal t hs
    · exact fun i => c.perform_find i hs
    · exact fun i => c.perform_findOne i hs
  · intro op hop
    have hsame : (a.extend op).conditions = a.conditions :=
      funext fun o => a.conditions_of_none hop o
    rw [ha.lists, ha.step_lists, hsame, List.map_append]
    exact List.prefix_append _ _
  · intro op t k p hop hp s o ho
    have hold : (a.origins ++ a.given op)[s]? = some o := by
      rw [List.getElem?_append_left (List.getElem?_eq_some_iff.mp ho).1]
      exact ho
    rw [ha.step_lists, List.getElem?_map, hold, Option.map_some, a.conditions_of_some hop hp]

end Client

end ScreenScript
