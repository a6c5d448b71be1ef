import ScreenScript.Proofs.Script.Chains
import ScreenScript.Proofs.Script.Storage
import ScreenScript.Proofs.Selector.Matching

namespace ScreenScript.Script

open Script.Action Selector Pattern

variable {α β : Type}

/-- The step gives the value without asking for anything, and changes nothing but the store of matchers,
which it asks for some. -/
def Looks (c : Context) (s : Session) (v : α) (a : Action α) : Prop :=
  ∃ rs, a c s = .done (.ok v, { s with patterns := s.patterns.after rs })

/-- Which nodes satisfy a selector, told from its conditions. -/
def Decides (sat : Node.Info → Bool) (h : Handle) (s : Session) : Prop :=
  ∀ i, sat i = true ↔ ∀ d ∈ s.selectors.conditions h, d.Means MatchesPasted i

def Value.passes (sat : Node.Info → Bool) : Value → Bool
  | .node i => sat i
  | _ => false

variable {c : Context} {s : Session} {h : Handle} {sat : Node.Info → Bool} {v : α} {w : β}

theorem Looks.pure (v : α) : Looks c s v (Pure.pure v) :=
  ⟨[], rfl⟩

theorem Looks.bind {a : Action α} {f : α → Action β} (ha : Looks c s v a)
    (hf : ∀ rs, Looks c { s with patterns := s.patterns.after rs } w (f v)) :
    Looks c s w (a >>= f) := by
  obtain ⟨rs, ha⟩ := ha
  obtain ⟨rs', hf⟩ := hf rs
  refine ⟨rs ++ rs', ?_⟩
  rw [bind_apply, ha, Cache.after_append]
  exact hf

theorem looks_satisfies (hs : s.patterns.Kept) (hsat : Decides sat h s) (i : Node.Info) :
    Looks c s (sat i) (Api.satisfies h i) := by
  let cs := s.selectors.conditions h
  have happly : Api.satisfies h i c s = .done (.ok (Condition.holdAll i cs s.patterns).1,
      { s with patterns := (Condition.holdAll i cs s.patterns).2 }) := rfl
  have hsame : (Condition.holdAll i cs s.patterns).1 = sat i := by
    rw [Bool.eq_iff_iff, Condition.holdAll_iff hs, hsat]
  obtain ⟨rs, hrs⟩ := Condition.holdAll_after i cs s.patterns
  exact ⟨rs, by rw [happly, hsame, hrs]⟩

theorem looks_satisfying (hs : s.patterns.Kept) (hsat : Decides sat h s) (vs : List Value) :
    Looks c s (vs.filter (Value.passes sat)) (Api.satisfying h vs) := by
  induction vs generalizing s with
  | nil => exact .pure _
  | cons v vs ih =>
    cases v with
    | node i =>
      refine (looks_satisfies hs hsat i).bind fun rs => ?_
      have hrest := ih (s := { s with patterns := s.patterns.after rs }) (hs.after rs) hsat
      cases hi : sat i with
      | true =>
        rw [List.filter_cons_of_pos (by exact hi)]
        exact hrest.bind fun _ => .pure _
      | false =>
        rw [List.filter_cons_of_neg (by simp [Value.passes, hi])]
        exact hrest
    | _ => exact ih hs hsat

theorem looks_firstSatisfying (hs : s.patterns.Kept) (hsat : Decides sat h s) (vs : List Value) :
    Looks c s ((vs.filter (Value.passes sat)).head?.getD .unit) (Api.firstSatisfying h vs) := by
  induction vs generalizing s with
  | nil => exact .pure _
  | cons v vs ih =>
    cases v with
    | node i =>
      refine (looks_satisfies hs hsat i).bind fun rs => ?_
      cases hi : sat i with
      | true =>
        rw [List.filter_cons_of_pos (by exact hi)]
        exact .pure _
      | false =>
        rw [List.filter_cons_of_neg (by simp [Value.passes, hi])]
        exact ih (s := { s with patterns := s.patterns.after rs }) (hs.after rs) hsat
    | _ => exact ih hs hsat

theorem looks_matches (hs : s.patterns.Kept) (hsat : Decides sat h s) (i : Node.Info)
    (p : Position) : ∃ a, Api.function? "matches" [.selector h, .node i] p = some a ∧
      Looks c s (.bool (sat i)) a :=
  ⟨_, rfl, (looks_satisfies hs hsat i).bind fun _ => .pure _⟩

inductive Search (found : List Value) : String → Value → Prop
  | find : Search found "find" (.array found)
  | findOne : Search found "findOne" (found.head?.getD .unit)

theorem looks_search (hs : s.patterns.Kept) (hsat : Decides sat h s) {vs : List Value}
    {name : String} {v : Value} (hname : Search (vs.filter (Value.passes sat)) name v)
    (p : Position) :
    ∃ a, Api.function? name [.array vs, .selector h] p = some a ∧ Looks c s v a := by
  cases hname with
  | find => exact ⟨_, rfl, (looks_satisfying hs hsat vs).bind fun _ => .pure _⟩
  | findOne => exact ⟨_, rfl, looks_firstSatisfying hs hsat vs⟩

/-- How the call of a function that gives `v` ends, by the limit on operations, the interrupt flag,
and the limits on sizes. -/
def callEnd (c : Context) (s : Session) (p : Position) (pending : Bool) (v : Value) :
    Except Stop Value :=
  if c.config.maxOperations ≠ 0 ∧ c.config.maxOperations < s.operations + 1 then
    .error (.failed (.error .tooManyOperations p))
  else if pending then .error cancelled
  else match (Operator.size v).excess? c.config.maxStringSize c.config.maxCollectionSize with
    | some m => .error (.failed (.error (.tooLarge m) p))
    | none => .ok v

theorem Looks.checked {v : Value} {a : Action Value} (ha : Looks c s v a) (p : Position) :
    ∃ rs, (a >>= fun v => Evaluator.checked v p) c s = .done
      (match (Operator.size v).excess? c.config.maxStringSize c.config.maxCollectionSize with
        | some m => .error (.failed (.error (.tooLarge m) p))
        | none => .ok v, { s with patterns := s.patterns.after rs }) := by
  obtain ⟨rs, ha⟩ := ha
  refine ⟨rs, ?_⟩
  rw [bind_apply, ha]
  unfold Evaluator.checked
  simp only [Program.bind]
  rw [bind_apply]
  rcases checkSize_cases v p c { s with patterns := s.patterns.after rs } with
    ⟨hsize, hcheck⟩ | ⟨m, hsize, hcheck⟩
  · rw [hcheck, hsize]
    rfl
  · rw [hcheck, hsize]
    rfl

theorem nativeCall_search (hs : s.patterns.Kept) (hsat : Decides sat h s) {place : Place}
    {vs : List Value} (hplace : place.read s = .array vs) {name : String} {v : Value}
    (hname : Search (vs.filter (Value.passes sat)) name v) (p : Position) :
    ∃ rs, Evaluator.nativeCall name place [.selector h] p c s = .done
      (match (Operator.size v).excess? c.config.maxStringSize c.config.maxCollectionSize with
        | some m => .error (.failed (.error (.tooLarge m) p))
        | none => .ok v, { s with patterns := s.patterns.after rs }) := by
  obtain ⟨a, ha, hlooks⟩ := looks_search (c := c) hs hsat hname p
  have hchanged : Api.changed? (.array vs) name [.selector h] = none := by cases hname <;> rfl
  rw [Evaluator.nativeCall_apply hplace hchanged ha]
  exact hlooks.checked p

theorem run_search {σ : Type} (hs : s.patterns.Kept) (hsat : Decides sat h s) {place : Place}
    {vs : List Value} (hplace : place.read s = .array vs) {name : String} {v : Value}
    (hname : Search (vs.filter (Value.passes sat)) name v) (p : Position) (host : Host σ)
    (w : World σ) : ∃ rs n,
      World.run host (Evaluator.callNative name place [.selector h] p c s) w =
        ((callEnd c s p w.pending v,
          { s with patterns := s.patterns.after rs, operations := n }), w) := by
  let t : Session := { s with operations := s.operations + 1 }
  have hread : place.read t = .array vs := (Session.Counts.read ⟨_, rfl⟩ place).trans hplace
  obtain ⟨rs, hcall⟩ := nativeCall_search (c := c) (s := t) hs hsat hread hname p
  rw [Evaluator.callNative_eq, bind_apply, tick_apply, callEnd]
  by_cases hlimit : c.config.maxOperations ≠ 0 ∧ c.config.maxOperations < s.operations + 1
  · rw [if_pos hlimit, if_pos hlimit]
    exact ⟨[], _, rfl⟩
  rw [if_neg hlimit, if_neg hlimit, heed_apply]
  simp only [Program.bind, World.run]
  cases w.pending with
  | true => exact ⟨[], _, rfl⟩
  | false =>
    refine ⟨rs, s.operations + 1, ?_⟩
    simp only [Bool.false_eq_true, if_false]
    rw [hcall]
    rfl

/-- Whatever the store of matchers was asked before, the search for all finds, in order, the values
that are nodes for which `matches` says yes, and the search for one the first of these, or the unit
value. Neither asks for anything. Called on an array wherever it is kept, they leave it, the selector
and all else but the matchers and the count of operations as they are, whether the call succeeds or is
refused. -/
theorem array_searches_agree (s : Session) (h : Handle) (c : Context) (p : Position)
    (vs : List Value) : ∃ sat : Node.Info → Bool, Decides sat h s ∧
      ∀ (n : Nat) (rs : List Pattern.Request),
        let s := { s with patterns := (Cache.ofCapacity n).after rs }
        let found := vs.filter (Value.passes sat)
        (∀ i, ∃ a, Api.function? "matches" [.selector h, .node i] p = some a ∧
          Looks c s (.bool (sat i)) a) ∧
        (∃ a, Api.function? "find" [.array vs, .selector h] p = some a ∧
          Looks c s (.array found) a) ∧
        (∃ a, Api.function? "findOne" [.array vs, .selector h] p = some a ∧
          Looks c s (found.head?.getD .unit) a) ∧
        ∀ (σ : Type) (host : Host σ) (w : World σ) (place : Place) (name : String) (v : Value),
          place.read s = .array vs → Search found name v →
          ∃ t, World.run host (Evaluator.callNative name place [.selector h] p c s) w =
              ((callEnd c s p w.pending v, t), w) ∧
            place.read t = .array vs ∧ t.selectors = s.selectors ∧
            ∃ rs' k, t = { s with patterns := s.patterns.after rs', operations := k } := by
  refine ⟨fun i => (Condition.holdAll i (s.selectors.conditions h) (Cache.ofCapacity 1)).1,
    fun i => Condition.holdAll_iff (Cache.kept_ofCapacity 1) i _, ?_⟩
  intro n rs s' found
  have hs : s'.patterns.Kept := (Cache.kept_ofCapacity n).after rs
  have hsat : Decides _ h s' := fun i => Condition.holdAll_iff (Cache.kept_ofCapacity 1) i _
  refine ⟨fun i => looks_matches hs hsat i p, looks_search hs hsat .find p,
    looks_search hs hsat .findOne p, ?_⟩
  intro σ host w place name v hplace hname
  obtain ⟨rs', k, hrun⟩ := run_search (c := c) hs hsat hplace hname p host w
  refine ⟨_, hrun, ?_, rfl, rs', k, rfl⟩
  rw [← hplace]
  cases place <;> rfl

/-- In a variable with an array of all kinds of values the second node is found. -/
theorem second_node_found :
    let vs : List Value := [.node { text := "a" }, .string "b", .unit,
      .array [.node { text := "b" }], .node { text := "b" }]
    let s : Session :=
      { scope := [⟨"all", false, .array vs⟩], selectors := ⟨#[[⟨.text .text .exact, "b"⟩]]⟩ }
    let w : World Unit := { state := (), console := { capacity := 0 } }
    let call := Evaluator.callNative "findOne" (.variable "all" []) [.selector 0] .start
      { config := {} } s
    ∃ t, World.run (fun _ _ => .answer none) call w = ((.ok (.node { text := "b" }), t), w) ∧
      Place.read t (.variable "all" []) = .array vs ∧ t.selectors = s.selectors := by
  intro vs s w call
  obtain ⟨sat, hsat, hsearch⟩ := array_searches_agree s 0 { config := {} } .start vs
  obtain ⟨-, -, -, hcall⟩ := hsearch Cache.defaultCapacity []
  have ha : sat { text := "a" } = false := by
    refine Bool.eq_false_of_not_eq_true fun hsat' => ?_
    rcases (hsat _).mp hsat' _ (List.mem_singleton_self _) with hsame | ⟨-, front, hfield | hfield⟩
    · exact absurd hsame (by decide)
    · cases hfield.1
    · cases hfield.1
  have hb : sat { text := "b" } = true := by
    refine (hsat _).mpr fun d hd => ?_
    obtain rfl := List.mem_singleton.mp hd
    exact .inl rfl
  have hfound : vs.filter (Value.passes sat) = [.node { text := "b" }] := by
    simp [vs, Value.passes, ha, hb]
  obtain ⟨t, hrun, hread, hselectors, -⟩ := hcall Unit (fun _ _ => .answer none) w
    (.variable "all" []) "findOne" _ rfl .findOne
  rw [hfound] at hrun
  exact ⟨t, hrun, hread, hselectors⟩

end ScreenScript.Script
