import ScreenScript.Engine.Evaluation
import ScreenScript.Proofs.Json.RoundTrip
import ScreenScript.Proofs.Script.Interrupts

namespace ScreenScript.Script

open Script.Action

variable {σ : Type} (h : Host σ)

structure Delivers (a : Action Value) (c : Context) (s : Session) (w : World σ) (call : Call) :
    Prop where
  run : World.run h (a c s) w =
    ((if (w.call h World.maxReentry call.verb call.args).2.pending then
        .error (.failed (.terminated Failure.cancelToken))
      else .ok (.bool (Answer.bool (w.call h World.maxReentry call.verb call.args).1)), s),
      (w.call h World.maxReentry call.verb call.args).2)
  turns : World.turns h (a c s) w = if w.attached then [w.turn h call.verb call.args] else []

structure Refuses (a : Action Value) (c : Context) (s : Session) (w : World σ) (f : ArgumentFault)
    (p : Position) : Prop where
  run : World.run h (a c s) w = ((.error (.failed (.error (.badArgument f) p)), s), w)
  turns : World.turns h (a c s) w = []

section Aims

variable {h} {c : Context} {s : Session} {w : World σ}

theorem Delivers.of_aim (hw : w.pending = false) (g : Gesture) :
    Delivers h (aim g) c s w (g.call s.scale) := by
  constructor
  · rw [aim_apply, Api.ask_apply]
    simp only [World.run, hw, Bool.false_eq_true, if_false]
  · rw [aim_apply, Api.ask_apply]
    simp only [World.turns, hw, Bool.false_eq_true, if_false]

theorem Refuses.of_refuse (f : ArgumentFault) (p : Position) :
    Refuses h (Api.refuse f p) c s w f p :=
  ⟨rfl, rfl⟩

end Aims

def IsNumber (v : Value) : Prop :=
  (∃ n, v = .int n) ∨ ∃ x, v = .float x

def IsPoint (v : Value) : Prop :=
  ∃ x y, v = .array [x, y] ∧ IsNumber x ∧ IsNumber y

def IsPath (ps : List Value) : Prop :=
  2 ≤ ps.length ∧ ∀ v ∈ ps, IsPoint v

def IsStroke (v : Value) : Prop :=
  ∃ (ns : List Int64) (ps : List Value), (ns.length = 1 ∨ ns.length = 2) ∧
    v = .array (ns.map .int ++ ps) ∧ IsPath ps

/-- A coordinate is a whole number, or what is left of another number without its fraction. -/
inductive Coordinate : Value → Int64 → Prop
  | int (n : Int64) : Coordinate (.int n) n
  | float (x : Binary64) : Coordinate (.float x) x.toWord

def Point (v : Value) (q : Int64 × Int64) : Prop :=
  ∃ x y, v = .array [x, y] ∧ Coordinate x q.1 ∧ Coordinate y q.2

def Stroke (v : Value) (t : List Int64 × List (Int64 × Int64)) : Prop :=
  ∃ ps, (t.1.length = 1 ∨ t.1.length = 2) ∧ v = .array (t.1.map .int ++ ps) ∧
    List.Forall₂ Point ps t.2

inductive PathFault (ps : List Value) : ArgumentFault → Prop
  | few (h : ps.length < 2) : PathFault ps (.tooFewPoints ps.length)
  | point {as bs : List Value} {v : Value} (h : 2 ≤ ps.length) (hps : ps = as ++ v :: bs)
      (has : ∀ a ∈ as, IsPoint a) (hv : ¬IsPoint v) : PathFault ps (.badPoint v)

/-- The whole numbers a list begins with, and what comes after all of them. -/
def Begins (items : List Value) (ns : List Int64) (ps : List Value) : Prop :=
  items = ns.map .int ++ ps ∧ ∀ n, ps.head? ≠ some (.int n)

inductive StrokeFault (v : Value) : ArgumentFault → Prop
  | path {items ps : List Value} {ns : List Int64} {f : ArgumentFault} (hv : v = .array items)
      (hns : Begins items ns ps) (hlength : ns.length = 1 ∨ ns.length = 2) (h : PathFault ps f) :
      StrokeFault v f
  | numbers (h : ∀ items ns ps, v = .array items → Begins items ns ps →
      ¬(ns.length = 1 ∨ ns.length = 2)) : StrokeFault v (.badStroke v)

theorem isNumber_of_coordinate {v : Value} {n : Int64} (hv : Coordinate v n) : IsNumber v := by
  cases hv with
  | int => exact .inl ⟨_, rfl⟩
  | float => exact .inr ⟨_, rfl⟩

theorem coordinate?_eq_some {v : Value} {n : Int64} :
    Api.coordinate? v = some n ↔ Coordinate v n := by
  constructor
  · intro hv
    cases v with
    | int m => cases hv; exact .int n
    | float x => cases hv; exact .float x
    | _ => cases hv
  · intro hv
    cases hv <;> rfl

theorem exists_coordinate {v : Value} (hv : IsNumber v) : ∃ n, Coordinate v n := by
  rcases hv with ⟨n, rfl⟩ | ⟨x, rfl⟩
  · exact ⟨n, .int n⟩
  · exact ⟨_, .float x⟩

theorem point?_eq_some {v : Value} {q : Int64 × Int64} : Api.point? v = some q ↔ Point v q := by
  constructor
  · intro hv
    unfold Api.point? at hv
    split at hv
    · next x y =>
      simp only [Option.bind_eq_bind, Option.bind_eq_some_iff, Option.pure_def,
        Option.some.injEq] at hv
      obtain ⟨m, hm, n, hn, rfl⟩ := hv
      exact ⟨x, y, rfl, coordinate?_eq_some.mp hm, coordinate?_eq_some.mp hn⟩
    · cases hv
  · rintro ⟨x, y, rfl, hx, hy⟩
    rw [Api.point?, coordinate?_eq_some.mpr hx, coordinate?_eq_some.mpr hy]
    rfl

theorem isPoint_iff {v : Value} : IsPoint v ↔ (Api.point? v).isSome := by
  rw [Option.isSome_iff_exists]
  constructor
  · rintro ⟨x, y, rfl, hx, hy⟩
    obtain ⟨m, hm⟩ := exists_coordinate hx
    obtain ⟨n, hn⟩ := exists_coordinate hy
    exact ⟨(m, n), point?_eq_some.mpr ⟨x, y, rfl, hm, hn⟩⟩
  · rintro ⟨q, hq⟩
    obtain ⟨x, y, rfl, hx, hy⟩ := point?_eq_some.mp hq
    exact ⟨x, y, rfl, isNumber_of_coordinate hx, isNumber_of_coordinate hy⟩

theorem points?_cases (ps : List Value) :
    ((∀ v ∈ ps, IsPoint v) ∧ ∃ qs, Gesture.points? ps = .ok qs ∧ List.Forall₂ Point ps qs) ∨
      ∃ as v bs, ps = as ++ v :: bs ∧ (∀ a ∈ as, IsPoint a) ∧ ¬IsPoint v ∧
        Gesture.points? ps = .error (.badPoint v) := by
  induction ps with
  | nil => exact .inl ⟨by simp, [], rfl, .nil⟩
  | cons v ps ih =>
    rw [Gesture.points?]
    cases hv : Api.point? v with
    | none =>
      have hbad : ¬IsPoint v := by simp [isPoint_iff, hv]
      exact .inr ⟨[], v, ps, rfl, by simp, hbad, rfl⟩
    | some q =>
      have hgood : IsPoint v := by simp [isPoint_iff, hv]
      rcases ih with ⟨hps, qs, hqs, hpoints⟩ | ⟨as, b, bs, rfl, has, hb, herror⟩
      · refine .inl ⟨List.forall_mem_cons.mpr ⟨hgood, hps⟩, q :: qs, ?_, ?_⟩
        · simp only [hqs, Except.map]
        · exact .cons (point?_eq_some.mp hv) hpoints
      · refine .inr ⟨v :: as, b, bs, rfl, List.forall_mem_cons.mpr ⟨hgood, has⟩, hb, ?_⟩
        simp only [herror, Except.map]

theorem path?_cases (ps : List Value) :
    (IsPath ps ∧ ∃ qs, Gesture.path? ps = .ok qs ∧ List.Forall₂ Point ps qs) ∨
      ¬IsPath ps ∧ ∃ f, Gesture.path? ps = .error f ∧ PathFault ps f := by
  rw [Gesture.path?]
  by_cases hlength : ps.length < 2
  · rw [if_pos hlength]
    exact .inr ⟨fun hps => absurd hps.1 (by omega), _, rfl, .few hlength⟩
  · rw [if_neg hlength]
    rcases points?_cases ps with ⟨hps, qs, hqs, hpoints⟩ | ⟨as, v, bs, hsplit, has, hv, herror⟩
    · exact .inl ⟨⟨by omega, hps⟩, qs, hqs, hpoints⟩
    · refine .inr ⟨fun hps => hv (hps.2 v ?_), _, herror, .point (by omega) hsplit has hv⟩
      rw [hsplit]
      exact List.mem_append_right as (List.mem_cons_self ..)

theorem begins_leadingNumbers (items : List Value) :
    Begins items (Api.leadingNumbers items).1 (Api.leadingNumbers items).2 := by
  induction items with
  | nil => exact ⟨rfl, by simp [Api.leadingNumbers]⟩
  | cons v items ih =>
    cases v with
    | int n =>
      obtain ⟨heq, hhead⟩ := ih
      refine ⟨?_, hhead⟩
      rw [Api.leadingNumbers, List.map_cons, List.cons_append, ← heq]
    | _ => exact ⟨rfl, by simp [Api.leadingNumbers]⟩

theorem Begins.eq {items : List Value} {ns : List Int64} {ps : List Value}
    (hl : Begins items ns ps) : Api.leadingNumbers items = (ns, ps) := by
  obtain ⟨rfl, hhead⟩ := hl
  induction ns with
  | nil =>
    cases ps with
    | nil => rfl
    | cons v ps =>
      cases v with
      | int n => exact absurd rfl (hhead n)
      | _ => rfl
  | cons n ns ih => rw [List.map_cons, List.cons_append, Api.leadingNumbers, ih]

theorem begins_of_isPath {ns : List Int64} {ps : List Value} (hps : ∀ v ∈ ps, IsPoint v) :
    Begins (ns.map .int ++ ps) ns ps := by
  refine ⟨rfl, fun n hn => ?_⟩
  obtain ⟨x, y, hv, -, -⟩ := hps _ (List.mem_of_head? hn)
  cases hv

theorem isStroke_iff {v : Value} : IsStroke v ↔ ∃ items ns ps, v = .array items ∧
    Begins items ns ps ∧ (ns.length = 1 ∨ ns.length = 2) ∧ IsPath ps := by
  constructor
  · rintro ⟨ns, ps, hlength, rfl, hps⟩
    exact ⟨_, ns, ps, rfl, begins_of_isPath hps.2, hlength, hps⟩
  · rintro ⟨items, ns, ps, rfl, ⟨rfl, -⟩, hlength, hps⟩
    exact ⟨ns, ps, hlength, rfl, hps⟩

theorem stroke?_array {items ps : List Value} {ns : List Int64} (hl : Begins items ns ps) :
    Gesture.stroke? (.array items) =
      if ns.length = 1 ∨ ns.length = 2 then (Gesture.path? ps).map (ns, ·)
      else .error (.badStroke (.array items)) := by
  simp only [Gesture.stroke?, hl.eq]
  rcases ns with _ | ⟨n, _ | ⟨m, _ | ⟨l, ns⟩⟩⟩ <;> rfl

theorem stroke?_cases (v : Value) :
    (IsStroke v ∧ ∃ t, Gesture.stroke? v = .ok t ∧ Stroke v t) ∨
      ¬IsStroke v ∧ ∃ f, Gesture.stroke? v = .error f ∧ StrokeFault v f := by
  cases v with
  | array items =>
    have hl := begins_leadingNumbers items
    set ns := (Api.leadingNumbers items).1
    set ps := (Api.leadingNumbers items).2
    have hunique (ns' : List Int64) (ps' : List Value) (hl' : Begins items ns' ps') :
        ns' = ns ∧ ps' = ps := by
      have heq := hl'.eq.symm.trans hl.eq
      exact ⟨congrArg Prod.fst heq, congrArg Prod.snd heq⟩
    rw [stroke?_array hl]
    by_cases hlength : ns.length = 1 ∨ ns.length = 2
    · rw [if_pos hlength]
      rcases path?_cases ps with ⟨hps, qs, hqs, hpoints⟩ | ⟨hps, f, hf, hfault⟩
      · rw [hqs]
        exact .inl ⟨isStroke_iff.mpr ⟨items, ns, ps, rfl, hl, hlength, hps⟩, (ns, qs), rfl,
          ps, hlength, congrArg Value.array hl.1, hpoints⟩
      · rw [hf]
        refine .inr ⟨fun hv => hps ?_, f, rfl, .path rfl hl hlength hfault⟩
        obtain ⟨_, ns', ps', heq, hl', -, hps'⟩ := isStroke_iff.mp hv
        cases heq
        exact (hunique ns' ps' hl').2 ▸ hps'
    · rw [if_neg hlength]
      refine .inr ⟨fun hv => hlength ?_, _, rfl, .numbers fun items' ns' ps' heq hl' => ?_⟩
      · obtain ⟨_, ns', ps', heq, hl', hlength', -⟩ := isStroke_iff.mp hv
        cases heq
        exact (hunique ns' ps' hl').1 ▸ hlength'
      · cases heq
        exact (hunique ns' ps' hl').1 ▸ hlength
  | _ =>
    refine .inr ⟨?_, _, rfl, .numbers fun _ _ _ heq => by cases heq⟩
    rintro ⟨ns, ps, -, heq, -⟩
    cases heq

theorem strokes?_cases (vs : List Value) :
    ((∀ v ∈ vs, IsStroke v) ∧ ∃ ts, Gesture.strokes? vs = .ok ts ∧ List.Forall₂ Stroke vs ts) ∨
      ∃ as v bs f, vs = as ++ v :: bs ∧ (∀ a ∈ as, IsStroke a) ∧ ¬IsStroke v ∧
        StrokeFault v f ∧ Gesture.strokes? vs = .error f := by
  induction vs with
  | nil => exact .inl ⟨by simp, [], rfl, .nil⟩
  | cons v vs ih =>
    rw [Gesture.strokes?]
    rcases stroke?_cases v with ⟨hv, t, ht, hstroke⟩ | ⟨hv, f, hf, hfault⟩
    · rw [ht]
      rcases ih with ⟨hvs, ts, hts, hstrokes⟩ | ⟨as, b, bs, f, rfl, has, hb, hfault, hf⟩
      · refine .inl ⟨List.forall_mem_cons.mpr ⟨hv, hvs⟩, t :: ts, ?_, .cons hstroke hstrokes⟩
        simp only [hts, Except.map]
      · refine .inr ⟨v :: as, b, bs, f, rfl, List.forall_mem_cons.mpr ⟨hv, has⟩, hb, hfault, ?_⟩
        simp only [hf, Except.map]
    · rw [hf]
      exact .inr ⟨[], v, vs, f, rfl, by simp, hv, hfault, rfl⟩

inductive Nested : Nat → Json.Value → Prop
  | word {n : Nat} (m : Int64) : Nested n (Api.jsonWord m)
  | list {n : Nat} {vs : List Json.Value} (hvs : ∀ v ∈ vs, Nested n v) : Nested (n + 1) (.array vs)

theorem Nested.plain {n : Nat} {v : Json.Value} (hv : Nested n v) :
    v.Integral ∧ v.depth ≤ n ∧ v.sorted = v := by
  induction hv with
  | word m => exact ⟨Json.Value.integral_word m, Nat.zero_le _, rfl⟩
  | @list n vs _ ih =>
    have hitems : Json.Value.IntegralItems vs ∧ Json.Value.depthItems vs ≤ n ∧
        Json.Value.sortedItems vs = vs := by
      induction vs with
      | nil => exact ⟨trivial, Nat.zero_le _, rfl⟩
      | cons v vs ihvs =>
        obtain ⟨⟨hv, hdepth, hsorted⟩, hvs⟩ := List.forall_mem_cons.mp ih
        obtain ⟨hvs, hdepths, hsorteds⟩ := ihvs (fun v hv => by grind) hvs
        refine ⟨⟨hv, hvs⟩, Nat.max_le.mpr ⟨hdepth, hdepths⟩, ?_⟩
        rw [Json.Value.sortedItems, hsorted, hsorteds]
    obtain ⟨hintegral, hdepth, hsorted⟩ := hitems
    refine ⟨hintegral, Nat.succ_le_succ hdepth, ?_⟩
    rw [Json.Value.sorted, hsorted]

theorem Nested.parse {n : Nat} {v : Json.Value} (hv : Nested n v) (hn : n ≤ Json.maxDepth) :
    Json.Value.parse? v.text = some v := by
  obtain ⟨hintegral, hdepth, hsorted⟩ := hv.plain
  rw [Json.Value.parse_text hintegral, if_pos (hdepth.trans hn), hsorted]

theorem nested_strokeValue (k : Option Scale) (numbers : List Int64)
    (points : List (Int64 × Int64)) : Nested 2 (Gesture.strokeValue k numbers points) := by
  apply Nested.list
  intro v hv
  rcases List.mem_append.mp hv with hv | hv
  · obtain ⟨n, -, rfl⟩ := List.mem_map.mp hv
    exact .word n
  · obtain ⟨q, -, rfl⟩ := List.mem_map.mp hv
    exact .list (List.forall_mem_cons.mpr ⟨.word _, List.forall_mem_singleton.mpr (.word _)⟩)

theorem nested_strokeValues (k : Option Scale) (ts : List (List Int64 × List (Int64 × Int64))) :
    Nested 3 (.array (ts.map fun t => Gesture.strokeValue k t.1 t.2)) := by
  apply Nested.list
  intro v hv
  obtain ⟨t, -, rfl⟩ := List.mem_map.mp hv
  exact nested_strokeValue k t.1 t.2

theorem function?_gesture (duration : Int64) (points : List Value) (p : Position) :
    Api.function? "gesture" [.int duration, .array points] p =
      some (Api.gesture duration points p) := by
  have hk : Selector.Kind.ofName? "gesture" = none := by decide
  simp [Api.function?, hk, Api.method?, Api.global?, Api.gestureCall?]

theorem function?_gestures (strokes : List Value) (p : Position) :
    Api.function? "gestures" [.array strokes] p = some (Api.gestures strokes p) := by
  have hk : Selector.Kind.ofName? "gestures" = none := by decide
  simp [Api.function?, hk, Api.method?, Api.searchMethod?, Api.global?, Api.gestureCall?]

theorem function?_points (duration : Int64) (a b : List Value) (more : List Value) (p : Position)
    (hmore : more = [] ∨ ∃ c, more = [.array c]) :
    Api.function? "gesture" (.int duration :: .array a :: .array b :: more) p =
      Api.function? "gesture" [.int duration, .array (.array a :: .array b :: more)] p := by
  rw [function?_gesture]
  have hk : Selector.Kind.ofName? "gesture" = none := by decide
  rcases hmore with rfl | ⟨c, rfl⟩
  · simp [Api.function?, hk, Api.method?, Api.global?, Api.gestureCall?]
  · simp [Api.function?, hk, Api.method?, Api.global?, Api.gestureCall?]

variable {h} {c : Context} {s : Session} {p : Position} {w : World σ}

theorem gesture_sent {duration : Int64} {points : List Value} (hpoints : IsPath points)
    (hw : w.pending = false) : ∃ qs text, List.Forall₂ Point points qs ∧
      Json.Value.parse? text = some (Gesture.strokeValue s.scale [duration] qs) ∧
      Delivers h (Api.gesture duration points p) c s w ⟨Verb.gesture, [text]⟩ := by
  rcases path?_cases points with ⟨-, qs, hqs, hpath⟩ | ⟨hbad, -⟩
  · refine ⟨qs, _, hpath, (nested_strokeValue s.scale [duration] qs).parse (by decide), ?_⟩
    rw [Api.gesture_eq, hqs]
    exact .of_aim hw (.stroke [duration] qs)
  · exact absurd hpoints hbad

theorem gesture_refused {duration : Int64} {points : List Value} (hpoints : ¬IsPath points) :
    ∃ f, PathFault points f ∧ Refuses h (Api.gesture duration points p) c s w f p := by
  rcases path?_cases points with ⟨hgood, -⟩ | ⟨-, f, hf, hfault⟩
  · exact absurd hgood hpoints
  · refine ⟨f, hfault, ?_⟩
    rw [Api.gesture_eq, hf]
    exact .of_refuse f p

theorem gestures_sent {strokes : List Value} (hstrokes : ∀ v ∈ strokes, IsStroke v)
    (hw : w.pending = false) : ∃ ts text, List.Forall₂ Stroke strokes ts ∧
      Json.Value.parse? text =
        some (.array (ts.map fun t => Gesture.strokeValue s.scale t.1 t.2)) ∧
      Delivers h (Api.gestures strokes p) c s w ⟨Verb.gestures, [text]⟩ := by
  rcases strokes?_cases strokes with ⟨-, ts, hts, hpaths⟩ | ⟨as, v, bs, -, rfl, -, hv, -⟩
  · refine ⟨ts, _, hpaths, (nested_strokeValues s.scale ts).parse (by decide), ?_⟩
    rw [Api.gestures_eq, hts]
    exact .of_aim hw (.strokes ts)
  · exact absurd (hstrokes v (List.mem_append_right as (List.mem_cons_self ..))) hv

theorem gestures_refused {strokes : List Value} (hstrokes : ¬∀ v ∈ strokes, IsStroke v) :
    ∃ as v bs f, strokes = as ++ v :: bs ∧ (∀ a ∈ as, IsStroke a) ∧ ¬IsStroke v ∧
      StrokeFault v f ∧ Refuses h (Api.gestures strokes p) c s w f p := by
  rcases strokes?_cases strokes with ⟨hgood, -⟩ | ⟨as, v, bs, f, hsplit, has, hv, hfault, hf⟩
  · exact absurd hgood hstrokes
  · refine ⟨as, v, bs, f, hsplit, has, hv, hfault, ?_⟩
    rw [Api.gestures_eq, hf]
    exact .of_refuse f p

theorem Delivers.turns_ne_nil {a : Action Value} {call : Call} (ha : Delivers h a c s w call)
    (hw : w.attached = true) : World.turns h (a c s) w ≠ [] := by
  rw [ha.turns, if_pos hw]
  exact List.cons_ne_nil _ _

theorem gesture_turns_iff {duration : Int64} {points : List Value} (hw : w.pending = false)
    (hattached : w.attached = true) :
    World.turns h (Api.gesture duration points p c s) w ≠ [] ↔ IsPath points := by
  constructor
  · intro hturns
    by_contra hpoints
    obtain ⟨_, -, hrefused⟩ : ∃ f, PathFault points f ∧
        Refuses h (Api.gesture duration points p) c s w f p := gesture_refused hpoints
    exact hturns hrefused.turns
  · intro hpoints
    obtain ⟨_, _, -, -, hsent⟩ : ∃ qs text, List.Forall₂ Point points qs ∧
        Json.Value.parse? text = some (Gesture.strokeValue s.scale [duration] qs) ∧
        Delivers h (Api.gesture duration points p) c s w ⟨Verb.gesture, [text]⟩ :=
      gesture_sent hpoints hw
    exact hsent.turns_ne_nil hattached

theorem gestures_turns_iff {strokes : List Value} (hw : w.pending = false)
    (hattached : w.attached = true) :
    World.turns h (Api.gestures strokes p c s) w ≠ [] ↔ ∀ v ∈ strokes, IsStroke v := by
  constructor
  · intro hturns
    by_contra hstrokes
    obtain ⟨_, _, _, _, -, -, -, -, hrefused⟩ :=
      gestures_refused (h := h) (c := c) (s := s) (p := p) (w := w) hstrokes
    exact hturns hrefused.turns
  · intro hstrokes
    obtain ⟨_, _, -, -, hsent⟩ := gestures_sent (h := h) (c := c) (s := s) (p := p) hstrokes hw
    exact hsent.turns_ne_nil hattached

/-- With no interrupt pending, a gesture through two points at least, all of them pairs of numbers,
is one call whose text is read as the duration and the points, scaled; strokes that begin with one
or two whole numbers and go on like that are one call whose text is read as the list of them.
Anything else is an error of the script at the first thing that is wrong, and the host is asked for
nothing. -/
theorem gestures_checked_before_the_host (h : Host σ) (c : Context) (s : Session) (p : Position)
    (w : World σ) (hw : w.pending = false) :
    (∀ duration (points : List Value), ∃ a,
      Api.function? "gesture" [.int duration, .array points] p = some a ∧
      (w.attached = true → (World.turns h (a c s) w ≠ [] ↔ IsPath points)) ∧
      (IsPath points → ∃ qs text, List.Forall₂ Point points qs ∧
        Json.Value.parse? text = some (Gesture.strokeValue s.scale [duration] qs) ∧
        Delivers h a c s w ⟨Verb.gesture, [text]⟩) ∧
      (¬IsPath points → ∃ f, PathFault points f ∧ Refuses h a c s w f p)) ∧
    (∀ strokes, ∃ a, Api.function? "gestures" [.array strokes] p = some a ∧
      (w.attached = true → (World.turns h (a c s) w ≠ [] ↔ ∀ v ∈ strokes, IsStroke v)) ∧
      ((∀ v ∈ strokes, IsStroke v) → ∃ ts text, List.Forall₂ Stroke strokes ts ∧
        Json.Value.parse? text =
          some (.array (ts.map fun t => Gesture.strokeValue s.scale t.1 t.2)) ∧
        Delivers h a c s w ⟨Verb.gestures, [text]⟩) ∧
      ((¬∀ v ∈ strokes, IsStroke v) → ∃ as v bs f, strokes = as ++ v :: bs ∧
        (∀ a ∈ as, IsStroke a) ∧ ¬IsStroke v ∧ StrokeFault v f ∧ Refuses h a c s w f p)) ∧
    (∀ duration a b more, (more = [] ∨ ∃ c, more = [.array c]) →
      Api.function? "gesture" (.int duration :: .array a :: .array b :: more) p =
        Api.function? "gesture" [.int duration, .array (.array a :: .array b :: more)] p) ∧
    ∀ f source name, Engine.outcome source name s (.error (.failed (.error (.badArgument f) p))) =
      some (.error (.script { message := f.message, sourceName := name, line := some p.line
                              col := some p.col
                              excerpt := some (Excerpt.text source p.line p.col) })) := by
  refine ⟨fun duration points => ⟨_, function?_gesture duration points p, gesture_turns_iff hw,
    fun hpoints => gesture_sent hpoints hw, gesture_refused⟩, fun strokes => ⟨_,
    function?_gestures strokes p, gestures_turns_iff hw,
    fun hstrokes => gestures_sent hstrokes hw, gestures_refused⟩,
    fun duration a b more => function?_points duration a b more p, fun _ _ _ => rfl⟩

/-- A delay and a duration are in front of two points, and a number is among the points. -/
theorem stroke_sent_and_number_refused :
    let host : Host Unit := fun _ _ => .answer (some "true")
    let w : World Unit := { state := (), console := { capacity := 1 } }
    let a : Value := .array [.int 1, .float (.ofInt 2)]
    let b : Value := .array [.int 3, .int 4]
    (∃ g ts text,
      Api.function? "gestures" [.array [.array [.int 0, .int 5, a, b]]] ⟨1, 1⟩ = some g ∧
      List.Forall₂ Stroke [.array [.int 0, .int 5, a, b]] ts ∧
      Json.Value.parse? text =
        some (.array (ts.map fun t => Gesture.strokeValue none t.1 t.2)) ∧
      World.turns host (g { config := {} } {}) w = [w.turn host Verb.gestures [text]]) ∧
    ∃ g f, Api.function? "gesture" [.int 5, .array [a, .int 1, b]] ⟨1, 1⟩ = some g ∧
      PathFault [a, .int 1, b] f ∧ Refuses host g { config := {} } {} w f ⟨1, 1⟩ := by
  intro host w a b
  have hint (n : Int64) : IsNumber (.int n) := .inl ⟨n, rfl⟩
  have ha : IsPoint a := ⟨_, _, rfl, hint 1, .inr ⟨_, rfl⟩⟩
  have hb : IsPoint b := ⟨_, _, rfl, hint 3, hint 4⟩
  have hpath : IsPath [a, b] :=
    ⟨by decide, List.forall_mem_cons.mpr ⟨ha, List.forall_mem_singleton.mpr hb⟩⟩
  have hone : ¬IsPoint (.int 1) := by
    rintro ⟨_, _, heq, -, -⟩
    cases heq
  obtain ⟨hgesture, hgestures, -, -⟩ :=
    gestures_checked_before_the_host host { config := {} } {} ⟨1, 1⟩ w rfl
  obtain ⟨g, hg, -, hsent, -⟩ := hgestures [.array [.int 0, .int 5, a, b]]
  obtain ⟨ts, text, hts, htext, hdelivers⟩ := hsent
    (List.forall_mem_singleton.mpr ⟨[0, 5], [a, b], .inr rfl, rfl, hpath⟩)
  obtain ⟨g', hg', -, -, hrefused⟩ := hgesture 5 [a, .int 1, b]
  obtain ⟨f, hfault, hrefuses⟩ := hrefused fun hbad => hone (hbad.2 (.int 1) (by simp))
  exact ⟨⟨g, ts, text, hg, hts, htext, hdelivers.turns⟩, g', f, hg', hfault, hrefuses⟩

end ScreenScript.Script
