import ScreenScript.Proofs.Script.Callable
import ScreenScript.Proofs.Script.Runs

/-!
Which functions of scripts have to do with the scale of the screen: those that name points make a
gesture of them, one declares another scale, and to all others every screen is the same.
-/

namespace ScreenScript.Script

open Script.Action

variable {σ α β : Type}

/-- The scale of a device for scripts that are meant for a screen of some size; none if the device
does not tell its own. -/
def Scale.between? (size device : Int64 × Int64) : Option Scale :=
  if 0 < device.1 ∧ 0 < device.2 then
    some ⟨Api.factor device.1 size.1, Api.factor device.2 size.2⟩
  else none

/-- On every screen `a` does the same, and it leaves the scale alone. -/
def Blind (a : Action α) : Prop :=
  ∀ c s k, a c (s.rescale k) = (a c s).bind fun (r, t) => .done (r, t.rescale k)

namespace Blind

theorem value (a : α) : Blind (pure a : Action α) :=
  fun _ _ _ => rfl

theorem stop (e : Stop) : Blind (stop e : Action α) :=
  fun _ _ _ => rfl

theorem read : Blind (read : Action Context) :=
  fun _ _ _ => rfl

theorem seq {a : Action α} {f : α → Action β} (ha : Blind a) (hf : ∀ v, Blind (f v)) :
    Blind (a >>= f) := by
  intro c s k
  rw [bind_apply, bind_apply, ha, Program.bind_bind, Program.bind_bind]
  congr
  funext out
  obtain ⟨r, t⟩ := out
  cases r with
  | ok v => exact hf v c t k
  | error e => rfl

theorem look {f : Session → Action α} (hf : ∀ s k, f (s.rescale k) = f s)
    (hblind : ∀ s, Blind (f s)) : Blind (get >>= f) := by
  intro c s k
  rw [get_bind_apply, get_bind_apply, hf]
  exact hblind s c s k

theorem perform (q : Program α) : Blind (perform q) := by
  intro c s k
  unfold Action.perform
  rw [Program.bind_bind]
  rfl

theorem heed : Blind heed := by
  intro c s k
  rw [heed_apply, heed_apply]
  rfl

theorem guarded (q : Program α) : Blind (guarded q) :=
  seq heed fun _ => seq (perform q) fun v => seq heed fun _ => value v

theorem change {g : Session → α × Session}
    (hg : ∀ s k, g (s.rescale k) = ((g s).1, (g s).2.rescale k)) : Blind (modifyGet g) := by
  intro c s k
  exact congrArg (fun x : α × Session => Program.done (Except.ok x.1, x.2)) (hg s k)

theorem write (pl : Place) (v : Value) : Blind (Evaluator.writePlace pl v) :=
  change fun s k => Prod.ext rfl (pl.write_rescale s v k)

theorem checkSize (v : Value) (p : Position) : Blind (Evaluator.checkSize v p) := by
  unfold Evaluator.checkSize
  refine seq read fun c => ?_
  dsimp only
  split
  · exact stop _
  · exact value ()

end Blind

theorem Native.blind {a : Action α} (ha : Native (fun _ => True) (fun _ => True) false true a) :
    Blind a := by
  generalize hm : false = mapping, true = gathering at ha
  induction ha with
  | value a => exact .value a
  | seq _ _ iha ihf => exact .seq (iha hm) fun v => ihf v hm
  | look hk _ ih => exact .look (fun s k => hk _ _ (s.shows_rescale k)) fun s => ih s hm
  | read => exact .read
  | fail _ => exact .stop _
  | finish _ => exact .stop _
  | exit => exact .stop _
  | heed => exact .heed
  | guarded _ => exact .guarded _
  | aim g => cases hm
  | declare _ _ _ => cases hm
  | pause ms => exact .perform _
  | emit m => exact .perform _
  | note e => exact .perform _
  | change _ _ _ hrescale => exact .change hrescale

/-- The calls of scripts that make a gesture through points of their own. -/
inductive Aims : String → List Value → Gesture → Prop
  | click (x y : Int64) : Aims "click" [.int x, .int y] (.touch Verb.click [(x, y)] [])
  | longClick (x y : Int64) : Aims "longClick" [.int x, .int y] (.touch Verb.longClick [(x, y)] [])
  | press (x y d : Int64) :
    Aims "press" [.int x, .int y, .int d] (.touch Verb.press [(x, y)] [Word.text d])
  | swipe (x₁ y₁ x₂ y₂ : Int64) : Aims "swipe" [.int x₁, .int y₁, .int x₂, .int y₂]
    (.touch Verb.swipe [(x₁, y₁), (x₂, y₂)] [])
  | timedSwipe (x₁ y₁ x₂ y₂ d : Int64) : Aims "swipe" [.int x₁, .int y₁, .int x₂, .int y₂, .int d]
    (.touch Verb.swipe [(x₁, y₁), (x₂, y₂)] [Word.text d])
  | gesture {d : Int64} {points : List Value} {qs : List (Int64 × Int64)}
    (hqs : Gesture.path? points = .ok qs) :
    Aims "gesture" [.int d, .array points] (.stroke [d] qs)
  | line {d : Int64} {a b : List Value} {qs : List (Int64 × Int64)}
    (hqs : Gesture.path? [.array a, .array b] = .ok qs) :
    Aims "gesture" [.int d, .array a, .array b] (.stroke [d] qs)
  | bend {d : Int64} {a b c : List Value} {qs : List (Int64 × Int64)}
    (hqs : Gesture.path? [.array a, .array b, .array c] = .ok qs) :
    Aims "gesture" [.int d, .array a, .array b, .array c] (.stroke [d] qs)
  | gestures {strokes : List Value} {ts : List (List Int64 × List (Int64 × Int64))}
    (hts : Gesture.strokes? strokes = .ok ts) :
    Aims "gestures" [.array strokes] (.strokes ts)

/-- What a call that scripts can make has to do with the scale. -/
inductive Concerns (name : String) (args : List Value) (p : Position) (a : Action Value) : Prop
  | nothing (h : Blind a)
  | aim (g : Gesture) (hg : Aims name args g) (ha : a = aim g)
  | declare (width height : Int64) (hname : name = "setScreenMetrics")
      (hargs : args = [.int width, .int height]) (ha : a = Api.setScreenMetrics width height p)

namespace Api

open Gesture

variable {name : String} {args : List Value} {p : Position}

theorem concerns_aimOr {g : Except ArgumentFault Gesture}
    (h : ∀ g', g = .ok g' → Aims name args g') : Concerns name args p (aimOr g p) := by
  cases g with
  | ok g => exact .aim g (h g rfl) rfl
  | error f => exact .nothing (.stop _)

theorem concerns_gesture {d : Int64} {points : List Value}
    (h : ∀ qs, path? points = .ok qs → Aims name args (.stroke [d] qs)) :
    Concerns name args p (gesture d points p) := by
  rw [gesture_eq]
  refine concerns_aimOr fun g hg => ?_
  cases hqs : path? points with
  | ok qs =>
    rw [hqs] at hg
    cases hg
    exact h qs hqs
  | error f =>
    rw [hqs] at hg
    cases hg

theorem concerns_gestures {strokes : List Value}
    (h : ∀ ts, strokes? strokes = .ok ts → Aims name args (.strokes ts)) :
    Concerns name args p (gestures strokes p) := by
  rw [gestures_eq]
  refine concerns_aimOr fun g hg => ?_
  cases hts : strokes? strokes with
  | ok ts =>
    rw [hts] at hg
    cases hg
    exact h ts hts
  | error f =>
    rw [hts] at hg
    cases hg

theorem gestureCall?_concerns (name : String) (args : List Value) (p : Position) :
    Offers (Concerns name args p) (gestureCall? name args p) := by
  unfold gestureCall?
  split
  · split
    · exact .some (.nothing (Native.blind (ask_native _ _)))
    · exact .none
  · split
    · exact .some (.aim _ (.click _ _) rfl)
    · exact .some (.aim _ (.longClick _ _) rfl)
    · exact .some (.declare _ _ rfl rfl rfl)
    · exact .none
  · split
    · next h => exact .some (h ▸ .aim _ (.press _ _ _) rfl)
    · exact .none
  · split
    · next h => exact .some (h ▸ .aim _ (.swipe _ _ _ _) (swipe_eq ..))
    · exact .none
  · split
    · next h => exact .some (h ▸ .aim _ (.timedSwipe _ _ _ _ _) (swipe_eq ..))
    · exact .none
  · split
    · next h => exact .some (concerns_gestures fun ts hts => h ▸ .gestures hts)
    · exact .none
  · split
    · next h => exact .some (concerns_gesture fun qs hqs => h ▸ .gesture hqs)
    · exact .none
  · split
    · next h => exact .some (concerns_gesture fun qs hqs => h ▸ .line hqs)
    · exact .none
  · split
    · next h => exact .some (concerns_gesture fun qs hqs => h ▸ .bend hqs)
    · exact .none
  · exact .none

theorem concerns_of_native {o : Option (Action Value)}
    (h : Offers (Native (fun _ => True) (fun _ => True) false true) o) :
    Offers (Concerns name args p) o :=
  fun a ha => .nothing (h a ha).blind

theorem function?_concerns (name : String) (args : List Value) (p : Position) :
    Offers (Concerns name args p) (function? name args p) := by
  have hglobal : Offers (Concerns name args p) (global? name args p) := by
    unfold global?
    split
    · exact .some (.nothing (Native.blind (.seq newSelector_native fun _ => .value _)))
    · exact (gestureCall?_concerns name args p).orElse
        ((concerns_of_native (actionCall?_native name args)).orElse
          (concerns_of_native (standardCall?_native name (fun _ _ => trivial) trivial)))
  exact (concerns_of_native (Offers.bind fun k => conditionCall_native k args)).orElse
    ((concerns_of_native (method?_native name args)).orElse hglobal)

theorem property?_blind (v : Value) (name : String) : Offers Blind (property? v name) :=
  fun a ha => Native.blind (property?_native v name a ha)

theorem method_blind {v : Value} (hv : (∃ i, v = .node i) ∨ ∃ h, v = .selector h) (name : String)
    (args : List Value) (p : Position) : Offers Blind (function? name (v :: args) p) := by
  intro a ha
  -- Gestures and declarations begin with a number or a list.
  cases function?_concerns name (v :: args) p a ha with
  | nothing h => exact h
  | aim g hg _ => rcases hv with ⟨i, rfl⟩ | ⟨h, rfl⟩ <;> cases hg
  | declare _ _ _ hargs _ => rcases hv with ⟨i, rfl⟩ | ⟨h, rfl⟩ <;> cases hargs

theorem gestureCall?_aims {g : Gesture} (hg : Aims name args g) (p : Position) :
    gestureCall? name args p = some (aim g) := by
  cases hg with
  | click | longClick | press => rfl
  | swipe | timedSwipe => exact congrArg some (swipe_eq ..)
  | gesture hqs | line hqs | bend hqs =>
    refine congrArg some ((gesture_eq ..).trans ?_)
    rw [hqs]
    rfl
  | gestures hts =>
    refine congrArg some ((gestures_eq ..).trans ?_)
    rw [hts]
    rfl

theorem function?_aims {g : Gesture} (hg : Aims name args g) (p : Position) :
    function? name args p = some (aim g) := by
  have hkind : Selector.Kind.ofName? name = none := by cases hg <;> decide
  have hmethod : method? name args = none := by cases hg <;> rfl
  have hglobal : global? name args p = (gestureCall? name args p <|> actionCall? name args <|>
      standardCall? name args p) := by cases hg <;> rfl
  rw [function?, hkind, hmethod, hglobal, gestureCall?_aims hg]
  rfl

end Api

/-- The size of the device, unless the size declared is refused or an interrupt comes between. -/
def declaration (size : Int64 × Int64) : Program (Option (Int64 × Int64)) :=
  if size.1 ≤ 0 ∨ size.2 ≤ 0 then .done none
  else .poll fun b =>
    if b then .done none
    else Api.deviceSize.bind fun device => .poll fun b => .done (if b then none else some device)

def unknownNoted (device : Int64 × Int64) : Program Unit :=
  if 0 < device.1 ∧ 0 < device.2 then .done () else .note Api.unknownSize .done

def undeclared (size : Int64 × Int64) (p : Position) : Stop :=
  .failed (if size.1 ≤ 0 ∨ size.2 ≤ 0 then .error (.badArgument (.badSize size.1 size.2)) p
    else .terminated Failure.cancelToken)

def declared (size : Int64 × Int64) (p : Position) (s : Session) :
    Option (Int64 × Int64) → Program (Except Stop Value × Session)
  | none => .done (.error (undeclared size p), s)
  | some device => (unknownNoted device).bind fun _ => .done (.ok .unit, s)

theorem setScreenMetrics_apply (size : Int64 × Int64) (p : Position) (c : Context) (s : Session) :
    Api.setScreenMetrics size.1 size.2 p c s = (declaration size).bind fun device =>
      declared size p (s.rescale ((device.map (Scale.between? size)).getD s.scale)) device := by
  rw [Api.setScreenMetrics, declaration]
  by_cases hsize : size.1 ≤ 0 ∨ size.2 ≤ 0
  · have hend : undeclared size p = .failed (.error (.badArgument (.badSize size.1 size.2)) p) := by
      rw [undeclared, if_pos hsize]
    simp only [if_pos hsize, Program.bind, declared, hend]
    rfl
  · have hend : undeclared size p = .failed (.terminated Failure.cancelToken) := by
      rw [undeclared, if_neg hsize]
    simp only [if_neg hsize]
    rw [bind_apply, guarded_apply]
    refine congrArg Program.poll (funext fun b => ?_)
    cases b with
    | true =>
      simp only [if_true, Program.bind, declared, hend]
      rfl
    | false =>
      simp only [Bool.false_eq_true, if_false, Program.bind_bind]
      refine congrArg (Program.bind Api.deviceSize) (funext fun device => ?_)
      refine congrArg Program.poll (funext fun b => ?_)
      cases b with
      | true =>
        simp only [if_true, Program.bind, declared, hend]
        rfl
      | false =>
        simp only [Bool.false_eq_true, if_false, Program.bind, declared, unknownNoted,
          Option.map_some, Option.getD_some, Scale.between?]
        split <;> rfl

variable {h : Host σ} {c : Context} {s : Session} {p : Position} {w : World σ}

theorem run_setScreenMetrics {width height : Int64} (hsize : ¬(width ≤ 0 ∨ height ≤ 0)) :
    (World.run h (Api.setScreenMetrics width height p c s) w).1 =
      if w.pending ∨ (World.run h Api.deviceSize w).2.pending then
        (.error (.failed (.terminated Failure.cancelToken)), s)
      else (.ok .unit, s.rescale
        (Scale.between? (width, height) (World.run h Api.deviceSize w).1)) := by
  have happly := setScreenMetrics_apply (width, height) p c s
  dsimp only at happly
  rw [happly, declaration, if_neg hsize, World.run_bind, World.run]
  cases w.pending with
  | true =>
    simp only [World.run, if_true, true_or, declared, undeclared, if_neg hsize]
    rfl
  | false =>
    simp only [Bool.false_eq_true, if_false, false_or, World.run_bind, World.run]
    cases (World.run h Api.deviceSize w).2.pending with
    | true =>
      simp only [World.run, if_true, declared, undeclared, if_neg hsize]
      rfl
    | false =>
      simp only [Bool.false_eq_true, if_false, declared, World.run_bind, World.run]
      rfl

end ScreenScript.Script
