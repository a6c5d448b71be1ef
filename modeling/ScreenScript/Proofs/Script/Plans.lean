import ScreenScript.Proofs.Script.Coordinates
import ScreenScript.Proofs.Script.Interrupts

/-!
Scripts apart from the screen they run on. A plan names the points of gestures as the script does,
and the scale is put in when the plan is carried out. Whatever a script does follows a plan, so its
gestures go where the latest declaration of the script tells, and nothing else depends on it.
-/

namespace ScreenScript.Script

open Script.Action

variable {σ α β : Type}

inductive Plan (α : Type) where
  | done (a : α)
  | ask (verb : String) (args : List String) (next : Option String → Plan α)
  | poll (next : Bool → Plan α)
  | pause (ms : Nat) (next : Unit → Plan α)
  | emit (m : Message) (next : Unit → Plan α)
  | note (e : Log.Event) (next : Unit → Plan α)
  | aim (g : Gesture) (next : Option String → Plan α)
  /-- Declares the size that points are meant for, and what comes next is told that of the device. -/
  | declare (size : Int64 × Int64) (next : Option (Int64 × Int64) → Plan α)

/-- What shows from outside when a plan is carried out. -/
inductive Mark where
  | asked (c : Call)
  | aimed (g : Gesture) (c : Call)
  /-- The size of the device is missing if the declaration was refused or cut short. -/
  | declared (size : Int64 × Int64) (device : Option (Int64 × Int64))

namespace Mark

def call? : Mark → Option Call
  | asked c => some c
  | aimed _ c => some c
  | declared _ _ => none

def scale? : Mark → Option (Option Scale)
  | declared size device => device.map (Scale.between? size)
  | _ => none

end Mark

/-- The last declaration that came to its end fixes the scale; without one it is as before. -/
def mapping (k : Option Scale) (ms : List Mark) : Option Scale :=
  (ms.filterMap Mark.scale?).getLastD k

theorem mapping_append (k : Option Scale) (ms ns : List Mark) :
    mapping k (ms ++ ns) = mapping (mapping k ms) ns := by
  simp only [mapping, List.filterMap_append, List.getLastD_eq_getLast?, List.getLast?_append]
  cases (ns.filterMap Mark.scale?).getLast? <;> rfl

theorem mapping_cons (k : Option Scale) (m : Mark) (ms : List Mark) :
    mapping k (m :: ms) = mapping (mapping k [m]) ms :=
  mapping_append k [m] ms

theorem mapping_of_asked (k : Option Scale) (cs : List Call) :
    mapping k (cs.map Mark.asked) = k := by
  have hnone : (cs.map Mark.asked).filterMap Mark.scale? = [] := by
    rw [List.filterMap_map]
    exact List.filterMap_eq_nil_iff.mpr fun _ _ => rfl
  rw [mapping, hnone]
  rfl

theorem calls_of_asked (cs : List Call) : (cs.map Mark.asked).filterMap Mark.call? = cs := by
  rw [List.filterMap_map]
  exact List.filterMap_some

/-- Each gesture is mapped by the scale that the declarations before it fix. -/
def Mapped (k : Option Scale) (ms : List Mark) : Prop :=
  ∀ before g c after, ms = before ++ .aimed g c :: after → c = g.call (mapping k before)

namespace Mapped

variable {k : Option Scale} {ms ns : List Mark}

theorem nil : Mapped k [] := by
  intro before g c after h
  simp at h

theorem cons {m : Mark} (hm : ∀ g c, m = .aimed g c → c = g.call k)
    (h : Mapped (mapping k [m]) ms) : Mapped k (m :: ms) := by
  intro before g c after hms
  cases before with
  | nil =>
    obtain ⟨rfl, -⟩ := List.cons.inj hms
    exact hm g c rfl
  | cons m' before =>
    obtain ⟨rfl, hrest⟩ := List.cons.inj hms
    rw [h before g c after hrest, mapping_cons k m before]

theorem asked (cs : List Call) : Mapped k (cs.map Mark.asked) := by
  intro before g c after h
  have hmem : Mark.aimed g c ∈ cs.map Mark.asked := by simp [h]
  simp at hmem

theorem append (hm : Mapped k ms) (hn : Mapped (mapping k ms) ns) : Mapped k (ms ++ ns) := by
  induction ms generalizing k with
  | nil => exact hn
  | cons m ms ih =>
    refine .cons (fun g c h => hm [] g c ms (by rw [h]; rfl)) (ih ?_ ?_)
    · intro before g c after h
      have hc := hm (m :: before) g c after (by rw [h]; rfl)
      rwa [mapping_cons] at hc
    · rwa [← mapping_cons]

end Mapped

namespace Plan

def program : Plan α → Option Scale → Program (α × Option Scale)
  | done a, k => .done (a, k)
  | ask verb args next, k => .ask verb args fun r => (next r).program k
  | poll next, k => .poll fun b => (next b).program k
  | pause ms next, k => .pause ms fun u => (next u).program k
  | emit m next, k => .emit m fun u => (next u).program k
  | note e next, k => .note e fun u => (next u).program k
  | aim g next, k => .ask (g.call k).verb (g.call k).args fun r => (next r).program k
  | declare size next, k => (declaration size).bind fun device =>
    (next device).program (mapping k [.declared size device])

def marks (h : Host σ) : Plan α → Option Scale → World σ → List Mark
  | done _, _, _ => []
  | ask verb args next, k, w =>
    (if w.attached then [.asked ⟨verb, args⟩] else []) ++
      (next (w.call h World.maxReentry verb args).1).marks h k
        (w.call h World.maxReentry verb args).2
  | poll next, k, w => (next w.pending).marks h k w
  | pause ms next, k, w => (next ()).marks h k (w.wait ms)
  | emit m next, k, w => (next ()).marks h k (w.emit m)
  | note e next, k, w => (next ()).marks h k (w.note e)
  | aim g next, k, w =>
    (if w.attached then [.aimed g (g.call k)] else []) ++
      (next (w.call h World.maxReentry (g.call k).verb (g.call k).args).1).marks h k
        (w.call h World.maxReentry (g.call k).verb (g.call k).args).2
  | declare size next, k, w =>
    let out := World.run h (declaration size) w
    ((World.turns h (declaration size) w).map (·.call)).map .asked ++ .declared size out.1 ::
      (next out.1).marks h (mapping k [.declared size out.1]) out.2

def bind (P : Plan α) (f : α → Plan β) : Plan β :=
  match P with
  | done a => f a
  | ask verb args next => ask verb args fun r => (next r).bind f
  | poll next => poll fun b => (next b).bind f
  | pause ms next => pause ms fun u => (next u).bind f
  | emit m next => emit m fun u => (next u).bind f
  | note e next => note e fun u => (next u).bind f
  | aim g next => aim g fun r => (next r).bind f
  | declare size next => declare size fun device => (next device).bind f

def ofProgram : Program α → Plan α
  | .done a => done a
  | .ask verb args next => ask verb args fun r => ofProgram (next r)
  | .poll next => poll fun b => ofProgram (next b)
  | .pause ms next => pause ms fun u => ofProgram (next u)
  | .emit m next => emit m fun u => ofProgram (next u)
  | .note e next => note e fun u => ofProgram (next u)

theorem program_bind (P : Plan α) (f : α → Plan β) (k : Option Scale) :
    (P.bind f).program k = (P.program k).bind fun (a, k') => (f a).program k' := by
  induction P generalizing k with
  | done a => rfl
  | ask verb args next ih => exact congrArg _ (funext fun r => ih r k)
  | poll next ih => exact congrArg _ (funext fun b => ih b k)
  | pause ms next ih => exact congrArg _ (funext fun u => ih u k)
  | emit m next ih => exact congrArg _ (funext fun u => ih u k)
  | note e next ih => exact congrArg _ (funext fun u => ih u k)
  | aim g next ih => exact congrArg _ (funext fun r => ih r k)
  | declare size next ih =>
    refine Eq.trans ?_ (Program.bind_bind _ _ _).symm
    exact congrArg _ (funext fun device => ih device _)

theorem program_ofProgram (q : Program α) (k : Option Scale) :
    (ofProgram q).program k = q.bind fun a => .done (a, k) := by
  induction q with
  | done a => rfl
  | ask verb args next ih => exact congrArg _ (funext ih)
  | poll next ih => exact congrArg _ (funext ih)
  | pause ms next ih => exact congrArg _ (funext ih)
  | emit m next ih => exact congrArg _ (funext ih)
  | note e next ih => exact congrArg _ (funext ih)

theorem scale_run (h : Host σ) (P : Plan α) (k : Option Scale) (w : World σ) :
    (World.run h (P.program k) w).1.2 = mapping k (P.marks h k w) := by
  induction P generalizing k w with
  | done a => rfl
  | ask verb args next ih =>
    rw [marks, mapping_append]
    refine (ih _ k _).trans ?_
    split <;> rfl
  | poll next ih => exact ih _ k w
  | pause ms next ih => exact ih _ k _
  | emit m next ih => exact ih _ k _
  | note e next ih => exact ih _ k _
  | aim g next ih =>
    rw [marks, mapping_append]
    refine (ih _ k _).trans ?_
    split <;> rfl
  | declare size next ih =>
    rw [program, World.run_bind, marks, mapping_append, mapping_of_asked]
    exact (ih _ _ _).trans (mapping_cons k _ _).symm

theorem mapped_marks (h : Host σ) (P : Plan α) (k : Option Scale) (w : World σ) :
    Mapped k (P.marks h k w) := by
  induction P generalizing k w with
  | done a => exact .nil
  | ask verb args next ih =>
    rw [marks]
    split
    · exact .cons nofun (ih _ k _)
    · exact ih _ k _
  | poll next ih => exact ih _ k w
  | pause ms next ih => exact ih _ k _
  | emit m next ih => exact ih _ k _
  | note e next ih => exact ih _ k _
  | aim g next ih =>
    rw [marks]
    split
    · refine .cons (fun g' c h => ?_) (ih _ k _)
      cases h
      rfl
    · exact ih _ k _
  | declare size next ih =>
    rw [marks]
    refine (Mapped.asked _).append (.cons nofun ?_)
    rw [mapping_of_asked]
    exact ih _ _ _

theorem calls_turns (h : Host σ) (P : Plan α) (k : Option Scale) (w : World σ) :
    (World.turns h (P.program k) w).map (·.call) = (P.marks h k w).filterMap Mark.call? := by
  induction P generalizing k w with
  | done a => rfl
  | ask verb args next ih =>
    rw [marks, program, turns_ask, List.map_append, List.filterMap_append, ih]
    split <;> rfl
  | poll next ih => exact ih _ k w
  | pause ms next ih => exact ih _ k _
  | emit m next ih => exact ih _ k _
  | note e next ih => exact ih _ k _
  | aim g next ih =>
    rw [marks, program, turns_ask, List.map_append, List.filterMap_append, ih]
    split <;> rfl
  | declare size next ih =>
    rw [program, World.turns_bind, marks, List.map_append, List.filterMap_append, ih,
      calls_of_asked, List.filterMap_cons_none rfl]

end Plan

structure Outcome (Q : α → Prop) where
  result : Except Stop α
  session : Session
  value : ∀ v, result = .ok v → Q v

namespace Outcome

variable {Q : α → Prop}

def on (o : Outcome Q) (k : Option Scale) : Except Stop α × Session :=
  (o.result, o.session.rescale k)

def ok {v : α} (hv : Q v) (s : Session) : Outcome Q :=
  ⟨.ok v, s, fun w hw => by cases hw; exact hv⟩

def error (e : Stop) (s : Session) : Outcome Q :=
  ⟨.error e, s, nofun⟩

end Outcome

/-- One plan for every screen to start on. -/
def Follows (Q : α → Prop) (F : Option Scale → Program (Except Stop α × Session)) : Prop :=
  ∃ P : Plan (Outcome Q), ∀ k, F k = (P.program k).bind fun (o, k') => .done (o.on k')

def Planned (Q : α → Prop) (a : Action α) : Prop :=
  ∀ (c : Context) (s : Session), Follows Q fun k => a c (s.rescale k)

namespace Follows

variable {Q : α → Prop} {R : β → Prop}

theorem done (o : Outcome Q) : Follows Q fun k => .done (o.on k) :=
  ⟨.done o, fun _ => rfl⟩

theorem aim (g : Gesture) {F : Option String → Option Scale → Program (Except Stop α × Session)}
    (hF : ∀ r, Follows Q (F r)) :
    Follows Q fun k => .ask (g.call k).verb (g.call k).args fun r => F r k := by
  choose P hP using hF
  exact ⟨.aim g P, fun k => congrArg _ (funext fun r => hP r k)⟩

theorem poll {F : Bool → Option Scale → Program (Except Stop α × Session)}
    (hF : ∀ b, Follows Q (F b)) : Follows Q fun k => .poll fun b => F b k := by
  choose P hP using hF
  exact ⟨.poll P, fun k => congrArg _ (funext fun b => hP b k)⟩

theorem perform (q : Program β) {F : β → Option Scale → Program (Except Stop α × Session)}
    (hF : ∀ v, Follows Q (F v)) : Follows Q fun k => q.bind fun v => F v k := by
  choose P hP using hF
  refine ⟨(Plan.ofProgram q).bind P, fun k => ?_⟩
  rw [Plan.program_bind, Plan.program_ofProgram, Program.bind_bind, Program.bind_bind]
  exact congrArg _ (funext fun v => hP v k)

theorem declare (size : Int64 × Int64)
    {F : Option (Int64 × Int64) → Option Scale → Program (Except Stop α × Session)}
    (hF : ∀ device, Follows Q (F device)) : Follows Q fun k => (declaration size).bind fun device =>
      F device (mapping k [.declared size device]) := by
  choose P hP using hF
  refine ⟨.declare size P, fun k => ?_⟩
  rw [Plan.program, Program.bind_bind]
  exact congrArg _ (funext fun device => hP device _)

theorem bind {F : Option Scale → Program (Except Stop α × Session)}
    {G : Except Stop α × Session → Program (Except Stop β × Session)} (hF : Follows Q F)
    (hG : ∀ o : Outcome Q, Follows R fun k => G (o.on k)) :
    Follows R fun k => (F k).bind G := by
  obtain ⟨P, hP⟩ := hF
  choose P' hP' using hG
  refine ⟨P.bind P', fun k => ?_⟩
  dsimp only
  rw [hP, Program.bind_bind, Plan.program_bind, Program.bind_bind]
  congr
  funext ⟨o, k'⟩
  exact hP' o k'

theorem map {F : Option Scale → Program (Except Stop α × Session)}
    {f : Except Stop α → Except Stop β} {g : Session → Session} (hF : Follows Q F)
    (hf : ∀ r, (∀ v, r = .ok v → Q v) → ∀ v, f r = .ok v → R v)
    (hg : ∀ s k, g (s.rescale k) = (g s).rescale k) :
    Follows R fun k => (F k).bind fun (r, s) => .done (f r, g s) := by
  refine hF.bind fun o => ?_
  have hon (k : Option Scale) : (f o.result, g (o.session.rescale k)) =
      Outcome.on ⟨f o.result, g o.session, hf o.result o.value⟩ k := by
    rw [hg]
    rfl
  exact ⟨.done _, fun k => congrArg Program.done (hon k)⟩

theorem weaken {Q' : α → Prop} {F : Option Scale → Program (Except Stop α × Session)}
    (hF : Follows Q F) (h : ∀ v, Q v → Q' v) : Follows Q' F := by
  obtain ⟨P, hP⟩ := hF
  refine ⟨P.bind fun o => .done ⟨o.result, o.session, fun v hv => h v (o.value v hv)⟩,
    fun k => ?_⟩
  rw [hP, Plan.program_bind, Program.bind_bind]
  rfl

end Follows

namespace Planned

variable {Q : α → Prop} {R : β → Prop}

theorem of_blind {a : Action α} (ha : Blind a) : Planned (fun _ => True) a := by
  intro c s
  refine ⟨(Plan.ofProgram (a c s)).bind fun (r, t) => .done ⟨r, t, fun _ _ => trivial⟩,
    fun k => ?_⟩
  dsimp only
  rw [ha, Plan.program_bind, Plan.program_ofProgram, Program.bind_bind, Program.bind_bind]
  rfl

theorem pure {v : α} (hv : Q v) : Planned Q (pure v) :=
  fun _ s => .done (.ok hv s)

theorem stop (e : Stop) : Planned Q (stop e) :=
  fun _ s => .done (.error e s)

theorem bind {a : Action α} {f : α → Action β} (ha : Planned Q a)
    (hf : ∀ v, Q v → Planned R (f v)) : Planned R (a >>= f) := by
  intro c s
  simp only [bind_apply]
  refine (ha c s).bind fun o => ?_
  obtain ⟨r, t, hr⟩ := o
  cases r with
  | ok v => exact hf v (hr v rfl) c t
  | error e => exact .done (.error e t)

theorem look {f : Session → Action α} (hf : ∀ s k, f (s.rescale k) = f s)
    (hplanned : ∀ s, Planned Q (f s)) : Planned Q (get >>= f) := by
  intro c s
  simp only [get_bind_apply, hf]
  exact hplanned s c s

theorem aim (g : Gesture) : Planned (fun _ => True) (aim g) := by
  intro c s
  have hend (b : Bool) (r : Option String) : Follows (fun _ => True) fun k => .done
      (if b then .error (.failed (.terminated Failure.cancelToken))
        else .ok (Value.bool (Answer.bool r)), s.rescale k) :=
    .done ⟨_, s, fun _ _ => trivial⟩
  simp only [aim_apply, Api.ask_apply]
  refine .poll fun b => ?_
  cases b with
  | true => exact .done (.error _ s)
  | false => exact .aim g fun r => .poll fun b => hend b r

theorem declare (width height : Int64) (p : Position) :
    Planned (fun _ => True) (Api.setScreenMetrics width height p) := by
  intro c s
  let size := (width, height)
  have hend (device : Option (Int64 × Int64)) :
      Follows (fun _ => True) fun k => declared size p (s.rescale k) device := by
    cases device with
    | none => exact .done (.error _ s)
    | some device => exact .perform _ fun _ => .done (.ok (v := Value.unit) trivial s)
  have happly (k : Option Scale) : Api.setScreenMetrics width height p c (s.rescale k) =
      (declaration size).bind fun device =>
        declared size p (s.rescale (mapping k [.declared size device])) device := by
    refine (setScreenMetrics_apply size p c (s.rescale k)).trans ?_
    refine congrArg _ (funext fun device => ?_)
    cases device <;> rfl
  simp only [happly]
  exact .declare size hend

theorem caught {a b : Action Value} (ha : Planned (Value.Within fun _ => True) a)
    (hb : Planned (Value.Within fun _ => True) b) :
    Planned (Value.Within fun _ => True) (Evaluator.caught a b) := by
  intro c s
  refine (ha c s).bind fun o => ?_
  obtain ⟨r, t, hr⟩ := o
  match r with
  | .error (.failed f) =>
    cases hf : f.isCatchable with
    | true =>
      simp only [Outcome.on, hf, if_true]
      exact (hb c t).map (g := id) (fun _ _ _ _ _ _ => trivial) fun _ _ => rfl
    | false =>
      simp only [Outcome.on, hf, Bool.false_eq_true, if_false]
      exact .done (.error _ t)
  | .ok v => exact .done (.ok (hr v rfl) t)
  | .error (.returned v) => exact .done (.error _ t)
  | .error (.finished v) => exact .done (.error _ t)
  | .error (.left ends) => exact .done (.error _ t)
  | .error .exhausted => exact .done (.error _ t)

end Planned

theorem Yields.planned {inner : Bool} {runs : Prop} {place : Position → Prop} {Q : α → Prop}
    {a : Action α}
    (ha : Yields (fun _ => True) (fun _ => True) runs inner place Q a) : Planned Q a := by
  -- Gestures and declarations apart, no step looks at the scale.
  induction ha with
  | pure hq => exact .pure hq
  | bind _ _ iha ihf => exact .bind iha ihf
  | weaken _ hqr ih => exact fun c s => (ih c s).weaken hqr
  | look hk _ ih => exact .look hk fun s => ih s s.within_any fun _ _ => trivial
  | read => exact .of_blind .read
  | fits v _ =>
    exact fun c s => (Planned.of_blind (.checkSize v _) c s).weaken fun _ _ _ _ => trivial
  | store pl more _ _ => exact .of_blind (.seq (.write pl _) fun _ => .checkSize _ _)
  | fail _ => exact .stop _
  | leave _ => exact .stop _
  | exit => exact .stop _
  | heed => exact .of_blind .heed
  | guarded _ => exact .of_blind (.guarded _)
  | aim g => exact .aim g
  | declare width height _ => exact .declare width height _
  | pause ms => exact .of_blind (.perform _)
  | emit m => exact .of_blind (.perform _)
  | note e => exact .of_blind (.perform _)
  | change hg hvalue =>
    exact .of_blind (.change fun s k => Prod.ext (hvalue s k) (hg.rescale s k))
  | native _ _ ih => exact ih
  | property _ _ ih => exact ih
  | afterwards hg _ ih =>
    exact fun c s => (ih c s).map (fun _ hr => hr) (hg _ fun _ => id).rescale
  | deeper _ _ ih => exact fun c s => ih _ s
  | round _ ih =>
    exact fun c s => (ih c s).bind fun o => .done ⟨_, o.session, fun _ _ => trivial⟩
  | call _ _ _ ih =>
    exact fun c s => (ih c s).map (g := id) (fun _ _ _ _ _ _ => trivial) fun _ _ => rfl
  | caught _ _ ih ihh => exact .caught ih ihh
  | @parsed _ place p text hruns hp =>
    intro c s
    have hparsed xs (hxs : (Evaluator.statements? c.config text p).1 = some xs) :
        StmtsWithin ⟨place, fun _ => True, runs⟩ xs :=
      statements?_within hp hxs fun _ _ _ =>
        ⟨fun _ _ => trivial, fun _ _ => trivial, fun _ => hruns⟩
    exact .done (.ok hparsed
      { s with afterPeriod := (Evaluator.statements? c.config text p).2 })
  | heard _ _ ih =>
    exact fun c s => (ih c s).map (g := id) (fun _ _ _ _ _ _ => trivial) fun _ _ => rfl

end ScreenScript.Script
