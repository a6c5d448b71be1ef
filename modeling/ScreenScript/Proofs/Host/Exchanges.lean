import ScreenScript.Proofs.Host.Turns

/-!
Calls within calls. What a bridge and its host do during a run is written down as one sequence of
events, and a bridge admits only some of these sequences.
-/

namespace ScreenScript

inductive Event where
  /-- A call starts, whether from outside or made by the host. -/
  | asked (c : Call)
  | reached (c : Call)
  | answered (a : Option String)
  | returned (a : Option String)
  | released
  /-- Too many calls are under way within each other. -/
  | overrun
  deriving DecidableEq

namespace Event

def call? : Event → Option Call
  | reached c => some c
  | _ => none

def calls (es : List Event) : List Call :=
  es.filterMap call?

theorem calls_append (es fs : List Event) : calls (es ++ fs) = calls es ++ calls fs :=
  List.filterMap_append

theorem calls_served (x : Call) (a : Option String) (es : List Event) :
    calls (asked x :: reached x :: (es ++ [returned a])) = x :: calls es := by
  have hlast : calls (es ++ [returned a]) = calls es := by
    rw [calls_append]
    exact List.append_nil _
  rw [← hlast]
  rfl

/-- What may happen from an attached or detached bridge on, and whether it is attached then. What
happens between the invocation of the host and its answer was started by the host. -/
inductive Admitted : Bool → List Event → Bool → Prop
  | nil (b : Bool) : Admitted b [] b
  | release (b : Bool) {c : Bool} {es : List Event} (h : Admitted false es c) :
      Admitted b (released :: es) c
  | silent (x : Call) {c : Bool} {es : List Event} (h : Admitted false es c) :
      Admitted false (asked x :: returned none :: es) c
  | served (x : Call) (a : Option String) {b c : Bool} {inner es : List Event}
      (hinner : Admitted true inner b) (h : Admitted b es c) :
      Admitted true (asked x :: reached x :: (inner ++ answered a :: returned a :: es)) c

/-- What must come at once after an event. -/
def Proper (attached : Prop) (next : Option Event) : Event → Prop
  | asked x => (attached → next = some (reached x)) ∧ (¬attached → next = some (returned none))
  | reached _ => attached
  | answered a => next = some (returned a)
  | _ => True

def Heeds (attached : Prop) : List Event → Prop
  | [] => True
  | e :: es => e.Proper attached es.head? ∧ Heeds (attached ∧ e ≠ released) es

theorem heeds_iff (attached : Prop) (es : List Event) : Heeds attached es ↔
    ∀ before e rest, es = before ++ e :: rest →
      e.Proper (attached ∧ released ∉ before) rest.head? := by
  induction es generalizing attached with
  | nil => simp [Heeds]
  | cons first es ih =>
    constructor
    · rintro ⟨hfirst, hes⟩ before e rest hsplit
      cases before with
      | nil =>
        obtain ⟨rfl, rfl⟩ := List.cons.inj hsplit
        simpa using hfirst
      | cons x before =>
        obtain ⟨rfl, htail⟩ := List.cons.inj hsplit
        have hproper := (ih _).mp hes before e rest htail
        simpa [and_assoc, eq_comm] using hproper
    · intro h
      refine ⟨by simpa using h [] first es rfl, (ih _).mpr ?_⟩
      intro before e rest hsplit
      have hproper := h (first :: before) e rest (by rw [hsplit, List.cons_append])
      simpa [and_assoc, eq_comm] using hproper

theorem Proper.or {attached : Prop} {next : Option Event} {e : Event}
    (h : e.Proper attached next) (other : Option Event) : e.Proper attached (next.or other) := by
  cases e with
  | asked x =>
    refine ⟨fun ha => ?_, fun ha => ?_⟩
    · rw [h.1 ha, Option.some_or]
    · rw [h.2 ha, Option.some_or]
  | answered a =>
    have hnext : next = some (returned a) := h
    rw [hnext, Option.some_or]
    rfl
  | _ => exact h

theorem Heeds.append {attached : Prop} {es fs : List Event} (he : Heeds attached es)
    (hf : Heeds (attached ∧ released ∉ es) fs) : Heeds attached (es ++ fs) := by
  induction es generalizing attached with
  | nil => simpa using hf
  | cons e es ih =>
    refine ⟨?_, ih he.2 ?_⟩
    · rw [List.append_eq, List.head?_append]
      exact he.1.or _
    · simpa [and_assoc, eq_comm] using hf

namespace Admitted

theorem append {b m c : Bool} {es fs : List Event} (he : Admitted b es m) (hf : Admitted m fs c) :
    Admitted b (es ++ fs) c := by
  induction he with
  | nil b => exact hf
  | release b h ih => exact .release b (ih hf)
  | silent x h ih => exact .silent x (ih hf)
  | served x a hinner h _ ih =>
    have hrest := Admitted.served x a hinner (ih hf)
    simpa only [List.cons_append, List.append_assoc] using hrest

theorem attached_iff {b c : Bool} {es : List Event} (h : Admitted b es c) :
    c = true ↔ b = true ∧ released ∉ es := by
  induction h with
  | nil b => simp
  | release b h ih => simp [ih]
  | silent x h ih => simp [ih]
  | served x a hinner h ihinner ih => simp [ih, ihinner]

theorem heeds {b c : Bool} {es : List Event} (h : Admitted b es c) : Heeds (b = true) es := by
  induction h with
  | nil b => trivial
  | release b h ih => exact ⟨trivial, by simpa using ih⟩
  | silent x h ih => simpa [Heeds, Proper] using ih
  | @served x a b c inner es hinner h ihinner ih =>
    have hanswer : Heeds (b = true) (answered a :: returned a :: es) := by
      simpa [Heeds, Proper] using ih
    have hbody : Heeds (true = true) (inner ++ answered a :: returned a :: es) := by
      apply ihinner.append
      rwa [← hinner.attached_iff]
    simpa [Heeds, Proper] using hbody

end Admitted

end Event

namespace World

open Event

variable {σ α : Type}

/-- What happens during a reaction. `inner` answers the calls the host makes while it is being
called, and `exchange` tells what happens during them. -/
def reacted (inner : String → List String → World σ → Option String × World σ)
    (exchange : String → List String → World σ → List Event) : Reaction σ → World σ → List Event
  | .answer a, _ => [answered a]
  | .get next, w => reacted inner exchange (next w.state) w
  | .put s next, w => reacted inner exchange (next ()) { w with state := s }
  | .interrupt next, w => reacted inner exchange (next ()) { w with pending := true }
  | .evaluate _ _ next, w => reacted inner exchange (next (.error .busy)) w
  | .call verb args next, w =>
    exchange verb args w ++
      reacted inner exchange (next (inner verb args w).1) (inner verb args w).2
  | .detach next, w => released :: reacted inner exchange (next ()) w.detach
  | .note e next, w => reacted inner exchange (next ()) (w.note e)

def exchange (h : Host σ) : Nat → String → List String → World σ → List Event
  | 0, verb, args, w => [asked ⟨verb, args⟩, overrun, returned (w.call h 0 verb args).1]
  | depth + 1, verb, args, w =>
    asked ⟨verb, args⟩ :: ((if w.attached then
        reached ⟨verb, args⟩ ::
          reacted (call h depth) (exchange h depth) (h verb args) (w.announce verb args)
      else []) ++ [returned (w.call h (depth + 1) verb args).1])

def events (h : Host σ) (depth : Nat) : Program α → World σ → List Event
  | .done _, _ => []
  | .ask verb args next, w =>
    exchange h depth verb args w ++
      events h depth (next (w.call h depth verb args).1) (w.call h depth verb args).2
  | .poll next, w => events h depth (next w.pending) w
  | .pause ms next, w => events h depth (next ()) (w.wait ms)
  | .emit m next, w => events h depth (next ()) (w.emit m)
  | .note e next, w => events h depth (next ()) (w.note e)

theorem attached_detach (w : World σ) : w.detach.attached = false := by
  unfold detach
  cases hw : w.attached with
  | true => rfl
  | false => exact hw

theorem admitted_reacted {inner : String → List String → World σ → Option String × World σ}
    {exchange : String → List String → World σ → List Event}
    (hi : ∀ verb args w, overrun ∉ exchange verb args w →
      Admitted w.attached (exchange verb args w) (inner verb args w).2.attached)
    (r : Reaction σ) (w : World σ) (hr : overrun ∉ reacted inner exchange r w) :
    ∃ es, reacted inner exchange r w = es ++ [answered (perform inner r w).1] ∧
      Admitted w.attached es (perform inner r w).2.attached := by
  induction r generalizing w with
  | answer a => exact ⟨[], rfl, .nil _⟩
  | get next ih => exact ih _ w hr
  | put s next ih => exact ih () { w with state := s } hr
  | interrupt next ih => exact ih () { w with pending := true } hr
  | evaluate source name next ih => exact ih _ w hr
  | call verb args next ih =>
    simp only [reacted, List.mem_append, not_or] at hr
    obtain ⟨es, hes, hrest⟩ := ih _ _ hr.2
    refine ⟨exchange verb args w ++ es, ?_, (hi verb args w hr.1).append hrest⟩
    simp only [reacted, hes, List.append_assoc]
    rfl
  | detach next ih =>
    have htail : overrun ∉ reacted inner exchange (next ()) w.detach :=
      fun hmem => hr (List.mem_cons_of_mem _ hmem)
    obtain ⟨es, hes, hrest⟩ := ih () w.detach htail
    rw [attached_detach] at hrest
    exact ⟨released :: es, congrArg (List.cons released) hes, .release _ hrest⟩
  | note e next ih => exact ih () (w.note e) hr

theorem exchange_of_attached (h : Host σ) (depth : Nat) (verb : String) (args : List String)
    (w : World σ) (ha : w.attached = true) : exchange h (depth + 1) verb args w =
      asked ⟨verb, args⟩ :: reached ⟨verb, args⟩ ::
        (reacted (call h depth) (exchange h depth) (h verb args) (w.announce verb args) ++
          [returned (perform (call h depth) (h verb args) (w.announce verb args)).1]) := by
  obtain ⟨e, he⟩ := call_of_attached h depth verb args w ha
  rw [exchange, if_pos ha, he]
  rfl

theorem not_overrun_reacted (h : Host σ) (depth : Nat) (verb : String) (args : List String)
    (w : World σ) (ha : w.attached = true) (hd : overrun ∉ exchange h (depth + 1) verb args w) :
    overrun ∉ reacted (call h depth) (exchange h depth) (h verb args) (w.announce verb args) := by
  intro hmem
  apply hd
  rw [exchange_of_attached h depth verb args w ha]
  simp only [List.mem_cons, List.mem_append, hmem, true_or, or_true]

theorem exchange_of_detached (h : Host σ) (depth : Nat) (verb : String) (args : List String)
    (w : World σ) (ha : w.attached = false) :
    exchange h (depth + 1) verb args w = [asked ⟨verb, args⟩, returned none] := by
  have hnot : ¬w.attached = true := by rw [ha]; exact Bool.false_ne_true
  obtain ⟨e, he⟩ := call_of_detached h depth verb args w ha
  rw [exchange, if_neg hnot, he]
  rfl

/-- A call that starts on an attached bridge reaches the host, and its answer is the result; one
that starts on a detached bridge does neither. -/
theorem admitted_exchange (h : Host σ) (depth : Nat) (verb : String) (args : List String)
    (w : World σ) (hd : overrun ∉ exchange h depth verb args w) :
    Admitted w.attached (exchange h depth verb args w) (w.call h depth verb args).2.attached := by
  -- A reaction at one depth calls back at the depth below.
  induction depth generalizing verb args w with
  | zero => simp [exchange] at hd
  | succ depth ih =>
    cases hw : w.attached with
    | true =>
      have hr := not_overrun_reacted h depth verb args w hw hd
      obtain ⟨es, hes, hadmitted⟩ := admitted_reacted ih _ _ hr
      obtain ⟨e, he⟩ := call_of_attached h depth verb args w hw
      have ha : (w.announce verb args).attached = true := hw
      rw [ha] at hadmitted
      rw [exchange_of_attached h depth verb args w hw, hes, he, List.append_assoc]
      exact .served _ _ hadmitted (.nil _)
    | false =>
      obtain ⟨e, he⟩ := call_of_detached h depth verb args w hw
      have ha : (w.note e).attached = false := hw
      rw [exchange_of_detached h depth verb args w hw, he, ha]
      exact .silent _ (.nil false)

theorem admitted_events (h : Host σ) (depth : Nat) (p : Program α) (w : World σ)
    (hd : overrun ∉ events h depth p w) :
    Admitted w.attached (events h depth p w) (run h p w depth).2.attached := by
  induction p generalizing w with
  | done a => exact .nil _
  | ask verb args next ih =>
    simp only [events, List.mem_append, not_or] at hd
    exact (admitted_exchange h depth verb args w hd.1).append (ih _ _ hd.2)
  | poll next ih => exact ih _ w hd
  | pause ms next ih =>
    obtain ⟨clock, pending, deadline, notes, hw⟩ := w.wait_eq ms
    have ha : (w.wait ms).attached = w.attached := by rw [hw]
    rw [← ha]
    exact ih () (w.wait ms) hd
  | emit m next ih => exact ih () (w.emit m) hd
  | note e next ih => exact ih () (w.note e) hd

theorem reacted_deeper {inner inner' : String → List String → World σ → Option String × World σ}
    {exchange exchange' : String → List String → World σ → List Event}
    (hi : ∀ verb args w, overrun ∉ exchange verb args w →
      inner' verb args w = inner verb args w ∧ exchange' verb args w = exchange verb args w)
    (r : Reaction σ) (w : World σ) (hr : overrun ∉ reacted inner exchange r w) :
    perform inner' r w = perform inner r w ∧
      reacted inner' exchange' r w = reacted inner exchange r w := by
  induction r generalizing w with
  | answer a => exact ⟨rfl, rfl⟩
  | get next ih => exact ih _ w hr
  | put s next ih => exact ih () { w with state := s } hr
  | interrupt next ih => exact ih () { w with pending := true } hr
  | evaluate source name next ih => exact ih _ w hr
  | call verb args next ih =>
    simp only [reacted, List.mem_append, not_or] at hr
    obtain ⟨hinner, hexchange⟩ := hi verb args w hr.1
    obtain ⟨hperform, hreacted⟩ := ih _ _ hr.2
    simp only [perform, reacted, hinner, hexchange, hperform, hreacted, and_self]
  | detach next ih =>
    have htail : overrun ∉ reacted inner exchange (next ()) w.detach :=
      fun hmem => hr (List.mem_cons_of_mem _ hmem)
    obtain ⟨hperform, hreacted⟩ := ih () w.detach htail
    exact ⟨hperform, congrArg (List.cons released) hreacted⟩
  | note e next ih => exact ih () (w.note e) hr

theorem call_noted (h : Host σ) (verb : String) (args : List String) (w : World σ)
    (ha : w.attached = true) : ∃ e : Option String → Log.Event, ∀ depth,
      w.call h (depth + 1) verb args =
        ((perform (call h depth) (h verb args) (w.announce verb args)).1,
          (perform (call h depth) (h verb args) (w.announce verb args)).2.note
            (e (perform (call h depth) (h verb args) (w.announce verb args)).1)) :=
  ⟨fun a => { level := .trace, target := bridgeTarget, message := "host call returned"
              fields := [("verb", Text.quoted verb),
                ("answered", if a.isSome then "true" else "false")] }, fun _ => if_pos ha⟩

theorem exchange_deeper (h : Host σ) {depth deeper : Nat} (hle : depth ≤ deeper) (verb : String)
    (args : List String) (w : World σ) (hd : overrun ∉ exchange h depth verb args w) :
    w.call h deeper verb args = w.call h depth verb args ∧
      exchange h deeper verb args w = exchange h depth verb args w := by
  induction depth generalizing deeper verb args w with
  | zero => simp [exchange] at hd
  | succ depth ih =>
    obtain ⟨deeper, rfl⟩ : ∃ n, deeper = n + 1 := ⟨deeper - 1, by omega⟩
    have hle' : depth ≤ deeper := by omega
    cases hw : w.attached with
    | true =>
      have hr := not_overrun_reacted h depth verb args w hw hd
      obtain ⟨hperform, hreacted⟩ := reacted_deeper (fun v as w => ih hle' v as w) _ _ hr
      obtain ⟨e, he⟩ := call_noted h verb args w hw
      rw [exchange_of_attached h depth verb args w hw, exchange_of_attached h deeper verb args w hw,
        he, he, hperform, hreacted]
      exact ⟨rfl, rfl⟩
    | false =>
      rw [exchange_of_detached h depth verb args w hw, exchange_of_detached h deeper verb args w hw]
      simp [call, hw]

theorem events_deeper (h : Host σ) {depth deeper : Nat} (hle : depth ≤ deeper) (p : Program α)
    (w : World σ) (hd : overrun ∉ events h depth p w) :
    run h p w deeper = run h p w depth ∧ events h deeper p w = events h depth p w := by
  induction p generalizing w with
  | done a => exact ⟨rfl, rfl⟩
  | ask verb args next ih =>
    simp only [events, List.mem_append, not_or] at hd
    obtain ⟨hcall, hexchange⟩ := exchange_deeper h hle verb args w hd.1
    obtain ⟨hrun, hevents⟩ := ih _ _ hd.2
    simp only [run, events, hcall, hexchange, hrun, hevents, and_self]
  | poll next ih => exact ih _ w hd
  | pause ms next ih => exact ih () (w.wait ms) hd
  | emit m next ih => exact ih () (w.emit m) hd
  | note e next ih => exact ih () (w.note e) hd

theorem calls_reacted {inner : String → List String → World σ → Option String × World σ}
    {exchange : String → List String → World σ → List Event}
    (hi : ∀ verb args w, (inner verb args w).2.calls =
      (Event.calls (exchange verb args w)).reverse ++ w.calls) (r : Reaction σ) (w : World σ) :
    (perform inner r w).2.calls =
      (Event.calls (reacted inner exchange r w)).reverse ++ w.calls := by
  induction r generalizing w with
  | answer a => rfl
  | get next ih => exact ih _ w
  | put s next ih => exact ih () { w with state := s }
  | interrupt next ih => exact ih () { w with pending := true }
  | evaluate source name next ih => exact ih _ w
  | call verb args next ih =>
    simp only [perform, reacted, ih, hi, calls_append, List.reverse_append, List.append_assoc]
  | detach next ih =>
    obtain ⟨attached, notes, hw⟩ := w.detach_eq
    have hcalls : w.detach.calls = w.calls := by rw [hw]
    rw [← hcalls]
    exact ih () w.detach
  | note e next ih => exact ih () (w.note e)

theorem calls_exchange (h : Host σ) (depth : Nat) (verb : String) (args : List String)
    (w : World σ) : (w.call h depth verb args).2.calls =
      (Event.calls (exchange h depth verb args w)).reverse ++ w.calls := by
  induction depth generalizing verb args w with
  | zero => rfl
  | succ depth ih =>
    cases hw : w.attached with
    | true =>
      obtain ⟨e, he⟩ := call_of_attached h depth verb args w hw
      have hcalls := calls_reacted ih (h verb args) (w.announce verb args)
      have hannounced : (w.announce verb args).calls = ⟨verb, args⟩ :: w.calls := rfl
      rw [exchange_of_attached h depth verb args w hw, he, calls_served, List.reverse_cons,
        List.append_assoc, List.singleton_append, ← hannounced]
      exact hcalls
    | false =>
      rw [exchange_of_detached h _ verb args w hw, calls_of_detached h _ verb args w hw]
      rfl

theorem calls_events (h : Host σ) (depth : Nat) (p : Program α) (w : World σ) :
    (run h p w depth).2.calls = (Event.calls (events h depth p w)).reverse ++ w.calls := by
  induction p generalizing w with
  | done a => rfl
  | ask verb args next ih =>
    simp only [run, events, ih, calls_exchange, calls_append, List.reverse_append,
      List.append_assoc]
  | poll next ih => exact ih _ w
  | pause ms next ih =>
    obtain ⟨clock, pending, deadline, notes, hw⟩ := w.wait_eq ms
    have hcalls : (w.wait ms).calls = w.calls := by rw [hw]
    rw [← hcalls]
    exact ih () (w.wait ms)
  | emit m next ih => exact ih () (w.emit m)
  | note e next ih => exact ih () (w.note e)

end World

end ScreenScript
