import ScreenScript.Proofs.Client.Detachment
import ScreenScript.Proofs.Client.Handles

namespace ScreenScript

open Event

/-- The program makes these calls, whatever it is answered. -/
inductive Program.Asks {α : Type} : Program α → List Call → Prop
  | done (a : α) : Asks (.done a) []
  | ask (verb : String) (args : List String) {next : Option String → Program α} {cs : List Call}
      (h : ∀ a, Asks (next a) cs) : Asks (.ask verb args next) (⟨verb, args⟩ :: cs)
  | poll {next : Bool → Program α} {cs : List Call} (h : ∀ b, Asks (next b) cs) :
      Asks (.poll next) cs
  | pause (ms : Nat) {next : Unit → Program α} {cs : List Call} (h : Asks (next ()) cs) :
      Asks (.pause ms next) cs
  | emit (m : Message) {next : Unit → Program α} {cs : List Call} (h : Asks (next ()) cs) :
      Asks (.emit m next) cs
  | note (e : Log.Event) {next : Unit → Program α} {cs : List Call} (h : Asks (next ()) cs) :
      Asks (.note e next) cs

theorem Word.saturatingAdd_zero (n : Int64) : Word.saturatingAdd n 0 = n := by
  unfold Word.saturatingAdd Word.clamp
  rw [Int64.toInt_zero, Int.add_zero]
  exact Int64.ofIntClamp_toInt n

/-- A host's reaction without calls of its own. -/
def Reaction.Callless {σ : Type} : Reaction σ → Prop
  | answer _ => True
  | get next => ∀ s, (next s).Callless
  | put _ next => (next ()).Callless
  | interrupt next => (next ()).Callless
  | evaluate _ _ next => ∀ r, (next r).Callless
  | call _ _ _ => False
  | detach next => (next ()).Callless
  | note _ next => (next ()).Callless

namespace Event

/-- The calls that are not made within another; `level` calls are under way. -/
def made (level : Nat) : List Event → List Call
  | [] => []
  | asked c :: es => (if level = 0 then [c] else []) ++ made (level + 1) es
  | returned _ :: es => made (level - 1) es
  | _ :: es => made level es

end Event

namespace World

variable {σ α : Type}

theorem made_reacted {inner : String → List String → World σ → Option String × World σ}
    {exchange : String → List String → World σ → List Event}
    (hi : ∀ verb args w level es, made (level + 1) (exchange verb args w ++ es) =
      made (level + 1) es)
    (r : Reaction σ) (w : World σ) (level : Nat) (es : List Event) :
    made (level + 1) (reacted inner exchange r w ++ es) = made (level + 1) es := by
  induction r generalizing w with
  | answer a => rfl
  | get next ih => exact ih _ w
  | put s next ih => exact ih () { w with state := s }
  | interrupt next ih => exact ih () { w with pending := true }
  | evaluate source name next ih => exact ih _ w
  | call verb args next ih =>
    rw [reacted, List.append_assoc, hi]
    exact ih _ _
  | detach next ih => exact ih () w.detach
  | note e next ih => exact ih () (w.note e)

theorem made_exchange (h : Host σ) (depth : Nat) (verb : String) (args : List String)
    (w : World σ) (level : Nat) (es : List Event) :
    made level (exchange h depth verb args w ++ es) =
      (if level = 0 then [⟨verb, args⟩] else []) ++ made level es := by
  induction depth generalizing verb args w level es with
  | zero => rfl
  | succ depth ih =>
    have hinner : ∀ verb args w level es, made (level + 1) (exchange h depth verb args w ++ es) =
        made (level + 1) es := by
      intro verb args w level es
      rw [ih, if_neg (Nat.succ_ne_zero level)]
      rfl
    unfold exchange
    rw [List.cons_append, List.append_assoc, made]
    by_cases ha : w.attached = true
    · rw [if_pos ha, List.cons_append]
      exact congrArg _ (made_reacted hinner _ _ level _)
    · rw [if_neg ha]
      rfl

theorem made_events (h : Host σ) (depth : Nat) {p : Program α} {cs : List Call} (hp : p.Asks cs)
    (w : World σ) (es : List Event) :
    made 0 (events h depth p w ++ es) = cs ++ made 0 es := by
  induction hp generalizing w with
  | done a => rfl
  | ask verb args hnext ih =>
    rw [events, List.append_assoc, made_exchange, if_pos rfl, ih]
    rfl
  | poll hnext ih => exact ih _ w
  | pause ms hnext ih => exact ih (w.wait ms)
  | emit m hnext ih => exact ih (w.emit m)
  | note e hnext ih => exact ih (w.note e)

theorem calls_callless {inner : String → List String → World σ → Option String × World σ}
    {exchange : String → List String → World σ → List Event} {r : Reaction σ} (hr : r.Callless)
    (w : World σ) : Event.calls (reacted inner exchange r w) = [] := by
  induction r generalizing w with
  | answer a => rfl
  | get next ih => exact ih _ (hr _) w
  | put s next ih => exact ih () hr { w with state := s }
  | interrupt next ih => exact ih () hr { w with pending := true }
  | evaluate source name next ih => exact ih _ (hr _) w
  | call verb args next ih => exact hr.elim
  | detach next ih => exact ih () hr w.detach
  | note e next ih => exact ih () hr (w.note e)

/-- The log is the calls made, each followed by those that the host made while it was called. -/
def Logged (own : List Call) (log : List Call) : Prop :=
  ∃ logs : List (List Call), List.Forall₂ (fun x l => l.head? = some x) own logs ∧
    log = logs.flatten

theorem Logged.append {own own' log log' : List Call} (hl : Logged own log)
    (hl' : Logged own' log') : Logged (own ++ own') (log ++ log') := by
  obtain ⟨logs, hheads, rfl⟩ := hl
  obtain ⟨logs', hheads', rfl⟩ := hl'
  exact ⟨logs ++ logs', List.rel_append hheads hheads', List.flatten_append.symm⟩

theorem calls_exchange_attached (h : Host σ) (depth : Nat) (verb : String) (args : List String)
    (w : World σ) (ha : w.attached = true) (hd : overrun ∉ exchange h depth verb args w) :
    ∃ inner, Event.calls (exchange h depth verb args w) = ⟨verb, args⟩ :: inner ∧
      ((h verb args).Callless → inner = []) := by
  cases depth with
  | zero => simp [exchange] at hd
  | succ depth =>
    have hexchange := exchange_of_attached h depth verb args w ha
    rw [hexchange, Event.calls_served]
    exact ⟨_, rfl, fun hcallless => calls_callless hcallless _⟩

theorem attached_exchange (h : Host σ) (depth : Nat) (verb : String) (args : List String)
    (w : World σ) (ha : w.attached = true) (hd : overrun ∉ exchange h depth verb args w)
    (hr : released ∉ exchange h depth verb args w) :
    (w.call h depth verb args).2.attached = true :=
  (admitted_exchange h depth verb args w hd).attached_iff.mpr ⟨ha, hr⟩

theorem logged_events (h : Host σ) (depth : Nat) {p : Program α} {cs : List Call}
    (hp : p.Asks cs) (w : World σ) (ha : w.attached = true)
    (hd : overrun ∉ events h depth p w) (hr : released ∉ events h depth p w) :
    Logged cs (Event.calls (events h depth p w)) ∧
      ((∀ verb args, (h verb args).Callless) → Event.calls (events h depth p w) = cs) := by
  induction hp generalizing w with
  | done a => exact ⟨⟨[], .nil, rfl⟩, fun _ => rfl⟩
  | @ask verb args next cs hnext ih =>
    simp only [events, List.mem_append, not_or] at hd hr
    obtain ⟨inner, hcalls, hinner⟩ := calls_exchange_attached h depth verb args w ha hd.1
    have hattached := attached_exchange h depth verb args w ha hd.1 hr.1
    obtain ⟨hlog, hown⟩ := ih _ _ hattached hd.2 hr.2
    have hfirst : Logged [⟨verb, args⟩] (⟨verb, args⟩ :: inner) :=
      ⟨[⟨verb, args⟩ :: inner], .cons rfl .nil, (List.append_nil _).symm⟩
    rw [events, Event.calls_append, hcalls]
    refine ⟨hfirst.append hlog, fun hcallless => ?_⟩
    rw [hinner (hcallless verb args), hown hcallless]
    rfl
  | poll hnext ih => exact ih _ w ha hd hr
  | pause ms hnext ih =>
    obtain ⟨clock, pending, deadline, notes, hw⟩ := w.wait_eq ms
    have hattached : (w.wait ms).attached = true := by
      rw [hw]
      exact ha
    exact ih (w.wait ms) hattached hd hr
  | emit m hnext ih => exact ih (w.emit m) ha hd hr
  | note e hnext ih => exact ih (w.note e) ha hd hr

end World

namespace Client

open Node Selector

variable {σ : Type}

/-- The calls of what is done with a node: they lead with its key, or are made at a point of it. -/
def Command.calls (i : Info) : Command → List Call
  | click => [⟨Verb.click, [Word.text i.bounds.centerX, Word.text i.bounds.centerY]⟩]
  | clickBounds dx dy =>
    [⟨Verb.click, [Word.text (Word.saturatingAdd i.bounds.centerX dx),
      Word.text (Word.saturatingAdd i.bounds.centerY dy)]⟩]
  | longClick => [⟨Verb.longClick, [Word.text i.bounds.centerX, Word.text i.bounds.centerY]⟩]
  | setText text =>
    [⟨Verb.click, [Word.text i.bounds.centerX, Word.text i.bounds.centerY]⟩,
      ⟨Verb.setText, [text]⟩]
  | parent => [⟨Verb.nodeParent, [key i]⟩]
  | children | firstChild | lastChild => [⟨Verb.nodeChildren, [key i]⟩]
  | child index => if index < 0 then [] else [⟨Verb.nodeChildren, [key i]⟩]
  | sibling index => [⟨Verb.nodeSibling, [key i, Word.text index]⟩]
  | nextSibling =>
    if i.indexInParent < 0 then []
    else (Word.add? i.indexInParent 1).toList.map fun n =>
      ⟨Verb.nodeSibling, [key i, Word.text n]⟩
  | previousSibling =>
    if i.indexInParent < 1 then []
    else [⟨Verb.nodeSibling, [key i, Word.text (i.indexInParent - 1)]⟩]
  | scrollForward => [⟨Verb.nodeScrollForward, [key i]⟩]
  | scrollBackward => [⟨Verb.nodeScrollBackward, [key i]⟩]

theorem asks_click (i : Info) {next : Option String → Program Reply} {cs : List Call}
    (hnext : ∀ a, (next a).Asks cs) :
    (Program.ask Verb.click [Word.text (Word.saturatingAdd i.bounds.centerX 0),
      Word.text (Word.saturatingAdd i.bounds.centerY 0)] next).Asks
        (⟨Verb.click, [Word.text i.bounds.centerX, Word.text i.bounds.centerY]⟩ :: cs) := by
  rw [Word.saturatingAdd_zero, Word.saturatingAdd_zero]
  exact .ask _ _ hnext

theorem Command.asks (settle : Nat) (i : Info) (c : Command) :
    (c.program settle i).Asks (c.calls i) := by
  cases c with
  | click => exact asks_click i fun _ => .done _
  | setText text => exact asks_click i fun _ => .pause settle (.ask _ _ fun _ => .done _)
  | child index =>
    simp only [program, Command.calls, Node.child]
    by_cases hneg : index < 0
    · rw [if_pos hneg, if_pos hneg]
      exact .done _
    · rw [if_neg hneg, if_neg hneg]
      exact .ask _ _ fun _ => .done _
  | nextSibling =>
    simp only [program, Command.calls, Node.nextSibling]
    by_cases hunknown : i.indexInParent < 0
    · rw [if_pos hunknown, if_pos hunknown]
      exact .done _
    rw [if_neg hunknown, if_neg hunknown]
    cases Word.add? i.indexInParent 1 with
    | none => exact .done _
    | some n => exact .ask _ _ fun _ => .done _
  | previousSibling =>
    simp only [program, Command.calls, Node.previousSibling]
    by_cases hfirst : i.indexInParent < 1
    · rw [if_pos hfirst, if_pos hfirst]
      exact .done _
    · rw [if_neg hfirst, if_neg hfirst]
      exact .ask _ _ fun _ => .done _
  | _ => exact .ask _ _ fun _ => .done _

theorem host_alone (c : Client σ) (op : Operation) : (c.alone op).2.host = c.host := by
  cases op with
  | same s t =>
    exact c.through_keeps s _ (·.host = c.host) rfl fun h =>
      c.through_keeps t _ (·.host = c.host) rfl fun _ => rfl
  | share s | push s | flag s | number s | state s | holds s =>
    exact c.through_keeps s _ (·.host = c.host) rfl fun _ => rfl
  | _ => rfl

theorem host_perform (c : Client σ) (op : Operation) : (c.perform op).2.host = c.host := by
  cases hp : c.program? op with
  | some p => rw [perform_of_program c hp]
  | none =>
    rw [perform_of_none c hp]
    exact c.host_alone op

namespace Annals

def selector? (a : Annals) (s : Nat) : Option (List Condition) :=
  a.origins[s]?.map a.conditions

def calls (a : Annals) : Operation → List Call
  | .call _ verb args => [⟨verb, args⟩]
  | .terminal s t =>
    ((a.selector? s).map fun cs => ⟨t.verb, Condition.jsonAll cs :: t.extra⟩).toList
  | .command i c => c.calls i
  | .find i s | .findOne i s =>
    ((a.selector? s).map fun cs => ⟨Verb.nodeFind, [key i, Condition.jsonAll cs]⟩).toList
  | _ => []

def callsOf (a : Annals) : List Operation → List Call
  | [] => []
  | op :: ops => a.calls op ++ (a.extend op).callsOf ops

namespace Agrees

variable {created : List Nat} {a : Annals} {c c' : Client σ}

theorem selector? (ha : Agrees created a c) (s : Nat) :
    a.selector? s = c.handles[s]?.map c.store.conditions := by
  have hlists := congrArg (·[s]?) ha.lists
  simp only [Client.lists, List.getElem?_map] at hlists
  exact hlists.symm

theorem asks_calls (ha : Agrees created a c) {op : Operation} {p : Program Reply}
    (hp : c.program? op = some p) : p.Asks (a.calls op) := by
  cases op with
  | call form verb args =>
    cases hp
    cases form <;> exact .ask _ _ fun _ => .done _
  | command i command =>
    cases hp
    exact command.asks c.settle i
  | terminal s t =>
    obtain ⟨h, hs, rfl⟩ := Option.map_eq_some_iff.mp hp
    rw [Annals.calls, ha.selector?, hs, Terminal.program_eq]
    exact .ask _ _ fun _ => .done _
  | find i s =>
    obtain ⟨h, hs, rfl⟩ := Option.map_eq_some_iff.mp hp
    rw [Annals.calls, ha.selector?, hs]
    exact .ask _ _ fun _ => .done _
  | findOne i s =>
    obtain ⟨h, hs, rfl⟩ := Option.map_eq_some_iff.mp hp
    rw [Annals.calls, ha.selector?, hs]
    exact .ask _ _ fun _ => .done _
  | _ => cases hp

theorem calls_none (ha : Agrees created a c) {op : Operation} (hp : c.program? op = none) :
    a.calls op = [] := by
  cases op with
  | call | command => cases hp
  | terminal s | find i s | findOne i s =>
    have hs := Option.map_eq_none_iff.mp hp
    rw [Annals.calls, ha.selector?, hs]
    rfl
  | _ => rfl

theorem made_happened (ha : Agrees created a c) (op : Operation) (es : List Event) :
    made 0 (c.happened op ++ es) = a.calls op ++ made 0 es := by
  cases hp : c.program? op with
  | some p =>
    rw [happened_of_program c hp]
    exact World.made_events c.host c.depth (ha.asks_calls hp) c.world es
  | none =>
    rw [ha.calls_none hp]
    by_cases hop : op = .release
    · subst hop
      rfl
    · rw [happened_alone c hp hop]
      rfl

theorem made_history (ha : Agrees created a c) (ops : List Operation) :
    made 0 (c.history ops) = a.callsOf ops := by
  induction ops generalizing created a c with
  | nil => rfl
  | cons op ops ih =>
    obtain ⟨created', ha'⟩ := ha.step (selecting c op)
    rw [history, ha.made_happened, callsOf, ih ha']

theorem of_program (ha : Agrees created a c) {op : Operation} {p : Program Reply}
    (hp : c.program? op = some p) : Agrees created a (c.perform op).2 := by
  rw [perform_of_program c hp]
  exact ⟨ha.nodup, ha.past, ha.early, ha.size, ha.origins, ha.conditions⟩

theorem logged_happened (ha : Agrees created a c) (op : Operation)
    (hattached : c.world.attached = true) (hd : overrun ∉ c.happened op)
    (hr : released ∉ c.happened op) :
    World.Logged (a.calls op) (Event.calls (c.happened op)) ∧
      ((∀ verb args, (c.host verb args).Callless) →
        Event.calls (c.happened op) = a.calls op) := by
  cases hp : c.program? op with
  | some p =>
    rw [happened_of_program c hp] at hd hr ⊢
    exact World.logged_events c.host c.depth (ha.asks_calls hp) c.world hattached hd hr
  | none =>
    have hop : op ≠ .release := by
      rintro rfl
      exact hr (List.mem_singleton.mpr rfl)
    rw [ha.calls_none hp, happened_alone c hp hop]
    exact ⟨⟨[], .nil, rfl⟩, fun _ => rfl⟩

theorem logged_history (ha : Agrees created a c) (ops : List Operation)
    (hattached : c.world.attached = true) (hd : overrun ∉ c.history ops)
    (hr : released ∉ c.history ops) :
    World.Logged (a.callsOf ops) (Event.calls (c.history ops)) ∧
      ((∀ verb args, (c.host verb args).Callless) →
        Event.calls (c.history ops) = a.callsOf ops) := by
  induction ops generalizing created a c with
  | nil => exact ⟨⟨[], .nil, rfl⟩, fun _ => rfl⟩
  | cons op ops ih =>
    obtain ⟨created', ha'⟩ := ha.step (selecting c op)
    simp only [history, List.mem_append, not_or] at hd hr
    obtain ⟨hlog, hown⟩ := ha.logged_happened op hattached hd.1 hr.1
    have hattached' := (c.admitted_happened op hd.1).attached_iff.mpr ⟨hattached, hr.1⟩
    obtain ⟨hlogs, howns⟩ := ih ha' hattached' hd.2 hr.2
    rw [history, Event.calls_append]
    refine ⟨hlog.append hlogs, fun hcallless => ?_⟩
    rw [hown hcallless, howns ((c.host_perform op).symm ▸ hcallless)]
    rfl

end Agrees

end Annals

/-- The calls a client makes are those of its operations, one operation after another, whatever its
host answers, does or calls meanwhile. Without a release these are what the host receives, each
before those that the host made during it, and are all it receives if it makes none. What is done
with a node, or with anything else through the host, changes no call made later. -/
theorem calls_are_those_of_the_operations (client : Client σ) (ops : List Operation) :
    let c := client.unused
    let es := c.history ops
    let c' := c.after ops
    let own := Annals.callsOf {} ops
    made 0 es = own ∧
    c'.world.calls = (Event.calls es).reverse ++ c.world.calls ∧
    (c.world.attached = true → released ∉ es → overrun ∉ es →
      World.Logged own (Event.calls es) ∧
      ((∀ verb args, (c.host verb args).Callless) → Event.calls es = own)) ∧
    ∀ op p, c'.program? op = some p → ∀ rest,
      made 0 (c'.happened op) = (Annals.of ops).calls op ∧
      made 0 ((c'.perform op).2.history rest) = made 0 (c'.history rest) := by
  intro c es c' own
  have hstart : Annals.Agrees [] {} c :=
    ⟨List.nodup_nil, nofun, nofun, rfl, rfl, nofun⟩
  refine ⟨hstart.made_history ops, c.calls_history ops, ?_, ?_⟩
  · intro hattached hr hd
    exact hstart.logged_history ops hattached hd hr
  · intro op p hp rest
    obtain ⟨created, ha⟩ := Annals.Agrees.of_unused client ops
    have hown := ha.made_happened op []
    rw [List.append_nil] at hown
    refine ⟨hown.trans (List.append_nil _), ?_⟩
    rw [(ha.of_program hp).made_history rest, ha.made_history rest]

end Client

end ScreenScript
