import ScreenScript.Proofs.Client.Replies
import ScreenScript.Proofs.Host.Exchanges

namespace ScreenScript

open Event

namespace Event

def result (a : Option String) : List Event → Option String
  | [] => a
  | returned b :: es => result b es
  | _ :: es => result a es

theorem result_append (a : Option String) (es fs : List Event) :
    result a (es ++ fs) = result (result a es) fs := by
  induction es generalizing a with
  | nil => rfl
  | cons e es ih => cases e <;> exact ih _

end Event

namespace World

variable {σ α : Type}

theorem exchange_ends (h : Host σ) (depth : Nat) (verb : String) (args : List String)
    (w : World σ) : ∃ es,
      exchange h depth verb args w = es ++ [returned (w.call h depth verb args).1] := by
  cases depth with
  | zero => exact ⟨[asked ⟨verb, args⟩, overrun], rfl⟩
  | succ depth => exact ⟨_ :: _, rfl⟩

theorem run_reads (h : Host σ) (depth : Nat) {read : Option String → α} {a : Option String}
    {p : Program α} (hp : p.Reads read a) (w : World σ) :
    (run h p w depth).1 = read (result a (events h depth p w)) := by
  induction p generalizing a w with
  | done r => exact hp
  | ask verb args next ih =>
    obtain ⟨es, hes⟩ := exchange_ends h depth verb args w
    simp only [run, events, hes, result_append]
    exact ih _ (hp _) _
  | poll next ih => exact ih _ (hp _) w
  | pause ms next ih => exact ih () hp (w.wait ms)
  | emit m next ih => exact ih () hp (w.emit m)
  | note e next ih => exact ih () hp (w.note e)

theorem call_of_released (h : Host σ) (depth : Nat) (verb : String) (args : List String)
    (w : World σ) (ha : w.attached = false) :
    (w.call h depth verb args).1 = none ∧ (w.call h depth verb args).2.attached = false := by
  cases depth with
  | zero => exact ⟨rfl, ha⟩
  | succ depth =>
    obtain ⟨e, he⟩ := call_of_detached h depth verb args w ha
    rw [he]
    exact ⟨rfl, ha⟩

theorem run_of_released (h : Host σ) (depth : Nat) {read : Option String → α} {p : Program α}
    (hp : p.Reads read none) (w : World σ) (ha : w.attached = false) :
    (run h p w depth).1 = read none ∧ (run h p w depth).2.calls = w.calls := by
  induction p generalizing w with
  | done r => exact ⟨hp, rfl⟩
  | ask verb args next ih =>
    obtain ⟨hnone, hdetached⟩ := call_of_released h depth verb args w ha
    have hcalls := calls_of_detached h depth verb args w ha
    simp only [run, hnone, ← hcalls]
    exact ih none (hp none) _ hdetached
  | poll next ih => exact ih _ (hp _) w ha
  | pause ms next ih =>
    obtain ⟨clock, pending, deadline, notes, hw⟩ := w.wait_eq ms
    have hwait : (w.wait ms).attached = false ∧ (w.wait ms).calls = w.calls := by
      rw [hw]
      exact ⟨ha, rfl⟩
    rw [← hwait.2]
    exact ih () hp (w.wait ms) hwait.1
  | emit m next ih => exact ih () hp (w.emit m) ha
  | note e next ih => exact ih () hp (w.note e) ha

end World

namespace Client

open Node Selector

variable {σ : Type}

def Operation.read (a : Option String) : Operation → Reply
  | .call form _ _ => form.read a
  | .terminal _ t => t.read a
  | .command _ c => c.read a
  | .find _ _ => .nodes (Answer.nodes a)
  | .findOne _ _ => .node (Answer.nodes a).head?
  | _ => .nothing

def Operation.silence : Operation → Reply
  | .call .raw _ _ => .answer none
  | .call .flag _ _ => .flag false
  | .call .text _ _ => .text ""
  | .call (.integer default) _ _ => .integer default
  | .call .json _ _ => .json none
  | .terminal _ .findOne | .terminal _ (.findOnce _) | .terminal _ (.waitFor _) => .node none
  | .terminal _ .findAll | .command _ .children | .find _ _ => .nodes []
  | .command _ .parent | .command _ (.child _) | .command _ .firstChild | .command _ .lastChild
  | .command _ (.sibling _) | .command _ .nextSibling | .command _ .previousSibling
  | .findOne _ _ => .node none
  | .terminal _ _ | .command _ _ => .flag false
  | _ => .nothing

theorem Operation.read_none (op : Operation) : op.read none = op.silence := by
  cases op with
  | call form => cases form <;> rfl
  | terminal s t => cases t <;> rfl
  | command i c => cases c <;> rfl
  | _ => rfl

theorem program_reads (c : Client σ) {op : Operation} {p : Program Reply}
    (hp : c.program? op = some p) : p.Reads (fun a => op.read a) none := by
  cases op with
  | call form verb args =>
    cases hp
    cases form <;> exact fun a => rfl
  | command i command =>
    cases hp
    exact command.reads c.settle i
  | terminal s t =>
    obtain ⟨h, -, rfl⟩ := Option.map_eq_some_iff.mp hp
    rw [Terminal.program_eq]
    exact fun a => rfl
  | find i s =>
    obtain ⟨h, -, rfl⟩ := Option.map_eq_some_iff.mp hp
    exact fun a => rfl
  | findOne i s =>
    obtain ⟨h, -, rfl⟩ := Option.map_eq_some_iff.mp hp
    exact fun a => rfl
  | _ => cases hp

def happened (c : Client σ) (op : Operation) : List Event :=
  match c.program? op with
  | some p => World.events c.host c.depth p c.world
  | none => match op with
    | .release => [released]
    | _ => []

def history (c : Client σ) : List Operation → List Event
  | [] => []
  | op :: ops => c.happened op ++ (c.perform op).2.history ops

theorem through_keeps (c : Client σ) (s : Nat) (f : Handle → Reply × Client σ)
    (P : Client σ → Prop) (hc : P c) (hf : ∀ h, P (f h).2) : P (c.through s f).2 := by
  unfold through
  cases c.handles[s]? with
  | none => exact hc
  | some h => exact hf h

theorem world_alone (c : Client σ) {op : Operation} (hop : op ≠ .release) :
    (c.alone op).2.world = c.world := by
  cases op with
  | release => exact absurd rfl hop
  | same s t =>
    exact c.through_keeps s _ (·.world = c.world) rfl fun h =>
      c.through_keeps t _ (·.world = c.world) rfl fun _ => rfl
  | share s | push s | flag s | number s | state s | holds s =>
    exact c.through_keeps s _ (·.world = c.world) rfl fun _ => rfl
  | _ => rfl

theorem depth_alone (c : Client σ) (op : Operation) : (c.alone op).2.depth = c.depth := by
  cases op with
  | same s t =>
    exact c.through_keeps s _ (·.depth = c.depth) rfl fun h =>
      c.through_keeps t _ (·.depth = c.depth) rfl fun _ => rfl
  | share s | push s | flag s | number s | state s | holds s =>
    exact c.through_keeps s _ (·.depth = c.depth) rfl fun _ => rfl
  | _ => rfl

theorem depth_perform (c : Client σ) (op : Operation) : (c.perform op).2.depth = c.depth := by
  cases hp : c.program? op with
  | some p => rw [perform_of_program c hp]
  | none =>
    rw [perform_of_none c hp]
    exact c.depth_alone op

theorem happened_of_program (c : Client σ) {op : Operation} {p : Program Reply}
    (hp : c.program? op = some p) : c.happened op = World.events c.host c.depth p c.world := by
  simp only [happened, hp]

theorem happened_alone (c : Client σ) {op : Operation} (hp : c.program? op = none)
    (hop : op ≠ .release) : c.happened op = [] := by
  simp only [happened, hp]

theorem admitted_happened (c : Client σ) (op : Operation) (hd : overrun ∉ c.happened op) :
    Admitted c.world.attached (c.happened op) (c.perform op).2.world.attached := by
  cases hp : c.program? op with
  | some p =>
    rw [happened_of_program c hp] at hd ⊢
    rw [perform_of_program c hp]
    exact World.admitted_events c.host c.depth p c.world hd
  | none =>
    rw [perform_of_none c hp]
    by_cases hop : op = .release
    · subst hop
      have hdetached : (c.alone .release).2.world.attached = false := c.world.attached_detach
      rw [hdetached]
      exact .release _ (.nil false)
    · rw [happened_alone c hp hop, world_alone c hop]
      exact .nil _

theorem calls_happened (c : Client σ) (op : Operation) :
    (c.perform op).2.world.calls = (Event.calls (c.happened op)).reverse ++ c.world.calls := by
  cases hp : c.program? op with
  | some p =>
    rw [perform_of_program c hp, happened_of_program c hp]
    exact World.calls_events c.host c.depth p c.world
  | none =>
    rw [perform_of_none c hp]
    by_cases hop : op = .release
    · subst hop
      obtain ⟨attached, notes, hw⟩ := c.world.detach_eq
      simp only [alone, hw]
      rfl
    · rw [happened_alone c hp hop, world_alone c hop]
      rfl

theorem admitted_history (c : Client σ) (ops : List Operation) (hd : overrun ∉ c.history ops) :
    Admitted c.world.attached (c.history ops) (c.after ops).world.attached := by
  induction ops generalizing c with
  | nil => exact .nil _
  | cons op ops ih =>
    simp only [history, List.mem_append, not_or] at hd
    exact (c.admitted_happened op hd.1).append (ih (c.perform op).2 hd.2)

theorem calls_history (c : Client σ) (ops : List Operation) :
    (c.after ops).world.calls = (Event.calls (c.history ops)).reverse ++ c.world.calls := by
  induction ops generalizing c with
  | nil => rfl
  | cons op ops ih =>
    have htail := ih (c.perform op).2
    rw [calls_happened] at htail
    rw [history, calls_append, List.reverse_append, List.append_assoc]
    exact htail

theorem reply_eq (c : Client σ) {op : Operation} {p : Program Reply}
    (hp : c.program? op = some p) :
    (c.perform op).1 = op.read (Event.result none (c.happened op)) := by
  rw [perform_of_program c hp, happened_of_program c hp]
  exact World.run_reads c.host c.depth (c.program_reads hp) c.world

theorem reply_of_released (c : Client σ) {op : Operation} {p : Program Reply}
    (hp : c.program? op = some p) (ha : c.world.attached = false) :
    (c.perform op).1 = op.silence ∧ (c.perform op).2.world.calls = c.world.calls := by
  rw [perform_of_program c hp, ← op.read_none]
  exact World.run_of_released c.host c.depth (c.program_reads hp) c.world ha

def deepened (c : Client σ) (depth : Nat) : Client σ :=
  { c with depth }

theorem through_deepened (c : Client σ) (depth s : Nat) {f f' : Handle → Reply × Client σ}
    (hf : ∀ h, f' h = ((f h).1, (f h).2.deepened depth)) :
    (c.deepened depth).through s f' = ((c.through s f).1, (c.through s f).2.deepened depth) := by
  have hhandles : (c.deepened depth).handles = c.handles := rfl
  unfold through
  rw [hhandles]
  cases c.handles[s]? with
  | none => rfl
  | some h => exact hf h

theorem alone_deepened (c : Client σ) (depth : Nat) (op : Operation) :
    (c.deepened depth).alone op = ((c.alone op).1, (c.alone op).2.deepened depth) := by
  cases op with
  | same s t =>
    exact c.through_deepened depth s fun h => c.through_deepened depth t fun _ => rfl
  | share s | push s | flag s | number s | state s | holds s =>
    exact c.through_deepened depth s fun _ => rfl
  | _ => rfl

theorem perform_deepened (c : Client σ) {depth : Nat} (hle : c.depth ≤ depth) (op : Operation)
    (hd : overrun ∉ c.happened op) :
    (c.deepened depth).perform op = ((c.perform op).1, (c.perform op).2.deepened depth) ∧
      (c.deepened depth).happened op = c.happened op := by
  cases hp : c.program? op with
  | some p =>
    have hp' : (c.deepened depth).program? op = some p := hp
    rw [happened_of_program c hp] at hd ⊢
    obtain ⟨hrun, hevents⟩ := World.events_deeper c.host hle p c.world hd
    rw [perform_of_program c hp, perform_of_program _ hp', happened_of_program _ hp']
    refine ⟨?_, hevents⟩
    simp only [deepened, hrun]
  | none =>
    have hp' : (c.deepened depth).program? op = none := hp
    rw [perform_of_none c hp, perform_of_none _ hp', alone_deepened]
    simp only [happened, hp, hp', and_self]

theorem after_deepened (c : Client σ) {depth : Nat} (hle : c.depth ≤ depth)
    (ops : List Operation) (hd : overrun ∉ c.history ops) :
    (c.deepened depth).after ops = (c.after ops).deepened depth ∧
      (c.deepened depth).history ops = c.history ops := by
  induction ops generalizing c with
  | nil => exact ⟨rfl, rfl⟩
  | cons op ops ih =>
    simp only [history, List.mem_append, not_or] at hd
    obtain ⟨hperform, hhappened⟩ := c.perform_deepened hle op hd.1
    obtain ⟨hafter, hhistory⟩ := ih (c.perform op).2 ((c.depth_perform op).symm ▸ hle) hd.2
    refine ⟨?_, ?_⟩
    · rw [after, List.foldl_cons, hperform]
      exact hafter
    · rw [history, hperform, hhappened, hhistory]
      rfl

/-- A call that starts on an attached bridge reaches the host once, at once, as it was made, and its
result is what the host answers it, whatever the host calls or releases before it answers. From the
first release on, no call reaches the host, and each has no answer at once. An operation gives what
it reads off the last of its results, which after a release is what it gives without a host. This
does not depend on how many calls may be under way within each other, as long as these are enough. -/
theorem release_silences_every_call (c : Client σ) (ops : List Operation)
    (hops : overrun ∉ c.history ops) :
    let es := c.history ops
    let c' := c.after ops
    Admitted c.world.attached es c'.world.attached ∧
    c'.world.calls = (Event.calls es).reverse ++ c.world.calls ∧
    (∀ before e rest, es = before ++ e :: rest →
      e.Proper (c.world.attached = true ∧ released ∉ before) rest.head?) ∧
    (∀ op p, c'.program? op = some p →
      (c'.perform op).1 = op.read (Event.result none (c'.happened op)) ∧
      (released ∈ es →
        (c'.perform op).1 = op.silence ∧ (c'.perform op).2.world.calls = c'.world.calls)) ∧
    ∀ depth, c.depth ≤ depth →
      (c.deepened depth).after ops = c'.deepened depth ∧ (c.deepened depth).history ops = es := by
  intro es c'
  have hadmitted : Admitted c.world.attached es c'.world.attached := c.admitted_history ops hops
  refine ⟨hadmitted, c.calls_history ops, ?_, ?_, fun depth hle => c.after_deepened hle ops hops⟩
  · exact (heeds_iff _ es).mp hadmitted.heeds
  · intro op p hp
    refine ⟨c'.reply_eq hp, fun hreleased => ?_⟩
    have hdetached : c'.world.attached = false := by
      cases ha : c'.world.attached with
      | false => rfl
      | true => exact absurd hreleased (hadmitted.attached_iff.mp ha).2
    exact c'.reply_of_released hp hdetached

/-- Asked for `outer`, it calls back, releases itself, calls back once more, and answers. -/
def leavingHost : Host Unit := fun verb args =>
  if verb = "outer" then
    .call "inner" args fun a => .detach fun _ => .call "late" args fun b => .answer (a <|> b)
  else .answer (some verb)

def leaving : Client Unit :=
  { host := leavingHost, world := { state := (), console := { capacity := 0 } }, depth := 2 }

theorem release_within_a_call :
    let ops : List Operation := [.call .text "outer" ["1"], .create, .terminal 0 .findAll]
    overrun ∉ leaving.history ops ∧
    Admitted true (leaving.history ops) false ∧
    (leaving.after ops).world.calls = [⟨"inner", ["1"]⟩, ⟨"outer", ["1"]⟩] ∧
    ((leaving.after ops).perform (.call (.integer 7) "outer" [])).1 = .integer 7 := by
  intro ops
  have hops : overrun ∉ leaving.history ops := by decide
  obtain ⟨hadmitted, -, -, hreplies, -⟩ := release_silences_every_call leaving ops hops
  have hreleased : released ∈ leaving.history ops := by decide
  have hreply := (hreplies (.call (.integer 7) "outer" []) _ rfl).2 hreleased
  exact ⟨hops, hadmitted, rfl, hreply.1⟩

end Client

end ScreenScript
