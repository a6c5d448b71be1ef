import ScreenScript.Host.Canned
import ScreenScript.Proofs.Host.Turns

namespace ScreenScript

def Program.callAll : List Call → Program (List (Option String))
  | [] => .done []
  | c :: cs => .ask c.verb c.args fun a => (callAll cs).bind fun as => .done (a :: as)

theorem World.run_callAll_cons {σ : Type} (h : Host σ) (c : Call) (cs : List Call) (w : World σ) :
    World.run h (Program.callAll (c :: cs)) w =
      let out := w.call h World.maxReentry c.verb c.args
      let rest := World.run h (Program.callAll cs) out.2
      (out.1 :: rest.1, rest.2) :=
  World.run_bind h (Program.callAll cs) _ _

namespace Canned

/-- The answer to the `k`-th call of a verb, where calls count from one. -/
def reply (t : Table) (verb : String) (k : Nat) : Option String :=
  (answers t verb)[min k (answers t verb).length - 1]?

theorem answers_cons (e : String × List String) (t : Table) (verb : String) :
    answers (e :: t) verb = if e.1 = verb then e.2 else answers t verb := by
  by_cases h : e.1 = verb <;> simp [answers, h]

theorem answers_absent {t : Table} {verb : String} (h : t.any (·.1 = verb) = false) :
    answers t verb = [] := by
  have hnone : t.find? (·.1 = verb) = none := by simpa using h
  rw [answers, hnone]
  rfl

theorem answers_append (t u : Table) (verb : String) :
    answers (t ++ u) verb = if t.any (·.1 = verb) then answers t verb else answers u verb := by
  induction t with
  | nil => rfl
  | cons e t ih =>
    rw [List.cons_append, answers_cons, answers_cons, ih, List.any_cons]
    by_cases hverb : e.1 = verb
    · simp [hverb]
    · simp only [if_neg hverb, decide_eq_false hverb, Bool.false_or]

theorem answers_map (t : Table) (changed verb : String) (f : List String → List String) :
    answers (t.map fun e => if e.1 = changed then (e.1, f e.2) else e) verb =
      if verb = changed ∧ t.any (·.1 = verb) then f (answers t verb) else answers t verb := by
  induction t with
  | nil => simp [answers]
  | cons e t ih =>
    have hkey : (if e.1 = changed then (e.1, f e.2) else e).1 = e.1 := by split <;> rfl
    rw [List.map_cons, answers_cons, answers_cons, hkey, ih, List.any_cons]
    by_cases hverb : e.1 = verb
    · by_cases hchanged : verb = changed
      · simp [hverb, hchanged]
      · simp [hverb, hchanged]
    · simp only [if_neg hverb, decide_eq_false hverb, Bool.false_or]

theorem answers_next (t : Table) (asked verb : String) :
    answers (next t asked).2 verb =
      if verb = asked then consume (answers t verb) else answers t verb := by
  rw [next, answers_map]
  cases hany : t.any (·.1 = verb) with
  | true => simp
  | false => simp [answers_absent hany, consume]

theorem answers_respond (t : Table) (filled answer verb : String) :
    answers (respond t filled answer) verb =
      answers t verb ++ if verb = filled then [answer] else [] := by
  unfold respond
  cases hany : t.any (·.1 = filled) with
  | true =>
    have hmap := answers_map t filled verb (· ++ [answer])
    rw [if_pos rfl]
    refine hmap.trans ?_
    by_cases hverb : verb = filled
    · rw [if_pos hverb, if_pos ⟨hverb, hverb ▸ hany⟩]
    · rw [if_neg hverb, if_neg fun h => hverb h.1, List.append_nil]
  | false =>
    rw [if_neg Bool.false_ne_true, answers_append]
    by_cases hverb : verb = filled
    · subst hverb
      simp [hany, answers_absent hany, answers_cons]
    · have hlast : answers [(filled, [answer])] verb = [] := by
        simp [answers, Ne.symm hverb]
      cases hthere : t.any (·.1 = verb) with
      | true => simp [hverb]
      | false => simp [hlast, hverb, answers_absent hthere]

theorem consume_drop (as : List String) (k : Nat) :
    consume (as.drop (min k (as.length - 1))) = as.drop (min (k + 1) (as.length - 1)) := by
  unfold consume
  rw [List.length_drop]
  split
  · congr 1
    omega
  · rw [List.drop_drop]
    congr 1
    omega

theorem head_drop (as : List String) (k : Nat) :
    (as.drop (min k (as.length - 1))).head? = as[min (k + 1) as.length - 1]? := by
  rw [List.head?_drop]
  congr 1
  omega

/-- A host that answers each call from a table it keeps, and takes the answer off. -/
def Replays {σ : Type} (h : Host σ) (table : σ → Table) : Prop :=
  ∀ verb args (w : World σ), w.attached = true →
    let out := w.call h World.maxReentry verb args
    out.1 = (next (table w.state) verb).1 ∧
      table out.2.state = (next (table w.state) verb).2 ∧ out.2.attached = true

theorem fixtureHost_replays : Replays fixtureHost id := by
  intro verb args w hw out
  obtain ⟨e, he⟩ := World.call_of_attached fixtureHost (World.maxReentry - 1) verb args w hw
  have hout : out = _ := he
  rw [hout]
  exact ⟨rfl, rfl, hw⟩

theorem call_recordingHost (verb : String) (args : List String) {w : World Recorder}
    (hw : w.attached = true) :
    let out := w.call recordingHost World.maxReentry verb args
    out.1 = (next w.state.table verb).1 ∧ out.2.attached = true ∧
      out.2.state = ⟨(next w.state.table verb).2, ⟨verb, args⟩ :: w.state.calls⟩ := by
  intro out
  obtain ⟨e, he⟩ := World.call_of_attached recordingHost (World.maxReentry - 1) verb args w hw
  have hout : out = _ := he
  rw [hout]
  exact ⟨rfl, hw, rfl⟩

theorem recordingHost_replays : Replays recordingHost Recorder.table := by
  intro verb args w hw
  obtain ⟨hanswer, hattached, hstate⟩ := call_recordingHost verb args hw
  exact ⟨hanswer, congrArg Recorder.table hstate, hattached⟩

def Left (t : Table) (cs : List Call) (u : Table) : Prop :=
  ∀ verb, answers u verb =
    (answers t verb).drop (min (cs.countP (·.verb = verb)) ((answers t verb).length - 1))

theorem Left.next {t u : Table} {cs : List Call} (h : Left t cs u) (c : Call) :
    (next u c.verb).1 = reply t c.verb ((cs ++ [c]).countP (·.verb = c.verb)) ∧
      Left t (cs ++ [c]) (next u c.verb).2 := by
  constructor
  · rw [Canned.next, h c.verb, head_drop, reply, List.countP_append]
    simp
  · intro verb
    rw [answers_next, h verb, List.countP_append]
    by_cases hverb : verb = c.verb
    · simp [hverb, consume_drop]
    · simp [hverb, Ne.symm hverb]

theorem Replays.run {σ : Type} {h : Host σ} {table : σ → Table} (hh : Replays h table) {t : Table}
    (before cs : List Call) {w : World σ} (hw : w.attached = true)
    (hleft : Left t before (table w.state)) :
    (World.run h (Program.callAll cs) w).1 =
      cs.mapIdx fun i c =>
        reply t c.verb ((before ++ cs.take (i + 1)).countP (·.verb = c.verb)) := by
  -- What is left of the table tells how often each verb was called before.
  induction cs generalizing before w with
  | nil => rfl
  | cons c cs ih =>
    obtain ⟨hanswer, htable, hattached⟩ := hh c.verb c.args w hw
    obtain ⟨hreply, hleft'⟩ := hleft.next c
    rw [← htable] at hleft'
    have hrest := ih (before ++ [c]) hattached hleft'
    have hfirst : before ++ (c :: cs).take 1 = before ++ [c] := rfl
    have hlater (i : Nat) : before ++ (c :: cs).take (i + 1 + 1) =
        before ++ [c] ++ cs.take (i + 1) := by
      rw [List.take_succ_cons, List.append_assoc, List.singleton_append]
    rw [World.run_callAll_cons]
    dsimp only
    rw [hrest, hanswer, hreply, List.mapIdx_cons]
    simp only [hfirst, hlater]

theorem recorded_run (cs : List Call) {w : World Recorder} (hw : w.attached = true) :
    (World.run recordingHost (Program.callAll cs) w).2.state.calls =
      cs.reverse ++ w.state.calls := by
  induction cs generalizing w with
  | nil => rfl
  | cons c cs ih =>
    obtain ⟨-, hattached, hstate⟩ := call_recordingHost c.verb c.args hw
    rw [World.run_callAll_cons, ih hattached, hstate, List.reverse_cons, List.append_assoc]
    rfl

/-- Two hosts with the same answers in their tables give the same answers: the `k`-th call of a verb
gets the `k`-th answer of its list, or the last one if there are fewer, or nothing if there is none.
The recorder holds the calls as they were made. -/
theorem canned_hosts_replay {t : Table} {r : Recorder}
    (hsame : ∀ verb, answers r.table verb = answers t verb) (cs : List Call) (w : World Table)
    (v : World Recorder) :
    let replayed := World.run fixtureHost (Program.callAll cs)
      { w with attached := true, state := t }
    let recorded := World.run recordingHost (Program.callAll cs)
      { v with attached := true, state := r }
    replayed.1 = (cs.mapIdx fun i c =>
      reply t c.verb ((cs.take (i + 1)).countP (·.verb = c.verb))) ∧
    recorded.1 = replayed.1 ∧ recorded.2.state.calls = cs.reverse ++ r.calls := by
  intro replayed recorded
  have hreplayed := fixtureHost_replays.run (t := t) [] cs
    (w := { w with attached := true, state := t }) rfl fun _ => by simp
  have hrecorded := recordingHost_replays.run (t := t) [] cs
    (w := { v with attached := true, state := r }) rfl fun verb => by simp [hsame verb]
  exact ⟨hreplayed, hrecorded.trans hreplayed.symm, recorded_run cs rfl⟩

/-- A recorder that is filled answer by answer, beside a table with an empty list. -/
theorem clipboard_replayed :
    let t : Table := [("getClip", ["a", "b"]), ("back", ["true"]), ("home", [])]
    let r : Recorder :=
      { table := respond (respond (respond [] "getClip" "a") "back" "true") "getClip" "b" }
    let cs : List Call := [⟨"getClip", []⟩, ⟨"back", []⟩, ⟨"getClip", ["x"]⟩, ⟨"home", []⟩,
      ⟨"getClip", []⟩]
    (∀ verb, answers r.table verb = answers t verb) ∧
    ∀ (w : World Table) (v : World Recorder),
      (World.run fixtureHost (Program.callAll cs) { w with attached := true, state := t }).1 =
        [some "a", some "true", some "b", none, some "b"] ∧
      (World.run recordingHost (Program.callAll cs)
        { v with attached := true, state := r }).2.state.calls = cs.reverse := by
  intro t r cs
  have hsame : ∀ verb, answers r.table verb = answers t verb := by
    intro verb
    by_cases hclip : verb = "getClip"
    · subst hclip
      decide
    · by_cases hback : verb = "back"
      · subst hback
        decide
      · have hempty : answers [] verb = [] := rfl
        simp [r, t, answers_respond, answers_cons, hempty, hclip, hback, Ne.symm hclip,
          Ne.symm hback]
  refine ⟨hsame, fun w v => ?_⟩
  obtain ⟨hreplayed, -, hcalls⟩ := canned_hosts_replay hsame cs w v
  exact ⟨hreplayed.trans (by decide), hcalls⟩

end Canned

end ScreenScript
