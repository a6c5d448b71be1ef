import Mathlib.Data.List.DropRight
import ScreenScript.Console

namespace ScreenScript.Console

inductive Use where
  | emit (m : Message)
  | clear
  | setSink (sink : Option Nat)

namespace Use

def message? : Use → Option Message
  | emit m => some m
  | _ => none

def sink? : Use → Option (Option Nat)
  | setSink sink => some sink
  | _ => none

def isClear : Use → Bool
  | clear => true
  | _ => false

end Use

def perform (c : Console) : Use → Console
  | .emit m => c.emit m
  | .clear => c.clear
  | .setSink sink => c.setSink sink

/-- A console with its clones. A clone copies the capacity, and shares all the rest. -/
structure Clones where
  console : Console
  capacities : List Nat := []

/-- What happens through a handle. Handles are numbered: the clones count from 1 in the order they
are made, and any other number is that of the console itself. -/
inductive Event where
  | use (handle : Nat) (u : Use)
  | clone (handle : Nat)

namespace Event

def use? : Event → Option Use
  | use _ u => some u
  | clone _ => none

def isClear (e : Event) : Bool :=
  e.use?.any (·.isClear)

end Event

namespace Clones

def capacityOf (f : Clones) (handle : Nat) : Nat :=
  (f.console.capacity :: f.capacities).getD handle f.console.capacity

def step (f : Clones) : Event → Clones
  | .use handle u =>
    let c := { f.console with capacity := f.capacityOf handle }
    { f with console := { c.perform u with capacity := f.console.capacity } }
  | .clone handle => { f with capacities := f.capacities ++ [f.capacityOf handle] }

def after (capacity : Nat) (es : List Event) : Clones :=
  es.foldl step { console := { capacity } }

end Clones

def written (us : List Use) : List Message :=
  us.filterMap Use.message?

def sinceClear (us : List Use) : List Use :=
  us.rtakeWhile (!·.isClear)

def installed (us : List Use) : Option Nat :=
  (us.filterMap Use.sink?).getLast?.join

def writtenTo (sink : Nat) (us : List Use) : List Message :=
  us.zipIdx.filterMap fun (u, i) => if installed (us.take i) = some sink then u.message? else none

def got (c : Console) (sink : Nat) : List Message :=
  (c.delivered.reverse.filter (·.1 = sink)).map (·.2)

variable {capacity : Nat} {us : List Use}

theorem installed_append (us : List Use) (u : Use) :
    installed (us ++ [u]) = u.sink?.getD (installed us) := by
  cases u <;> simp [installed, Use.sink?]

theorem writtenTo_append (sink : Nat) (us : List Use) (u : Use) :
    writtenTo sink (us ++ [u]) =
      writtenTo sink us ++ if installed us = some sink then u.message?.toList else [] := by
  have hbefore : (us.zipIdx.filterMap fun (v, i) =>
      if installed ((us ++ [u]).take i) = some sink then v.message? else none) =
        writtenTo sink us := by
    refine List.filterMap_congr fun (v, i) hv => ?_
    have hi : i ≤ us.length := (List.snd_lt_of_mem_zipIdx hv).le
    simp only [List.take_append_of_le_length hi]
  rw [← hbefore]
  unfold writtenTo
  rw [List.zipIdx_append, List.filterMap_append]
  congr 1
  by_cases h : installed us = some sink
  · cases u <;> simp [h, Use.message?]
  · simp [h]

theorem writtenTo_unclear (sink : Nat) (us : List Use) :
    installed (us.filter (!·.isClear)) = installed us ∧
      writtenTo sink (us.filter (!·.isClear)) = writtenTo sink us := by
  induction us using List.reverseRecOn with
  | nil => exact ⟨rfl, rfl⟩
  | append_singleton us u ih =>
    obtain ⟨hinstalled, hwritten⟩ := ih
    rw [List.filter_append]
    cases hc : u.isClear with
    | false =>
      have hstays : [u].filter (!·.isClear) = [u] := by simp [hc]
      rw [hstays]
      simp only [installed_append, writtenTo_append, hinstalled, hwritten, and_self]
    | true =>
      have hgone : [u].filter (!·.isClear) = [] := by simp [hc]
      rw [hgone, List.append_nil, hinstalled, hwritten, installed_append, writtenTo_append]
      cases u with
      | clear => exact ⟨rfl, by simp [Use.message?]⟩
      | emit m => cases hc
      | setSink s => cases hc

theorem rtake_retained (ms : List Message) (m : Message) :
    retain capacity (ms.rtake capacity) m = (ms ++ [m]).rtake capacity := by
  have hlength : (ms.rtake capacity).length = min capacity ms.length := by
    simp only [List.rtake, List.length_drop]
    omega
  unfold retain
  split_ifs with hzero hfull
  · simp [hzero]
  · rw [hlength] at hfull
    have hdrop : (ms.rtake capacity).drop 1 = ms.drop (ms.length + 1 - capacity) := by
      rw [List.rtake, List.drop_drop]
      congr 1
      omega
    have hle : ms.length + 1 - capacity ≤ ms.length := by omega
    rw [hdrop, List.rtake, List.length_append, List.length_singleton,
      List.drop_append_of_le_length hle]
  · rw [hlength] at hfull
    have hms : ms.length - capacity = 0 := by omega
    have hall : ms.length + 1 - capacity = 0 := by omega
    simp [List.rtake, hms, hall]

theorem sink_perform (c : Console) (u : Use) : (c.perform u).sink = u.sink?.getD c.sink := by
  cases u <;> rfl

theorem got_perform (c : Console) (sink : Nat) (u : Use) :
    got (c.perform u) sink =
      got c sink ++ if c.sink = some sink then u.message?.toList else [] := by
  cases u with
  | emit m =>
    cases hs : c.sink with
    | none => simp [got, perform, emit, hs]
    | some s =>
      by_cases hsink : s = sink
      · simp [got, perform, emit, hs, hsink, Use.message?]
      · simp [got, perform, emit, hs, hsink]
  | clear => simp [got, perform, clear, Use.message?]
  | setSink s => simp [got, perform, setSink, Use.message?]

theorem entries_perform {c : Console} (hc : c.capacity = capacity)
    (he : c.entries = (written (sinceClear us)).rtake capacity) (u : Use) :
    (c.perform u).entries = (written (sinceClear (us ++ [u]))).rtake capacity := by
  cases u with
  | emit m =>
    have hsince : sinceClear (us ++ [.emit m]) = sinceClear us ++ [.emit m] :=
      List.rtakeWhile_concat_pos _ _ _ rfl
    have hwritten : written (sinceClear us ++ [.emit m]) = written (sinceClear us) ++ [m] :=
      List.filterMap_append
    rw [hsince, hwritten, ← rtake_retained, ← he, ← hc]
    rfl
  | clear =>
    have hsince : sinceClear (us ++ [.clear]) = [] :=
      List.rtakeWhile_concat_neg _ _ _ Bool.false_ne_true
    rw [hsince]
    exact (List.rtake_nil _).symm
  | setSink s =>
    have hsince : sinceClear (us ++ [.setSink s]) = sinceClear us ++ [.setSink s] :=
      List.rtakeWhile_concat_pos _ _ _ rfl
    have hwritten : written (sinceClear us ++ [.setSink s]) = written (sinceClear us) := by
      simp [written, Use.message?]
    rw [hsince, hwritten]
    exact he

structure Tells (capacity : Nat) (us : List Use) (f : Clones) : Prop where
  limit : f.console.capacity = capacity
  capacities : ∀ n ∈ f.capacities, n = capacity
  entries : f.console.entries = (written (sinceClear us)).rtake capacity
  sink : f.console.sink = installed us
  got (sink : Nat) : got f.console sink = writtenTo sink us

namespace Tells

variable {f : Clones}

theorem capacityOf (h : Tells capacity us f) (handle : Nat) : f.capacityOf handle = capacity := by
  have hall : ∀ n ∈ f.console.capacity :: f.capacities, n = capacity :=
    List.forall_mem_cons.mpr ⟨h.limit, h.capacities⟩
  unfold Clones.capacityOf
  rw [List.getD_eq_getElem?_getD]
  cases hn : (f.console.capacity :: f.capacities)[handle]? with
  | none => exact h.limit
  | some n => exact hall n (List.mem_of_getElem? hn)

theorem use (h : Tells capacity us f) (handle : Nat) (u : Use) :
    Tells capacity (us ++ [u]) (f.step (.use handle u)) := by
  -- All handles have the same capacity, so it does not matter which one is used.
  have hown : { f.console with capacity := f.capacityOf handle } = f.console := by
    rw [h.capacityOf handle, ← h.limit]
  refine ⟨h.limit, h.capacities, ?_, ?_, fun sink => ?_⟩
  · simp only [Clones.step, hown]
    exact entries_perform h.limit h.entries u
  · simp only [Clones.step, hown]
    rw [sink_perform, installed_append, h.sink]
  · simp only [Clones.step, hown]
    exact (got_perform f.console sink u).trans (by rw [writtenTo_append, h.got, h.sink])

theorem step (h : Tells capacity us f) (e : Event) :
    Tells capacity (us ++ e.use?.toList) (f.step e) := by
  cases e with
  | use handle u => exact h.use handle u
  | clone handle =>
    refine ⟨h.limit, ?_, ?_, ?_, ?_⟩
    · rw [Clones.step, List.forall_mem_append, List.forall_mem_singleton]
      exact ⟨h.capacities, h.capacityOf handle⟩
    all_goals rw [Event.use?, Option.toList_none, List.append_nil]
    · exact h.entries
    · exact h.sink
    · exact h.got

end Tells

theorem tells_after (capacity : Nat) (es : List Event) :
    Tells capacity (es.filterMap Event.use?) (Clones.after capacity es) := by
  induction es using List.reverseRecOn with
  | nil => exact ⟨rfl, List.forall_mem_nil _, (List.rtake_nil _).symm, rfl, fun _ => rfl⟩
  | append_singleton es e ih =>
    have hstep := ih.step e
    rw [Clones.after, List.foldl_append, List.filterMap_append]
    cases e with
    | use handle u => exact hstep
    | clone handle => exact hstep

theorem uses_unclear (es : List Event) :
    (es.filter (!·.isClear)).filterMap Event.use? =
      (es.filterMap Event.use?).filter (!·.isClear) := by
  rw [List.filterMap_filter, List.filter_filterMap]
  refine List.filterMap_congr fun e _ => ?_
  cases e with
  | use handle u => cases u <;> rfl
  | clone handle => rfl

/-- The buffer holds the last messages since it was cleared, as many as the capacity allows. A sink
gets each message written while it is installed; so it does with any other capacity, and if the
buffer is never cleared. -/
theorem last_kept_and_all_handed_on (capacity : Nat) (es : List Event) :
    let us := es.filterMap Event.use?
    let c := (Clones.after capacity es).console
    let recent := written (sinceClear us)
    c.entries = recent.drop (recent.length - capacity) ∧
    c.entries.length = min capacity recent.length ∧
    ∀ sink, got c sink = writtenTo sink us ∧
      ∀ capacity', got (Clones.after capacity' (es.filter (!·.isClear))).console sink =
        got c sink := by
  intro us c recent
  have htells := tells_after capacity es
  have hentries : c.entries = recent.drop (recent.length - capacity) := htells.entries
  refine ⟨hentries, ?_, fun sink => ⟨htells.got sink, fun capacity' => ?_⟩⟩
  · rw [hentries, List.length_drop]
    omega
  · have hother := tells_after capacity' (es.filter (!·.isClear))
    rw [hother.got sink, htells.got sink, uses_unclear, (writtenTo_unclear sink us).2]

end ScreenScript.Console
