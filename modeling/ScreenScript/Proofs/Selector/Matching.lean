import ScreenScript.Proofs.Client.Handles
import ScreenScript.Proofs.Number.Signed
import ScreenScript.Proofs.Pattern.Anchoring

namespace ScreenScript

namespace Pattern

/-- Between the anchors the pattern is what it is by itself. -/
def KeepsToItself (pattern : String) : Prop :=
  if (own? pattern).isSome then HasRoom pattern ∧ ¬EndsInComment pattern else compile? pattern = none

theorem pasted_iff_whole {p : String} (hp : KeepsToItself p) (text : String) :
    MatchesPasted p text ↔ MatchesWhole p text := by
  by_cases hown : (own? p).isSome
  · rw [KeepsToItself, if_pos hown] at hp
    rw [pasted_iff_of_own hown]
    exact ⟨fun h => h.2.2, fun h => ⟨hp.1, hp.2, h⟩⟩
  · rw [KeepsToItself, if_neg hown] at hp
    have hnone : own? p = none := by simpa using hown
    simp [MatchesPasted, MatchesWhole, hp, hnone]

end Pattern

namespace Selector

open Node Pattern

namespace Condition

/-- What the condition says of a node, where `matched` says whether a pattern matches a text. -/
def Means (matched : String → String → Prop) (c : Condition) (i : Info) : Prop :=
  match c.kind with
  | .text f .exact => i.field f = c.value ∨ (c.value ≠ "" ∧ ∃ front,
      f = .id ∧ i.field f = front ++ ":id/" ++ c.value ∨
        f = .className ∧ i.field f = front ++ "." ++ c.value)
  | .text f .contains => ∃ front back, i.field f = front ++ c.value ++ back
  | .text f .startsWith => ∃ back, i.field f = c.value ++ back
  | .text f .endsWith => ∃ front, i.field f = front ++ c.value
  | .text f .pattern => matched c.value (i.field f)
  | .flag f => i.flag f = true ↔ c.value = "true"
  | .depth => Word.ReadsAs c.value i.depth
  | .drawingOrder => Word.ReadsAs c.value i.drawingOrder

theorem occurs_iff (sub s : List Char) : occurs sub s = true ↔ sub <:+: s := by
  induction s with
  | nil => simp [occurs, List.isEmpty_iff]
  | cons c r ih => simp [occurs, ih, List.infix_cons_iff]

theorem exists_append_right {s v : String} :
    (∃ back, s = v ++ back) ↔ v.toList <+: s.toList := by
  constructor
  · rintro ⟨back, rfl⟩
    exact ⟨back.toList, String.toList_append.symm⟩
  · rintro ⟨back, h⟩
    exact ⟨String.ofList back, String.toList_inj.mp (by simp [← h])⟩

theorem exists_append_left {s v : String} :
    (∃ front, s = front ++ v) ↔ v.toList <:+ s.toList := by
  constructor
  · rintro ⟨front, rfl⟩
    exact ⟨front.toList, String.toList_append.symm⟩
  · rintro ⟨front, h⟩
    exact ⟨String.ofList front, String.toList_inj.mp (by simp [← h])⟩

theorem exists_append_both {s v : String} :
    (∃ front back, s = front ++ v ++ back) ↔ v.toList <:+: s.toList := by
  constructor
  · rintro ⟨front, back, rfl⟩
    exact ⟨front.toList, back.toList, by simp⟩
  · rintro ⟨front, back, h⟩
    exact ⟨String.ofList front, String.ofList back, String.toList_inj.mp (by simp [← h])⟩

theorem endsAfter_iff (mark : String) {s v : String} : endsAfter mark.toList v.toList s.toList = true ↔
    v ≠ "" ∧ ∃ front, s = front ++ mark ++ v := by
  have hmark : ∀ front, front ++ mark ++ v = front ++ (mark ++ v) := fun _ => String.append_assoc ..
  have hempty : (!v.toList.isEmpty) = true ↔ v ≠ "" := by simp
  simp only [hmark, exists_append_left, String.toList_append]
  rw [endsAfter, Bool.and_eq_true, List.isSuffixOf_iff_suffix, hempty]

theorem holds_iff {cache : Cache} (hc : cache.Kept) (c : Condition) (i : Info) :
    (c.holds i cache).1 = true ↔ c.Means MatchesPasted i := by
  obtain ⟨kind, value⟩ := c
  cases kind with
  | text f m =>
    cases m with
    | exact =>
      have hshort : isShortFor f value.toList (i.field f).toList = true ↔ value ≠ "" ∧ ∃ front,
          f = .id ∧ i.field f = front ++ ":id/" ++ value ∨
            f = .className ∧ i.field f = front ++ "." ++ value := by
        cases f with
        | id => simpa [isShortFor] using endsAfter_iff ":id/"
        | className => simpa [isShortFor] using endsAfter_iff "."
        | text | desc | packageName => simp [isShortFor]
      simp only [holds, Means, Bool.or_eq_true, decide_eq_true_eq, String.toList_inj, hshort]
    | contains =>
      simp only [holds, Means, exists_append_both]
      exact occurs_iff ..
    | startsWith =>
      simp only [holds, Means, exists_append_right]
      exact List.isPrefixOf_iff_prefix
    | endsWith =>
      simp only [holds, Means, exists_append_left]
      exact List.isSuffixOf_iff_suffix
    | pattern =>
      simp only [holds, Means, Cache.matchesAll_eq hc]
      exact verdict_iff_pasted ..
  | flag f =>
    simp only [holds, Means, beq_iff_eq]
    rw [Bool.eq_iff_iff, decide_eq_true_eq]
  | depth => exact decide_eq_true_iff.trans Word.read?_eq_some
  | drawingOrder => exact decide_eq_true_iff.trans Word.read?_eq_some

theorem holds_after (c : Condition) (i : Info) (cache : Cache) :
    ∃ rs, (c.holds i cache).2 = cache.after rs := by
  obtain ⟨kind, value⟩ := c
  cases kind with
  | text f m =>
    cases m with
    | pattern => exact ⟨[.test value (i.field f)], rfl⟩
    | exact | contains | startsWith | endsWith => exact ⟨[], rfl⟩
  | flag | depth | drawingOrder => exact ⟨[], rfl⟩

theorem holdAll_cons (i : Info) (c : Condition) (cs : List Condition) (cache : Cache) :
    holdAll i (c :: cs) cache = if (c.holds i cache).1 then holdAll i cs (c.holds i cache).2
      else (false, (c.holds i cache).2) := by
  rw [holdAll]
  rcases c.holds i cache with ⟨b, cache'⟩
  cases b <;> rfl

theorem holdAll_after (i : Info) (cs : List Condition) (cache : Cache) :
    ∃ rs, (holdAll i cs cache).2 = cache.after rs := by
  induction cs generalizing cache with
  | nil => exact ⟨[], rfl⟩
  | cons c cs ih =>
    obtain ⟨rs, hrs⟩ := c.holds_after i cache
    rw [holdAll_cons]
    split
    · obtain ⟨rs', hrs'⟩ := ih (c.holds i cache).2
      exact ⟨rs ++ rs', by rw [hrs', hrs, Cache.after_append]⟩
    · exact ⟨rs, hrs⟩

theorem holdAll_iff {cache : Cache} (hc : cache.Kept) (i : Info) (cs : List Condition) :
    (holdAll i cs cache).1 = true ↔ ∀ c ∈ cs, c.Means MatchesPasted i := by
  induction cs generalizing cache with
  | nil => simp [holdAll]
  | cons c cs ih =>
    obtain ⟨rs, hrs⟩ := c.holds_after i cache
    have hnext : (c.holds i cache).2.Kept := by
      rw [hrs]
      exact hc.after rs
    rw [holdAll_cons, List.forall_mem_cons, ← holds_iff hc]
    split
    · next h => rw [ih hnext, h, eq_self, true_and]
    · next h => simp [h]

theorem means_iff {c : Condition} (h : ∀ f, c.kind = .text f .pattern → KeepsToItself c.value)
    (i : Info) : c.Means MatchesPasted i ↔ c.Means MatchesWhole i := by
  obtain ⟨kind, value⟩ := c
  cases kind with
  | text f m =>
    cases m with
    | pattern => exact pasted_iff_whole (h f rfl) _
    | exact | contains | startsWith | endsWith => exact Iff.rfl
  | flag | depth | drawingOrder => exact Iff.rfl

/-- Whatever the store was asked before, a list of conditions holds if each of them does, by what it
means; a pattern is matched as it is between the anchors, and by itself if it keeps to itself there.
So the order of conditions does not matter, nor that one comes twice, nor what was matched earlier,
and one more condition takes nodes away only. A number or flag appended to a selector compares with
what the node says. -/
theorem holdAll_by_meaning (n : Nat) (rs : List Request) (i : Info) (cs : List Condition) :
    let holds (cs : List Condition) := (holdAll i cs ((Cache.ofCapacity n).after rs)).1 = true
    (holds cs ↔ ∀ c ∈ cs, c.Means MatchesPasted i) ∧
      ((∀ c ∈ cs, ∀ f, c.kind = .text f .pattern → KeepsToItself c.value) →
        (holds cs ↔ ∀ c ∈ cs, c.Means MatchesWhole i)) ∧
      (∀ m rs' cs', (∀ c, c ∈ cs' ↔ c ∈ cs) →
        ((holdAll i cs' ((Cache.ofCapacity m).after rs')).1 = true ↔ holds cs)) ∧
      (∀ j ds, (holdAll i cs (holdAll j ds ((Cache.ofCapacity n).after rs)).2).1 = true ↔ holds cs) ∧
      (∀ c, holds (cs ++ [c]) → holds cs) ∧
      ∀ (s : Store) h, h < s.lists.size → s.conditions h = cs →
        (∀ k, holds ((s.number h .depth k).conditions h) ↔ holds cs ∧ i.depth = k) ∧
        (∀ k, holds ((s.number h .drawingOrder k).conditions h) ↔ holds cs ∧ i.drawingOrder = k) ∧
        ∀ f b, holds ((s.flag h (.flag f) b).conditions h) ↔ holds cs ∧ i.flag f = b := by
  intro holds
  have hc : ∀ n rs, ((Cache.ofCapacity n).after rs).Kept := fun n rs =>
    (Cache.kept_ofCapacity n).after rs
  have hmeans : ∀ cs, holds cs ↔ ∀ c ∈ cs, c.Means MatchesPasted i := holdAll_iff (hc n rs) i
  have happend : ∀ cs c, holds (cs ++ [c]) ↔ holds cs ∧ c.Means MatchesPasted i := by
    intro cs c
    rw [hmeans, hmeans, List.forall_mem_append, List.forall_mem_singleton]
  refine ⟨hmeans cs, ?_, ?_, ?_, ?_, ?_⟩
  · intro hkeep
    rw [hmeans]
    exact forall₂_congr fun c hcs => means_iff (hkeep c hcs) i
  · intro m rs' cs' hsame
    rw [holdAll_iff (hc m rs'), hmeans]
    exact forall_congr' fun c => by rw [hsame c]
  · intro j ds
    obtain ⟨rs', hrs'⟩ := holdAll_after j ds ((Cache.ofCapacity n).after rs)
    rw [hrs', holdAll_iff ((hc n rs).after rs'), hmeans]
  · intro c h
    exact ((happend cs c).mp h).1
  · rintro s h hh rfl
    refine ⟨?_, ?_, ?_⟩
    · intro k
      rw [Store.number, Store.conditions_push_self s _ hh, happend]
      exact and_congr_right fun _ => Word.readsAs_text
    · intro k
      rw [Store.number, Store.conditions_push_self s _ hh, happend]
      exact and_congr_right fun _ => Word.readsAs_text
    · intro f b
      rw [Store.flag, Store.conditions_push_self s _ hh, happend]
      refine and_congr_right fun _ => ?_
      cases b <;> simp [Means, Store.flagValue]

/-- The package may be left out of an identifier, and the second alternative matches all of a text;
this stays so in another order and with a depth as a third condition. -/
theorem title_of_package_found :
    let node : Info := { id := "com.app:id/title", text := "ab", depth := 3 }
    let title : Condition := ⟨.text .id .exact, "title"⟩
    let text : Condition := ⟨.text .text .pattern, "a|ab"⟩
    let store := (Store.create {}).2.push 0 title |>.push 0 text
    let cache := (Cache.ofCapacity 1).after [.fetch "b"]
    (∀ c ∈ [title, text], c.Means MatchesWhole node) ∧
      (holdAll node [text, title, text] (Cache.ofCapacity 0)).1 = true ∧
      (holdAll node [title, text] (holdAll default [text] cache).2).1 = true ∧
      (holdAll node [title] cache).1 = true ∧
      (holdAll node ((store.number 0 .depth 3).conditions 0) cache).1 = true := by
  intro node title text store cache
  obtain ⟨-, hwhole, hsame, hearlier, -, hstore⟩ :=
    holdAll_by_meaning 1 [.fetch "b"] node [title, text]
  obtain ⟨-, -, -, -, hfewer, -⟩ := holdAll_by_meaning 1 [.fetch "b"] node [title]
  have hholds : (holdAll node [title, text] cache).1 = true := by decide +kernel
  have hkeep : KeepsToItself "a|ab" := by
    rw [KeepsToItself, if_pos (by decide +kernel)]
    exact ⟨by decide +kernel, by decide +kernel⟩
  refine ⟨(hwhole ?_).mp hholds, ?_, (hearlier default [text]).mpr hholds, hfewer text hholds, ?_⟩
  · intro c hc f hf
    rcases List.mem_pair.mp hc with rfl | rfl
    · cases hf
    · exact hkeep
  · exact (hsame 0 [] [text, title, text] (by simp [or_comm])).mpr hholds
  · exact ((hstore store 0 (by decide) rfl).1 3).mpr ⟨hholds, rfl⟩

end Condition

end Selector

end ScreenScript
