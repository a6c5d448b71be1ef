import ScreenScript.Proofs.Host.Replay
import ScreenScript.Proofs.Json.Meaning
import Mathlib

namespace ScreenScript.Canned

open Json (Written Value lastMember maxDepth)

def writtenList : Written → List Written
  | .array ws => ws
  | w => [w]

/-- The answers written for a verb; of a repeated verb the last ones count. -/
def writtenAnswers (ms : List (Option String × Written)) (verb : String) : List Written :=
  ((lastMember (some verb) ms).map writtenList).getD []

structure Sends (x : Written) (a : String) : Prop where
  meant : ∃ v, x.Means v
  verbatim : ∀ s, x.Means (.string s) → a = s
  structured : ∀ v, x.Means v → (∀ s, v ≠ .string s) → v.Whole → Answer.json? a = some v

theorem answerText_sends {x : Written} {v : Value} (h : x.Means v) (hdepth : x.depth ≤ maxDepth) :
    Sends x (answerText v) where
  meant := ⟨v, h⟩
  verbatim s hs := by
    rw [h.unique hs, answerText]
  structured v' hv' hstring hwhole := by
    have htext : answerText v' = v'.text := by
      cases v' with
      | string s => exact absurd rfl (hstring s)
      | _ => rfl
    rw [h.unique hv', htext, hv'.json_text hwhole hdepth]

theorem answers_members (vs : List (String × Value)) (verb : String) :
    answers (vs.map fun m => (m.1, answerList m.2)) verb =
      ((Json.getMember verb vs).map answerList).getD [] := by
  induction vs with
  | nil => rfl
  | cons m vs ih =>
    rw [List.map_cons, answers_cons, ih, Json.getMember]
    split <;> rfl

theorem answerList_sends {w : Written} {v : Value} (h : w.Means v) (hdepth : w.depth ≤ maxDepth) :
    List.Forall₂ Sends (writtenList w) (answerList v) := by
  cases h with
  | @array ws vs hlength hitems =>
    rw [Written.depth] at hdepth
    have hlevels := Written.depthItems_le.mp (Nat.le_of_succ_le hdepth)
    rw [writtenList, answerList, List.forall₂_map_right_iff, List.forall₂_iff_zip]
    refine ⟨hlength, fun {w v} hmem => ?_⟩
    exact answerText_sends (hitems w v hmem) (hlevels w (List.of_mem_zip hmem).1)
  | null => exact .cons (answerText_sends .null hdepth) .nil
  | bool b => exact .cons (answerText_sends (.bool b) hdepth) .nil
  | whole ht => exact .cons (answerText_sends (.whole ht) hdepth) .nil
  | real ht => exact .cons (answerText_sends (.real ht) hdepth) .nil
  | string s => exact .cons (answerText_sends (.string s) hdepth) .nil
  | object ha hk hm => exact .cons (answerText_sends (.object ha hk hm) hdepth) .nil

theorem answers_sends {ms : List (Option String × Written)} {vs : List (String × Value)}
    (h : (Written.object ms).Means (.object vs)) (hdepth : (Written.object ms).depth ≤ maxDepth)
    (verb : String) :
    List.Forall₂ Sends (writtenAnswers ms verb)
      (answers (vs.map fun m => (m.1, answerList m.2)) verb) := by
  rw [answers_members, writtenAnswers]
  cases hlast : lastMember (some verb) ms with
  | none =>
    have habsent : Json.getMember verb vs = none := by
      refine Json.getMember_eq_none.mpr fun hkey => ?_
      obtain ⟨m, hm, rfl⟩ := List.mem_map.mp hkey
      obtain ⟨w, hw, -⟩ := h.written hm
      cases hlast.symm.trans hw
    rw [habsent]
    exact .nil
  | some w =>
    obtain ⟨v, hv, hmeans⟩ := h.member hlast
    have hget : Json.getMember verb vs = some v := Json.getMember_of_mem h.ascending hv
    rw [Written.depth] at hdepth
    have hlevels := Written.depthMembers_le.mp (Nat.le_of_succ_le hdepth) _
      (Json.mem_of_lastMember hlast)
    rw [hget]
    exact answerList_sends hmeans hlevels

theorem ofJson_ok {s : String} {t : Table} : ofJson s = .ok t ↔
    ∃ vs, Value.parse? s = some (.object vs) ∧ t = vs.map fun m => (m.1, answerList m.2) := by
  rw [ofJson]
  split
  · next vs hvs => simp [hvs, eq_comm]
  · next v hobject hv =>
    refine iff_of_false (by simp) ?_
    rintro ⟨vs, hvs, -⟩
    exact hobject vs (Option.some.inj (hv.symm.trans hvs))
  · next hnone => simp [hnone]

theorem ofJson_notAnObject {s : String} : ofJson s = .error .notAnObject ↔
    ∃ v, Value.parse? s = some v ∧ ∀ vs, v ≠ .object vs := by
  rw [ofJson]
  split
  · next vs hvs => simp [hvs]
  · next v hobject hv => simpa [hv] using hobject
  · next hnone => simp [hnone]

theorem exists_parse_iff {s : String} {p : Value → Prop} {q : Written → Prop}
    (hpq : ∀ {w v}, w.Means v → (p v ↔ q w)) :
    (∃ v, Value.parse? s = some v ∧ p v) ↔
      ∃ w, Written.parse? s = some w ∧ w.Readable ∧ w.depth ≤ maxDepth ∧ q w := by
  constructor
  · rintro ⟨v, hv, hp⟩
    obtain ⟨w, hs, hreadable, hdepth, hmeans⟩ := Value.parse_eq_some.mp hv
    exact ⟨w, hs, hreadable, hdepth, (hpq hmeans).mp hp⟩
  · rintro ⟨w, hs, hreadable, hdepth, hq⟩
    obtain ⟨v, -, hmeans⟩ := Value.exists_means hreadable hdepth
    exact ⟨v, Value.parse_eq_some.mpr ⟨w, hs, hreadable, hdepth, hmeans⟩, (hpq hmeans).mpr hq⟩

theorem means_object_iff {w : Written} {v : Value} (h : w.Means v) :
    (∃ vs, v = .object vs) ↔ ∃ ms, w = .object ms := by
  cases h <;> simp

theorem accepted_iff {s : String} : (∃ t, ofJson s = .ok t) ↔
    ∃ ms, Written.parse? s = some (.object ms) ∧ (Written.object ms).Readable ∧
      (Written.object ms).depth ≤ maxDepth := by
  calc (∃ t, ofJson s = .ok t)
      ↔ ∃ v, Value.parse? s = some v ∧ ∃ vs, v = .object vs := by
        constructor
        · rintro ⟨t, ht⟩
          obtain ⟨vs, hvs, -⟩ := ofJson_ok.mp ht
          exact ⟨_, hvs, vs, rfl⟩
        · rintro ⟨_, hvs, vs, rfl⟩
          exact ⟨_, ofJson_ok.mpr ⟨vs, hvs, rfl⟩⟩
    _ ↔ ∃ w, Written.parse? s = some w ∧ w.Readable ∧ w.depth ≤ maxDepth ∧ ∃ ms, w = .object ms :=
        exists_parse_iff means_object_iff
    _ ↔ _ := by
        constructor
        · rintro ⟨_, hs, hreadable, hdepth, ms, rfl⟩
          exact ⟨ms, hs, hreadable, hdepth⟩
        · rintro ⟨ms, hs, hreadable, hdepth⟩
          exact ⟨_, hs, hreadable, hdepth, ms, rfl⟩

theorem notAnObject_iff {s : String} : ofJson s = .error .notAnObject ↔
    ∃ w, Written.parse? s = some w ∧ w.Readable ∧ w.depth ≤ maxDepth ∧ ∀ ms, w ≠ .object ms := by
  rw [ofJson_notAnObject]
  refine exists_parse_iff fun hmeans => ?_
  rw [← not_exists, ← not_exists, means_object_iff hmeans]

theorem run_fixtureHost_last (t : Table) (cs : List Call) (c : Call) (w : World Table) :
    (World.run fixtureHost (Program.callAll (cs ++ [c]))
      { w with attached := true, state := t }).1[cs.length]? =
      some ((answers t c.verb)[min (cs.countP (·.verb = c.verb)) ((answers t c.verb).length - 1)]?)
    := by
  have hrun := fixtureHost_replays.run (t := t) [] (cs ++ [c])
    (w := { w with attached := true, state := t }) rfl fun _ => by simp
  have hall : (cs ++ [c]).take (cs.length + 1) = cs ++ [c] := List.take_of_length_le (by simp)
  have hcount : (cs ++ [c]).countP (·.verb = c.verb) = cs.countP (·.verb = c.verb) + 1 := by
    simp [List.countP_append]
  rw [hrun, List.getElem?_mapIdx, List.getElem?_concat_length, Option.map_some, List.nil_append,
    hall, hcount, reply]
  congr 2
  omega

/-- A text is accepted if it is an object all of which can be read. What is written for a verb comes
back call by call, in the text that is sent for it. -/
theorem fixtures_carry_answers (s : String) :
    ((∃ t, ofJson s = .ok t) ↔ ∃ ms, Written.parse? s = some (.object ms) ∧
      (Written.object ms).Readable ∧ (Written.object ms).depth ≤ maxDepth) ∧
    (ofJson s = .error .notAnObject ↔ ∃ w, Written.parse? s = some w ∧
      w.Readable ∧ w.depth ≤ maxDepth ∧ ∀ ms, w ≠ .object ms) ∧
    ∀ t, ofJson s = .ok t → ∃ ms, Written.parse? s = some (.object ms) ∧
      ∀ (cs : List Call) (c : Call) (w : World Table) (x : Written),
        let written := writtenAnswers ms c.verb
        let replies := (World.run fixtureHost (Program.callAll (cs ++ [c]))
          { w with attached := true, state := t }).1
        written[min (cs.countP (·.verb = c.verb)) (written.length - 1)]? = some x →
          ∃ a, replies[cs.length]? = some (some a) ∧ Sends x a := by
  refine ⟨accepted_iff, notAnObject_iff, fun t ht => ?_⟩
  obtain ⟨vs, hvs, rfl⟩ := ofJson_ok.mp ht
  obtain ⟨w, hs, -, hdepth, hmeans⟩ := Value.parse_eq_some.mp hvs
  obtain ⟨ms, rfl⟩ := (means_object_iff hmeans).mp ⟨vs, rfl⟩
  refine ⟨ms, hs, ?_⟩
  intro cs c w x written replies hx
  have hsends := answers_sends hmeans hdepth c.verb
  have hlength : written.length = _ := hsends.length_eq
  obtain ⟨hi, rfl⟩ := List.getElem?_eq_some_iff.mp hx
  have hsend := hsends.get hi (hi.trans_eq hlength)
  refine ⟨_, ?_, hsend⟩
  rw [run_fixtureHost_last, List.get_eq_getElem]
  simp only [← hlength, List.getElem?_eq_getElem (hi.trans_eq hlength)]

set_option maxRecDepth 1000 in
/-- A verb and a key that are repeated, a string in escapes, and the two ends of 64 bits. -/
theorem extremes_carried :
    let s := "\x7b\"tap\":0,\"tap\":[\"\\ud83d\\ude00\",\x7b\"b\":-9223372036854775808," ++
      "\"a\":[],\"a\":18446744073709551615\x7d]\x7d"
    let v : Value := .object [("a", .number (.whole 18446744073709551615)),
      ("b", .number (.whole (-9223372036854775808)))]
    ∃ t, ofJson s = .ok t ∧ ∀ w : World Table, ∃ a b,
      (World.run fixtureHost (Program.callAll [⟨"tap", []⟩])
        { w with attached := true, state := t }).1[0]? = some (some a) ∧ a = "😀" ∧
      (World.run fixtureHost (Program.callAll [⟨"tap", []⟩, ⟨"tap", ["x"]⟩])
        { w with attached := true, state := t }).1[1]? = some (some b) ∧
      Answer.json? b = some v := by
  intro s v
  let structured : Written := .object [
    (some "b", .number ⟨true, "9223372036854775808".toList, none, none⟩),
    (some "a", .array []),
    (some "a", .number ⟨false, "18446744073709551615".toList, none, none⟩)]
  let ms : List (Option String × Written) :=
    [(some "tap", .number ⟨false, ['0'], none, none⟩),
      (some "tap", .array [.string (some "😀"), structured])]
  have hs : Written.parse? s = some (.object ms) := by cbv
  have hmeans : structured.Means v := Value.means_ofWritten (n := 2) _ (by cbv)
  obtain ⟨t, ht⟩ := (fixtures_carry_answers s).1.mpr ⟨ms, hs, by cbv, by cbv⟩
  refine ⟨t, ht, fun w => ?_⟩
  obtain ⟨ms', hs', hcarried⟩ := (fixtures_carry_answers s).2.2 t ht
  cases hs.symm.trans hs'
  obtain ⟨a, ha, hsent⟩ := hcarried [] ⟨"tap", []⟩ w (.string (some "😀")) rfl
  obtain ⟨b, hb, hsent'⟩ := hcarried [⟨"tap", []⟩] ⟨"tap", ["x"]⟩ w structured rfl
  refine ⟨a, b, ha, hsent.verbatim "😀" (.string _), hb, hsent'.structured v hmeans ?_ ?_⟩
  · exact fun s => Value.noConfusion
  · exact ⟨trivial, trivial, trivial⟩

end ScreenScript.Canned
