import ScreenScript.Proofs.Json.Depth
import ScreenScript.Proofs.Json.RoundTrip
import Mathlib.Data.List.Sort

/-!
What a written tree stands for: digits for an integer, a list of items for the list of what they
stand for, members for the last value under each key. A tree stands for one value at most, and the
value that is read is that one.
-/

namespace ScreenScript.Json

open List

theorem getElem_mem_zip {α β : Type} {as : List α} {bs : List β} {i : Nat} (ha : i < as.length)
    (hb : i < bs.length) : (as[i], bs[i]) ∈ as.zip bs := by
  have hi : i < (as.zip bs).length := by
    rw [length_zip]
    omega
  exact mem_of_getElem (h := hi) getElem_zip

theorem members_ext {α : Type} {ms ms' : List (String × α)}
    (h : (ms.map (·.1)).Pairwise (· < ·)) (h' : (ms'.map (·.1)).Pairwise (· < ·))
    (hmem : ∀ m, m ∈ ms ↔ m ∈ ms') : ms = ms' := by
  let before (m n : String × α) : Prop := m.1 < n.1
  have : Std.Irrefl before := ⟨fun m => String.lt_irrefl m.1⟩
  have : Std.Antisymm before := ⟨fun _ _ h h' => (String.lt_asymm h h').elim⟩
  exact Pairwise.eq_of_mem_iff (r := before) (pairwise_map.mp h) (pairwise_map.mp h') hmem

namespace Numeral

/-- Digits alone stand for an integer as far as 64 bits go, with a sign or without one. Minus zero
is no integer. -/
def Counts (t : Numeral) (n : Int) : Prop :=
  t.fraction = none ∧ t.exponent = none ∧
    (t.negative = false ∧ n = Decimal.value t.whole ∧ n < 2 ^ 64 ∨
      t.negative = true ∧ n = -Decimal.value t.whole ∧ -2 ^ 63 ≤ n ∧ n ≠ 0)

theorem significand_nil {ds : List Char} {m n : Nat} (h : significand m ds = (n, [])) :
    n = ds.foldl (fun n c => 10 * n + Decimal.digitValue c) m ∧ (m < wordLimit → n < wordLimit) := by
  induction ds generalizing m with
  | nil =>
    cases h
    exact ⟨rfl, id⟩
  | cons c ds ih =>
    rw [significand] at h
    split at h
    · next hlt =>
      obtain ⟨hn, hlimit⟩ := ih h
      exact ⟨hn, fun _ => hlimit hlt⟩
    · cases h

theorem map_real_ne {o : Option Binary64} {n : Int} : o.map Number.real ≠ some (.whole n) := by
  cases o <;> simp

theorem number_whole {t : Numeral} {n : Int} : t.number? = some (.whole n) ↔ t.Counts n := by
  obtain ⟨negative, ds, fraction, exponent⟩ := t
  have hmin := Int64.toInt_minValue
  have hlimit : wordLimit = 2 ^ 64 := by decide
  constructor
  · intro h
    rw [number?] at h
    dsimp only at h
    split at h
    · next m hsignificand =>
      obtain ⟨hm, hword⟩ : m = Decimal.value ds ∧ (0 < wordLimit → m < wordLimit) :=
        significand_nil hsignificand
      have hlt : m < wordLimit := hword (by decide)
      split at h
      · refine ⟨rfl, rfl, ?_⟩
        split at h
        · next hpositive =>
          cases h
          exact .inl ⟨by simpa using hpositive, by rw [hm], by omega⟩
        · next hnegative =>
          split at h
          · cases h
          · next hword =>
            cases h
            exact .inr ⟨by simpa using hnegative, by rw [hm], by omega, by omega⟩
      · exact (map_real_ne h).elim
      · exact (map_real_ne h).elim
    · split at h
      · exact (map_real_ne h).elim
      · exact (map_real_ne h).elim
  · rintro ⟨hfraction, hexponent, h⟩
    cases hfraction
    cases hexponent
    dsimp only at h
    have hvalue : Decimal.value ds < wordLimit := by omega
    have hsignificand : significand 0 ds = (Decimal.value ds, []) := significand_eq ds 0 hvalue
    simp only [number?, hsignificand]
    rcases h with ⟨rfl, rfl, -⟩ | ⟨rfl, rfl, hlow, hzero⟩
    · rfl
    · have hword : ¬ (Decimal.value ds = 0 ∨ (-Decimal.value ds : Int) < Int64.minValue.toInt) := by
        omega
      simp only [Bool.not_true, Bool.false_eq_true, if_false, if_neg hword]

end Numeral

namespace Value

mutual

/-- No floating-point number lies in it. -/
def Whole : Value → Prop
  | number (.real _) => False
  | array vs => WholeItems vs
  | object ms => WholeMembers ms
  | _ => True

def WholeItems : List Value → Prop
  | [] => True
  | v :: vs => Whole v ∧ WholeItems vs

def WholeMembers : List (String × Value) → Prop
  | [] => True
  | (_, v) :: ms => Whole v ∧ WholeMembers ms

end

theorem wholeItems_iff {vs : List Value} : WholeItems vs ↔ ∀ v ∈ vs, v.Whole := by
  induction vs with
  | nil => simp [WholeItems]
  | cons v vs ih => rw [WholeItems, ih, forall_mem_cons]

theorem wholeMembers_iff {ms : List (String × Value)} :
    WholeMembers ms ↔ ∀ m ∈ ms, m.2.Whole := by
  induction ms with
  | nil => simp [WholeMembers]
  | cons m ms ih => rw [WholeMembers, ih, forall_mem_cons]

end Value

namespace Written

/-- The value a written tree stands for. The members of an object are those whose key is written,
each with what the last value under the key stands for. -/
inductive Means : Written → Value → Prop
  | null : Means .null .null
  | bool (b : Bool) : Means (.bool b) (.bool b)
  | whole {t : Numeral} {n : Int} (ht : t.Counts n) : Means (.number t) (.number (.whole n))
  | real {t : Numeral} {x : Binary64} (ht : t.number? = some (.real x)) :
      Means (.number t) (.number (.real x))
  | string (s : String) : Means (.string (some s)) (.string s)
  | array {ws : List Written} {vs : List Value} (hlength : ws.length = vs.length)
      (hitems : ∀ w v, (w, v) ∈ ws.zip vs → Means w v) : Means (.array ws) (.array vs)
  | object {ms : List (Option String × Written)} {vs : List (String × Value)}
      (hascending : (vs.map (·.1)).Pairwise (· < ·))
      (hkeys : ∀ key, key ∈ ms.map (·.1) ↔ key ∈ vs.map fun m => some m.1)
      (hmembers : ∀ key w v, lastMember (some key) ms = some w → (key, v) ∈ vs → Means w v) :
      Means (.object ms) (.object vs)

section Object

variable {ms : List (Option String × Written)} {vs : List (String × Value)}

theorem Means.ascending (h : (Written.object ms).Means (.object vs)) :
    (vs.map (·.1)).Pairwise (· < ·) := by
  obtain _ | _ | _ | _ | _ | _ | ⟨hascending, -, -⟩ := h
  exact hascending

theorem Means.written (h : (Written.object ms).Means (.object vs)) {key : String} {v : Value}
    (hv : (key, v) ∈ vs) : ∃ w, lastMember (some key) ms = some w ∧ w.Means v := by
  obtain _ | _ | _ | _ | _ | _ | ⟨-, hkeys, hmembers⟩ := h
  cases hlast : lastMember (some key) ms with
  | none => exact absurd ((hkeys _).mpr (mem_map_of_mem hv)) (lastMember_eq_none.mp hlast)
  | some w => exact ⟨w, rfl, hmembers key w v hlast hv⟩

theorem Means.member (h : (Written.object ms).Means (.object vs)) {key : String} {w : Written}
    (hw : lastMember (some key) ms = some w) : ∃ v, (key, v) ∈ vs ∧ w.Means v := by
  obtain _ | _ | _ | _ | _ | _ | ⟨-, hkeys, hmembers⟩ := h
  have hkey : some key ∈ ms.map (·.1) := mem_map_of_mem (mem_of_lastMember hw)
  obtain ⟨⟨key', v⟩, hv, heq⟩ := mem_map.mp ((hkeys (some key)).mp hkey)
  obtain rfl : key = key' := (Option.some.inj heq).symm
  exact ⟨v, hv, hmembers key w v hw hv⟩

end Object

theorem Means.unique {w : Written} {v v' : Value} (h : w.Means v) (h' : w.Means v') : v = v' := by
  -- Objects are compared member by member, for the order of the keys leaves one list only.
  induction h generalizing v' with
  | null => cases h'; rfl
  | bool b => cases h'; rfl
  | whole ht =>
    have hnumber := Numeral.number_whole.mpr ht
    cases h' with
    | whole ht' => cases hnumber.symm.trans (Numeral.number_whole.mpr ht'); rfl
    | real ht' => cases hnumber.symm.trans ht'
  | real ht =>
    cases h' with
    | whole ht' => cases ht.symm.trans (Numeral.number_whole.mpr ht')
    | real ht' => cases ht.symm.trans ht'; rfl
  | string s => cases h'; rfl
  | @array ws vs hlength hitems ih =>
    cases h' with
    | @array _ vs' hlength' hitems' =>
      congr 1
      refine ext_getElem (hlength.symm.trans hlength') fun i hi hi' => ?_
      have hw : i < ws.length := hlength ▸ hi
      exact ih _ _ (getElem_mem_zip hw hi) (hitems' _ _ (getElem_mem_zip hw hi'))
  | @object ms vs hascending hkeys hmembers ih =>
    have h := Means.object hascending hkeys hmembers
    cases h' with
    | @object _ vs' hascending' hkeys' hmembers' =>
      have h' := Means.object hascending' hkeys' hmembers'
      congr 1
      refine members_ext hascending hascending' fun ⟨key, v⟩ => ⟨fun hv => ?_, fun hv' => ?_⟩
      · obtain ⟨w, hw, -⟩ := h.written hv
        obtain ⟨v', hv', hmeans⟩ := h'.member hw
        rwa [ih key w v hw hv hmeans]
      · obtain ⟨w, hw, hmeans⟩ := h'.written hv'
        obtain ⟨v', hv, -⟩ := h.member hw
        rwa [← ih key w v' hw hv hmeans]

theorem Means.depth_le {w : Written} {v : Value} (h : w.Means v) : v.depth ≤ w.depth := by
  induction h with
  | null => exact le_refl _
  | bool b => exact le_refl _
  | whole ht => exact le_refl _
  | real ht => exact le_refl _
  | string s => exact le_refl _
  | @array ws vs hlength hitems ih =>
    rw [Value.depth, Written.depth]
    refine Nat.succ_le_succ (Value.depthItems_le.mpr fun v hv => ?_)
    obtain ⟨i, hi, rfl⟩ := getElem_of_mem hv
    have hw : i < ws.length := hlength ▸ hi
    exact (ih _ _ (getElem_mem_zip hw hi)).trans (depthItems_le.mp (le_refl _) _ (getElem_mem hw))
  | @object ms vs hascending hkeys hmembers ih =>
    rw [Value.depth, Written.depth]
    refine Nat.succ_le_succ (Value.depthMembers_le.mpr fun m hm => ?_)
    obtain ⟨w, hw, -⟩ := (Means.object hascending hkeys hmembers).written hm
    exact (ih m.1 w m.2 hw hm).trans (depthMembers_le.mp (le_refl _) _ (mem_of_lastMember hw))

theorem Means.sorted {w : Written} {v : Value} (h : w.Means v) : v.sorted = v := by
  induction h with
  | null => rfl
  | bool b => rfl
  | whole ht => rfl
  | real ht => rfl
  | string s => rfl
  | @array ws vs hlength hitems ih =>
    rw [Value.sorted, Value.sortedItems_eq]
    congr 1
    refine (map_congr_left fun v hv => ?_).trans (map_id vs)
    obtain ⟨i, hi, rfl⟩ := getElem_of_mem hv
    exact ih _ _ (getElem_mem_zip (hlength ▸ hi) hi)
  | @object ms vs hascending hkeys hmembers ih =>
    have hsame : vs.map (fun m => (m.1, m.2.sorted)) = vs := by
      refine (map_congr_left fun m hm => ?_).trans (map_id vs)
      obtain ⟨w, hw, -⟩ := (Means.object hascending hkeys hmembers).written hm
      rw [ih m.1 w m.2 hw hm, id]
    rw [Value.sorted, Value.sortedMembers_eq, hsame, sortMembers_ascending hascending]

theorem Means.integral {w : Written} {v : Value} (h : w.Means v) (hv : v.Whole) : v.Integral := by
  induction h with
  | null => trivial
  | bool b => trivial
  | @whole t n ht =>
    have hmin := Int64.toInt_minValue
    have hlimit : Numeral.wordLimit = 2 ^ 64 := by decide
    obtain ⟨-, -, ⟨-, heq, hhigh⟩ | ⟨-, heq, hlow, -⟩⟩ := ht
    · exact ⟨by omega, by omega⟩
    · exact ⟨by omega, by omega⟩
  | real ht => exact hv.elim
  | string s => trivial
  | @array ws vs hlength hitems ih =>
    rw [Value.Whole, Value.wholeItems_iff] at hv
    refine Value.integralItems_iff.mpr fun v hmem => ?_
    obtain ⟨i, hi, rfl⟩ := getElem_of_mem hmem
    exact ih _ _ (getElem_mem_zip (hlength ▸ hi) hi) (hv _ hmem)
  | @object ms vs hascending hkeys hmembers ih =>
    rw [Value.Whole, Value.wholeMembers_iff] at hv
    refine Value.integralMembers_iff.mpr fun m hm => ?_
    obtain ⟨w, hw, -⟩ := (Means.object hascending hkeys hmembers).written hm
    exact ih m.1 w m.2 hw hm (hv m hm)

mutual

/-- Every escape and every numeral can be read, also in members that do not count. -/
def Readable : Written → Prop
  | number t => t.number?.isSome
  | string s => s.isSome
  | array ws => ReadableItems ws
  | object ms => ReadableMembers ms
  | _ => True

def ReadableItems : List Written → Prop
  | [] => True
  | w :: ws => Readable w ∧ ReadableItems ws

def ReadableMembers : List (Option String × Written) → Prop
  | [] => True
  | (key, w) :: ms => key.isSome ∧ Readable w ∧ ReadableMembers ms

end

end Written

namespace Value

mutual

theorem means_ofWritten : ∀ (w : Written) {n : Nat} {v : Value},
    ofWritten? n w = some v → w.Means v
  | .null, _, _, h => by cases h; exact .null
  | .bool b, _, _, h => by cases h; exact .bool b
  | .number t, _, _, h => by
    obtain ⟨x | x, hx, rfl⟩ := Option.map_eq_some_iff.mp h
    · exact .whole (Numeral.number_whole.mp hx)
    · exact .real hx
  | .string s, _, _, h => by
    obtain ⟨s, rfl, rfl⟩ := Option.map_eq_some_iff.mp h
    exact .string s
  | .array ws, n, _, h => by
    obtain ⟨vs, -, hvs, rfl⟩ := ofWritten_array h
    obtain ⟨hlength, hitems⟩ := means_ofItems ws hvs
    exact .array hlength hitems
  | .object ms, n, _, h => by
    obtain ⟨vs, -, hvs, rfl⟩ := ofWritten_object h
    have hlast := means_ofMembers ms hvs
    refine .object (sortMembers_pairwise vs) (fun key => ?_) fun key w v hw hv => ?_
    · rw [ofMembers_keys hvs, map_some_keys, map_some_keys, mem_map, mem_map]
      simp only [mem_keys_sortMembers]
    · obtain ⟨v', hv', hmeans⟩ := hlast key w hw
      have hget := getMember_of_mem (sortMembers_pairwise vs) hv
      rw [getMember_sortMembers, hv'] at hget
      cases hget
      exact hmeans

theorem means_ofItems : ∀ (ws : List Written) {n : Nat} {vs : List Value},
    ofItems? n ws = some vs →
      ws.length = vs.length ∧ ∀ w v, (w, v) ∈ ws.zip vs → w.Means v
  | [], _, _, h => by
    cases h
    exact ⟨rfl, fun w v hmem => by cases hmem⟩
  | w :: ws, _, _, h => by
    obtain ⟨v, vs', hv, hvs, rfl⟩ := ofItems_cons h
    obtain ⟨hlength, hitems⟩ := means_ofItems ws hvs
    have hfirst := means_ofWritten w hv
    refine ⟨congrArg (· + 1) hlength, fun w' v' hmem => ?_⟩
    rcases mem_cons.mp hmem with heq | hmem
    · cases heq
      exact hfirst
    · exact hitems w' v' hmem

theorem means_ofMembers : ∀ (ms : List (Option String × Written)) {n : Nat}
    {vs : List (String × Value)}, ofMembers? n ms = some vs →
      ∀ key w, lastMember (some key) ms = some w → ∃ v, lastMember key vs = some v ∧ w.Means v
  | [], _, _, _ => fun key w hw => by cases hw
  | (k, w₀) :: ms, _, _, h => by
    obtain ⟨key₀, v₀, vs', rfl, hv, hvs, rfl⟩ := ofMembers_cons h
    have hrest := means_ofMembers ms hvs
    have hfirst := means_ofWritten w₀ hv
    intro key w hw
    rw [lastMember_cons] at hw
    rw [lastMember_cons]
    cases hlast : lastMember (some key) ms with
    | some w' =>
      obtain ⟨v, hv, hmeans⟩ := hrest key w' hlast
      rw [hlast, Option.some_or] at hw
      cases hw
      exact ⟨v, by rw [hv, Option.some_or], hmeans⟩
    | none =>
      have habsent : lastMember key vs' = none := by
        rw [lastMember_eq_none, ofMembers_keys hvs] at hlast
        exact lastMember_eq_none.mpr fun hkey => hlast (by simpa using hkey)
      rw [hlast, Option.none_or] at hw
      rw [habsent, Option.none_or]
      split_ifs at hw with heq
      cases hw
      exact ⟨v₀, if_pos (Option.some.inj heq), hfirst⟩

end

theorem level_isSome {α β : Type} {n k : Nat} {o : Option α} {p : Prop} (f : α → β)
    (h : o.isSome ↔ p ∧ k ≤ n - 1) :
    (if n = 0 then none else o.map f).isSome ↔ p ∧ k + 1 ≤ n := by
  by_cases hn : n = 0
  · simp [hn]
  · have hlevels : k ≤ n - 1 ↔ k + 1 ≤ n := by omega
    rw [if_neg hn, Option.isSome_map, h, hlevels]

mutual

theorem ofWritten_isSome : ∀ (w : Written) {n : Nat},
    (ofWritten? n w).isSome ↔ w.Readable ∧ w.depth ≤ n
  | .null, n => by simp [ofWritten?, Written.Readable, Written.depth]
  | .bool b, n => by simp [ofWritten?, Written.Readable, Written.depth]
  | .number t, n => by simp [ofWritten?, Written.Readable, Written.depth]
  | .string s, n => by simp [ofWritten?, Written.Readable, Written.depth]
  | .array ws, n => by
    rw [ofWritten?, Written.Readable, Written.depth]
    exact level_isSome _ (ofItems_isSome ws)
  | .object ms, n => by
    rw [ofWritten?, Written.Readable, Written.depth]
    exact level_isSome _ (ofMembers_isSome ms)

theorem ofItems_isSome : ∀ (ws : List Written) {n : Nat},
    (ofItems? n ws).isSome ↔ Written.ReadableItems ws ∧ Written.depthItems ws ≤ n
  | [], n => by simp [ofItems?, Written.ReadableItems, Written.depthItems]
  | w :: ws, n => by
    have hw := ofWritten_isSome w (n := n)
    have hws := ofItems_isSome ws (n := n)
    rw [ofItems?, Written.ReadableItems, Written.depthItems, Nat.max_le]
    cases hv : ofWritten? n w <;> cases hvs : ofItems? n ws <;> simp_all

theorem ofMembers_isSome : ∀ (ms : List (Option String × Written)) {n : Nat},
    (ofMembers? n ms).isSome ↔ Written.ReadableMembers ms ∧ Written.depthMembers ms ≤ n
  | [], n => by simp [ofMembers?, Written.ReadableMembers, Written.depthMembers]
  | (key, w) :: ms, n => by
    have hw := ofWritten_isSome w (n := n)
    have hms := ofMembers_isSome ms (n := n)
    rw [ofMembers?, Written.ReadableMembers, Written.depthMembers, Nat.max_le]
    cases key <;> cases hv : ofWritten? n w <;> cases hvs : ofMembers? n ms <;> simp_all

end

theorem exists_means {w : Written} {n : Nat} (hreadable : w.Readable) (hdepth : w.depth ≤ n) :
    ∃ v, ofWritten? n w = some v ∧ w.Means v := by
  obtain ⟨v, hv⟩ := Option.isSome_iff_exists.mp ((ofWritten_isSome w).mpr ⟨hreadable, hdepth⟩)
  exact ⟨v, hv, means_ofWritten w hv⟩

theorem parse_eq_some {s : String} {v : Value} : parse? s = some v ↔
    ∃ w, Written.parse? s = some w ∧ w.Readable ∧ w.depth ≤ maxDepth ∧ w.Means v := by
  rw [parse?, Option.bind_eq_some_iff]
  refine exists_congr fun w => and_congr_right fun _ => ⟨fun h => ?_, ?_⟩
  · obtain ⟨hreadable, hdepth⟩ := (ofWritten_isSome w).mp (Option.isSome_of_eq_some h)
    exact ⟨hreadable, hdepth, means_ofWritten w h⟩
  · rintro ⟨hreadable, hdepth, hmeans⟩
    obtain ⟨v', hv', hmeans'⟩ := exists_means hreadable hdepth
    rw [hv', hmeans'.unique hmeans]

end Value

theorem Written.Means.json_text {w : Written} {v : Value} (h : w.Means v) (hv : v.Whole)
    (hdepth : w.depth ≤ maxDepth) : Answer.json? v.text = some v := by
  have hintegral := h.integral hv
  have hlevels : v.depth ≤ maxDepth := h.depth_le.trans hdepth
  rw [Answer.json_of_parse (Value.written_of_text hintegral),
    Value.ofWritten_written v maxDepth hintegral, if_pos hlevels, h.sorted]

end ScreenScript.Json
