import ScreenScript.Proofs.Config.Opening

/-!
The entries of a configuration. Each is read to the end of its value, what it sets is carried along,
and an entry that sets no field ends the reading.
-/

namespace ScreenScript.Config

theorem Field.ofName?_name (f : Field) : Field.ofName? f.name = some f := by
  cases f <;> rfl

theorem Field.name_of_ofName? {n : String} {f : Field} (h : Field.ofName? n = some f) :
    f.name = n := by
  simpa using List.find?_some h

namespace Reader

structure Entry where
  name : String
  value : Written

/-- The field an entry sets and what it sets it to, after others were set. -/
def Entry.setting? (x : Extensions) (seen : List Field) (e : Entry) : Option (Field × Option Nat) :=
  (Field.ofName? e.name).bind fun f =>
    if f ∈ seen then none else (e.value.fits x f).map (f, ·)

inductive EntryText : Entry → List Char → Prop
  | mk {n : String} {w : Written} {s g₁ g₂ t : List Char} (name : Name n s) (before : Gap g₁)
      (after : Gap g₂) (value : Spells w t) : EntryText ⟨n, w⟩ (s ++ (g₁ ++ ':' :: (g₂ ++ t)))

inductive Leading : List Entry → List Char → Prop
  | nil : Leading [] []
  | cons {e : Entry} {es : List Entry} {g₁ t g₂ p : List Char} (before : Gap g₁)
      (entry : EntryText e t) (after : Gap g₂) (rest : Leading es p) :
      Leading (e :: es) (g₁ ++ (t ++ (g₂ ++ ',' :: p)))

/-- All the entries. The comma after the last of them may be left out. -/
inductive Body : List Entry → List Char → Prop
  | closed {es : List Entry} {p g : List Char} (entries : Leading es p) (gap : Gap g) :
      Body es (p ++ g)
  | last {es : List Entry} {e : Entry} {p g₁ t g₂ : List Char} (entries : Leading es p)
      (before : Gap g₁) (entry : EntryText e t) (after : Gap g₂) :
      Body (es ++ [e]) (p ++ (g₁ ++ (t ++ g₂)))

def settle (x : Extensions) : Config → List Field → List Entry → Option (Config × List Field)
  | c, seen, [] => some (c, seen)
  | c, seen, e :: es =>
    (e.setting? x seen).bind fun a => settle x (a.1.set c a.2) (a.1 :: seen) es

theorem fields_skip (x : Extensions) (fuel : Nat) (more : Bool) (c : Config) (seen : List Field)
    (s : List Char) : (skip s).bind (fields x fuel more c seen) = fields x fuel more c seen s := by
  cases fuel with
  | zero => cases skip s <;> rfl
  | succ fuel =>
    cases hs : skip s with
    | none => simp [fields, hs]
    | some s' =>
      simp [fields, hs, skip_of_skip hs]

theorem fields_closed (x : Extensions) (fuel : Nat) (more : Bool) (c : Config) (seen : List Field)
    {g : List Char} (hg : Gap g) (r : List Char) :
    fields x (fuel + 1) more c seen (g ++ ')' :: r) = some (c, r) := by
  simp [fields, skip_mark (c := ')') (by decide) hg]

theorem fields_name (x : Extensions) (fuel : Nat) (c : Config) (seen : List Field) {n : String}
    {g₁ s g₂ : List Char} (h₁ : Gap g₁) (hs : Name n s) (h₂ : Gap g₂) (r : List Char) :
    fields x (fuel + 1) true c seen (g₁ ++ (s ++ (g₂ ++ ':' :: r))) =
      (Field.ofName? n).bind fun f => if f ∈ seen then none else
        (skip r).bind fun r => (value x f r).bind fun (v, s) => (comma s).bind fun (more, s) =>
          fields x fuel more (f.set c v) (f :: seen) s := by
  have hread : name (s ++ (g₂ ++ ':' :: r)) = some (n, g₂ ++ ':' :: r) :=
    name_append hs (ends_mark (by decide) h₂ r) (head?_mark (by decide) h₂ r)
  have hcolon : skip (g₂ ++ ':' :: r) = some (':' :: r) :=
    skip_mark (by decide) h₂ r
  obtain ⟨d, q, rfl, -, -, -, -, hparen⟩ := hs.head
  rw [fields, skip_name h₁ hs]
  rw [List.cons_append] at hread ⊢
  simp only [Option.bind_eq_bind, Option.bind_some]
  split
  · next heq =>
    cases heq
    exact absurd rfl hparen
  · simp only [hread, hcolon, Bool.not_true, Bool.false_eq_true, if_false, Option.bind_some,
      Option.bind_none, List.contains_iff_mem]

theorem fields_entry (x : Extensions) (fuel : Nat) (c : Config) (seen : List Field) {e : Entry}
    {g t r : List Char} (hg : Gap g) (he : EntryText e t) (hr : Ends r) :
    fields x (fuel + 1) true c seen (g ++ (t ++ r)) = (e.setting? x seen).bind fun a =>
      (comma r).bind fun (more, s) => fields x fuel more (a.1.set c a.2) (a.1 :: seen) s := by
  obtain ⟨hname, h₁, h₂, hvalue⟩ := he
  rename_i n w s g₁ g₂ t
  rw [List.append_assoc, List.append_assoc, List.cons_append, List.append_assoc,
    fields_name x fuel c seen hg hname h₁, Entry.setting?, Option.bind_assoc]
  congr 1
  funext f
  split
  · rfl
  · rw [skip_spells h₂ hvalue, Option.bind_some, value_append x f hvalue hr]
    cases w.fits x f <;> rfl

theorem fields_entry_comma (x : Extensions) (fuel : Nat) (c : Config) (seen : List Field)
    {e : Entry} {g₁ t g₂ : List Char} (h₁ : Gap g₁) (he : EntryText e t) (h₂ : Gap g₂)
    (s : List Char) : fields x (fuel + 1) true c seen (g₁ ++ (t ++ (g₂ ++ ',' :: s))) =
      (e.setting? x seen).bind fun a => fields x fuel true (a.1.set c a.2) (a.1 :: seen) s := by
  rw [fields_entry x fuel c seen h₁ he (ends_mark (by decide) h₂ s)]
  congr 1
  funext a
  rw [comma_append h₂, Option.bind_map]
  exact fields_skip x fuel true _ _ s

theorem fields_entry_close (x : Extensions) (fuel : Nat) (c : Config) (seen : List Field)
    {e : Entry} {g₁ t g₂ : List Char} (h₁ : Gap g₁) (he : EntryText e t) (h₂ : Gap g₂)
    (r : List Char) : fields x (fuel + 2) true c seen (g₁ ++ (t ++ (g₂ ++ ')' :: r))) =
      (e.setting? x seen).bind fun a => some (a.1.set c a.2, r) := by
  rw [fields_entry x (fuel + 1) c seen h₁ he (ends_mark (by decide) h₂ r)]
  congr 1
  funext a
  rw [comma_closed h₂, Option.bind_some]
  exact fields_closed x fuel false _ _ .nil r

theorem Leading.length_le {es : List Entry} {p : List Char} (h : Leading es p) :
    es.length ≤ p.length := by
  induction h with
  | nil => exact Nat.zero_le _
  | cons _ _ _ _ ih =>
    simp only [List.length_append, List.length_cons]
    omega

theorem fields_leading (x : Extensions) {es : List Entry} {p : List Char} (h : Leading es p)
    (fuel : Nat) (c : Config) (seen : List Field) (s : List Char) :
    fields x (fuel + es.length) true c seen (p ++ s) =
      (settle x c seen es).bind fun a => fields x fuel true a.1 a.2 s := by
  induction h generalizing c seen with
  | nil => rfl
  | @cons e es g₁ t g₂ p h₁ he h₂ _ ih =>
    simp only [List.append_assoc, List.cons_append, List.length_cons, ← Nat.add_assoc]
    rw [fields_entry_comma x (fuel + es.length) c seen h₁ he h₂, settle, Option.bind_assoc]
    congr 1
    funext a
    exact ih _ _

theorem settle_append (x : Extensions) (es : List Entry) (e : Entry) (c : Config)
    (seen : List Field) : settle x c seen (es ++ [e]) = (settle x c seen es).bind fun a =>
      (e.setting? x a.2).bind fun b => some (b.1.set a.1 b.2, b.1 :: a.2) := by
  induction es generalizing c seen with
  | nil => rfl
  | cons e' es ih =>
    rw [List.cons_append, settle, settle, Option.bind_assoc]
    congr 1
    funext a
    exact ih _ _

theorem fields_body (x : Extensions) {es : List Entry} {b : List Char} (h : Body es b) {fuel : Nat}
    (hfuel : b.length < fuel) (c : Config) (seen : List Field) (r : List Char) :
    fields x fuel true c seen (b ++ ')' :: r) = (settle x c seen es).map fun a => (a.1, r) := by
  cases h with
  | @closed es p g hes hg =>
    have hlen := hes.length_le
    rw [List.length_append] at hfuel
    obtain ⟨k, rfl⟩ : ∃ k, fuel = k + 1 + es.length := ⟨fuel - es.length - 1, by omega⟩
    rw [List.append_assoc, fields_leading x hes]
    simp only [fields_closed x k true _ _ hg]
    exact Option.map_eq_bind.symm
  | @last es e p g₁ t g₂ hes h₁ he h₂ =>
    have hlen := hes.length_le
    have hcolon : 0 < t.length := by
      obtain ⟨hname, -, -, -⟩ := he
      simp only [List.length_append, List.length_cons]
      omega
    simp only [List.length_append] at hfuel
    obtain ⟨k, rfl⟩ : ∃ k, fuel = k + 2 + es.length := ⟨fuel - es.length - 2, by omega⟩
    simp only [List.append_assoc]
    rw [fields_leading x hes, settle_append]
    simp only [fields_entry_close x k _ _ h₁ he h₂]
    rw [Option.map_bind]
    congr 1
    funext a
    rw [Function.comp_apply]
    cases e.setting? x a.2 <;> rfl

theorem Leading.gap_append {e : Entry} {es : List Entry} {g p : List Char} (hg : Gap g)
    (h : Leading (e :: es) p) : Leading (e :: es) (g ++ p) := by
  cases h with
  | cons h₁ he h₂ hes =>
    rw [← List.append_assoc]
    exact .cons (hg.append h₁) he h₂ hes

theorem Body.gap_append {es : List Entry} {g b : List Char} (hg : Gap g) (h : Body es b) :
    Body es (g ++ b) := by
  cases h with
  | closed hes hg' =>
    cases es with
    | nil =>
      cases hes
      exact Body.closed (p := []) .nil (hg.append hg')
    | cons e es =>
      rw [← List.append_assoc]
      exact .closed (hes.gap_append hg) hg'
  | @last es e p g₁ t g₂ hes h₁ he h₂ =>
    cases es with
    | nil =>
      cases hes
      simpa using Body.last .nil (hg.append h₁) he h₂
    | cons e' es =>
      rw [← List.append_assoc]
      exact .last (hes.gap_append hg) h₁ he h₂

theorem Body.cons {e : Entry} {es : List Entry} {g₁ t g₂ b : List Char} (h₁ : Gap g₁)
    (he : EntryText e t) (h₂ : Gap g₂) (h : Body es b) :
    Body (e :: es) (g₁ ++ (t ++ (g₂ ++ ',' :: b))) := by
  cases h with
  | @closed es p g hes hg =>
    have hleading : Leading (e :: es) (g₁ ++ (t ++ (g₂ ++ ',' :: p))) := .cons h₁ he h₂ hes
    simpa using Body.closed hleading hg
  | @last es e' p g₁' t' g₂' hes h₁' he' h₂' =>
    have hleading : Leading (e :: es) (g₁ ++ (t ++ (g₂ ++ ',' :: p))) := .cons h₁ he h₂ hes
    simpa using Body.last hleading h₁' he' h₂'

theorem Body.gap {b : List Char} (h : Body [] b) : Gap b := by
  generalize hes : ([] : List Entry) = es at h
  cases h with
  | closed hleading hg =>
    subst hes
    cases hleading
    exact hg
  | last => simp at hes

theorem fields_succ_some {x : Extensions} {fuel : Nat} {more : Bool} {c c' : Config}
    {seen : List Field} {s r : List Char} (h : fields x (fuel + 1) more c seen s = some (c', r)) :
    (∃ g, Gap g ∧ s = g ++ ')' :: r ∧ c' = c) ∨
    more = true ∧ ∃ g e t q a more' q', Gap g ∧ EntryText e t ∧ s = g ++ (t ++ q) ∧
      e.setting? x seen = some a ∧ comma q = some (more', q') ∧
      fields x fuel more' (a.1.set c a.2) (a.1 :: seen) q' = some (c', r) := by
  obtain ⟨p, hskip, hread⟩ := Option.bind_eq_some_iff.mp h
  split at hread
  · cases hread
    obtain ⟨g, hg, rfl⟩ := gap_of_skip hskip
    exact .inl ⟨g, hg, rfl, rfl⟩
  · dsimp only at hread
    obtain ⟨hmore, hread⟩ := Option.ite_none_left_eq_some.mp hread
    obtain ⟨⟨n, s₁⟩, hname, hfield⟩ := Option.bind_eq_some_iff.mp hread
    obtain ⟨f, hf, hset⟩ := Option.bind_eq_some_iff.mp hfield
    obtain ⟨t, ht, rfl⟩ := name_some hname
    obtain ⟨d, q, rfl, -⟩ := ht.head
    obtain ⟨g₁, h₁, rfl⟩ := gap_of_skip hskip
    obtain ⟨hseen, hset⟩ := Option.ite_none_left_eq_some.mp hset
    obtain ⟨p, hcolon, hvalue⟩ := Option.bind_eq_some_iff.mp hset
    split at hvalue
    · obtain ⟨g₂, h₂, rfl⟩ := gap_of_skip hcolon
      obtain ⟨s₃, hskip', hread'⟩ := Option.bind_eq_some_iff.mp hvalue
      obtain ⟨⟨v, s₄⟩, hv, hend⟩ := Option.bind_eq_some_iff.mp hread'
      obtain ⟨⟨more', s₅⟩, hcomma, hrest⟩ := Option.bind_eq_some_iff.mp hend
      obtain ⟨w, u, hw, hfits, rfl⟩ := value_some hv
      obtain ⟨d', q', rfl, -⟩ := hw.head
      obtain ⟨g₃, h₃, rfl⟩ := gap_of_skip hskip'
      have hsetting : (⟨n, w⟩ : Entry).setting? x seen = some (f, v) := by
        have hf' : Field.ofName? n = some f := hf
        rw [Entry.setting?, hf', Option.bind_some, if_neg (by simpa using hseen), hfits,
          Option.map_some]
      refine .inr ⟨by simpa using hmore, g₁, ⟨n, w⟩, _, s₄, (f, v), more', s₅, h₁,
        .mk ht h₂ h₃ hw, ?_, hsetting, hcomma, hrest⟩
      simp
    · cases hvalue

theorem fields_some {x : Extensions} {fuel : Nat} {more : Bool} {c c' : Config}
    {seen : List Field} {s r : List Char} (h : fields x fuel more c seen s = some (c', r)) :
    ∃ es b seen', s = b ++ ')' :: r ∧ Body es b ∧ (more = false → es = []) ∧
      settle x c seen es = some (c', seen') := by
  induction fuel generalizing more c seen s with
  | zero => cases h
  | succ fuel ih =>
    rcases fields_succ_some h with ⟨g, hg, rfl, rfl⟩ |
      ⟨rfl, g, e, t, q, a, more, q', hg, he, rfl, ha, hcomma, hrest⟩
    · exact ⟨[], g, seen, rfl, .closed .nil hg, fun _ => rfl, rfl⟩
    · obtain ⟨es, b, seen', rfl, hb, hlast, hsettle⟩ := ih hrest
      have hsetting : settle x c seen (e :: es) = some (c', seen') := by
        rw [settle, ha, Option.bind_some, hsettle]
      rcases comma_some hcomma with ⟨rfl, hskip⟩ | ⟨rfl, p, hsep, hskip⟩
      · -- no comma, so that this is the last entry
        obtain rfl := hlast rfl
        obtain ⟨g', hg', rfl⟩ := gap_of_skip_ne hskip (by simp)
        refine ⟨[e], _, seen', ?_, .last .nil hg he (hg'.append hb.gap), by simp, hsetting⟩
        simp
      · obtain ⟨g₁, h₁, rfl⟩ := gap_of_skip hsep
        obtain ⟨g₂, h₂, rfl⟩ := gap_of_skip_ne hskip (by simp)
        refine ⟨e :: es, _, seen', ?_, .cons hg he h₁ (hb.gap_append h₂), by simp, hsetting⟩
        simp

end Reader

end ScreenScript.Config
