import ScreenScript.Proofs.Config.Entries
import Mathlib.Data.List.Forall2
import Mathlib.Data.List.Nodup

namespace ScreenScript.Config

namespace Field

def get (c : Config) : Field → Option Nat
  | memoryLimit => some c.memoryLimit
  | maxOperations => some c.maxOperations
  | maxCallLevels => c.maxCallLevels
  | settleDelayMs => some c.settleDelayMs
  | defaultWaitTimeoutMs => some c.defaultWaitTimeoutMs
  | sleepSliceMs => some c.sleepSliceMs
  | logCapacity => some c.logCapacity

theorem get_set_self (c : Config) {v : Option Nat} {f : Field}
    (h : f.optional = false → v.isSome = true) : f.get (f.set c v) = v := by
  cases f
  case maxCallLevels => rfl
  all_goals
    obtain ⟨n, rfl⟩ := Option.isSome_iff_exists.mp (h rfl)
    rfl

theorem get_set_of_ne (c : Config) (v : Option Nat) {f g : Field} (h : g ≠ f) :
    g.get (f.set c v) = g.get c := by
  cases f <;> cases g <;> first | rfl | exact absurd rfl h

theorem ext_get {c c' : Config} (h : ∀ f : Field, f.get c = f.get c') : c = c' := by
  have hmemory := h memoryLimit
  have hoperations := h maxOperations
  have hlevels := h maxCallLevels
  have hsettle := h settleDelayMs
  have hwait := h defaultWaitTimeoutMs
  have hsleep := h sleepSliceMs
  have hlog := h logCapacity
  cases c
  cases c'
  simp only [get, Option.some.injEq] at *
  simp [*]

end Field

namespace Reader

def Assigns (x : Extensions) (es : List Entry) (as : List (Field × Option Nat)) : Prop :=
  List.Forall₂ (fun e a => e.name = a.1.name ∧ e.value.fits x a.1 = some a.2) es as

/-- The configuration has these settings, and the defaults elsewhere. -/
structure Overridden (as : List (Field × Option Nat)) (c : Config) : Prop where
  named : ∀ f v, (f, v) ∈ as → f.get c = v
  others : ∀ f, f ∉ as.map Prod.fst → f.get c = f.get {}

def assign (c : Config) (as : List (Field × Option Nat)) : Config :=
  as.foldl (fun c a => a.1.set c a.2) c

theorem isSome_of_fits {x : Extensions} {f : Field} {w : Written} {v : Option Nat}
    (h : w.fits x f = some v) (hf : f.optional = false) : v.isSome = true := by
  rw [fits_required hf, Option.map_eq_some_iff] at h
  obtain ⟨n, -, rfl⟩ := h
  rfl

theorem get_assign_of_notMem {f : Field} {as : List (Field × Option Nat)}
    (h : f ∉ as.map Prod.fst) (c : Config) : f.get (assign c as) = f.get c := by
  induction as generalizing c with
  | nil => rfl
  | cons a as ih =>
    simp only [List.map_cons, List.mem_cons, not_or] at h
    exact (ih h.2 _).trans (Field.get_set_of_ne c a.2 h.1)

theorem get_assign_of_mem {f : Field} {v : Option Nat} {as : List (Field × Option Nat)}
    (hsome : ∀ a ∈ as, a.1.optional = false → a.2.isSome = true)
    (hdistinct : (as.map Prod.fst).Nodup) (h : (f, v) ∈ as) (c : Config) :
    f.get (assign c as) = v := by
  induction as generalizing c with
  | nil => cases h
  | cons a as ih =>
    rw [List.map_cons, List.nodup_cons] at hdistinct
    rcases List.mem_cons.mp h with rfl | h
    · exact (get_assign_of_notMem hdistinct.1 _).trans
        (Field.get_set_self c (hsome _ List.mem_cons_self))
    · exact ih (fun a ha => hsome a (List.mem_cons_of_mem _ ha)) hdistinct.2 h _

theorem Assigns.isSome {x : Extensions} {es : List Entry} {as : List (Field × Option Nat)}
    (h : Assigns x es as) : ∀ a ∈ as, a.1.optional = false → a.2.isSome = true := by
  induction h with
  | nil =>
    intro a ha
    cases ha
  | cons he _ ih =>
    intro a ha
    rcases List.mem_cons.mp ha with rfl | ha
    · exact isSome_of_fits he.2
    · exact ih a ha

theorem Assigns.overridden {x : Extensions} {es : List Entry} {as : List (Field × Option Nat)}
    (h : Assigns x es as) (hdistinct : (as.map Prod.fst).Nodup) : Overridden as (assign {} as) :=
  ⟨fun _ _ ha => get_assign_of_mem h.isSome hdistinct ha _,
    fun _ hf => get_assign_of_notMem hf _⟩

theorem Overridden.unique {as as' : List (Field × Option Nat)} {c c' : Config}
    (h : Overridden as c) (h' : Overridden as' c') (hperm : as.Perm as') : c = c' := by
  apply Field.ext_get
  intro f
  by_cases hf : f ∈ as.map Prod.fst
  · obtain ⟨⟨g, v⟩, ha, rfl⟩ := List.mem_map.mp hf
    rw [h.named _ _ ha, h'.named _ _ (hperm.mem_iff.mp ha)]
  · have hf' : f ∉ as'.map Prod.fst := by
      rwa [← (hperm.map Prod.fst).mem_iff]
    rw [h.others f hf, h'.others f hf']

theorem settle_assigns {x : Extensions} {es : List Entry} {as : List (Field × Option Nat)}
    (h : Assigns x es as) (hdistinct : (as.map Prod.fst).Nodup) (c : Config) (seen : List Field)
    (hseen : ∀ a ∈ as, a.1 ∉ seen) :
    ∃ seen', settle x c seen es = some (assign c as, seen') := by
  induction h generalizing c seen with
  | nil => exact ⟨seen, rfl⟩
  | @cons e a es as he _ ih =>
    rw [List.map_cons, List.nodup_cons] at hdistinct
    have hset : e.setting? x seen = some (a.1, a.2) := by
      rw [Entry.setting?, he.1, Field.ofName?_name, Option.bind_some,
        if_neg (hseen a List.mem_cons_self), he.2, Option.map_some]
    have hseen' : ∀ b ∈ as, b.1 ∉ a.1 :: seen := by
      intro b hb hmem
      rcases List.mem_cons.mp hmem with hb' | hb'
      · exact hdistinct.1 (hb' ▸ List.mem_map_of_mem hb)
      · exact hseen b (List.mem_cons_of_mem _ hb) hb'
    obtain ⟨seen', hsettle⟩ := ih hdistinct.2 (a.1.set c a.2) (a.1 :: seen) hseen'
    exact ⟨seen', by rw [settle, hset, Option.bind_some, hsettle]; rfl⟩

theorem setting?_some {x : Extensions} {seen : List Field} {e : Entry} {a : Field × Option Nat}
    (h : e.setting? x seen = some a) :
    (e.name = a.1.name ∧ e.value.fits x a.1 = some a.2) ∧ a.1 ∉ seen := by
  obtain ⟨f, hf, h⟩ := Option.bind_eq_some_iff.mp h
  rw [Option.ite_none_left_eq_some] at h
  obtain ⟨v, hv, rfl⟩ := Option.map_eq_some_iff.mp h.2
  exact ⟨⟨(Field.name_of_ofName? hf).symm, hv⟩, h.1⟩

theorem assigns_of_settle {x : Extensions} {es : List Entry} {c c' : Config}
    {seen seen' : List Field} (h : settle x c seen es = some (c', seen')) :
    ∃ as, Assigns x es as ∧ (as.map Prod.fst).Nodup ∧ (∀ a ∈ as, a.1 ∉ seen) ∧
      c' = assign c as := by
  induction es generalizing c seen with
  | nil =>
    cases h
    exact ⟨[], .nil, .nil, by simp, rfl⟩
  | cons e es ih =>
    obtain ⟨a, ha, hrest⟩ := Option.bind_eq_some_iff.mp h
    obtain ⟨hset, hseen⟩ := setting?_some ha
    obtain ⟨as, has, hdistinct, hunseen, rfl⟩ := ih hrest
    refine ⟨a :: as, .cons hset has, ?_, ?_, rfl⟩
    · rw [List.map_cons, List.nodup_cons]
      refine ⟨?_, hdistinct⟩
      intro hmem
      obtain ⟨b, hb, heq⟩ := List.mem_map.mp hmem
      exact hunseen b hb (heq ▸ List.mem_cons_self)
    · intro b hb
      rcases List.mem_cons.mp hb with rfl | hb
      · exact hseen
      · exact fun hmem => hunseen b hb (List.mem_cons_of_mem _ hmem)

theorem mem_of_settle {x : Extensions} {es : List Entry} {c c' : Config} {seen seen' : List Field}
    (h : settle x c seen es = some (c', seen')) {f : Field}
    (hf : f ∈ seen ∨ f.name ∈ es.map Entry.name) : f ∈ seen' := by
  induction es generalizing c seen with
  | nil =>
    cases h
    rcases hf with hf | hf
    · exact hf
    · cases hf
  | cons e es ih =>
    rw [settle, Option.bind_eq_some_iff] at h
    obtain ⟨a, ha, h⟩ := h
    apply ih h
    rw [List.map_cons, List.mem_cons] at hf
    rcases hf with hf | hf | hf
    · exact .inl (List.mem_cons_of_mem _ hf)
    · rw [Entry.setting?, ← hf, Field.ofName?_name, Option.bind_some,
        Option.ite_none_left_eq_some, Option.map_eq_some_iff] at ha
      obtain ⟨-, v, -, rfl⟩ := ha
      exact .inl List.mem_cons_self
    · exact .inr hf

theorem setting?_misfit {e : Entry} (h : e.value.Misfit) (x : Extensions) (seen : List Field) :
    e.setting? x seen = none := by
  rw [Entry.setting?, Option.bind_eq_none_iff]
  intro f _
  rw [h.fits, Option.map_none, ite_self]

inductive Document (x : Extensions) (es : List Entry) (text : String) : Prop
  | mk {o b e : List Char} (opening : Opening x o) (body : Body es b) (ending : Ending e)
      (spelled : text.toList = o ++ (b ++ ')' :: e))

/-- A text in which this follows after these entries. -/
inductive Onward (x : Extensions) (es : List Entry) (s : List Char) (text : String) : Prop
  | mk {o p g : List Char} (opening : Opening x o) (entries : Leading es p) (gap : Gap g)
      (spelled : text.toList = o ++ (p ++ (g ++ s)))

theorem parse?_document {x : Extensions} {es : List Entry} {text : String}
    (h : Document x es text) : Config.parse? text = (settle x {} [] es).map (·.1) := by
  obtain ⟨ho, hb, he, htext⟩ := h
  rename_i o b e
  have hlen : b.length < (b ++ ')' :: e).length + 1 := by
    rw [List.length_append]
    omega
  rw [parse?_opening ho htext, fields_body x hb hlen]
  cases settle x {} [] es with
  | none => rfl
  | some a => simp [skip_ending he]

theorem parse?_onward {x : Extensions} {es : List Entry} {s : List Char} {text : String}
    (h : Onward x es s text) (hs : ∀ fuel c seen g, settle x {} [] es = some (c, seen) → Gap g →
      fields x (fuel + 1) true c seen (g ++ s) = none) : Config.parse? text = none := by
  obtain ⟨ho, hes, hg, htext⟩ := h
  rename_i o p g
  have hlen := hes.length_le
  obtain ⟨k, hk⟩ : ∃ k, (p ++ (g ++ s)).length + 1 = k + 1 + es.length :=
    ⟨(p ++ (g ++ s)).length - es.length, by rw [List.length_append]; omega⟩
  have hnone : fields x ((p ++ (g ++ s)).length + 1) true {} [] (p ++ (g ++ s)) = none := by
    rw [hk, fields_leading x hes, Option.bind_eq_none_iff]
    rintro ⟨c, seen⟩ hsettle
    exact hs k c seen g hsettle hg
  rw [parse?_opening ho htext, hnone, Option.bind_none]

theorem parse?_assigns {x : Extensions} {es : List Entry} {as : List (Field × Option Nat)}
    {text : String} (h : Document x es text) (has : Assigns x es as)
    (hdistinct : (as.map Prod.fst).Nodup) : Config.parse? text = some (assign {} as) := by
  obtain ⟨seen, hsettle⟩ := settle_assigns has hdistinct {} [] (by simp)
  rw [parse?_document h, hsettle, Option.map_some]

theorem assigns_of_parse? {c : Config} {text : String} (h : Config.parse? text = some c) :
    ∃ x es as, Document x es text ∧ Assigns x es as ∧ (as.map Prod.fst).Nodup ∧
      c = assign {} as := by
  obtain ⟨⟨x, s⟩, hextensions, h⟩ := Option.bind_eq_some_iff.mp h
  obtain ⟨r, hstart, h⟩ := Option.bind_eq_some_iff.mp h
  obtain ⟨⟨c', e⟩, hfields, h⟩ := Option.bind_eq_some_iff.mp h
  obtain ⟨q, hskip, h⟩ := Option.bind_eq_some_iff.mp h
  obtain ⟨o, ho, htext⟩ := opening_some hextensions hstart
  obtain ⟨es, b, seen, rfl, hb, -, hsettle⟩ := fields_some hfields
  obtain ⟨as, has, hdistinct, -, rfl⟩ := assigns_of_settle hsettle
  split at h
  · cases h
    exact ⟨x, es, as, .mk ho hb (ending_of_skip hskip) htext, has, hdistinct, rfl⟩
  · cases h

theorem parse?_misnamed {x : Extensions} {es : List Entry} {n : String} {s g r : List Char}
    {text : String} (hs : Name n s) (hg : Gap g)
    (hn : (∀ f : Field, f.name ≠ n) ∨ n ∈ es.map Entry.name)
    (h : Onward x es (s ++ (g ++ ':' :: r)) text) : Config.parse? text = none := by
  apply parse?_onward h
  intro fuel c seen g' hsettle hg'
  rw [fields_name x fuel c seen hg' hs hg, Option.bind_eq_none_iff]
  intro f hf
  have hname := Field.name_of_ofName? hf
  have hseen : f ∈ seen := by
    rcases hn with hn | hn
    · exact absurd hname (hn f)
    · exact mem_of_settle hsettle (.inr (hname ▸ hn))
  rw [if_pos hseen]

theorem parse?_misfit {x : Extensions} {es : List Entry} {e : Entry} {t r : List Char}
    {text : String} (he : EntryText e t) (hr : Ends r) (hvalue : e.value.Misfit)
    (h : Onward x es (t ++ r) text) : Config.parse? text = none := by
  apply parse?_onward h
  intro fuel c seen g _ hg
  rw [fields_entry x fuel c seen hg he hr, setting?_misfit hvalue, Option.bind_none]

end Reader

open Reader

/-- The numbers are those of the format that fit a word. A text of distinct fields, each with a value
that fits it, in any spelling, is a configuration with those values and the defaults elsewhere, and
the same one in any order; no other text is one. A text that comes to a name of no field or of one
that was named before, or to a number that is negative, fractional, quoted or too large, is none,
however it goes on. -/
theorem overrides_exactly_the_named :
    (∀ {n : Nat} {s r : List Char}, number s = some (n, r) ↔
      ∃ t, s = t ++ r ∧ Integer n t ∧ n < UInt64.size ∧ Ends r) ∧
    (∀ {x : Extensions} {es : List Entry} {as : List (Field × Option Nat)} {text : String},
      Document x es text → Assigns x es as → (as.map Prod.fst).Nodup →
        ∃ c, parse? text = some c ∧ Overridden as c) ∧
    (∀ {text : String} {c : Config}, parse? text = some c → ∃ x es as,
      Document x es text ∧ Assigns x es as ∧ (as.map Prod.fst).Nodup ∧ Overridden as c) ∧
    (∀ {x x' : Extensions} {es es' : List Entry} {as as' : List (Field × Option Nat)}
      {text text' : String}, Document x es text → Document x' es' text' → Assigns x es as →
        Assigns x' es' as' → (as.map Prod.fst).Nodup → as.Perm as' → parse? text = parse? text') ∧
    (∀ {x : Extensions} {es : List Entry} {n : String} {s g r : List Char} {text : String},
      Name n s → Gap g → ((∀ f : Field, f.name ≠ n) ∨ n ∈ es.map Entry.name) →
        Onward x es (s ++ (g ++ ':' :: r)) text → parse? text = none) ∧
    (∀ {x : Extensions} {es : List Entry} {e : Entry} {t r : List Char} {text : String},
      EntryText e t → Ends r → e.value.Misfit → Onward x es (t ++ r) text →
        parse? text = none) := by
  refine ⟨number_eq_some_iff, ?_, ?_, ?_, parse?_misnamed, parse?_misfit⟩
  · intro x es as text h has hdistinct
    exact ⟨assign {} as, parse?_assigns h has hdistinct, has.overridden hdistinct⟩
  · intro text c h
    obtain ⟨x, es, as, hdoc, has, hdistinct, rfl⟩ := assigns_of_parse? h
    exact ⟨x, es, as, hdoc, has, hdistinct, has.overridden hdistinct⟩
  · intro x x' es es' as as' text text' h h' has has' hdistinct hperm
    have hdistinct' : (as'.map Prod.fst).Nodup := (hperm.map Prod.fst).nodup_iff.mp hdistinct
    have hsame := (has.overridden hdistinct).unique (has'.overridden hdistinct') hperm
    rw [parse?_assigns h has hdistinct, parse?_assigns h' has' hdistinct', hsame]

theorem fieldName (f : Field) : Name f.name f.name.toList := by
  apply name_of_plain
  cases f <;> decide

theorem entryText (f : Field) {w : Written} {t : List Char} (h : Spells w t) :
    EntryText ⟨f.name, w⟩ (f.name.toList ++ ':' :: t) :=
  .mk (fieldName f) .nil .nil h

theorem integer_thirtyOne : Integer 31 ['3', '1'] := by
  have hthree : Digits 10 3 ['3'] := .one rfl
  have hdigits : Digits 10 31 ['3', '1'] := .digit (d := 1) hthree rfl
  exact .bare (.mk .decimal hdigits (.inl rfl))

theorem document_named : Document {}
    [⟨"log_capacity", .integer 31⟩, ⟨"max_call_levels", .wrapped (.integer 8)⟩]
    "EngineConfig(log_capacity:0x1_F, // d\nmax_call_levels:Some(8u64,),)" := by
  have hname : Name structName structName.toList := name_of_plain (by decide)
  have hone : Digits 16 1 ['1'] := .one rfl
  have hhex : Digits 16 31 ['1', '_', 'F'] := .digit (d := 15) (.underscore hone) rfl
  have hcapacity : Integer 31 ['0', 'x', '1', '_', 'F'] :=
    .bare (.mk .hexadecimal hhex (.inl rfl))
  have height : Digits 10 8 ['8'] := .one rfl
  have hlevels : Integer 8 ['8', 'u', '6', '4'] := .bare (.mk .decimal height (.inr rfl))
  have hclosing : Closing [',', ')'] := .comma .nil .nil
  have hcomment : Gap [' ', '/', '/', ' ', 'd', '\n'] :=
    .space (by decide) (.line (t := [' ', 'd']) (by decide) .nil)
  have hbody := Body.closed (.cons .nil (entryText .logCapacity (.integer hcapacity)) .nil
    (.cons hcomment (entryText .maxCallLevels (.wrapped .nil .nil (.integer hlevels) hclosing))
      .nil .nil)) .nil
  exact .mk (.named (.none {}) .nil hname .nil) hbody (.gap .nil) (by decide +kernel)

theorem document_anonymous : Document {}
    [⟨"max_call_levels", .wrapped (.integer 8)⟩, ⟨"log_capacity", .integer 31⟩]
    "(max_call_levels:Some(+0b1000),log_capacity:31)" := by
  have hone : Digits 2 1 ['1'] := .one rfl
  have htwo : Digits 2 2 ['1', '0'] := .digit (d := 0) hone rfl
  have hfour : Digits 2 4 ['1', '0', '0'] := .digit (d := 0) htwo rfl
  have height : Digits 2 8 ['1', '0', '0', '0'] := .digit (d := 0) hfour rfl
  have hlevels : Integer 8 ['+', '0', 'b', '1', '0', '0', '0'] :=
    .plus (.mk .binary height (.inl rfl))
  have hclosing : Closing [')'] := .plain .nil
  have hbody := Body.last (.cons .nil
    (entryText .maxCallLevels (.wrapped .nil .nil (.integer hlevels) hclosing)) .nil .nil)
    .nil (entryText .logCapacity (.integer integer_thirtyOne)) .nil
  exact .mk (.anonymous (.none {}) .nil rfl) hbody (.gap .nil) (by decide +kernel)

theorem onward_capacity {s : List Char} {text : String}
    (h : text.toList = "(log_capacity:31,".toList ++ s) :
    Onward {} [⟨"log_capacity", .integer 31⟩] s text := by
  refine .mk (.anonymous (.none {}) .nil rfl)
    (.cons .nil (entryText .logCapacity (.integer integer_thirtyOne)) .nil .nil) .nil ?_
  have hopen : "(log_capacity:31,".toList =
      '(' :: (Field.logCapacity.name.toList ++ [':', '3', '1', ',']) := by decide +kernel
  simp [h, hopen]

theorem capacity_and_levels_named :
    (∃ c, parse? "EngineConfig(log_capacity:0x1_F, // d\nmax_call_levels:Some(8u64,),)" = some c ∧
      Overridden [(.logCapacity, some 31), (.maxCallLevels, some 8)] c) ∧
    parse? "EngineConfig(log_capacity:0x1_F, // d\nmax_call_levels:Some(8u64,),)" =
      parse? "(max_call_levels:Some(+0b1000),log_capacity:31)" ∧
    parse? "(log_capacity:31,log_capacity:4)" = none ∧
    parse? "(log_capacity:31,sleep_slice_ms:-1)" = none := by
  obtain ⟨-, haccepted, -, hordered, hmisnamed, hmisfit⟩ := overrides_exactly_the_named
  have hnamed : Assigns {}
      [⟨"log_capacity", .integer 31⟩, ⟨"max_call_levels", .wrapped (.integer 8)⟩]
      [(.logCapacity, some 31), (.maxCallLevels, some 8)] :=
    .cons ⟨rfl, by decide⟩ (.cons ⟨rfl, by decide⟩ .nil)
  have hanonymous : Assigns {}
      [⟨"max_call_levels", .wrapped (.integer 8)⟩, ⟨"log_capacity", .integer 31⟩]
      [(.maxCallLevels, some 8), (.logCapacity, some 31)] :=
    .cons ⟨rfl, by decide⟩ (.cons ⟨rfl, by decide⟩ .nil)
  have hnegative : Integer (-1) ['-', '1'] := .minus (.mk .decimal (.one (d := 1) rfl) (.inl rfl))
  refine ⟨haccepted document_named hnamed (by decide), ?_, ?_, ?_⟩
  · exact hordered document_named document_anonymous hnamed hanonymous (by decide) (.swap _ _ _)
  · exact hmisnamed (r := ['4', ')']) (fieldName .logCapacity) .nil (.inr (by decide))
      (onward_capacity (by decide +kernel))
  · exact hmisfit (r := [')']) (entryText .sleepSliceMs (.integer hnegative))
      (ends_mark (by decide) .nil []) (.negative (by decide)) (onward_capacity (by decide +kernel))

end ScreenScript.Config
