import ScreenScript.Proofs.Config.Values

/-!
What a configuration opens with: the extensions that are switched on, the name of the structure, if
it is there, and the parenthesis. A text that opens so is as good as the entries after it.
-/

namespace ScreenScript.Config.Reader

/-- What switching an extension on does. Two of them are for other structures. -/
def enabled? (x : Extensions) : String → Option Extensions
  | "implicit_some" => some { x with implicitSome := true }
  | "explicit_struct_names" => some { x with explicitNames := true }
  | "unwrap_newtypes" => some x
  | "unwrap_variant_newtypes" => some x
  | _ => none

/-- Names of extensions with commas between them; one may come last. -/
inductive Switches : Extensions → Extensions → List Char → Prop
  | last {x y : Extensions} {n : String} {s g : List Char} (enables : enabled? x n = some y)
      (name : Name n s) (gap : Gap g) : Switches x y (s ++ g)
  | trailing {x y : Extensions} {n : String} {s g₁ g₂ : List Char} (enables : enabled? x n = some y)
      (name : Name n s) (before : Gap g₁) (after : Gap g₂) :
      Switches x y (s ++ (g₁ ++ ',' :: g₂))
  | more {x y z : Extensions} {n : String} {s g₁ g₂ t : List Char} (enables : enabled? x n = some y)
      (name : Name n s) (before : Gap g₁) (after : Gap g₂) (rest : Switches y z t) :
      Switches x z (s ++ (g₁ ++ ',' :: (g₂ ++ t)))

inductive Headers : Extensions → Extensions → List Char → Prop
  | none (x : Extensions) : Headers x x []
  | more {x y z : Extensions} {g₁ g₂ g₃ g₄ g₅ g₆ g₇ t h : List Char} (gap₁ : Gap g₁)
      (gap₂ : Gap g₂) (gap₃ : Gap g₃) (gap₄ : Gap g₄) (gap₅ : Gap g₅) (gap₆ : Gap g₆)
      (switches : Switches x y t) (gap₇ : Gap g₇) (headers : Headers y z h) :
      Headers x z (g₁ ++ '#' :: (g₂ ++ ('!' :: (g₃ ++ ('[' :: (g₄ ++
        (['e', 'n', 'a', 'b', 'l', 'e'] ++ (g₅ ++ ('(' :: (g₆ ++ (t ++
          ')' :: (g₇ ++ (']' :: h)))))))))))))

inductive Opening : Extensions → List Char → Prop
  | anonymous {x : Extensions} {h g : List Char} (headers : Headers {} x h) (gap : Gap g)
      (optional : x.explicitNames = false) : Opening x (h ++ (g ++ ['(']))
  | named {x : Extensions} {h g₁ s g₂ : List Char} (headers : Headers {} x h) (before : Gap g₁)
      (name : Name structName s) (after : Gap g₂) : Opening x (h ++ (g₁ ++ (s ++ (g₂ ++ ['(']))))

theorem expectAll_cons {w : String} {c : Char} {cs : List Char} (hw : w.toList = c :: cs)
    (hspace : isSpace c = false) (hslash : c ≠ '/') {g : List Char} (hg : Gap g)
    (ws : List String) (r : List Char) :
    expectAll (w :: ws) (g ++ (w.toList ++ r)) = expectAll ws r := by
  have hskip : skip (g ++ (w.toList ++ r)) = some (w.toList ++ r) := by
    rw [hw, List.cons_append, skip_append hg, skip_cons hspace hslash]
  rw [expectAll, hskip]
  simp only [Option.bind_eq_bind, Option.bind_some, expect_append]

theorem toList_of_enabled? {n : String} {x y : Extensions} (h : enabled? x n = some y) :
    ∃ c q, n.toList = c :: q ∧ nameRest.contains c = true := by
  have hi : nameRest.contains 'i' = true :=
    (contains_of_opens nameRest_opens (by decide)).trans (by decide)
  have he : nameRest.contains 'e' = true :=
    (contains_of_opens nameRest_opens (by decide)).trans (by decide)
  have hu : nameRest.contains 'u' = true :=
    (contains_of_opens nameRest_opens (by decide)).trans (by decide)
  unfold enabled? at h
  split at h
  · exact ⟨'i', "mplicit_some".toList, by decide +kernel, hi⟩
  · exact ⟨'e', "xplicit_struct_names".toList, by decide +kernel, he⟩
  · exact ⟨'u', "nwrap_newtypes".toList, by decide +kernel, hu⟩
  · exact ⟨'u', "nwrap_variant_newtypes".toList, by decide +kernel, hu⟩
  · cases h

theorem head_of_enabled? {n : String} {x y : Extensions} (h : enabled? x n = some y)
    {s : List Char} (hs : Name n s) : ∃ c q, s = c :: q ∧ nameRest.contains c = true := by
  obtain ⟨d, q, hd, hrest⟩ := toList_of_enabled? h
  cases hs with
  | plain =>
    rw [String.toList_ofList] at hd
    obtain ⟨rfl, rfl⟩ := List.cons.inj hd
    exact ⟨_, _, rfl, hrest⟩
  | raw =>
    refine ⟨_, _, rfl, ?_⟩
    rw [contains_of_opens nameRest_opens (by decide)]
    decide

theorem extensionNames_eq (fuel : Nat) (x : Extensions) (s : List Char) :
    extensionNames (fuel + 1) x s = (name s).bind fun (n, s) => (enabled? x n).bind fun y =>
      (comma s).bind fun (more, s) =>
        if more && s.head?.any nameRest.contains then extensionNames fuel y s else some (y, s) := by
  rw [extensionNames]
  congr 1
  funext ⟨n, s⟩
  dsimp only
  split
  · rfl
  · rfl
  · rfl
  · rfl
  · next h₁ h₂ h₃ h₄ =>
    rw [enabled?]
    · rfl
    · exact h₁
    · exact h₂
    · exact h₃
    · exact h₄

theorem extensionNames_step {n : String} {x y : Extensions} (h : enabled? x n = some y)
    {s r : List Char} (hs : Name n s) (hr : Ends r) (hhash : r.head? ≠ some '#') (fuel : Nat) :
    extensionNames (fuel + 1) x (s ++ r) = (comma r).bind fun (more, s) =>
      if more && s.head?.any nameRest.contains then extensionNames fuel y s else some (y, s) := by
  rw [extensionNames_eq, name_append hs hr hhash, Option.bind_some]
  dsimp only
  rw [h, Option.bind_some]

theorem Switches.head {x y : Extensions} {t : List Char} (h : Switches x y t) :
    ∃ c q, t = c :: q ∧ nameRest.contains c = true := by
  cases h with
  | last henables hs _ =>
    obtain ⟨c, q, rfl, hc⟩ := head_of_enabled? henables hs
    exact ⟨c, _, rfl, hc⟩
  | trailing henables hs _ _ =>
    obtain ⟨c, q, rfl, hc⟩ := head_of_enabled? henables hs
    exact ⟨c, _, rfl, hc⟩
  | more henables hs _ _ _ =>
    obtain ⟨c, q, rfl, hc⟩ := head_of_enabled? henables hs
    exact ⟨c, _, rfl, hc⟩

theorem skip_switches {x y : Extensions} {g t : List Char} (hg : Gap g) (h : Switches x y t)
    (r : List Char) : skip (g ++ (t ++ r)) = some (t ++ r) := by
  cases h with
  | last _ hs _ => rw [List.append_assoc, skip_name hg hs]
  | trailing _ hs _ _ => rw [List.append_assoc, skip_name hg hs]
  | more _ hs _ _ _ => rw [List.append_assoc, skip_name hg hs]

theorem extensionNames_switches {x z : Extensions} {t : List Char} (h : Switches x z t)
    {fuel : Nat} (hfuel : t.length ≤ fuel) (r : List Char) :
    extensionNames fuel x (t ++ ')' :: r) = some (z, ')' :: r) := by
  have hclose : ¬(true && (')' :: r).head?.any nameRest.contains) = true := by
    rw [Bool.true_and,
      head?_any_ends (fun _ => isRawPart_of_rest) (ends_cons.mpr (isRawPart_of_isMark (by decide)))]
    exact Bool.false_ne_true
  induction fuel generalizing x t with
  | zero =>
    obtain ⟨c, q, rfl, -⟩ := h.head
    cases hfuel
  | succ fuel ih =>
    cases h with
    | @last x y n s g henables hs hg =>
      rw [List.append_assoc, extensionNames_step henables hs (ends_mark (by decide) hg r)
        (head?_mark (by decide) hg r), comma_closed hg]
      simp only [Option.bind_some, Bool.false_and, Bool.false_eq_true, if_false]
    | @trailing x y n s g₁ g₂ henables hs h₁ h₂ =>
      rw [List.append_assoc, List.append_assoc, List.cons_append,
        extensionNames_step henables hs (ends_mark (by decide) h₁ _)
        (head?_mark (by decide) h₁ _), comma_append h₁, skip_mark (by decide) h₂]
      rw [Option.map_some, Option.bind_some]
      exact if_neg hclose
    | @more x y z n s g₁ g₂ t henables hs h₁ h₂ hrest =>
      have hskip := skip_switches h₂ hrest (')' :: r)
      rw [List.append_assoc, List.append_assoc, List.cons_append, List.append_assoc,
        extensionNames_step henables hs (ends_mark (by decide) h₁ _)
        (head?_mark (by decide) h₁ _), comma_append h₁, hskip]
      have hmore : (t ++ ')' :: r).head?.any nameRest.contains = true := by
        obtain ⟨d, q, rfl, hd⟩ := hrest.head
        rw [List.cons_append, List.head?_cons, Option.any_some, hd]
      simp only [Option.map_some, Option.bind_some, Bool.true_and, hmore, if_true]
      apply ih hrest
      simp only [List.length_append, List.length_cons] at hfuel
      omega

theorem expectAll_enable {g₂ g₃ g₄ g₅ : List Char} (h₂ : Gap g₂) (h₃ : Gap g₃) (h₄ : Gap g₄)
    (h₅ : Gap g₅) (r : List Char) :
    expectAll ["!", "[", "enable", "("] (g₂ ++ ('!' :: (g₃ ++ ('[' :: (g₄ ++
      (['e', 'n', 'a', 'b', 'l', 'e'] ++ (g₅ ++ ('(' :: r)))))))) = some r := by
  have hmark := expectAll_cons (w := "!") rfl (by decide) (by decide) h₂
  have hopen := expectAll_cons (w := "[") rfl (by decide) (by decide) h₃
  have henable := expectAll_cons (w := "enable") rfl (by decide) (by decide) h₄
  have hnames := expectAll_cons (w := "(") rfl (by decide) (by decide) h₅
  exact (hmark _ _).trans ((hopen _ _).trans ((henable _ _).trans (hnames _ _)))

theorem expectAll_closed {g : List Char} (hg : Gap g) (r : List Char) :
    expectAll [")", "]"] (')' :: (g ++ (']' :: r))) = some r := by
  have hnames := expectAll_cons (w := ")") rfl (by decide) (by decide) Gap.nil
  have hclose := expectAll_cons (w := "]") rfl (by decide) (by decide) hg
  exact (hnames _ _).trans (hclose _ _)

theorem extensions_headers {x z : Extensions} {t : List Char} (h : Headers x z t) {fuel : Nat}
    (hfuel : t.length < fuel) {s s' : List Char} (hs : skip s = some s')
    (hhash : s'.head? ≠ some '#') : extensions fuel x (t ++ s) = some (z, s') := by
  induction fuel generalizing x t with
  | zero => cases hfuel
  | succ fuel ih =>
    cases h with
    | none x =>
      rw [List.nil_append, extensions, hs]
      simp only [Option.bind_eq_bind, Option.bind_some]
      split
      · exact absurd rfl hhash
      · rfl
    | @more x y z g₁ g₂ g₃ g₄ g₅ g₆ g₇ t h h₁ h₂ h₃ h₄ h₅ h₆ hswitches h₇ hrest =>
      simp only [List.append_assoc, List.cons_append, List.nil_append, List.length_append,
        List.length_cons] at hfuel ⊢
      have henable := expectAll_enable h₂ h₃ h₄ h₅ (g₆ ++ (t ++ (')' :: (g₇ ++ (']' :: (h ++ s))))))
      simp only [List.cons_append, List.nil_append] at henable
      rw [extensions, skip_mark (by decide) h₁]
      simp only [Option.bind_eq_bind, Option.bind_some, henable, skip_switches h₆ hswitches]
      rw [extensionNames_switches hswitches (by simp only [List.length_append]; omega),
        Option.bind_some, expectAll_closed h₇, Option.bind_some]
      exact ih hrest (by omega)

theorem Opening.headers {x : Extensions} {o : List Char} (h : Opening x o) (r : List Char) :
    ∃ s, extensions ((o ++ r).length + 1) {} (o ++ r) = some (x, s) ∧ structStart x s = some r := by
  cases h with
  | @anonymous h g hheaders hg hoptional =>
    refine ⟨'(' :: r, ?_, ?_⟩
    · have hskip : skip (g ++ ('(' :: r)) = some ('(' :: r) :=
        skip_mark (by decide) hg r
      simp only [List.append_assoc, List.cons_append, List.nil_append]
      exact extensions_headers hheaders (by simp only [List.length_append]; omega) hskip (by simp)
    · rw [structStart, if_neg (by simp [hoptional])]
  | @named h g₁ s g₂ hheaders h₁ hname h₂ =>
    refine ⟨s ++ (g₂ ++ ('(' :: r)), ?_, ?_⟩
    · simp only [List.append_assoc, List.cons_append, List.nil_append]
      apply extensions_headers hheaders (by simp only [List.length_append]; omega)
        (skip_name h₁ hname _)
      obtain ⟨c, q, rfl, -, -, hhash, -⟩ := hname.head
      simpa using hhash
    · have hread : name (s ++ (g₂ ++ ('(' :: r))) = some (structName, g₂ ++ ('(' :: r)) :=
        name_append hname (ends_mark (by decide) h₂ r) (head?_mark (by decide) h₂ r)
      obtain ⟨c, q, rfl, -, -, -, hparen, -⟩ := hname.head
      rw [List.cons_append] at hread ⊢
      rw [structStart]
      · simp [hread, skip_mark (c := '(') (by decide) h₂]
      · rintro q' heq
        cases heq
        exact hparen rfl

theorem parse?_opening {x : Extensions} {o r : List Char} {text : String} (h : Opening x o)
    (htext : text.toList = o ++ r) :
    Config.parse? text = (fields x (r.length + 1) true {} [] r).bind
      fun (c, s) => (skip s).bind fun s => if s.isEmpty then some c else none := by
  obtain ⟨s, hextensions, hstart⟩ := h.headers r
  rw [Config.parse?, htext]
  simp only [hextensions, hstart, Option.bind_eq_bind, Option.bind_some]
  congr 1
  funext ⟨c, s⟩
  congr 1
  funext s
  cases s <;> rfl

theorem expectAll_some {w : String} {ws : List String} {s r : List Char} (hw : w.toList ≠ [])
    (h : expectAll (w :: ws) s = some r) :
    ∃ g q, Gap g ∧ s = g ++ (w.toList ++ q) ∧ expectAll ws q = some r := by
  obtain ⟨p, hskip, h⟩ := Option.bind_eq_some_iff.mp h
  obtain ⟨q, hexpect, hrest⟩ := Option.bind_eq_some_iff.mp h
  obtain rfl := expect_some hexpect
  obtain ⟨g, hg, rfl⟩ := gap_of_skip_ne hskip (by simp [hw])
  exact ⟨g, q, hg, rfl, hrest⟩

theorem Switches.append_gap {x y : Extensions} {t g : List Char} (h : Switches x y t)
    (hg : Gap g) : Switches x y (t ++ g) := by
  induction h with
  | last henables hs h =>
    rw [List.append_assoc]
    exact .last henables hs (h.append hg)
  | trailing henables hs h₁ h₂ =>
    rw [List.append_assoc, List.append_assoc, List.cons_append]
    exact .trailing henables hs h₁ (h₂.append hg)
  | more henables hs h₁ h₂ _ ih =>
    simp only [List.append_assoc, List.cons_append]
    exact .more henables hs h₁ h₂ ih

theorem extensionNames_some {fuel : Nat} {x z : Extensions} {s r : List Char} (hr : r ≠ [])
    (h : extensionNames fuel x s = some (z, r)) : ∃ t, Switches x z t ∧ s = t ++ r := by
  induction fuel generalizing x s with
  | zero => cases h
  | succ fuel ih =>
    rw [extensionNames_eq] at h
    obtain ⟨⟨n, q⟩, hname, hread⟩ := Option.bind_eq_some_iff.mp h
    obtain ⟨y, henables, hafter⟩ := Option.bind_eq_some_iff.mp hread
    obtain ⟨⟨more, q'⟩, hcomma, hrest⟩ := Option.bind_eq_some_iff.mp hafter
    obtain ⟨t, ht, rfl⟩ := name_some hname
    dsimp only at hrest
    split at hrest
    · next hmore =>
      obtain ⟨t', ht', rfl⟩ := ih hrest
      obtain ⟨c, p, hcp, -⟩ := ht'.head
      rw [hcp, List.cons_append] at hcomma
      rcases comma_some hcomma with ⟨rfl, -⟩ | ⟨rfl, p', hsep, hskip⟩
      · cases hmore
      · obtain ⟨g₁, h₁, rfl⟩ := gap_of_skip hsep
        obtain ⟨g₂, h₂, rfl⟩ := gap_of_skip hskip
        exact ⟨_, .more henables ht h₁ h₂ ht', by simp [hcp]⟩
    · cases hrest
      obtain ⟨c, q', rfl⟩ := List.exists_cons_of_ne_nil hr
      rcases comma_some hcomma with ⟨rfl, hskip⟩ | ⟨rfl, p, hsep, hskip⟩
      · obtain ⟨g, hg, rfl⟩ := gap_of_skip hskip
        exact ⟨t ++ g, .last henables ht hg, by simp⟩
      · obtain ⟨g₁, h₁, rfl⟩ := gap_of_skip hsep
        obtain ⟨g₂, h₂, rfl⟩ := gap_of_skip hskip
        exact ⟨_, .trailing henables ht h₁ h₂, by simp⟩

theorem enable_of_expectAll {s r : List Char}
    (h : expectAll ["!", "[", "enable", "("] s = some r) :
    ∃ g₂ g₃ g₄ g₅, Gap g₂ ∧ Gap g₃ ∧ Gap g₄ ∧ Gap g₅ ∧ s = g₂ ++ ('!' :: (g₃ ++ ('[' :: (g₄ ++
      (['e', 'n', 'a', 'b', 'l', 'e'] ++ (g₅ ++ ('(' :: r))))))) := by
  obtain ⟨g₂, s₂, h₂, rfl, hopen⟩ := expectAll_some (by decide) h
  obtain ⟨g₃, s₃, h₃, rfl, henable⟩ := expectAll_some (by decide) hopen
  obtain ⟨g₄, s₄, h₄, rfl, hnames⟩ := expectAll_some (by decide) henable
  obtain ⟨g₅, s₅, h₅, rfl, hend⟩ := expectAll_some (by decide) hnames
  cases hend
  exact ⟨g₂, g₃, g₄, g₅, h₂, h₃, h₄, h₅, rfl⟩

theorem closed_of_expectAll {s r : List Char} (h : expectAll [")", "]"] s = some r) :
    ∃ g g', Gap g ∧ Gap g' ∧ s = g ++ (')' :: (g' ++ (']' :: r))) := by
  obtain ⟨g, s', hg, rfl, hclose⟩ := expectAll_some (by decide) h
  obtain ⟨g', s'', hg', rfl, hend⟩ := expectAll_some (by decide) hclose
  cases hend
  exact ⟨g, g', hg, hg', rfl⟩

theorem extensions_some {fuel : Nat} {x z : Extensions} {s s' : List Char}
    (h : extensions fuel x s = some (z, s')) :
    ∃ t q, Headers x z t ∧ s = t ++ q ∧ skip q = some s' := by
  induction fuel generalizing x s with
  | zero => cases h
  | succ fuel ih =>
    obtain ⟨p, hskip, hread⟩ := Option.bind_eq_some_iff.mp h
    split at hread
    · next r =>
      obtain ⟨q, henable, hlist⟩ := Option.bind_eq_some_iff.mp hread
      obtain ⟨p', hp, hread'⟩ := Option.bind_eq_some_iff.mp hlist
      obtain ⟨⟨y, u⟩, hnames, hclosing⟩ := Option.bind_eq_some_iff.mp hread'
      obtain ⟨v, hclose, hrest⟩ := Option.bind_eq_some_iff.mp hclosing
      obtain ⟨t, q', ht, rfl, hskip'⟩ := ih hrest
      obtain ⟨g₁, h₁, rfl⟩ := gap_of_skip hskip
      obtain ⟨g₂, g₃, g₄, g₅, h₂, h₃, h₄, h₅, rfl⟩ := enable_of_expectAll henable
      obtain ⟨g, g₇, hg, h₇, rfl⟩ := closed_of_expectAll hclose
      obtain ⟨t', ht', rfl⟩ := extensionNames_some (by simp) hnames
      obtain ⟨g₆, h₆, rfl⟩ := gap_of_skip_ne hp (by simp)
      refine ⟨_, q', .more h₁ h₂ h₃ h₄ h₅ h₆ (ht'.append_gap hg) h₇ ht, ?_, hskip'⟩
      simp
    · cases hread
      exact ⟨[], s, .none _, rfl, hskip⟩

theorem opening_some {fuel : Nat} {x : Extensions} {s s' r : List Char}
    (h : extensions fuel {} s = some (x, s')) (hstart : structStart x s' = some r) :
    ∃ o, Opening x o ∧ s = o ++ r := by
  obtain ⟨t, q, ht, rfl, hskip⟩ := extensions_some h
  unfold structStart at hstart
  split at hstart
  · next r' =>
    rw [Option.ite_none_left_eq_some] at hstart
    obtain ⟨hnames, hstart⟩ := hstart
    cases hstart
    obtain ⟨g, hg, rfl⟩ := gap_of_skip hskip
    exact ⟨_, .anonymous ht hg (by simpa using hnames), by simp⟩
  · obtain ⟨⟨n, q'⟩, hname, hopen⟩ := Option.bind_eq_some_iff.mp hstart
    obtain ⟨t', ht', rfl⟩ := name_some hname
    dsimp only at hopen
    split at hopen
    · cases hopen
    · next hn =>
      obtain ⟨p, hp, hclosed⟩ := Option.bind_eq_some_iff.mp hopen
      split at hclosed
      · cases hclosed
        obtain ⟨g₂, h₂, rfl⟩ := gap_of_skip hp
        obtain ⟨c, t'', rfl, -⟩ := ht'.head
        obtain ⟨g₁, h₁, rfl⟩ := gap_of_skip hskip
        have hname : n = structName := by simpa using hn
        subst hname
        exact ⟨_, .named ht h₁ ht' h₂, by simp⟩
      · cases hclosed

end ScreenScript.Config.Reader
