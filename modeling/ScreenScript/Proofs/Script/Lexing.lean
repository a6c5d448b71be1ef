import ScreenScript.Proofs.Text.Excerpts
import ScreenScript.Script.Lexer

/-!
Where tokens stand: on lines of the source, but for the end, which may come after the last line. And
how long the texts in them may be.
-/

namespace ScreenScript.Script

theorem Position.after_line (p : Position) (c : Char) :
    (p.after c).line = p.line + [c].count '\n' := by
  unfold after
  split
  · simp [*]
  · rename_i hc
    simp [hc]

theorem Position.afterAll_line (p : Position) (s : List Char) :
    (p.afterAll s).line = p.line + s.count '\n' := by
  unfold afterAll
  induction s generalizing p with
  | nil => rfl
  | cons c s ih =>
    have hcs : ([c] ++ s).count '\n' = [c].count '\n' + s.count '\n' := List.count_append
    rw [List.foldl_cons, ih, after_line, Nat.add_assoc, ← hcs]
    rfl

/-- The text of a token that becomes a value of the script. -/
def Token.texts : Token → List String
  | .string s => [s]
  | .piece s => [s]
  | _ => []

namespace Lexer

open Text

/-- The rest is the end of the source, and begins on the line it says. -/
def Fits (s : List Char) (r : Rest) : Prop :=
  ∃ pre, s = pre ++ r.chars ∧ r.pos.line = 1 + pre.count '\n'

/-- What reading may go on with: the end of the source, or nothing after a fault. -/
def Reads (s : List Char) (r : Rest) : Prop :=
  Fits s r ∨ (r.chars = [] ∧ HasLine s r.pos.line)

variable {s : List Char}

namespace Fits

theorem start (s : List Char) : Fits s ⟨s, .start⟩ := ⟨[], rfl, rfl⟩

theorem hasLine {r : Rest} (h : Fits s r) (hr : r.chars ≠ []) : HasLine s r.pos.line := by
  obtain ⟨pre, rfl, hl⟩ := h
  rw [hl]
  exact hasLine_of_append pre hr

theorem cons {c : Char} {cs : List Char} {p : Position} (h : Fits s ⟨c :: cs, p⟩) :
    Fits s ⟨cs, p.after c⟩ := by
  obtain ⟨pre, hs, hl⟩ := h
  dsimp only at hs hl
  refine ⟨pre ++ [c], by simp [hs], ?_⟩
  dsimp only
  rw [Position.after_line, hl, List.count_append]
  omega

theorem skip {r : Rest} (h : Fits s r) (n : Nat) : Fits s (r.skip n) := by
  obtain ⟨pre, hs, hl⟩ := h
  refine ⟨pre ++ r.chars.take n, ?_, ?_⟩
  · rw [List.append_assoc]
    unfold Rest.skip
    rw [List.take_append_drop]
    exact hs
  · unfold Rest.skip
    rw [Position.afterAll_line, hl, List.count_append]
    omega

theorem drop {ds cs : List Char} {p q : Position} (h : Fits s ⟨ds ++ cs, p⟩)
    (hd : ds.count '\n' = 0) (hq : q.line = p.line) : Fits s ⟨cs, q⟩ := by
  obtain ⟨pre, hs, hl⟩ := h
  refine ⟨pre ++ ds, by simp [hs], ?_⟩
  rw [List.count_append, hd]
  exact hq.trans hl

theorem skipBlock {depth : Nat} {p : Position} {cs : List Char} (h : Fits s ⟨cs, p⟩) :
    Fits s (Lexer.skipBlock depth p cs) := by
  fun_induction Lexer.skipBlock depth p cs with
  | case1 => exact h
  | case2 depth p r ih => exact ih h.cons.cons
  | case3 p r q => exact h.cons.cons
  | case4 depth p r q hd ih => exact ih h.cons.cons
  | case5 depth p c r _ _ ih => exact ih h.cons

theorem skipLine {p : Position} {cs : List Char} (h : Fits s ⟨cs, p⟩) :
    Fits s (Lexer.skipLine p cs) := by
  fun_induction Lexer.skipLine p cs with
  | case1 => exact h
  | case2 => exact h
  | case3 p c r hc ih => exact ih h.cons

theorem skipBlanks {fuel : Nat} {r : Rest} (h : Fits s r) : Fits s (Lexer.skipBlanks fuel r) := by
  fun_induction Lexer.skipBlanks fuel r with
  | case1 r => exact h
  | case2 fuel p r ih => exact ih h.cons.cons.skipLine
  | case3 fuel p r ih => exact ih h.cons.cons.skipBlock
  | case4 fuel p c r _ _ hb ih => exact ih h.cons
  | case5 => exact h
  | case6 => exact h

end Fits

theorem Reads.skipBlanks {r : Rest} (h : Reads s r) (fuel : Nat) :
    Reads s (Lexer.skipBlanks (fuel + 1) r) := by
  rcases h with h | ⟨hr, hl⟩
  · exact .inl h.skipBlanks
  · obtain ⟨cs, p⟩ := r
    cases hr
    exact .inr ⟨rfl, hl⟩

theorem after_line_of_ne (p : Position) {c : Char} (hc : c ≠ '\n') :
    (p.after c).line = p.line := by
  unfold Position.after
  rw [if_neg hc]

theorem hexDigit?_ne {c : Char} {d : Nat} (hd : Text.Ranges.hexDigit? c = some d) : c ≠ '\n' := by
  rintro rfl
  cases hd

theorem codePoint_line (seen : List Char) (last : Position) (n v : Nat) (cs : List Char) :
    match codePoint seen last n v cs with
    | .ok (_, rest, last', _) => last'.line = last.line ∧ ∃ ds, cs = ds ++ rest ∧ ds.count '\n' = 0
    | .error (_, p) => p.line = last.line := by
  fun_induction codePoint seen last n v cs with
  | case1 => exact ⟨rfl, [], rfl, rfl⟩
  | case2 => rfl
  | case3 seen last n v c r d hd ih =>
    have hc := hexDigit?_ne hd
    have hl := after_line_of_ne last hc
    cases hr : codePoint (seen ++ [c]) (last.after c) n (16 * v + d) r with
    | error f =>
      rw [hr] at ih
      exact Eq.trans ih hl
    | ok out =>
      rw [hr] at ih
      obtain ⟨hlast, ds, hds, hcount⟩ := ih
      refine ⟨hlast.trans hl, c :: ds, by rw [hds]; rfl, ?_⟩
      rw [List.count_cons_of_ne hc]
      exact hcount
  | case4 => rfl

/-- What reading a text leaves behind: a text that ends does so on a line of the source, and so
does a fault. -/
def TextReads (s : List Char) : TextResult → Prop
  | .ok (_, ending, rest) => Fits s rest ∧ (ending ≠ .cut → HasLine s rest.pos.line)
  | .error (_, p) => HasLine s p.line

theorem text_reads {q : Quotes} (hq : q.close ≠ '\n') {start : Position}
    (hs : HasLine s start.line) (fuel indent : Nat) (acc : List Char) (r : Rest)
    (hr : Fits s r) : TextReads s (text q start fuel indent acc r) := by
  -- A text that is not cut off ends with a quote, on the line of the quote.
  have closing (r : List Char) (p : Position) (h : Fits s ⟨q.close :: r, p⟩) :
      HasLine s (p.after q.close).line := by
    rw [after_line_of_ne p hq]
    exact h.hasLine (List.cons_ne_nil _ _)
  have escape {c : Char} (hc : (decide (c = '\\') && !q.verbatim) = true) (p : Position) :
      (p.after c).line = p.line := by
    simp only [Bool.and_eq_true, decide_eq_true_eq] at hc
    rw [hc.1]
    exact after_line_of_ne p (by decide)
  fun_induction text q start fuel indent acc r with
  | case1 => exact ⟨hr, fun h => absurd rfl h⟩
  | case2 => exact ⟨hr, fun h => absurd rfl h⟩
  | case3 => exact hs
  | case4 => exact ⟨hr.cons, fun _ => hr.cons.hasLine (List.cons_ne_nil _ _)⟩
  | case5 fuel indent acc p r _ ih => exact ih hr.cons
  | case6 fuel indent acc p tail p' _ ih => exact ih hr.cons.cons
  | case7 => exact ⟨hr.cons, fun _ => closing _ _ hr⟩
  | case8 => exact ⟨hr.cons, fun _ => closing _ _ hr⟩
  | case9 fuel indent acc p c r _ p' _ _ ih => exact ih hr.cons
  | case10 => exact ⟨hr.cons, fun h => absurd rfl h⟩
  | case11 => exact hs
  | case12 fuel indent acc p c p' _ hc e r width _ f hf =>
    have hl := codePoint_line ['\\', e] p' width 0 r
    rw [hf] at hl
    obtain ⟨f, q⟩ := f
    have hq : q.line = p.line := Eq.trans hl (escape hc p)
    show HasLine s q.line
    rw [hq]
    exact hr.hasLine (List.cons_ne_nil _ _)
  | case13 fuel indent acc p c p' _ hc e r width hw v rest last seen hok _ _ _ ih =>
    have hl := codePoint_line ['\\', e] p' width 0 r
    rw [hok] at hl
    obtain ⟨hlast, ds, hds, hcount⟩ := hl
    have he : e ≠ '\n' := by
      rintro rfl
      exact hw rfl
    have hfit : Fits s ⟨ds ++ rest, (p.after c).after e⟩ := hds ▸ hr.cons.cons
    have hline : (last.after 'x').line = ((p.after c).after e).line := by
      rw [after_line_of_ne last (by decide), hlast, after_line_of_ne (p.after c) he]
    exact ih (hfit.drop hcount hline)
  | case14 fuel indent acc p c p' _ hc e r width _ v rest last seen hok =>
    have hl := codePoint_line ['\\', e] p' width 0 r
    rw [hok] at hl
    have hlast : last.line = p.line := hl.1.trans (escape hc p)
    show HasLine s last.line
    rw [hlast]
    exact hr.hasLine (List.cons_ne_nil _ _)
  | case15 fuel indent acc p c p' _ _ r _ width _ _ _ ih => exact ih hr.cons.cons
  | case16 => exact hs
  | case17 fuel indent acc p c p' _ _ e r width _ _ d _ _ _ ih => exact ih hr.cons.cons
  | case18 fuel indent acc p c p' _ hc =>
    show HasLine s (p.after c).line
    rw [escape hc p]
    exact hr.hasLine (List.cons_ne_nil _ _)
  | case19 => exact hs
  | case20 fuel indent acc p c r _ p' _ _ _ _ _ ih => exact ih hr.cons
  | case21 fuel indent acc p c r _ p' _ _ _ _ _ ih => exact ih hr.cons

structure Located (s : List Char) (out : Scanned) : Prop where
  pos : HasLine s out.placed.pos.line ∨
    (out.placed.token = .eof ∧ out.placed.pos.line = (lines s).length + 1)
  rest : Reads s out.rest
  brace : out.placed.token = .symbol "\x7d" → Fits s out.rest ∧ HasLine s out.rest.pos.line

theorem Located.plain {t : Token} {p : Position} {r : Rest} {b : Bool} (hp : HasLine s p.line)
    (hr : Reads s r) (ht : t ≠ .symbol "\x7d") : Located s ⟨⟨t, p, false⟩, r, b⟩ :=
  ⟨.inl hp, hr, fun h => absurd h ht⟩

theorem checked_cases (limit : Nat) (cs : List Char) (last : Position) (mk : String → Token) :
    checked limit cs last mk = ⟨.fault (.stringTooLong limit), last, false⟩ ∨
      checked limit cs last mk = ⟨mk (String.ofList cs), last, false⟩ := by
  unfold checked
  dsimp only
  split
  · exact .inl rfl
  · exact .inr rfl

theorem textToken_located (limit : Nat) {start : Position} (hs : HasLine s start.line)
    {r : TextResult} (hr : TextReads s r) : Located s (textToken limit start r) := by
  match r with
  | .error (f, p) => exact .plain hr (.inr ⟨rfl, hr⟩) (nomatch ·)
  | .ok (cs, .cut, rest) => exact .plain hs (.inl hr.1) (nomatch ·)
  | .ok (cs, .closed, rest) =>
    have hl := hr.2 (nomatch ·)
    unfold textToken
    dsimp only
    rcases checked_cases limit cs (before rest.pos) .string with hc | hc
    · rw [hc]
      exact .plain hl (.inl hr.1) (nomatch ·)
    · rw [hc]
      exact .plain hs (.inl hr.1) (nomatch ·)
  | .ok (cs, .embedded, rest) =>
    have hl := hr.2 (nomatch ·)
    unfold textToken
    dsimp only
    rcases checked_cases limit cs (before rest.pos) .piece with hc | hc
    · rw [hc]
      exact .plain hl (.inl hr.1) (nomatch ·)
    · rw [hc]
      exact .plain hs (.inl hr.1) (nomatch ·)

theorem symbolToken_brace {w : String} (h : symbolToken w = .symbol "\x7d") : w = "\x7d" := by
  unfold symbolToken at h
  split at h
  · cases h
  · split at h
    · cases h
    · cases h
      rfl

theorem symbolOf_brace {cs : List Char} (h : (scan.symbolOf cs).1 = .symbol "\x7d") :
    ∃ cs', cs = '\x7d' :: cs' ∧ (scan.symbolOf cs).2 = 1 := by
  unfold scan.symbolOf at *
  split at h
  · rename_i w hw
    have hpre := List.find?_some hw
    have hb := symbolToken_brace h
    subst hb
    obtain ⟨cs', hcs⟩ := List.isPrefixOf_iff_prefix.mp hpre
    refine ⟨cs', ?_, rfl⟩
    rw [← hcs]
    rfl
  · cases h

theorem number_token (negative : Bool) (cs : List Char) (w : String) :
    (number negative cs).1 ≠ .symbol w := by
  have hplain (sign : List Char) : (number.plain negative cs sign).1 ≠ .symbol w := by
    unfold number.plain
    dsimp only
    split
    · nofun
    · split <;> nofun
  unfold number
  dsimp only
  split
  · split
    · dsimp only
      split <;> nofun
    · exact hplain _
  · exact hplain _

theorem wordToken_brace (cs : List Char) : wordToken cs ≠ .symbol "\x7d" := by
  unfold wordToken
  dsimp only
  split
  · rename_i hk
    intro h
    simp only [Token.symbol.injEq] at h
    rw [h] at hk
    revert hk
    decide
  · split
    · split <;> nofun
    · split
      · nofun
      · split
        · simp
        · nofun

theorem Located.one {t : Token} {r : Rest} (hr : Fits s r) (hc : r.chars ≠ []) (n : Nat)
    (ht : t = .symbol "\x7d" → ∃ cs, r.chars = '\x7d' :: cs ∧ n = 1) :
    Located s ⟨⟨t, r.pos, false⟩, r.skip n, true⟩ := by
  refine ⟨.inl (hr.hasLine hc), .inl (hr.skip n), fun h => ?_⟩
  obtain ⟨cs, hcs, rfl⟩ := ht h
  refine ⟨hr.skip 1, ?_⟩
  dsimp only
  unfold Rest.skip
  rw [Position.afterAll_line, hcs]
  exact hr.hasLine hc

theorem scan_located (limit : Nat) (sign : Bool) {r : Rest} (h : Reads s r) :
    Located s (scan limit sign r) := by
  have hr := h.skipBlanks r.chars.length
  unfold scan
  dsimp only
  generalize skipBlanks (r.chars.length + 1) r = r at hr
  obtain ⟨cs, p⟩ := r
  dsimp only
  have hfits (hc : cs ≠ []) : Fits s ⟨cs, p⟩ := hr.resolve_right fun h => hc h.1
  have hline (hc : cs ≠ []) : HasLine s p.line := (hfits hc).hasLine hc
  have hquoted (q : Quotes) (hq : q.close ≠ '\n') (n fuel : Nat) (hc : cs ≠ []) :
      TextReads s (text q p fuel 0 [] (Rest.skip ⟨cs, p⟩ n)) :=
    text_reads hq (hline hc) _ _ _ _ ((hfits hc).skip n)
  have hone (t : Token) (n : Nat) (hc : cs ≠ []) (ht : t ≠ .symbol "\x7d") :
      Located s ⟨⟨t, p, false⟩, Rest.skip ⟨cs, p⟩ n, true⟩ :=
    .one (hfits hc) hc n fun h => absurd h ht
  have hsymbol (hc : cs ≠ []) : Located s
      ⟨⟨(scan.symbolOf cs).1, p, false⟩, Rest.skip ⟨cs, p⟩ (scan.symbolOf cs).2, true⟩ :=
    .one (hfits hc) hc _ symbolOf_brace
  split
  · refine ⟨?_, hr, nofun⟩
    -- Only the end of the source itself may lie past the last line.
    rcases hr with ⟨pre, hs, hl⟩ | ⟨_, hl⟩
    · dsimp only at hs hl ⊢
      rw [List.append_nil] at hs
      subst hs
      rw [hl]
      exact (hasLine_end s).imp id fun h => ⟨rfl, h⟩
    · exact .inl hl
  · split
    · exact hone _ _ (List.cons_ne_nil _ _) (number_token _ _ _)
    · exact hsymbol (List.cons_ne_nil _ _)
  · exact textToken_located limit (hline nofun) (hquoted doubleQuotes (by decide) 1 _ nofun)
  · exact textToken_located limit (hline nofun) (hquoted backQuotes (by decide) 3 _ nofun)
  · exact textToken_located limit (hline nofun) (hquoted backQuotes (by decide) 2 _ nofun)
  · exact textToken_located limit (hline nofun) (hquoted backQuotes (by decide) 1 _ nofun)
  · exact hone _ _ nofun nofun
  · have hq := hquoted singleQuotes (by decide) 1
    split
    · rename_i hr'
      exact .plain (hline nofun) (.inl (hr' ▸ hq _ nofun).1) nofun
    · rename_i hr'
      exact .plain (hline nofun) (.inl (hr' ▸ hq _ nofun).1) nofun
    · rename_i hr'
      have hl := hr' ▸ hq _ nofun
      exact .plain hl (.inr ⟨rfl, hl⟩) nofun
  · split
    · exact hone _ _ nofun (number_token _ _ _)
    · split
      · exact hone _ _ nofun (wordToken_brace _)
      · split
        · exact hone _ _ nofun (by simp)
        · exact hsymbol nofun

theorem continueText_located (limit : Nat) {r : Rest} (h : Fits s r)
    (hl : HasLine s r.pos.line) : Located s (continueText limit r) :=
  textToken_located limit hl (text_reads (by decide) hl _ _ _ _ h)

def scanned (limit : Nat) (inText sign : Bool) (r : Rest) : Scanned :=
  if inText then continueText limit r else scan limit sign r

theorem run_of_eof {limit : Nat} {inText sign : Bool} {r : Rest}
    (he : (scanned limit inText sign r).placed.token = .eof) (fuel : Nat) (ds : Depths) (b : Bool) :
    run limit (fuel + 1) ds inText sign b r =
      [⟨.eof, (scanned limit inText sign r).placed.pos, b⟩] := by
  unfold scanned at *
  simp only [run, he]

theorem run_of_token {limit : Nat} {inText sign : Bool} {r : Rest}
    (he : (scanned limit inText sign r).placed.token ≠ .eof) (fuel : Nat) (ds : Depths) (b : Bool) :
    run limit (fuel + 1) ds inText sign b r =
      let s := scanned limit inText sign r
      let t := settle b s.placed.token
      let b := if s.settled then decide (t = .symbol ".") else b
      ⟨t, s.placed.pos, b⟩ ::
        run limit fuel (follow ds t).1 (follow ds t).2 t.allowsSign b s.rest := by
  unfold scanned at *
  rw [run]
  generalize (if inText = true then continueText limit r else scan limit sign r) = s at he
  obtain ⟨placed, rest, settled⟩ := s
  dsimp only at he ⊢
  split
  · exact absurd ‹_› he
  · cases settled <;> simp

theorem follow_brace {ds : Depths} {t : Token} (h : (follow ds t).2 = true) :
    t = .symbol "\x7d" := by
  unfold follow at h
  split at h
  · cases h
  · split at h
    · cases h
    · split at h
      · cases h
      · split at h
        · rename_i hs
          rw [hs]
        · cases h
  · cases h

theorem settle_brace {b : Bool} {t : Token} (h : settle b t = .symbol "\x7d") :
    t = .symbol "\x7d" := by
  unfold settle at h
  split at h
  · split at h <;> cases h
  · exact h

theorem run_located (limit fuel : Nat) (ds : Depths) (inText sign b : Bool) (r : Rest)
    (hr : Reads s r) (hl : inText = true → Fits s r ∧ HasLine s r.pos.line) :
    ∀ t ∈ run limit fuel ds inText sign b r, HasLine s t.pos.line ∨
      (t.token = .eof ∧ t.pos.line = (lines s).length + 1) := by
  induction fuel generalizing ds inText sign b r with
  | zero =>
    intro t ht
    cases ht
  | succ fuel ih =>
    have hout : Located s (scanned limit inText sign r) := by
      cases inText with
      | true => exact continueText_located limit (hl rfl).1 (hl rfl).2
      | false => exact scan_located limit sign hr
    by_cases he : (scanned limit inText sign r).placed.token = .eof
    · rw [run_of_eof he]
      intro t ht
      rw [List.mem_singleton] at ht
      subst ht
      exact hout.pos.imp id fun h => ⟨rfl, h.2⟩
    · rw [run_of_token he]
      intro t ht
      rw [List.mem_cons] at ht
      rcases ht with rfl | ht
      · exact hout.pos.imp id fun h => absurd h.1 he
      · -- A text is taken up again after a closing brace only.
        exact ih _ _ _ _ _ hout.rest (fun h => hout.brace (settle_brace (follow_brace h))) t ht

theorem tokens_ne_nil (limit : Nat) (b : Bool) (source : String) :
    tokens limit b source ≠ [] := by
  unfold tokens
  by_cases he : (scanned limit false true ⟨source.toList, .start⟩).placed.token = .eof
  · rw [run_of_eof he]
    exact List.cons_ne_nil _ _
  · rw [run_of_token he]
    exact List.cons_ne_nil _ _

/-- Every token stands on a line of the source, but that the end may come right after the last. -/
theorem tokens_located (limit : Nat) (b : Bool) (source : String) :
    ∀ t ∈ tokens limit b source, HasLine source.toList t.pos.line ∨
      (t.token = .eof ∧ t.pos.line = (lines source.toList).length + 1) :=
  run_located limit _ [] false true b _ (.inl (.start _)) nofun

def Short (limit : Nat) (t : Token) : Prop :=
  limit ≠ 0 → ∀ s ∈ t.texts, s.utf8ByteSize ≤ limit

theorem Short.plain {limit : Nat} {t : Token} (ht : t.texts = []) : Short limit t := by
  intro _ s hs
  rw [ht] at hs
  cases hs

theorem checked_short {limit : Nat} {mk : String → Token} (hmk : ∀ s, (mk s).texts = [s])
    (cs : List Char) (last : Position) : Short limit (checked limit cs last mk).token := by
  unfold checked
  dsimp only
  split
  · exact .plain rfl
  · rename_i hfits
    intro hlimit s hs
    rw [hmk, List.mem_singleton] at hs
    subst hs
    exact Nat.le_of_not_lt fun hlong => hfits ⟨hlimit, hlong⟩

theorem textToken_short (limit : Nat) (start : Position) (r : TextResult) :
    Short limit (textToken limit start r).placed.token := by
  match r with
  | .error (f, p) => exact .plain rfl
  | .ok (cs, .cut, rest) => exact .plain rfl
  | .ok (cs, .closed, rest) =>
    have hshort : Short limit (checked limit cs (before rest.pos) .string).token :=
      checked_short (fun _ => rfl) _ _
    unfold textToken
    dsimp only
    generalize checked limit cs (before rest.pos) .string = p at hshort ⊢
    split <;> exact hshort
  | .ok (cs, .embedded, rest) =>
    have hshort : Short limit (checked limit cs (before rest.pos) .piece).token :=
      checked_short (fun _ => rfl) _ _
    unfold textToken
    dsimp only
    generalize checked limit cs (before rest.pos) .piece = p at hshort ⊢
    split <;> exact hshort

theorem number_texts (negative : Bool) (cs : List Char) : (number negative cs).1.texts = [] := by
  have hplain (sign : List Char) : (number.plain negative cs sign).1.texts = [] := by
    unfold number.plain
    dsimp only
    split
    · rfl
    · split <;> rfl
  unfold number
  dsimp only
  split
  · split
    · dsimp only
      split <;> rfl
    · exact hplain _
  · exact hplain _

theorem symbolOf_texts (cs : List Char) : (scan.symbolOf cs).1.texts = [] := by
  unfold scan.symbolOf
  split
  · unfold symbolToken
    split
    · rfl
    · split <;> rfl
  · rfl

theorem wordToken_texts (cs : List Char) : (wordToken cs).texts = [] := by
  unfold wordToken
  dsimp only
  split
  · rfl
  · split
    · split <;> rfl
    · split
      · rfl
      · split <;> rfl

theorem scan_short (limit : Nat) (sign : Bool) (r : Rest) :
    Short limit (scan limit sign r).placed.token := by
  unfold scan
  dsimp only
  split
  · exact .plain rfl
  · split
    · exact .plain (number_texts _ _)
    · exact .plain (symbolOf_texts _)
  · exact textToken_short _ _ _
  · exact textToken_short _ _ _
  · exact textToken_short _ _ _
  · exact textToken_short _ _ _
  · exact .plain rfl
  · split <;> exact .plain rfl
  · split
    · exact .plain (number_texts _ _)
    · split
      · exact .plain (wordToken_texts _)
      · split
        · exact .plain rfl
        · exact .plain (symbolOf_texts _)

theorem settle_texts (b : Bool) (t : Token) : (settle b t).texts = t.texts := by
  unfold settle
  split
  · split <;> rfl
  · rfl

theorem run_short (limit fuel : Nat) (ds : Depths) (inText sign b : Bool) (r : Rest) :
    ∀ t ∈ run limit fuel ds inText sign b r, Short limit t.token := by
  induction fuel generalizing ds inText sign b r with
  | zero =>
    intro t ht
    cases ht
  | succ fuel ih =>
    have hout : Short limit (scanned limit inText sign r).placed.token := by
      unfold scanned
      split
      · exact textToken_short _ _ _
      · exact scan_short _ _ _
    intro t ht
    by_cases he : (scanned limit inText sign r).placed.token = .eof
    · rw [run_of_eof he, List.mem_singleton] at ht
      subst ht
      exact .plain rfl
    · rw [run_of_token he, List.mem_cons] at ht
      rcases ht with rfl | ht
      · unfold Short
        rw [settle_texts]
        exact hout
      · exact ih _ _ _ _ _ t ht

theorem tokens_short (limit : Nat) (b : Bool) (source : String) :
    ∀ t ∈ tokens limit b source, Short limit t.token :=
  run_short _ _ _ _ _ _ _

end Lexer

end ScreenScript.Script
