import ScreenScript.Proofs.Script.Lexing
import ScreenScript.Script.Parser

/-!
What it matters to a source that a period was the last token of the one before. Only its first token
may be read differently, and only if it is the word `debug`.
-/

namespace ScreenScript.Script

namespace Lexer

def opening (limit : Nat) (source : String) : Token :=
  (scan limit true ⟨source.toList, .start⟩).placed.token

theorem settle_of_ne {t : Token} (ht : t ≠ .reserved "debug") (b : Bool) : settle b t = t := by
  unfold settle
  split
  · exact absurd rfl ht
  · rfl

theorem textToken_settled (limit : Nat) (start : Position) (r : TextResult) :
    (textToken limit start r).settled = true ∨
      (textToken limit start r).placed.token = .fault .openString := by
  match r with
  | .error (f, p) => exact .inl rfl
  | .ok (s, .closed, rest) => exact .inl rfl
  | .ok (s, .embedded, rest) => exact .inl rfl
  | .ok (s, .cut, rest) => exact .inr rfl

theorem scan_settled (limit : Nat) (sign : Bool) (r : Rest) :
    (scan limit sign r).settled = true ∨
      (scan limit sign r).placed.token = .fault .openString := by
  unfold scan
  dsimp only
  split
  · exact .inl rfl
  · split <;> exact .inl rfl
  · exact textToken_settled _ _ _
  · exact textToken_settled _ _ _
  · exact textToken_settled _ _ _
  · exact textToken_settled _ _ _
  · exact .inl rfl
  · split <;> exact .inl rfl
  · split
    · exact .inl rfl
    · split
      · exact .inl rfl
      · split <;> exact .inl rfl

/-- How the tokens of a source depend on the period before it, unless it opens with `debug`: not at
all, or only the mark of a first token that ends the script or is a fault. -/
theorem tokens_opening (limit : Nat) (source : String)
    (hd : opening limit source ≠ .reserved "debug") :
    (∃ t ts, ∀ b, tokens limit b source = t :: ts) ∨
    (∃ p, ∀ b, tokens limit b source = [⟨.eof, p, b⟩]) ∨
    ∃ f p, ∀ b, ∃ ts, tokens limit b source = ⟨.fault f, p, b⟩ :: ts := by
  have hs := scan_settled limit true ⟨source.toList, .start⟩
  have hsc : scanned limit false true ⟨source.toList, .start⟩ =
    scan limit true ⟨source.toList, .start⟩ := rfl
  by_cases he : (scanned limit false true ⟨source.toList, .start⟩).placed.token = .eof
  · exact .inr (.inl ⟨_, fun b => run_of_eof he _ _ b⟩)
  · have hrun := run_of_token he (source.toList.length + 1) []
    rw [hsc] at hrun
    unfold opening at hd
    simp only [settle_of_ne hd] at hrun
    cases hs with
    | inl hs =>
      simp only [hs, if_true] at hrun
      exact .inl ⟨_, _, hrun⟩
    -- A token that is cut off does not overwrite the mark.
    | inr hs =>
      cases hset : (scan limit true ⟨source.toList, .start⟩).settled with
      | true =>
        simp only [hset, if_true] at hrun
        exact .inl ⟨_, _, hrun⟩
      | false =>
        simp only [hset, hs] at hrun
        exact .inr (.inr ⟨.openString, _, fun b => ⟨_, hrun b⟩⟩)

end Lexer

namespace Parser

theorem script_of_fault (n m : Nat) (c : Context) (f : LexFault) (p : Position) (b : Bool)
    (ts : List Placed) (last : Placed) :
    ((script (rules (n + 7)) (m + 1)).run c).run { rest := ⟨.fault f, p, b⟩ :: ts, last } =
      .error ⟨.lexical f, p, b⟩ :=
  rfl

theorem parse_opening (limits : Limits) (source : String)
    (hd : Lexer.opening limits.string source ≠ .reserved "debug") :
    (∃ r, ∀ b, parse limits b source = r) ∨
    (∀ b, parse limits b source = .ok (⟨[], []⟩, b)) ∨
    ∃ c p, ∀ b, parse limits b source = .error ⟨c, p, b⟩ := by
  rcases Lexer.tokens_opening limits.string source hd with ⟨t, ts, ht⟩ | ⟨p, hp⟩ | ⟨f, p, hf⟩
  · refine .inl ⟨parse limits false source, fun b => ?_⟩
    unfold parse
    simp only [ht, List.getLast?_cons, Option.getD_some]
  · refine .inr (.inl fun b => ?_)
    unfold parse
    simp only [hp]
    rfl
  · refine .inr (.inr ⟨.lexical f, p, fun b => ?_⟩)
    obtain ⟨ts, hts⟩ := hf b
    unfold parse
    simp only [hts]
    rw [script_of_fault]
    rfl

theorem tokens_debug (limit : Nat) (b : Bool) : Lexer.tokens limit b "debug debug" =
    [⟨if b then .name "debug" else .reserved "debug", ⟨1, 1⟩, false⟩,
      ⟨.reserved "debug", ⟨1, 7⟩, false⟩, ⟨.eof, ⟨1, 12⟩, false⟩] := by
  have hl : "debug debug".toList = ['d', 'e', 'b', 'u', 'g', ' ', 'd', 'e', 'b', 'u', 'g'] := by
    decide
  unfold Lexer.tokens
  simp only [hl]
  cases b <;> rfl

/-- The word `debug` twice fails at the first, but after a period only at the second. -/
theorem parse_debug (limits : Limits) (b : Bool) : parse limits b "debug debug" =
    .error (if b then ⟨.missing ";" "to terminate this statement", ⟨1, 7⟩, false⟩
      else ⟨.reserved "debug", ⟨1, 1⟩, false⟩) := by
  unfold parse
  simp only [tokens_debug]
  cases b <;> rfl

end Parser

end ScreenScript.Script
