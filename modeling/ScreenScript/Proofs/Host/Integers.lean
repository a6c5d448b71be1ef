import ScreenScript.Host.World
import ScreenScript.Node.Operation
import ScreenScript.Proofs.Node.Answers
import ScreenScript.Proofs.Number.Numerals

namespace ScreenScript

open Decimal (Denotes Floating)

namespace Decimal

theorem Denotes.trim_eq {s : List Char} {z : Int} (h : Denotes s z) : Text.trim s = s := by
  obtain ⟨sign, ds, rfl, hne, hds, hz⟩ := h
  have hdigit : ∀ c ∈ ds, Text.isBlank c = false :=
    fun c hc => Json.Written.isBlank_of_isDigit (hds c hc)
  have hsign : ∀ c ∈ sign, Text.isBlank c = false := by
    rcases hz with ⟨rfl | rfl, -⟩ | ⟨rfl, -⟩
    · nofun
    · rintro c (_ | ⟨_, ⟨⟩⟩)
      decide
    · rintro c (_ | ⟨_, ⟨⟩⟩)
      decide
  have hclear : ∀ c ∈ sign ++ ds, Text.isBlank c = false := by
    intro c hc
    exact (List.mem_append.mp hc).elim (hsign c) (hdigit c)
  apply Text.trim_of_trimmed
  exact ⟨⟨[], [], by simp, nofun, nofun⟩, fun c hc => hclear c (List.mem_of_mem_head? hc),
    fun c hc => hclear c (List.mem_of_getLast? hc)⟩

end Decimal

theorem World.run_callInteger {σ : Type} (h : Host σ) (w : World σ) (verb : String)
    (args : List String) (default : Int64) :
    (World.run h (Program.callInteger verb args default) w).1 =
      Answer.integer (w.call h World.maxReentry verb args).1 default :=
  rfl

namespace Answer

theorem integer_of_some {raw : String} {n : Int64} (h : integer? raw = some n) (default : Int64) :
    integer (some raw) default = n := by
  rw [integer, Option.bind_some, h, Option.getD_some]

theorem integer_of_none {raw : String} (h : integer? raw = none) (default : Int64) :
    integer (some raw) default = default := by
  rw [integer, Option.bind_some, h, Option.getD_none]

/-- Whatever a host answers to a call for a whole number, digits with a sign at most and with any
blanks around them give the word nearest to the number they denote. The default is given where there
is no answer, and for exactly those answers that are, without the blanks around them, neither such
digits nor of the form of floating-point numbers. -/
theorem integers_clamped_or_default {σ : Type} (h : Host σ) (w : World σ) (verb : String)
    (args : List String) :
    let answer := (w.call h World.maxReentry verb args).1
    let given (default : Int64) := (World.run h (Program.callInteger verb args default) w).1
    (∀ raw before digits after z, answer = some raw → raw.toList = before ++ (digits ++ after) →
      Text.Blanks before → Text.Blanks after → Denotes digits z →
      ∀ default, (given default).toInt = Word.nearest z) ∧
    (answer = none → ∀ default, given default = default) ∧
    ∀ raw s, answer = some raw → Text.Trimmed raw.toList s →
      ((∀ default, given default = default) ↔ (¬ ∃ z, Denotes s z) ∧ ¬ Floating s) := by
  intro answer given
  have hgiven (default : Int64) : given default = integer answer default :=
    World.run_callInteger h w verb args default
  refine ⟨?_, ?_, ?_⟩
  · intro raw before digits after z hraw hsplit hbefore hafter hz default
    have htrim : Text.trim raw.toList = digits := by
      rw [hsplit, Text.trim_padded hbefore hafter, hz.trim_eq]
    obtain ⟨n, hn, hnearest⟩ := integer?_denotes (htrim ▸ hz)
    rw [hgiven, hraw, integer_of_some hn]
    exact hnearest
  · intro hnone default
    rw [hgiven, hnone]
    rfl
  · intro raw s hraw htrimmed
    rw [← not_or, ← Text.trim_of_trimmed htrimmed, ← integer?_isSome, Bool.not_eq_true,
      Option.isSome_eq_false_iff, Option.isNone_iff_eq_none]
    constructor
    · intro hdefault
      cases hn : integer? raw with
      | none => rfl
      | some n =>
        have hzero := hdefault 0
        have hone := hdefault 1
        rw [hgiven, hraw, integer_of_some hn] at hzero hone
        rw [hzero] at hone
        exact absurd hone (by decide)
    · intro hn default
      rw [hgiven, hraw, integer_of_none hn]

/-- One below the least word, between an em space and a line feed, and digits with a unit. -/
theorem overlong_clamped_and_unit_ignored :
    let host (raw : String) : Host Unit := fun _ _ => .answer (some raw)
    let w : World Unit := { state := (), console := { capacity := 0 } }
    let given (raw : String) (default : Int64) :=
      (World.run (host raw) (Program.callInteger "device.width" [] default) w).1
    (given "\u2003-9223372036854775809\n" 7).toInt = -9223372036854775808 ∧
      given "12px" 7 = 7 := by
  intro host w given
  constructor
  · obtain ⟨hclamped, -, -⟩ := integers_clamped_or_default (host "\u2003-9223372036854775809\n") w
      "device.width" []
    have hdenotes : Denotes "-9223372036854775809".toList (-9223372036854775809) :=
      ⟨['-'], "9223372036854775809".toList, by simp, by simp, by simp, .inr ⟨rfl, by decide⟩⟩
    have hbefore : Text.Blanks ['\u2003'] := List.forall_mem_singleton.mpr rfl
    have hafter : Text.Blanks ['\n'] := List.forall_mem_singleton.mpr rfl
    exact hclamped _ _ _ _ _ rfl (by simp) hbefore hafter hdenotes 7
  · obtain ⟨-, -, hdefault⟩ := integers_clamped_or_default (host "12px") w "device.width" []
    have hinteger : ¬ ∃ z, Denotes "12px".toList z := by
      rw [← Decimal.readInt?_isSome]
      decide
    have hfloating : ¬ Floating "12px".toList := by
      rw [← real?_isSome]
      decide
    exact (hdefault "12px" "12px".toList rfl (by decide)).mpr ⟨hinteger, hfloating⟩ 7

end Answer

end ScreenScript
