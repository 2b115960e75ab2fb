import Mathlib.Data.List.TakeWhile
import Provision.Proofs.Conformance
import Provision.Proofs.Dialogue.Terminal
import Provision.Proofs.Number.Nearest

/-!
# Integers typed at a terminal

A line with digits alone, behind a sign or none, spells an integer. If this has 64 bits, it is the
answer. If not, the line is read once more, as a double; and the double next to an integer that is
too large may be one that has 64 bits. This happens at the lower end of the range alone, where the
limit is itself a double: the 1024 integers below the smallest one are taken for the smallest one.

Results:

* `Numeral.Spells`: the integer that a text spells.
* `toInteger?_readNumber`: the integer for which a line that spells one is taken.
* `prompt_typed_integer`: the integers that are answers, and those that are asked for again.
* `prompt_typed_rounded`: an integer that is taken for another one.
-/

namespace Provision

namespace Numeral

/-! ## Spelled integers -/

/-- One digit or more, and nothing else. -/
structure IsDigits (cs : List Char) : Prop where
  ne_nil : cs ≠ []
  isDigit : ∀ c ∈ cs, c.isDigit = true

theorem isDigits_iff {cs : List Char} :
    IsDigits cs ↔ cs.isEmpty = false ∧ cs.all Char.isDigit = true := by
  rw [List.isEmpty_eq_false_iff, List.all_eq_true]
  exact ⟨fun h => ⟨h.ne_nil, h.isDigit⟩, fun h => ⟨h.1, h.2⟩⟩

instance instDecidableIsDigits (cs : List Char) : Decidable (IsDigits cs) :=
  decidable_of_iff _ isDigits_iff.symm

/-- The integer that a text spells: digits, behind a sign or none. -/
inductive Spells : List Char → Int → Prop where
  | unsigned {ds : List Char} : IsDigits ds → Spells ds (ofDigits ds)
  | plus {ds : List Char} : IsDigits ds → Spells ('+' :: ds) (ofDigits ds)
  | minus {ds : List Char} : IsDigits ds → Spells ('-' :: ds) (-(ofDigits ds : Int))

variable {cs : List Char} {z : Int}

/-- The sign and the digits of a spelled integer. -/
theorem Spells.exists_sign (h : Spells cs z) :
    ∃ negative ds, sign cs = (negative, ds) ∧ IsDigits ds ∧ z = signed negative (ofDigits ds) := by
  cases h with
  | unsigned hdigits =>
    obtain ⟨c, rest, rfl⟩ := List.exists_cons_of_ne_nil hdigits.ne_nil
    exact ⟨false, _, sign_of_isDigit (hdigits.isDigit c List.mem_cons_self) rest, hdigits, rfl⟩
  | plus hdigits => exact ⟨false, _, rfl, hdigits, rfl⟩
  | minus hdigits => exact ⟨true, _, rfl, hdigits, rfl⟩

/-- A spelled integer is read as itself, if it has 64 bits. -/
theorem Spells.integer? (h : Spells cs z) : Numeral.integer? cs = int64? z := by
  obtain ⟨negative, ds, hsign, hdigits, rfl⟩ := h.exists_sign
  exact integer?_of_sign hsign hdigits.ne_nil hdigits.isDigit

theorem span_of_isDigits (h : IsDigits cs) : span cs = (cs, []) := by
  rw [span, List.span_eq_takeWhile_dropWhile, List.takeWhile_eq_self_iff.2 h.isDigit,
    List.dropWhile_eq_nil_iff.2 h.isDigit]

theorem int64?_eq_none_iff :
    int64? z = none ↔ z < Int64.minValue.toInt ∨ Int64.maxValue.toInt < z := by
  rw [int64?, ite_eq_right_iff]
  simp only [reduceCtorEq, imp_false, not_and_or, Int.not_le]

end Numeral

open Numeral

variable {cs : List Char} {z : Int}

theorem Decimal.magnitude?_of_isDigits (negative : Bool) (h : IsDigits cs) :
    magnitude? negative cs = some ⟨negative, ofDigits cs, 0⟩ := by
  have hne : cs.isEmpty = false := List.isEmpty_eq_false_iff.2 h.ne_nil
  simp [magnitude?, span_of_isDigits h, hne, exponent?, ofParts]

theorem Decimal.toBinary64_of_exponent_zero (negative : Bool) {n : Nat} (hn : n ≠ 0) :
    toBinary64 ⟨negative, n, 0⟩ = .ofRatio negative n 1 := by
  have hlarge : ¬(400 : Int) < 0 := by decide
  have hsmall : ¬(0 : Int) < -(2000 + n.log2 : Nat) := by omega
  have hscale : n * Nat.pow 10 (0 : Int).toNat = n := Nat.mul_one n
  simp only [toBinary64, if_neg hn, if_neg hlarge, if_neg hsmall, if_pos (Int.le_refl 0), hscale]

/-- A spelled integer other than zero is read as the double next to it. -/
theorem Binary64.read?_of_sign {negative : Bool} {ds : List Char} (hsign : sign cs = (negative, ds))
    (hdigits : IsDigits ds) (hne : ofDigits ds ≠ 0) :
    read? cs = some (ofRatio negative (ofDigits ds) 1) := by
  simp only [read?, hsign, Decimal.magnitude?_of_isDigits negative hdigits,
    Decimal.toBinary64_of_exponent_zero negative hne]

/-! ## Lines -/

/-- The integer for which a line that spells one is taken: itself if it has 64 bits, and the
    smallest one of 64 bits if it is at most 1024 smaller than that. -/
theorem toInteger?_readNumber {line : String} (h : Spells (trim line.toList) z) :
    (readNumber line).toInteger? =
      if Int64.minValue.toInt - 1024 ≤ z ∧ z < Int64.minValue.toInt then some Int64.minValue
      else int64? z := by
  by_cases hrange : Int64.minValue.toInt ≤ z ∧ z ≤ Int64.maxValue.toInt
  · have hline : integer? (trim line.toList) = some (Int64.ofInt z) := by
      rw [h.integer?, int64?, if_pos hrange]
    rw [readNumber_of_integer hline, if_neg (by omega), int64?, if_pos hrange]
    exact Scalar.toInteger?_integer _
  · -- An integer beyond the limits is read as the double next to it.
    obtain ⟨negative, ds, hsign, hdigits, rfl⟩ := h.exists_sign
    have hpow : Nat.pow 2 63 = 9223372036854775808 := rfl
    have hmin : Int64.minValue.toInt = -9223372036854775808 := rfl
    have hmax : Int64.maxValue.toInt = 9223372036854775807 := rfl
    have hlarge : Nat.pow 2 63 ≤ ofDigits ds := by
      unfold signed at hrange
      split_ifs at hrange <;> omega
    have hnone : int64? (signed negative (ofDigits ds)) = none := if_neg hrange
    have hread : readNumber line = .float (Binary64.ofRatio negative (ofDigits ds) 1) := by
      have hne : ofDigits ds ≠ 0 := by omega
      simp only [readNumber, h.integer?, hnone, Binary64.read?_of_sign hsign hdigits hne]
    rw [hread, hnone]
    refine (Binary64.int64?_ofRatio_one negative hlarge).trans (if_congr ?_ rfl rfl)
    unfold signed at hrange ⊢
    cases negative
    · simp only [Bool.false_eq_true, if_false, false_and, false_iff]
      omega
    · simp only [if_true, true_and] at hrange ⊢
      omega

/-! ## Prompts -/

variable {p : Parameter} {default : Option Scalar} {line : String} {rest : List String}

theorem terminal_answer_cons (hline : line ≠ "") :
    (terminal true).answer (p.question .number default) (line :: rest) =
      (.ok (readNumber line), rest) := by
  simp [terminal, Question.readLine, Parameter.question, Question.lineText, hline]

theorem ne_empty_of_spells (h : Spells (trim line.toList) z) : line ≠ "" := by
  rintro rfl
  cases h with
  | unsigned hdigits => exact hdigits.ne_nil rfl

/-- What a prompt for an integer makes of its first line: the integer for which the line is taken,
    or else the question once more. -/
theorem prompt_terminal_cons (htype : p.type = .integer) (hinput : p.inputKind = .text)
    (hline : line ≠ "") :
    prompt (terminal true) p default (line :: rest) =
      match (readNumber line).toInteger? with
      | some n => ⟨.ok (.integer n), rest, [.asked (p.question .number default)]⟩
      | none =>
        (prompt (terminal true) p default rest).after
          [.asked (p.question .number default), .noted (.notInteger p.displayName)] := by
  have hprompt (lines : List String) : prompt (terminal true) p default lines =
      askInteger (terminal true) (p.question .number default) p.displayName
        (lines.length + 1) lines :=
    prompt_of_integer htype hinput default lines
  have hask : ask (terminal true) (p.question .number default) (line :: rest) =
      ⟨.ok (readNumber line), rest, [.asked (p.question .number default)]⟩ := by
    rw [ask, terminal_answer_cons hline]
  rw [hprompt, hprompt, List.length_cons, askInteger, hask]
  simp only [Run.andThen]
  cases (readNumber line).toInteger? with
  | some n => rfl
  | none => rfl

/-- What a prompt for an integer makes of a line that spells one. -/
theorem prompt_of_spells (htype : p.type = .integer) (hinput : p.inputKind = .text)
    (h : Spells (trim line.toList) z) :
    prompt (terminal true) p default (line :: rest) =
      match
        if Int64.minValue.toInt - 1024 ≤ z ∧ z < Int64.minValue.toInt then some Int64.minValue
        else int64? z with
      | some n => ⟨.ok (.integer n), rest, [.asked (p.question .number default)]⟩
      | none =>
        (prompt (terminal true) p default rest).after
          [.asked (p.question .number default), .noted (.notInteger p.displayName)] := by
  rw [prompt_terminal_cons htype hinput (ne_empty_of_spells h), toInteger?_readNumber h]

/-- **Typed integers.** A line that spells an integer of 64 bits, with white space around it or
    none, gives this integer, and nothing is asked again. After any other integer the question is
    asked again, except after the 1024 integers below the smallest one: each of these gives the
    smallest one. -/
theorem prompt_typed_integer (htype : p.type = .integer) (hinput : p.inputKind = .text)
    (h : Spells (trim line.toList) z) :
    let question := p.question .number default
    let run := prompt (terminal true) p default (line :: rest)
    let again := (prompt (terminal true) p default rest).after
      [.asked question, .noted (.notInteger p.displayName)]
    let smallest := Int64.minValue.toInt
    let largest := Int64.maxValue.toInt
    (smallest ≤ z ∧ z ≤ largest →
      ∃ n : Int64, n.toInt = z ∧ run = ⟨.ok (.integer n), rest, [.asked question]⟩) ∧
    (z < smallest ∨ largest < z → (run = again ↔ z < smallest - 1024 ∨ largest < z)) ∧
    (smallest - 1024 ≤ z ∧ z < smallest →
      run = ⟨.ok (.integer Int64.minValue), rest, [.asked question]⟩) := by
  intro question run again smallest largest
  have hlimits : smallest ≤ largest := by decide
  have hrounded (hband : smallest - 1024 ≤ z ∧ z < smallest) :
      run = ⟨.ok (.integer Int64.minValue), rest, [.asked question]⟩ := by
    show prompt _ _ _ _ = _
    rw [prompt_of_spells htype hinput h, if_pos hband]
  refine ⟨fun hrange => ?_, fun hrange => ⟨fun hagain => ?_, fun hfar => ?_⟩, hrounded⟩
  · have hint : int64? z = some (Int64.ofInt z) := if_pos hrange
    refine ⟨Int64.ofInt z, (int64?_eq_some_iff.1 hint).symm, ?_⟩
    show prompt _ _ _ _ = _
    rw [prompt_of_spells htype hinput h, if_neg (by omega), hint]
  · -- The run that takes the line for an integer has no notice.
    by_contra hnear
    have hsame := congrArg Run.events ((hrounded (by omega)).symm.trans hagain)
    cases hsame
  · show prompt _ _ _ _ = _
    rw [prompt_of_spells htype hinput h, if_neg (by omega), int64?_eq_none_iff.2 hrange]

/-- The limits of the integers that are taken as they are, and the first ones beyond the limits
    after which the question is asked again. -/
theorem prompt_typed_integer_limits :
    let p := Parameter.plain .integer "N"
    let question := p.question .number none
    let again := (prompt (terminal true) p none ["5"]).after
      [.asked question, .noted (.notInteger "N")]
    (∃ n : Int64, n.toInt = 9223372036854775807 ∧
      prompt (terminal true) p none [" +9223372036854775807 ", "5"] =
        ⟨.ok (.integer n), ["5"], [.asked question]⟩) ∧
    (∃ n : Int64, n.toInt = -9223372036854775808 ∧
      prompt (terminal true) p none ["-009223372036854775808", "5"] =
        ⟨.ok (.integer n), ["5"], [.asked question]⟩) ∧
    prompt (terminal true) p none ["9223372036854775808", "5"] = again ∧
    prompt (terminal true) p none ["-9223372036854776833", "5"] = again := by
  have hlargest : Spells (trim " +9223372036854775807 ".toList) 9223372036854775807 :=
    @Spells.plus "9223372036854775807".toList (by decide)
  have hsmallest : Spells (trim "-009223372036854775808".toList) (-9223372036854775808) :=
    @Spells.minus "009223372036854775808".toList (by decide)
  have habove : Spells (trim "9223372036854775808".toList) 9223372036854775808 :=
    @Spells.unsigned "9223372036854775808".toList (by decide)
  have hbelow : Spells (trim "-9223372036854776833".toList) (-9223372036854776833) :=
    @Spells.minus "9223372036854776833".toList (by decide)
  exact ⟨(prompt_typed_integer rfl rfl hlargest).1 (by decide),
    (prompt_typed_integer rfl rfl hsmallest).1 (by decide),
    ((prompt_typed_integer rfl rfl habove).2.1 (by decide)).2 (by decide),
    ((prompt_typed_integer rfl rfl hbelow).2.1 (by decide)).2 (by decide)⟩

/-- An integer that is taken for another one: the one below the smallest. -/
theorem prompt_typed_rounded :
    Spells (trim "-9223372036854775809".toList) (-9223372036854775809) ∧
      -9223372036854775809 < Int64.minValue.toInt ∧
      prompt (terminal true) (.plain .integer "N") none ["-9223372036854775809", "5"] =
        ⟨.ok (.integer Int64.minValue), ["5"],
          [.asked ((Parameter.plain .integer "N").question .number none)]⟩ ∧
      prompt (terminal true) (.plain .integer "N") none ["-9223372036854775809", "5"] ≠
        (prompt (terminal true) (.plain .integer "N") none ["5"]).after
          [.asked ((Parameter.plain .integer "N").question .number none),
            .noted (.notInteger "N")] := by
  have hspells : Spells (trim "-9223372036854775809".toList) (-9223372036854775809) :=
    @Spells.minus "9223372036854775809".toList (by decide)
  have hrun : prompt (terminal true) (.plain .integer "N") none ["-9223372036854775809", "5"] =
      ⟨.ok (.integer Int64.minValue), ["5"],
        [.asked ((Parameter.plain .integer "N").question .number none)]⟩ := by
    rw [prompt_of_spells rfl rfl hspells, if_pos (by decide)]
  refine ⟨hspells, by decide, hrun, ?_⟩
  rw [hrun]
  intro hsame
  cases congrArg Run.events hsame

end Provision
