import Provision.Dialogue.Terminal
import Provision.Proofs.Dialogue.Acceptance
import Provision.Proofs.Number.Numeral

/-!
# Empty lines at a terminal

An empty line stands for the text of the suggested value, and this text is read again like any
other line. For a text nothing happens to it. For a number it is trimmed and read, first as an
integer; so an empty line accepts every integer of 64 bits.

Results:

* `readNumber_plain`: an integer is read back from its text.
* `Question.readLine_empty`: an empty line stands for the suggested value.
* `terminal_accepts`: a terminal accepts a suggestion for every empty line.
* `terminal_answered`: every question takes one line.
-/

namespace Provision

/-! ## Integers as lines -/

/-- An integer is read back from its text, the smallest one too. -/
theorem readNumber_plain (n : Int64) : readNumber (Scalar.integer n).plain = .integer n := by
  apply readNumber_of_integer
  rw [Scalar.plain, String.toList_ofList,
    trim_of_not_isBlank fun _ => Numeral.isBlank_of_mem_ofInt, Numeral.integer?_ofInt]

/-! ## Empty lines -/

variable {question : Question} {value : Scalar}

/-- An empty line stands for the suggested value, if that answers the question. -/
theorem Question.readLine_empty (hdefault : question.default = some value)
    (hkind : value.kind = question.kind.scalarKind) : question.readLine "" = value := by
  have hline : question.lineText "" = value.plain := by simp [lineText, hdefault]
  unfold readLine
  cases hasked : question.kind with
  | text =>
    rw [hasked] at hkind
    obtain ⟨s, rfl⟩ := Scalar.kind_eq_text_iff.1 hkind
    exact congrArg Scalar.text hline
  | number =>
    rw [hasked] at hkind
    obtain ⟨n, rfl⟩ := Scalar.kind_eq_integer_iff.1 hkind
    simp only [hline, readNumber_plain]

theorem terminal_accepts (count : Nat) (rest : List String) :
    (terminal true).Accepts count (List.replicate count "" ++ rest) := by
  induction count with
  | zero => trivial
  | succ count ih =>
    refine ⟨Nat.succ_ne_zero _, fun question value hdefault hkind => ?_⟩
    have hanswer : (terminal true).answer question (List.replicate (count + 1) "" ++ rest) =
        (.ok (question.readLine ""), List.replicate count "" ++ rest) := rfl
    rw [hanswer, Question.readLine_empty hdefault hkind]
    exact ⟨rfl, ih⟩

theorem terminal_answered (questions : List Question) (lines rest : List String)
    (hlines : lines.length = questions.length) :
    (terminal true).answered questions (lines ++ rest) = rest := by
  induction questions generalizing lines with
  | nil => rw [List.length_eq_zero_iff.1 hlines, List.nil_append]; rfl
  | cons question questions ih =>
    obtain ⟨line, lines, rfl⟩ := List.exists_cons_of_length_eq_add_one hlines
    exact ih lines (by simpa using hlines)

end Provision
