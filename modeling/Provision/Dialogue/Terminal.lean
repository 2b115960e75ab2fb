import Provision.Dialogue.Basic
import Provision.Text.Blank

/-!
# Answers typed at a terminal

A user answers each question with one line. An empty line accepts the default, if there is one.
A line that is asked for as a number is read as an integer, else as a double, and else left as
the text that it is.

Results:

* `readNumber_of_integer`: an integer of 64 bits is taken as it is.
-/

namespace Provision

/-- Reads the answer to a question that asks for a number (`parse_number`). -/
def readNumber (line : String) : Scalar :=
  let trimmed := trim line.toList
  match Numeral.integer? trimmed with
  | some n => .integer n
  | none =>
    match Binary64.read? trimmed with
    | some x => .float x
    | none => .text line

theorem readNumber_of_integer {line : String} {n : Int64}
    (h : Numeral.integer? (trim line.toList) = some n) : readNumber line = .integer n := by
  simp [readNumber, h]

namespace Question

/-- What a line stands for: the empty one for the text of the default. -/
def lineText (question : Question) (line : String) : String :=
  if line = "" then (question.default.map Scalar.plain).getD "" else line

/-- The value that a typed line gives. -/
def readLine (question : Question) (line : String) : Scalar :=
  match question.kind with
  | .text => .text (question.lineText line)
  | .number => readNumber (question.lineText line)

end Question

/-- The prompter at which lines are typed (`TerminalPrompter`). Nothing can be asked where
    questions cannot be seen, which is what `visible` tells. -/
def terminal (visible : Bool) : Prompter (List String) where
  answer question lines :=
    if visible then
      match lines with
      | [] => (.error (.prompt (.noLine question.name)), [])
      | line :: rest => (.ok (question.readLine line), rest)
    else (.error (.prompt .notATerminal), lines)
  patience lines := lines.length + 1

end Provision
