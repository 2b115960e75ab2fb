import Provision.Dialogue.Basic

/-!
# Scripted answers

A script is a queue of answers prepared beforehand. Each question takes one of them; an answer
may accept the default of the question, whatever it is.

Results:

* `scripted_patience_ne_zero`: a script bears one question more than it has answers.
-/

namespace Provision

/-- Prepared answers in order. `none` accepts the default of the question. -/
abbrev Script := List (Option Scalar)

/-- Takes the next answer from a script (`ask` of `ScriptedPrompter`). -/
def Script.answer (question : Question) : Script → Except Failure Scalar × Script
  | [] => (.error (.prompt (.noAnswer question.name)), [])
  | some value :: rest => (.ok value, rest)
  | none :: rest =>
    match question.default with
    | some value => (.ok value, rest)
    | none => (.error (.prompt (.noDefault question.name)), rest)

/-- The prompter that answers from a script (`ScriptedPrompter`). Asked once more than there are
    answers it fails, so that its patience does not end before. -/
def scripted : Prompter Script where
  answer := Script.answer
  patience answers := answers.length + 1

theorem scripted_patience_ne_zero (answers : Script) : scripted.patience answers ≠ 0 :=
  Nat.succ_ne_zero _

end Provision
