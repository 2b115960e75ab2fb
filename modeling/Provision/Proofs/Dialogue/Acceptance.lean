import Provision.Dialogue.Script
import Provision.Proofs.Dialogue.Run

/-!
# Accepted suggestions

A prompter accepts suggestions if it answers a question with the default of that question. How
often it does so is counted, because a script comes to its end.

Results:

* `Prompter.Accepts`: the next answers of a prompter are the suggested ones.
* `prompt_of_accepts`: a prompt whose suggestion is accepted asks once and gives the suggestion.
* `scripted_accepts`: a script of accepting answers accepts as often as it is long.
-/

namespace Provision

/-- The kind of the values that answer a question. -/
def AnswerKind.scalarKind : AnswerKind → ScalarKind
  | .text => .text
  | .number => .integer

theorem ParameterType.scalarKind_answerKind (type : ParameterType) :
    type.answerKind.scalarKind = type.kind := by
  cases type <;> rfl

variable {σ : Type}

/-- The next `count` answers of the prompter are the suggestions of the questions, whatever
    these are. A suggestion that does not answer its question need not be accepted. -/
def Prompter.Accepts (prompter : Prompter σ) : Nat → σ → Prop
  | 0, _ => True
  | count + 1, state =>
    prompter.patience state ≠ 0 ∧
      ∀ question value, question.default = some value →
        value.kind = question.kind.scalarKind →
          (prompter.answer question state).1 = .ok value ∧
            prompter.Accepts count (prompter.answer question state).2

theorem scripted_accepts (count : Nat) (rest : Script) :
    scripted.Accepts count (List.replicate count none ++ rest) := by
  induction count with
  | zero => trivial
  | succ count ih =>
    refine ⟨scripted_patience_ne_zero _, ?_⟩
    intro question value hdefault _
    rw [List.replicate_succ, List.cons_append]
    simp only [scripted, Script.answer, hdefault]
    exact ⟨trivial, ih⟩

variable {prompter : Prompter σ} {count : Nat} {state : σ} {value : Scalar}

/-- A question that is asked for an integer gets the suggested one at once. -/
theorem askInteger_of_answer {question : Question} {displayName : String} {n : Int64}
    {patience : Nat} (hpatience : patience ≠ 0)
    (hanswer : (prompter.answer question state).1 = .ok (.integer n)) :
    askInteger prompter question displayName patience state =
      ⟨.ok (.integer n), (prompter.answer question state).2, [.asked question]⟩ := by
  obtain ⟨patience, rfl⟩ := Nat.exists_eq_succ_of_ne_zero hpatience
  have hask : (ask prompter question state).outcome = .ok (.integer n) := hanswer
  rw [askInteger, Run.andThen_of_ok hask]
  rfl

/-- A prompt whose suggestion is accepted asks once and gives the suggestion. -/
theorem prompt_of_accepts {p : Parameter} (haccepts : prompter.Accepts (count + 1) state)
    (hinput : p.inputKind = .text) (hkind : value.kind = p.type.kind) :
    prompt prompter p (some value) state =
        ⟨.ok value, (prompter.answer (p.question p.type.answerKind (some value)) state).2,
          [.asked (p.question p.type.answerKind (some value))]⟩ ∧
      prompter.Accepts count
        (prompter.answer (p.question p.type.answerKind (some value)) state).2 := by
  obtain ⟨hpatience, haccepts⟩ := haccepts
  have hfits : value.kind = (p.question p.type.answerKind (some value)).kind.scalarKind :=
    hkind.trans p.type.scalarKind_answerKind.symm
  obtain ⟨hanswer, hrest⟩ := haccepts _ value rfl hfits
  refine ⟨?_, hrest⟩
  cases hp : p.type with
  | text =>
    rw [hp] at hanswer
    simp only [prompt_of_text hp hinput, ParameterType.answerKind, ask] at hanswer ⊢
    rw [hanswer]
  | integer =>
    rw [hp] at hkind hanswer
    obtain ⟨n, rfl⟩ := Scalar.kind_eq_integer_iff.1 hkind
    rw [prompt_of_integer hp hinput]
    exact askInteger_of_answer hpatience hanswer

/-- A prompt that succeeds has put the question of its parameter. -/
theorem mem_questions_of_prompt_ok {p : Parameter} {default : Option Scalar}
    (h : (prompt prompter p default state).outcome = .ok value) :
    p.question p.type.answerKind default ∈ (prompt prompter p default state).questions := by
  cases hinput : p.inputKind with
  | select =>
    rw [prompt_select hinput] at h
    cases h
  | text =>
    cases htype : p.type with
    | text =>
      rw [prompt_of_text htype hinput]
      exact List.mem_singleton.2 rfl
    | integer =>
      rw [prompt_of_integer htype hinput] at h ⊢
      cases hpatience : prompter.patience state with
      | zero =>
        rw [hpatience] at h
        cases h
      | succ patience =>
        rw [askInteger, Run.questions]
        obtain ⟨answer, hanswer, -⟩ := Run.outcome_andThen_eq_ok_iff.1 (hpatience ▸ h)
        rw [Run.andThen_of_ok hanswer]
        exact List.mem_cons_self

end Provision
