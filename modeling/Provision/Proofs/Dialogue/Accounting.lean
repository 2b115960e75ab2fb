import Provision.Dialogue.Script
import Provision.Proofs.Dialogue.Run

/-!
# Questions and answers accounted for

A prompt puts one question for a text, and for an integer the same question once or more often.
Each question takes the next answer from a script. Only the question that finds the script empty
takes none, and with it everything ends; so the answers that are left tell how many questions have
been put.

Results:

* `Parameter.Block`, `block_prompt`: the questions of a prompt.
* `scripted_answered`: a script loses one answer for each question.
* `Run.Balances`: the questions are as many as the answers that are taken, but for one that found
  the script empty.
* `Run.Balances.andThen`, `balances_prompt`: the balance of a sequence and of a prompt.
* `Run.Balances.exists_taken`: the answers that an activity has taken from the script.
* `prompt_scripted_ne_patienceEnded`: the answers of a script end before its patience.
-/

namespace Provision

variable {σ : Type} {prompter : Prompter σ} {p : Parameter} {default : Option Scalar} {state : σ}

/-! ## The questions of a prompt -/

/-- A block of questions about a parameter. They are all the same, and one of them is enough for
    a text. -/
structure Parameter.Block (p : Parameter) (default : Option Scalar) (questions : List Question) :
    Prop where
  asked : questions ≠ []
  same : ∀ question ∈ questions, question = p.question p.type.answerKind default
  once : p.type = .text → questions.length = 1

theorem questions_askInteger_ne_nil {question : Question} {displayName : String} {patience : Nat}
    (hpatience : patience ≠ 0) :
    (askInteger prompter question displayName patience state).questions ≠ [] := by
  obtain ⟨patience, rfl⟩ := Nat.exists_eq_succ_of_ne_zero hpatience
  rw [askInteger]
  cases hanswer : (ask prompter question state).outcome with
  | error failure =>
    rw [Run.questions_andThen_of_error hanswer, questions_ask]
    exact List.cons_ne_nil _ _
  | ok answer =>
    rw [Run.questions_andThen_of_ok hanswer, questions_ask]
    exact List.cons_ne_nil _ _

/-- A parameter that is entered as a text is asked about in a block. -/
theorem block_prompt (hinput : p.inputKind = .text) (hpatience : prompter.patience state ≠ 0) :
    p.Block default (prompt prompter p default state).questions where
  asked := by
    cases htype : p.type with
    | text =>
      rw [prompt_of_text htype hinput, questions_ask]
      exact List.cons_ne_nil _ _
    | integer =>
      rw [prompt_of_integer htype hinput]
      exact questions_askInteger_ne_nil hpatience
  same question hquestion := mem_questions_prompt hquestion
  once htype := by
    rw [prompt_of_text htype hinput, questions_ask, List.length_singleton]

/-! ## The answers of a script -/

/-- The state in which a question leaves a script: one answer is gone, if there was one. -/
theorem scripted_answer_state (question : Question) (script : Script) :
    (scripted.answer question script).2 = script.tail := by
  rcases script with _ | ⟨_ | value, rest⟩
  · rfl
  · simp only [scripted, Script.answer]
    cases question.default <;> rfl
  · rfl

theorem scripted_answered (questions : List Question) (script : Script) :
    scripted.answered questions script = script.drop questions.length := by
  induction questions generalizing script with
  | nil => rfl
  | cons question questions ih =>
    have hstep : scripted.answered (question :: questions) script =
        scripted.answered questions (scripted.answer question script).2 := rfl
    rw [hstep, ih, scripted_answer_state, List.drop_tail, List.length_cons]

/-! ## The balance of questions and answers -/

/-- How many questions have found the script empty. Such a question is the last one. -/
def unanswered {α : Type} : Except Failure α → Nat
  | .error (.prompt (.noAnswer _)) => 1
  | _ => 0

theorem unanswered_eq_one {α : Type} {outcome : Except Failure α} {name : String}
    (h : outcome = .error (.prompt (.noAnswer name))) : unanswered outcome = 1 := by
  rw [h]
  rfl

theorem unanswered_eq_zero {α : Type} {outcome : Except Failure α}
    (h : ∀ name, outcome ≠ .error (.prompt (.noAnswer name))) : unanswered outcome = 0 := by
  unfold unanswered
  split
  · exact absurd rfl (h _)
  · rfl

namespace Run

variable {α β : Type} {script : Script} {run : Run Script α}

/-- Each question of an activity has taken one answer from the script, or has found it empty. -/
def Balances (script : Script) (run : Run Script α) : Prop :=
  run.questions.length + run.state.length = script.length + unanswered run.outcome

theorem balances_ended {outcome : Except Failure α} (h : unanswered outcome = 0)
    (script : Script) : (ended outcome script).Balances script := by
  rw [Balances, questions_ended, outcome_ended, h]
  exact Nat.zero_add _

theorem Balances.after_noted (h : run.Balances script) (notices : List Notice) :
    (run.after (notices.map .noted)).Balances script := by
  rw [Balances, questions_after_noted, state_after, outcome_after]
  exact h

theorem Balances.andThen {next : α → Script → Run Script β} (h : run.Balances script)
    (hnext : ∀ value, (next value run.state).Balances run.state) :
    (run.andThen next).Balances script := by
  unfold Balances at h
  cases hrun : run.outcome with
  | error failure =>
    rw [Balances, questions_andThen_of_error hrun, andThen_of_error hrun, h, hrun]
    -- The failure is the same, so it has found the script empty in both or in none.
    cases failure with
    | prompt fault => cases fault <;> rfl
    | _ => rfl
  | ok value =>
    have hbehind : (next value run.state).questions.length + (next value run.state).state.length =
        run.state.length + unanswered (next value run.state).outcome := hnext value
    rw [hrun] at h
    rw [Balances, questions_andThen_of_ok hrun, andThen_of_ok hrun, state_after, outcome_after,
      List.length_append, Nat.add_assoc, hbehind, ← Nat.add_assoc, h]
    rfl

/-- The answers that an activity has taken from the script, and how many they are. -/
theorem Balances.exists_taken (h : run.Balances script) (haccounts : run.Accounts scripted script) :
    ∃ taken, script = taken ++ run.state ∧
      (∀ name, run.outcome = .error (.prompt (.noAnswer name)) →
        run.state = [] ∧ run.questions.length = taken.length + 1) ∧
      ((∀ name, run.outcome ≠ .error (.prompt (.noAnswer name))) →
        run.questions.length = taken.length) := by
  have hstate : run.state = script.drop run.questions.length :=
    haccounts.trans (scripted_answered _ _)
  have hleft : run.state.length = script.length - run.questions.length := by
    rw [hstate, List.length_drop]
  have htaken : (script.take run.questions.length).length =
      min run.questions.length script.length := List.length_take
  unfold Balances at h
  refine ⟨script.take run.questions.length, ?_, fun name hdry => ?_, fun hanswered => ?_⟩
  · rw [hstate, List.take_append_drop]
  · -- There was one question more than answers, so that all of them are taken.
    rw [unanswered_eq_one hdry] at h
    exact ⟨List.eq_nil_of_length_eq_zero (by omega), by omega⟩
  · rw [unanswered_eq_zero hanswered] at h
    omega

end Run

theorem balances_ask (question : Question) (script : Script) :
    (ask scripted question script).Balances script := by
  rcases script with _ | ⟨_ | value, rest⟩
  · rfl
  · cases hdefault : question.default <;>
      simp [Run.Balances, ask, scripted, Script.answer, hdefault, Run.questions, Event.question?,
        unanswered, Nat.add_comm]
  · simp [Run.Balances, ask, scripted, Script.answer, Run.questions, Event.question?, unanswered,
      Nat.add_comm]

theorem balances_askInteger (question : Question) (displayName : String) (patience : Nat)
    (script : Script) :
    (askInteger scripted question displayName patience script).Balances script := by
  induction patience generalizing script with
  | zero => exact Run.balances_ended rfl script
  | succ patience ih =>
    refine (balances_ask question script).andThen fun answer => ?_
    split
    · exact Run.balances_ended rfl _
    · exact (ih _).after_noted [.notInteger displayName]

theorem balances_prompt (p : Parameter) (default : Option Scalar) (script : Script) :
    (prompt scripted p default script).Balances script := by
  cases hinput : p.inputKind with
  | select =>
    rw [prompt_select hinput]
    exact Run.balances_ended rfl script
  | text =>
    cases htype : p.type with
    | text =>
      rw [prompt_of_text htype hinput]
      exact balances_ask _ script
    | integer =>
      rw [prompt_of_integer htype hinput]
      exact balances_askInteger _ _ _ script

/-! ## Patience -/

theorem scripted_answer_ne_patienceEnded (question : Question) (script : Script) (name : String) :
    (scripted.answer question script).1 ≠ .error (.prompt (.patienceEnded name)) := by
  rcases script with _ | ⟨_ | value, rest⟩
  · nofun
  · cases hdefault : question.default <;> simp [scripted, Script.answer, hdefault]
  · nofun

/-- Asked until the answer is an integer, a script is out of answers before the patience ends. -/
theorem askInteger_scripted_ne_patienceEnded {question : Question} {displayName : String}
    {patience : Nat} {script : Script} (h : script.length < patience) (name : String) :
    (askInteger scripted question displayName patience script).outcome ≠
      .error (.prompt (.patienceEnded name)) := by
  induction patience generalizing script with
  | zero => cases h
  | succ patience ih =>
    intro hended
    rcases Run.outcome_andThen_eq_error_iff.1 hended with hended | ⟨answer, hanswer, hended⟩
    · exact scripted_answer_ne_patienceEnded question script name hended
    · cases hinteger : answer.toInteger? with
      | some n => simp [hinteger] at hended
      | none =>
        -- The refused answer was one of the script, which has one less now.
        have hstate : (ask scripted question script).state = script.tail :=
          scripted_answer_state question script
        have htail : script.tail.length < patience := by
          cases script with
          | nil => cases hanswer
          | cons answer rest => exact Nat.lt_of_succ_lt_succ h
        simp only [hinteger, Run.outcome_after, hstate] at hended
        exact ih htail hended

/-- The answers of a script end before its patience. -/
theorem prompt_scripted_ne_patienceEnded (p : Parameter) (default : Option Scalar)
    (script : Script) (name : String) :
    (prompt scripted p default script).outcome ≠ .error (.prompt (.patienceEnded name)) := by
  cases hinput : p.inputKind with
  | select =>
    rw [prompt_select hinput]
    nofun
  | text =>
    cases htype : p.type with
    | text =>
      rw [prompt_of_text htype hinput]
      exact scripted_answer_ne_patienceEnded _ script name
    | integer =>
      rw [prompt_of_integer htype hinput]
      exact askInteger_scripted_ne_patienceEnded (Nat.lt_succ_self _) name

end Provision
