import Provision.Dialogue.Basic

/-!
# What activities leave behind

The outcome, the state and the questions of activities that follow one another, and the
questions that a prompt puts and the failures with which it ends.

Results:

* `Run.outcome_andThen_eq_ok_iff`: a sequence succeeds when both of its parts do.
* `Run.mem_questions_andThen`: the questions of a sequence are those of its parts.
* `prompt_select`, `prompt_of_text`, `prompt_of_integer`: what a prompt is, by input and type.
* `mem_questions_prompt`: a prompt for a parameter only ever puts the parameter's question.
* `Run.Accounts`, `accounts_prompt`: the prompter is left as the questions leave it.
* `Prompter.LastAnswer`, `prompt_error`: the failures with which a prompt can end.
-/

namespace Provision

namespace Run

variable {σ α β : Type}

/-! ## Outcomes and states -/

@[simp] theorem outcome_done (value : α) (state : σ) : (done value state).outcome = .ok value :=
  rfl

@[simp] theorem state_done (value : α) (state : σ) : (done value state).state = state :=
  rfl

@[simp] theorem outcome_failed (failure : Failure) (state : σ) :
    (failed failure state : Run σ α).outcome = .error failure :=
  rfl

@[simp] theorem outcome_ended (outcome : Except Failure α) (state : σ) :
    (ended outcome state).outcome = outcome :=
  rfl

@[simp] theorem outcome_after (events : List Event) (run : Run σ α) :
    (run.after events).outcome = run.outcome :=
  rfl

@[simp] theorem state_after (events : List Event) (run : Run σ α) :
    (run.after events).state = run.state :=
  rfl

@[simp] theorem events_after (events : List Event) (run : Run σ α) :
    (run.after events).events = events ++ run.events :=
  rfl

theorem andThen_of_ok {run : Run σ α} {value : α} (h : run.outcome = .ok value)
    (next : α → σ → Run σ β) :
    run.andThen next = (next value run.state).after run.events := by
  simp [andThen, h]

theorem andThen_of_error {run : Run σ α} {failure : Failure} (h : run.outcome = .error failure)
    (next : α → σ → Run σ β) :
    run.andThen next = ⟨.error failure, run.state, run.events⟩ := by
  simp [andThen, h]

theorem outcome_andThen_eq_ok_iff {run : Run σ α} {next : α → σ → Run σ β} {result : β} :
    (run.andThen next).outcome = .ok result ↔
      ∃ value, run.outcome = .ok value ∧ (next value run.state).outcome = .ok result := by
  cases h : run.outcome with
  | error failure => simp [andThen_of_error h]
  | ok value => simp [andThen_of_ok h]

theorem outcome_andThen_eq_error_iff {run : Run σ α} {next : α → σ → Run σ β}
    {failure : Failure} :
    (run.andThen next).outcome = .error failure ↔
      run.outcome = .error failure ∨
        ∃ value, run.outcome = .ok value ∧ (next value run.state).outcome = .error failure := by
  cases h : run.outcome with
  | error cause => simp [andThen_of_error h]
  | ok value => simp [andThen_of_ok h]

theorem events_andThen_of_silent {next : α → σ → Run σ β}
    (h : ∀ value state, (next value state).events = []) (run : Run σ α) :
    (run.andThen next).events = run.events := by
  cases hrun : run.outcome with
  | error failure => rw [andThen_of_error hrun]
  | ok value => rw [andThen_of_ok hrun, events_after, h, List.append_nil]

/-! ## Questions -/

@[simp] theorem questions_done (value : α) (state : σ) : (done value state).questions = [] :=
  rfl

@[simp] theorem questions_failed (failure : Failure) (state : σ) :
    (failed failure state : Run σ α).questions = [] :=
  rfl

@[simp] theorem questions_ended (outcome : Except Failure α) (state : σ) :
    (ended outcome state).questions = [] :=
  rfl

@[simp] theorem questions_after (events : List Event) (run : Run σ α) :
    (run.after events).questions = events.filterMap Event.question? ++ run.questions := by
  simp [questions]

@[simp] theorem questions_after_noted (notices : List Notice) (run : Run σ α) :
    (run.after (notices.map .noted)).questions = run.questions := by
  have hnone : (notices.map Event.noted).filterMap Event.question? = [] := by
    simp [Event.question?]
  rw [questions_after, hnone, List.nil_append]

theorem questions_andThen_of_ok {run : Run σ α} {value : α} (h : run.outcome = .ok value)
    (next : α → σ → Run σ β) :
    (run.andThen next).questions = run.questions ++ (next value run.state).questions := by
  rw [andThen_of_ok h, questions_after]
  rfl

theorem questions_andThen_of_error {run : Run σ α} {failure : Failure}
    (h : run.outcome = .error failure) (next : α → σ → Run σ β) :
    (run.andThen next).questions = run.questions := by
  rw [andThen_of_error h]
  rfl

theorem questions_andThen_of_unasked {next : α → σ → Run σ β}
    (h : ∀ value state, (next value state).questions = []) (run : Run σ α) :
    (run.andThen next).questions = run.questions := by
  cases hrun : run.outcome with
  | error failure => rw [questions_andThen_of_error hrun]
  | ok value => rw [questions_andThen_of_ok hrun, h, List.append_nil]

theorem mem_questions_andThen {run : Run σ α} {next : α → σ → Run σ β} {question : Question}
    (h : question ∈ (run.andThen next).questions) :
    question ∈ run.questions ∨
      ∃ value, run.outcome = .ok value ∧ question ∈ (next value run.state).questions := by
  cases hrun : run.outcome with
  | error failure =>
    rw [questions_andThen_of_error hrun] at h
    exact Or.inl h
  | ok value =>
    rw [questions_andThen_of_ok hrun, List.mem_append] at h
    rcases h with h | h
    · exact Or.inl h
    · exact Or.inr ⟨value, rfl, h⟩

end Run

/-! ## The question of a parameter -/

/-- What a parameter of a type is asked for. -/
def ParameterType.answerKind : ParameterType → AnswerKind
  | .text => .text
  | .integer => .number

variable {σ : Type} {prompter : Prompter σ}

/-- Where something would have to be selected, nothing is asked. -/
theorem prompt_select {p : Parameter} (hinput : p.inputKind = .select) (prompter : Prompter σ)
    (default : Option Scalar) (state : σ) :
    prompt prompter p default state = .failed (.unsupportedInput p.name .select) state := by
  unfold prompt
  cases p.type with
  | text => exact promptText_select hinput prompter default state
  | integer => exact promptInteger_select hinput prompter default state

theorem prompt_of_text {p : Parameter} (htype : p.type = .text) (hinput : p.inputKind = .text)
    (default : Option Scalar) (state : σ) :
    prompt prompter p default state = ask prompter (p.question .text default) state := by
  simp only [prompt, htype, promptText, hinput]

theorem prompt_of_integer {p : Parameter} (htype : p.type = .integer)
    (hinput : p.inputKind = .text) (default : Option Scalar) (state : σ) :
    prompt prompter p default state =
      askInteger prompter (p.question .number default) p.displayName (prompter.patience state)
        state := by
  simp only [prompt, htype, promptInteger, hinput]

theorem questions_ask (question : Question) (state : σ) :
    (ask prompter question state).questions = [question] :=
  rfl

/-- A question that is put again is the same question. -/
theorem mem_questions_askInteger {question asked : Question} {displayName : String}
    {patience : Nat} {state : σ}
    (h : asked ∈ (askInteger prompter question displayName patience state).questions) :
    asked = question := by
  induction patience generalizing state with
  | zero => cases h
  | succ patience ih =>
    rcases Run.mem_questions_andThen h with h | ⟨answer, -, h⟩
    · rw [questions_ask, List.mem_singleton] at h
      exact h
    · cases hn : answer.toInteger? with
      | some n => simp [hn] at h
      | none =>
        simp only [hn] at h
        exact ih (by simpa [Event.question?] using h)

/-- A prompt for a parameter only ever puts the parameter's question. -/
theorem mem_questions_prompt {p : Parameter} {default : Option Scalar} {state : σ}
    {asked : Question} (h : asked ∈ (prompt prompter p default state).questions) :
    asked = p.question p.type.answerKind default := by
  cases hinput : p.inputKind with
  | select =>
    rw [prompt_select hinput] at h
    cases h
  | text =>
    cases htype : p.type with
    | text =>
      rw [prompt_of_text htype hinput, questions_ask, List.mem_singleton] at h
      exact h
    | integer =>
      rw [prompt_of_integer htype hinput] at h
      exact mem_questions_askInteger h

/-! ## States of the prompter -/

/-- The state of a prompter that has answered some questions. -/
def Prompter.answered (prompter : Prompter σ) (questions : List Question) (state : σ) : σ :=
  questions.foldl (fun state question => (prompter.answer question state).2) state

theorem Prompter.answered_append (questions others : List Question) (state : σ) :
    prompter.answered (questions ++ others) state =
      prompter.answered others (prompter.answered questions state) :=
  List.foldl_append

namespace Run

variable {α β : Type} {run : Run σ α} {state : σ}

/-- An activity leaves the prompter as its questions do: nothing else changes the state. -/
def Accounts (prompter : Prompter σ) (state : σ) (run : Run σ α) : Prop :=
  run.state = prompter.answered run.questions state

theorem accounts_ended (outcome : Except Failure α) (state : σ) :
    (ended outcome state).Accounts prompter state :=
  rfl

theorem Accounts.after_noted (h : run.Accounts prompter state) (notices : List Notice) :
    (run.after (notices.map .noted)).Accounts prompter state := by
  rw [Accounts, questions_after_noted, state_after]
  exact h

theorem Accounts.andThen {next : α → σ → Run σ β} (h : run.Accounts prompter state)
    (hnext : ∀ value, (next value run.state).Accounts prompter run.state) :
    (run.andThen next).Accounts prompter state := by
  cases hrun : run.outcome with
  | error failure =>
    rw [Accounts, questions_andThen_of_error hrun, andThen_of_error hrun]
    exact h
  | ok value =>
    rw [Accounts, questions_andThen_of_ok hrun, andThen_of_ok hrun, state_after,
      Prompter.answered_append, ← h]
    exact hnext value

end Run

theorem accounts_askInteger (question : Question) (displayName : String) (patience : Nat)
    (state : σ) :
    (askInteger prompter question displayName patience state).Accounts prompter state := by
  induction patience generalizing state with
  | zero => exact Run.accounts_ended _ _
  | succ patience ih =>
    have hask : (ask prompter question state).Accounts prompter state := rfl
    refine hask.andThen fun answer => ?_
    split
    · exact Run.accounts_ended _ _
    · exact (ih _).after_noted [.notInteger displayName]

theorem accounts_prompt (p : Parameter) (default : Option Scalar) (state : σ) :
    (prompt prompter p default state).Accounts prompter state := by
  cases hinput : p.inputKind with
  | select =>
    rw [prompt_select hinput]
    exact Run.accounts_ended _ _
  | text =>
    cases htype : p.type with
    | text =>
      rw [prompt_of_text htype hinput]
      rfl
    | integer =>
      rw [prompt_of_integer htype hinput]
      exact accounts_askInteger _ _ _ _

/-! ## Failures of prompts -/

/-- What the last of some questions gets for an answer, where they are put to the prompter in order
    from a state. -/
def Prompter.LastAnswer (prompter : Prompter σ) (questions : List Question) (state : σ)
    (question : Question) (answer : Except Failure Scalar) : Prop :=
  ∃ earlier, questions = earlier ++ [question] ∧
    (prompter.answer question (prompter.answered earlier state)).1 = answer

theorem Prompter.lastAnswer_singleton (question : Question) (state : σ) :
    prompter.LastAnswer [question] state question (prompter.answer question state).1 :=
  ⟨[], rfl, rfl⟩

/-- What comes last behind other questions comes last of all. -/
theorem Prompter.LastAnswer.behind {front questions : List Question} {state : σ}
    {question : Question} {answer : Except Failure Scalar}
    (h : prompter.LastAnswer questions (prompter.answered front state) question answer) :
    prompter.LastAnswer (front ++ questions) state question answer := by
  obtain ⟨earlier, rfl, hanswer⟩ := h
  refine ⟨front ++ earlier, (List.append_assoc _ _ _).symm, ?_⟩
  rwa [answered_append]

/-- A question that is asked for an integer fails where the patience ends, or as the last answer to
    it does. -/
theorem askInteger_error {question : Question} {displayName : String} {patience : Nat}
    {state : σ} {failure : Failure}
    (h : (askInteger prompter question displayName patience state).outcome = .error failure) :
    failure = .prompt (.patienceEnded question.name) ∨
      prompter.LastAnswer (askInteger prompter question displayName patience state).questions state
        question (.error failure) := by
  induction patience generalizing state with
  | zero =>
    cases h
    exact Or.inl rfl
  | succ patience ih =>
    rw [askInteger]
    rcases Run.outcome_andThen_eq_error_iff.1 h with h | ⟨answer, hanswer, h⟩
    · have hlast := prompter.lastAnswer_singleton question state
      rw [Run.questions_andThen_of_error h, ← h]
      exact Or.inr hlast
    · rw [Run.questions_andThen_of_ok hanswer]
      cases hn : answer.toInteger? with
      | some n => simp [hn] at h
      | none =>
        simp only [hn, Run.outcome_after] at h
        rcases ih h with hended | hlast
        · exact Or.inl hended
        · exact Or.inr hlast.behind

/-- A prompt fails because nothing can be selected, because the patience ends, or as the last answer
    to its question does. -/
theorem prompt_error {p : Parameter} {default : Option Scalar} {state : σ} {failure : Failure}
    (h : (prompt prompter p default state).outcome = .error failure) :
    failure = .unsupportedInput p.name .select ∨ failure = .prompt (.patienceEnded p.name) ∨
      prompter.LastAnswer (prompt prompter p default state).questions state
        (p.question p.type.answerKind default) (.error failure) := by
  cases hinput : p.inputKind with
  | select =>
    rw [prompt_select hinput] at h
    cases h
    exact Or.inl rfl
  | text =>
    right
    cases htype : p.type with
    | text =>
      rw [prompt_of_text htype hinput] at h ⊢
      rw [← h]
      exact Or.inr (prompter.lastAnswer_singleton _ state)
    | integer =>
      rw [prompt_of_integer htype hinput] at h ⊢
      exact askInteger_error h

end Provision
