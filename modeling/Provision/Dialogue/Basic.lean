import Provision.Journal
import Provision.Parameter.Conformance

/-!
# Dialogue

Component `params_core::prompt`. Values are asked for one question at a time. A prompter answers
questions from a state of its own; what it does is not restricted. A `Run` is what an activity
leaves behind: its outcome, the state of the prompter, and the events on the way.

An answer for an integer parameter has to be an integer, and the question is put again until it
is one. A prompter says how often it bears to be asked the same question, so that every dialogue
ends.

Results:

* `Run.andThen_assoc`: activities follow one another associatively.
* `promptText_select`, `promptInteger_select`: a selection is not supported, and nothing is asked.
-/

namespace Provision

/-- What a question asks for (`PromptKind`). -/
inductive AnswerKind where
  | text
  | number
  deriving DecidableEq, Repr

/-- One question, with all that a prompter gets to see of a parameter (`PromptRequest`). The
    default is what an empty answer stands for. -/
structure Question where
  name : String
  label : Option String
  description : Option String
  kind : AnswerKind
  default : Option Scalar
  message : String
  deriving DecidableEq

/-- What can be observed of an activity on the way. -/
inductive Event where
  | asked (question : Question)
  | noted (notice : Notice)
  deriving DecidableEq

/-- The question of an event. -/
def Event.question? : Event → Option Question
  | .asked question => some question
  | .noted _ => none

/-- The notice of an event. -/
def Event.notice? : Event → Option Notice
  | .noted notice => some notice
  | .asked _ => none

/-- What an activity leaves behind. -/
structure Run (σ α : Type) where
  outcome : Except Failure α
  state : σ
  events : List Event

namespace Run

variable {σ α β γ : Type}

/-- The activity that does nothing but end with a value. -/
def done (value : α) (state : σ) : Run σ α :=
  ⟨.ok value, state, []⟩

/-- The activity that does nothing but fail. -/
def failed (failure : Failure) (state : σ) : Run σ α :=
  ⟨.error failure, state, []⟩

/-- The activity that does nothing but end with an outcome. -/
def ended (outcome : Except Failure α) (state : σ) : Run σ α :=
  ⟨outcome, state, []⟩

/-- Puts events in front of those of an activity. -/
def after (events : List Event) (run : Run σ α) : Run σ α :=
  { run with events := events ++ run.events }

/-- Goes on with the value of an activity; a failure ends everything. -/
def andThen (run : Run σ α) (next : α → σ → Run σ β) : Run σ β :=
  match run.outcome with
  | .ok value => (next value run.state).after run.events
  | .error failure => ⟨.error failure, run.state, run.events⟩

/-- The questions that were asked, in order. -/
def questions (run : Run σ α) : List Question :=
  run.events.filterMap Event.question?

/-- The notices that were given, in order. -/
def notices (run : Run σ α) : List Notice :=
  run.events.filterMap Event.notice?

theorem done_andThen (value : α) (state : σ) (next : α → σ → Run σ β) :
    (done value state).andThen next = next value state :=
  rfl

theorem failed_andThen (failure : Failure) (state : σ) (next : α → σ → Run σ β) :
    (failed failure state : Run σ α).andThen next = failed failure state :=
  rfl

theorem andThen_assoc (run : Run σ α) (f : α → σ → Run σ β) (g : β → σ → Run σ γ) :
    (run.andThen f).andThen g = run.andThen fun value state => (f value state).andThen g := by
  rcases run with ⟨_ | value, state, events⟩
  · rfl
  · simp only [andThen, after]
    cases (f value state).outcome <;> simp

end Run

/-- Someone who answers questions, with a state that each answer may change (`Prompter`). -/
structure Prompter (σ : Type) where
  answer : Question → σ → Except Failure Scalar × σ
  /-- How often the prompter bears to be asked one question. -/
  patience : σ → Nat

variable {σ : Type}

/-- Asks one question (`ask`). -/
def ask (prompter : Prompter σ) (question : Question) (state : σ) : Run σ Scalar :=
  let answered := prompter.answer question state
  ⟨answered.1, answered.2, [.asked question]⟩

/-- Asks a question until the answer is an integer, at most `patience` times: the loop of
    `prompt_int_param`, which has no bound of its own. -/
def askInteger (prompter : Prompter σ) (question : Question) (displayName : String) :
    Nat → σ → Run σ Scalar
  | 0, state => .failed (.prompt (.patienceEnded question.name)) state
  | patience + 1, state =>
    (ask prompter question state).andThen fun answer state =>
      match answer.toInteger? with
      | some n => .done (.integer n) state
      | none =>
        (askInteger prompter question displayName patience state).after
          [.noted (.notInteger displayName)]

namespace Parameter

/-- The words with which a user is asked for a parameter (`prompt_message`). -/
def message (p : Parameter) : String :=
  "Enter a value for " ++ p.name ++
    (match p.label with
      | some label => " (" ++ label ++ ")"
      | none => "") ++
    (match p.description with
      | some description => " \n(" ++ description ++ ")"
      | none => "")

/-- The question for a parameter (`request_for`). -/
def question (p : Parameter) (kind : AnswerKind) (default : Option Scalar) : Question :=
  ⟨p.name, p.label, p.description, kind, default, p.message⟩

end Parameter

/-- Asks for a text, once (`prompt_string_param`). Every answer is passed on, the empty one
    too. -/
def promptText (prompter : Prompter σ) (p : Parameter) (default : Option Scalar) (state : σ) :
    Run σ Scalar :=
  match p.inputKind with
  | .select => .failed (.unsupportedInput p.name .select) state
  | .text => ask prompter (p.question .text default) state

/-- Asks for an integer, until the answer is one (`prompt_int_param`). -/
def promptInteger (prompter : Prompter σ) (p : Parameter) (default : Option Scalar)
    (state : σ) : Run σ Scalar :=
  match p.inputKind with
  | .select => .failed (.unsupportedInput p.name .select) state
  | .text =>
    askInteger prompter (p.question .number default) p.displayName (prompter.patience state)
      state

/-- Asks for the value of a parameter, suggesting its default (`prompt_param`). -/
def prompt (prompter : Prompter σ) (p : Parameter) (default : Option Scalar) (state : σ) :
    Run σ Scalar :=
  match p.type with
  | .text => promptText prompter p default state
  | .integer => promptInteger prompter p default state

theorem promptText_select {p : Parameter} (h : p.inputKind = .select) (prompter : Prompter σ)
    (default : Option Scalar) (state : σ) :
    promptText prompter p default state = .failed (.unsupportedInput p.name .select) state := by
  simp [promptText, h]

theorem promptInteger_select {p : Parameter} (h : p.inputKind = .select)
    (prompter : Prompter σ) (default : Option Scalar) (state : σ) :
    promptInteger prompter p default state =
      .failed (.unsupportedInput p.name .select) state := by
  simp [promptInteger, h]

end Provision
