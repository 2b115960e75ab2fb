import Provision.Proofs.Dialogue.Accounting
import Provision.Proofs.Pass.Settled

/-!
# The influence of suggestions

A suggestion is for the user to see, and has no effect unless it is accepted. So a pass in which
every answer is a value is the pass over the same declarations without their defaults, as soon as
it succeeds: it puts the same questions, without their suggestions, takes the same answers and gives
the same values. A default can only make a pass fail that would succeed without it.

Results:

* `Script.Literal`: a script in which every answer is a value.
* `Run.bare`: what is left of an activity without the suggestions in its questions.
* `prompt_bare`, `settle_bare`, `settleAll_bare`: prompts and passes without suggestions.
* `resolve_uninfluenced`: passes over declarations that differ in their defaults alone.
-/

namespace Provision

/-! ## Without suggestions -/

/-- The question without its suggestion. -/
def Question.bare (question : Question) : Question :=
  { question with default := none }

/-- The event without the suggestion in a question. -/
def Event.bare : Event → Event
  | .asked question => .asked question.bare
  | .noted notice => .noted notice

/-- The parameter without its default. -/
def Parameter.bare (p : Parameter) : Parameter :=
  { p with default := none }

namespace Run

variable {σ α β : Type}

/-- What is left of an activity without the suggestions in its questions. -/
def bare (run : Run σ α) : Run σ α :=
  { run with events := run.events.map Event.bare }

@[simp] theorem outcome_bare (run : Run σ α) : run.bare.outcome = run.outcome :=
  rfl

@[simp] theorem state_bare (run : Run σ α) : run.bare.state = run.state :=
  rfl

theorem bare_after (events : List Event) (run : Run σ α) :
    (run.after events).bare = run.bare.after (events.map Event.bare) := by
  simp only [bare, after, List.map_append]

theorem questions_bare (run : Run σ α) : run.bare.questions = run.questions.map Question.bare := by
  simp only [bare, questions, List.filterMap_map, List.map_filterMap]
  congr 1
  funext event
  cases event <;> rfl

theorem notices_bare (run : Run σ α) : run.bare.notices = run.notices := by
  simp only [bare, notices, List.filterMap_map]
  congr 1
  funext event
  cases event <;> rfl

/-- A sequence without suggestions, if its second part is known only for what the first one ends
    with. -/
theorem bare_andThen {run : Run σ α} {next other : α → σ → Run σ β}
    (h : ∀ value, run.outcome = .ok value → (next value run.state).bare = other value run.state) :
    (run.andThen next).bare = run.bare.andThen other := by
  cases hrun : run.outcome with
  | error failure =>
    have hbare : run.bare.outcome = .error failure := hrun
    rw [andThen_of_error hrun, andThen_of_error hbare]
    rfl
  | ok value =>
    have hbare : run.bare.outcome = .ok value := hrun
    rw [andThen_of_ok hrun, andThen_of_ok hbare, bare_after, h value hrun]
    rfl

end Run

/-! ## Answers that are values -/

/-- A script in which every answer is a value, and none accepts a suggestion. -/
def Script.Literal (script : Script) : Prop :=
  none ∉ script

theorem Script.Literal.of_accounts {α : Type} {script : Script} {run : Run Script α}
    (h : script.Literal) (haccounts : run.Accounts scripted script) : Script.Literal run.state := by
  rw [haccounts, scripted_answered]
  exact fun hmem => h (List.mem_of_mem_drop hmem)

theorem scripted_answer_bare {script : Script} (h : script.Literal) (question : Question) :
    scripted.answer question script = scripted.answer question.bare script := by
  rcases script with _ | ⟨_ | value, rest⟩
  · rfl
  · exact absurd List.mem_cons_self h
  · rfl

variable {script : Script}

theorem ask_bare (h : script.Literal) (question : Question) :
    (ask scripted question script).bare = ask scripted question.bare script := by
  simp only [Run.bare, ask, scripted_answer_bare h question]
  rfl

theorem askInteger_bare (h : script.Literal) (question : Question) (displayName : String)
    (patience : Nat) :
    (askInteger scripted question displayName patience script).bare =
      askInteger scripted question.bare displayName patience script := by
  induction patience generalizing script with
  | zero => rfl
  | succ patience ih =>
    rw [askInteger, askInteger, ← ask_bare h question]
    apply Run.bare_andThen
    intro answer _
    cases answer.toInteger? with
    | some n => rfl
    | none =>
      have hleft : Script.Literal (ask scripted question script).state :=
        h.of_accounts (rfl : Run.Accounts scripted script (ask scripted question script))
      exact (Run.bare_after _ _).trans (congrArg _ (ih hleft))

/-- A prompt that is answered with values is a prompt without a suggestion. -/
theorem prompt_bare (h : script.Literal) (p : Parameter) (default : Option Scalar) :
    (prompt scripted p default script).bare = prompt scripted p.bare none script := by
  have htype : p.bare.type = p.type := rfl
  have hinput : p.bare.inputKind = p.inputKind := rfl
  unfold prompt promptText promptInteger
  rw [htype, hinput]
  cases p.type <;> cases p.inputKind
  · exact ask_bare h _
  · rfl
  · exact askInteger_bare h _ _ _
  · rfl

/-! ## Passes -/

variable {overrides settled values : Bindings} {params : List Parameter}

/-- A step that succeeds with values as answers is the step for the parameter without a default. -/
theorem settle_bare {p : Parameter} {found : Scalar × Source} (hliteral : script.Literal)
    (h : (settle scripted .interactive overrides p settled script).outcome = .ok found) :
    (settle scripted .interactive overrides p settled script).bare =
      settle scripted .interactive overrides p.bare settled script := by
  have hname : p.bare.name = p.name := rfl
  have hdefault : defaultOf p.bare settled = .ok none := rfl
  unfold settle at h ⊢
  rw [hname, hdefault]
  cases hoverride : overrides.get? p.name with
  | some value => rfl
  | none =>
    simp only [hoverride] at h ⊢
    cases hown : defaultOf p settled with
    | error failure => simp [hown] at h
    | ok default =>
      simp only [settleDefault]
      rw [← prompt_bare hliteral p default]
      exact Run.bare_andThen fun answer _ => rfl

/-- What is settled with values as answers is settled without the defaults. -/
theorem settleAll_bare (hliteral : script.Literal)
    (h : (settleAll scripted .interactive overrides params settled script).outcome = .ok values) :
    (settleAll scripted .interactive overrides params settled script).bare =
      settleAll scripted .interactive overrides (params.map Parameter.bare) settled script := by
  induction params generalizing settled script with
  | nil => rfl
  | cons p rest ih =>
    obtain ⟨found, hfound, hrest⟩ := outcome_settleAll_cons_eq_ok_iff.1 h
    have hleft : Script.Literal (settle scripted .interactive overrides p settled script).state :=
      hliteral.of_accounts (accounts_settle p settled script)
    rw [List.map_cons, settleAll, settleAll, ← settle_bare hliteral hfound]
    -- The pass over the others is known to succeed for the value that the step has found.
    apply Run.bare_andThen
    intro other hother
    obtain rfl : found = other := Except.ok.inj (hfound.symm.trans hother)
    exact (Run.bare_after _ _).trans (congrArg _ (ih hleft hrest))

theorem names_bare (params : List Parameter) :
    (params.map Parameter.bare).map Parameter.name = params.map Parameter.name := by
  rw [List.map_map]
  rfl

/-- A pass that succeeds with values as answers is the pass without the defaults. -/
theorem resolve_bare (hliteral : script.Literal)
    (h : (resolve scripted .interactive params overrides script).outcome = .ok values) :
    (resolve scripted .interactive params overrides script).bare =
      resolve scripted .interactive (params.map Parameter.bare) overrides script := by
  obtain ⟨hnd, h⟩ := outcome_resolve_eq_ok_iff.1 h
  have hbare : ((params.map Parameter.bare).map Parameter.name).Nodup := by rwa [names_bare]
  rw [resolve_eq_settleAll hnd, resolve_eq_settleAll hbare, settleAll_bare hliteral h]

/-- **Suggestions.** Let two lists of declarations differ in their defaults alone, and let every
    answer be a value, so that no suggestion is accepted. If both passes succeed, they give the same
    values, put the same questions apart from the suggestions, give the same notices, and leave the
    same answers. -/
theorem resolve_uninfluenced {others : List Parameter} {found : Bindings}
    (hdeclared : params.map Parameter.bare = others.map Parameter.bare) (hliteral : script.Literal)
    (h : (resolve scripted .interactive params overrides script).outcome = .ok values)
    (hother : (resolve scripted .interactive others overrides script).outcome = .ok found) :
    let run := resolve scripted .interactive params overrides script
    let other := resolve scripted .interactive others overrides script
    values = found ∧
      run.questions.map Question.bare = other.questions.map Question.bare ∧
      run.notices = other.notices ∧ run.state = other.state := by
  intro run other
  have hsame : run.bare = other.bare := by
    rw [resolve_bare hliteral h, resolve_bare hliteral hother, hdeclared]
  refine ⟨?_, ?_, ?_, ?_⟩
  · have houtcome : run.outcome = other.outcome := by
      rw [← run.outcome_bare, hsame, other.outcome_bare]
    exact Except.ok.inj (h.symm.trans (houtcome.trans hother))
  · rw [← run.questions_bare, hsame, other.questions_bare]
  · rw [← run.notices_bare, hsame, other.notices_bare]
  · rw [← run.state_bare, hsame, other.state_bare]

/-- Two lists with other defaults, one of them computed from an answer. The integer is asked for
    twice, one parameter is given, and one answer is left. -/
theorem resolve_uninfluenced_defaults :
    let host : Parameter := .plain .text "HOST"
    let url : Parameter := .plain .text "URL"
    let size : Parameter := .plain .integer "SIZE"
    let zone : Parameter := .plain .text "ZONE"
    let params := [host.withDefault (.text "db"), zone,
      url.withDefault (.text "http://\x7b\x7b params.HOST \x7d\x7d/"), size]
    let others := [host, zone, url.withDefault (.text "\x7b\x7b params.ZONE \x7d\x7d"),
      size.withDefault (.integer 3)]
    let overrides := Bindings.ofList [("ZONE", .text "eu")]
    let script : Script :=
      [some (.text "a"), some (.text "b"), some (.text "many"), some (.integer 5), some (.text "c")]
    let run := fun params => resolve scripted .interactive params overrides script
    params ≠ others ∧ params.map Parameter.bare = others.map Parameter.bare ∧ script.Literal ∧
      (run params).questions ≠ (run others).questions ∧
      (run params).questions.map Question.bare = (run others).questions.map Question.bare ∧
      (run params).outcome = (run others).outcome ∧
      (run params).state = [some (.text "c")] ∧ (run params).state = (run others).state := by
  intro host url size zone params others overrides script run
  have hdeclared : params.map Parameter.bare = others.map Parameter.bare := rfl
  have hliteral : script.Literal := by unfold Script.Literal; decide
  have hvalues : (run params).outcome = .ok (.ofList [("HOST", .text "a"), ("ZONE", .text "eu"),
      ("URL", .text "b"), ("SIZE", .integer 5)]) := rfl
  have hothers : (run others).outcome = .ok (.ofList [("HOST", .text "a"), ("ZONE", .text "eu"),
      ("URL", .text "b"), ("SIZE", .integer 5)]) := rfl
  obtain ⟨hsame, hquestions, -, hstate⟩ :=
    resolve_uninfluenced hdeclared hliteral hvalues hothers
  refine ⟨by decide, hdeclared, hliteral, by decide, hquestions, ?_, rfl, hstate⟩
  exact hvalues.trans ((congrArg Except.ok hsame).trans hothers.symm)

end Provision
