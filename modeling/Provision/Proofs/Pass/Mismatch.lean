import Provision.Proofs.Pass.Failure
import Provision.Proofs.Pass.Replay
import Provision.Proofs.Template.BareReference
import Provision.Proofs.Template.Substitution

/-!
# Values of another type

A pass stops at a value that does not have the type of its parameter, or that a reference cannot be
used for. Such a value is an override, a default, or what a default refers to, and then nothing has
been asked about the parameter. An answer is looked at as well, but an integer is asked for until
the answer is one, and a line at a terminal always answers a question for a text; so what is refused
after a question was given by a prompter that answers such a question with something else.

Results:

* `receive_of_prompt_integer`, `receive_of_prompt`: an answer that has been looked at is received as
  it is.
* `Mistyped`, `defaultOf_mismatch`: the values of another type that are found before anyone is
  asked.
* `EndsMistyped`, `endsMistyped_of_settle`: the ways in which such a value ends a pass.
* `resolve_mismatch`: when a pass stops at a value of another type.
-/

namespace Provision

variable {σ : Type} {prompter : Prompter σ} {mode : Mode} {overrides settled before : Bindings}
  {p : Parameter} {params : List Parameter} {state : σ} {suggested : Option Scalar}
  {answer found : Scalar} {name : String} {expected : ScalarKind}

/-! ## Answers -/

theorem askInteger_ok {question : Question} {displayName : String} {patience : Nat}
    (h : (askInteger prompter question displayName patience state).outcome = .ok answer) :
    ∃ n, answer = .integer n := by
  induction patience generalizing state with
  | zero => cases h
  | succ patience ih =>
    obtain ⟨reply, -, h⟩ := Run.outcome_andThen_eq_ok_iff.1 h
    cases hn : reply.toInteger? with
    | some n =>
      simp only [hn, Run.outcome_done, Except.ok.injEq] at h
      exact ⟨n, h.symm⟩
    | none =>
      simp only [hn, Run.outcome_after] at h
      exact ih h

/-- What a prompt for an integer gives is received as it is, whoever answers. -/
theorem receive_of_prompt_integer (htype : p.type = .integer)
    (h : (prompt prompter p suggested state).outcome = .ok answer) :
    p.receive answer = .ok answer := by
  cases hinput : p.inputKind with
  | select =>
    rw [prompt_select hinput] at h
    cases h
  | text =>
    rw [prompt_of_integer htype hinput] at h
    obtain ⟨n, rfl⟩ := askInteger_ok h
    refine Parameter.receive_of_kind ?_
    rw [htype]
    rfl

/-- What a prompt for a text gives is the answer to its question. -/
theorem lastAnswer_of_prompt_text (htype : p.type = .text)
    (h : (prompt prompter p suggested state).outcome = .ok answer) :
    prompter.LastAnswer (prompt prompter p suggested state).questions state
      (p.question .text suggested) (.ok answer) := by
  cases hinput : p.inputKind with
  | select =>
    rw [prompt_select hinput] at h
    cases h
  | text =>
    rw [prompt_of_text htype hinput] at h ⊢
    rw [← h]
    exact prompter.lastAnswer_singleton _ state

/-- The prompter answers every question for a text with a text, or not at all. -/
def Prompter.AnswersText (prompter : Prompter σ) : Prop :=
  ∀ question state answer, question.kind = .text →
    (prompter.answer question state).1 = .ok answer → answer.kind = .text

theorem terminal_answersText (visible : Bool) : (terminal visible).AnswersText := by
  intro question lines answer hkind h
  cases visible with
  | false => cases h
  | true =>
    cases lines with
    | nil => cases h
    | cons line rest =>
      obtain rfl : question.readLine line = answer := Except.ok.inj h
      simp [Question.readLine, hkind, Scalar.kind]

/-- What a prompt gives is received as it is, if texts are asked for and answered. -/
theorem receive_of_prompt (hprompter : prompter.AnswersText)
    (h : (prompt prompter p suggested state).outcome = .ok answer) :
    p.receive answer = .ok answer := by
  cases htype : p.type with
  | integer => exact receive_of_prompt_integer htype h
  | text =>
    obtain ⟨earlier, -, hanswer⟩ := lastAnswer_of_prompt_text htype h
    refine Parameter.receive_of_kind ?_
    rw [htype]
    exact hprompter _ _ _ rfl hanswer

/-! ## Before anyone is asked -/

/-- A value of another type that is found for a parameter before anyone is asked, under the name
    that is told with it: the override, the default, or the value that the default refers to. -/
inductive Mistyped (overrides settled : Bindings) (p : Parameter) : String → Scalar → Prop where
  | override {given : Scalar} : overrides.get? p.name = some given → p.conforms given = false →
      Mistyped overrides settled p p.name given
  | default {given : Scalar} : overrides.get? p.name = none → p.default = some given →
      given.isTemplate = false → p.conforms given = false →
      Mistyped overrides settled p p.name given
  | reference {source : String} {before after : List Char} {name : String} {found : Scalar} :
      overrides.get? p.name = none → p.default = some (.text source) →
      Refers source.toList before name after → settled.get? name = some found →
      found.kind ≠ p.type.kind → Mistyped overrides settled p name found

/-- An evaluation that meets a value of another kind has met the one that is referred to. -/
theorem evaluate_mismatch {source : String} {type : ParameterType}
    (htemplate : isTemplate source.toList = true)
    (h : evaluate (.text source) type settled = .error (.typeMismatch name expected found)) :
    expected = type.kind ∧ settled.get? name = some found ∧ found.kind ≠ type.kind ∧
      ∃ before after, Refers source.toList before name after := by
  cases type with
  | text => exact (evaluateText_mismatch_iff htemplate).1 (Except.map_eq_error_iff.1 h)
  | integer =>
    rw [evaluate, evaluateBare_template htemplate] at h
    obtain ⟨hexpected, halone, hfound, hkind⟩ := (evaluateReference_mismatch_iff htemplate).1 h
    obtain ⟨before, after, href, -⟩ := refersAlone_iff.1 halone
    exact ⟨hexpected, hfound, hkind, before, after, href⟩

theorem kind_of_defaultValue {source : String} {type : ParameterType}
    (htemplate : isTemplate source.toList = true)
    (h : defaultValue type (.text source) settled = .ok found) : found.kind = type.kind := by
  obtain ⟨before, refName, after, -, h⟩ := (defaultValue_template_eq_ok_iff htemplate).1 h
  cases type with
  | text =>
    obtain ⟨text, -, -, rfl⟩ := h
    rfl
  | integer => exact h.2.2.2

/-- A default that cannot be computed for a value of another type is itself this value, or refers to
    it. -/
theorem defaultOf_mismatch (hnone : overrides.get? p.name = none)
    (h : defaultOf p settled = .error (.typeMismatch name expected found)) :
    expected = p.type.kind ∧ Mistyped overrides settled p name found := by
  unfold defaultOf at h
  split at h
  · cases h
  · next given hdefault =>
    split at h
    · next hvalue =>
      cases h
      obtain ⟨source, rfl, htemplate, -⟩ := defaultValue_error hvalue
      simp only [defaultValue, htemplate, if_true] at hvalue
      split at hvalue
      · cases hvalue
      · obtain ⟨hexpected, hfound, hkind, before, after, href⟩ :=
          evaluate_mismatch htemplate hvalue
        exact ⟨hexpected, .reference hnone hdefault href hfound hkind⟩
    · next value hvalue =>
      obtain ⟨hconforms, hmismatch⟩ :=
        Parameter.receive_eq_error_iff.1 (Except.map_eq_error_iff.1 h)
      cases hmismatch
      refine ⟨rfl, ?_⟩
      cases htemplate : given.isTemplate with
      | false =>
        rw [defaultValue_literal htemplate] at hvalue
        cases hvalue
        exact .default hnone hdefault htemplate hconforms
      | true =>
        obtain ⟨source, rfl, hsource⟩ := exists_text_of_isTemplate htemplate
        have hreceive := Parameter.receive_of_kind (kind_of_defaultValue hsource hvalue)
        rw [Parameter.receive_of_conforms_eq_false hconforms] at hreceive
        cases hreceive

/-! ## One parameter -/

/-- The ways in which a value of another type ends a pass at a parameter, after some questions that
    were put to the prompter in order from a state. -/
inductive EndsMistyped (prompter : Prompter σ) (overrides settled : Bindings) (p : Parameter)
    (questions : List Question) (state : σ) : Failure → Prop where
  /-- It was found before anything was asked about the parameter. -/
  | unasked {name : String} {found : Scalar} : Mistyped overrides settled p name found →
      (∀ question ∈ questions, question.name ≠ p.name) →
      EndsMistyped prompter overrides settled p questions state
        (.typeMismatch name p.type.kind found)
  /-- The prompter itself has failed with it, on a question about the parameter. -/
  | raised {suggested : Option Scalar} {name : String} {expected : ScalarKind} {found : Scalar} :
      prompter.LastAnswer questions state (p.question p.type.answerKind suggested)
        (.error (.typeMismatch name expected found)) →
      EndsMistyped prompter overrides settled p questions state (.typeMismatch name expected found)
  /-- It is the answer to a question for a text. -/
  | answered {suggested : Option Scalar} {found : Scalar} : p.type = .text → found.kind ≠ .text →
      prompter.LastAnswer questions state (p.question .text suggested) (.ok found) →
      EndsMistyped prompter overrides settled p questions state (.typeMismatch p.name .text found)

/-- With questions in front that are not about the parameter, a pass ends in the same way. -/
theorem EndsMistyped.behind {front questions : List Question} {failure : Failure}
    (h : EndsMistyped prompter overrides settled p questions (prompter.answered front state)
      failure)
    (hfront : ∀ question ∈ front, question.name ≠ p.name) :
    EndsMistyped prompter overrides settled p (front ++ questions) state failure := by
  cases h with
  | unasked hmistyped hquestions =>
    exact .unasked hmistyped (List.forall_mem_append.2 ⟨hfront, hquestions⟩)
  | raised hlast => exact .raised hlast.behind
  | answered htype hkind hlast => exact .answered htype hkind hlast.behind

/-- Where a prompter answers questions for texts with texts and never fails with a value of another
    type, such a value is found before anything is asked. -/
theorem EndsMistyped.mistyped {questions : List Question} (hprompter : prompter.AnswersText)
    (hraises : ¬ prompter.Raises (.typeMismatch name expected found))
    (h : EndsMistyped prompter overrides settled p questions state
      (.typeMismatch name expected found)) :
    expected = p.type.kind ∧ Mistyped overrides settled p name found ∧
      ∀ question ∈ questions, question.name ≠ p.name := by
  cases h with
  | unasked hmistyped hquestions => exact ⟨rfl, hmistyped, hquestions⟩
  | raised hlast =>
    obtain ⟨earlier, -, hanswer⟩ := hlast
    exact absurd ⟨_, _, hanswer⟩ hraises
  | answered _ hkind hlast =>
    obtain ⟨earlier, -, hanswer⟩ := hlast
    exact absurd (hprompter _ _ _ rfl hanswer) hkind

theorem questions_settle_interactive (hnone : overrides.get? p.name = none)
    (hdefault : defaultOf p settled = .ok suggested) (state : σ) :
    (settle prompter .interactive overrides p settled state).questions =
      (prompt prompter p suggested state).questions := by
  rw [settle_of_default hnone hdefault, settleDefault,
    Run.questions_andThen_of_unasked fun _ _ => Run.questions_ended _ _]

theorem endsMistyped_of_settle
    (h : (settle prompter mode overrides p settled state).outcome =
      .error (.typeMismatch name expected found)) :
    EndsMistyped prompter overrides settled p
      (settle prompter mode overrides p settled state).questions state
      (.typeMismatch name expected found) := by
  cases fails_of_settle h with
  | override hgiven hconforms =>
    rw [settle_override hgiven, Run.questions_ended]
    exact .unasked (.override hgiven hconforms) (List.forall_mem_nil _)
  | default hnone hdefault =>
    obtain ⟨rfl, hmistyped⟩ := defaultOf_mismatch hnone hdefault
    simp only [settle, hnone, hdefault, Run.questions_failed]
    exact .unasked hmistyped (List.forall_mem_nil _)
  | prompt hnone hdefault hmode hprompt =>
    subst hmode
    rw [questions_settle_interactive hnone hdefault]
    rcases prompt_error hprompt with hselect | hpatience | hlast
    · cases hselect
    · cases hpatience
    · exact .raised hlast
  | answer hnone hdefault hmode hanswer hconforms =>
    subst hmode
    rw [questions_settle_interactive hnone hdefault]
    cases htype : p.type with
    | integer =>
      have hreceive := receive_of_prompt_integer htype hanswer
      rw [Parameter.receive_of_conforms_eq_false hconforms] at hreceive
      cases hreceive
    | text =>
      refine .answered htype (fun hkind => ?_) (lastAnswer_of_prompt_text htype hanswer)
      have hreceive :=
        Parameter.receive_of_kind (hkind.trans (congrArg ParameterType.kind htype).symm)
      rw [Parameter.receive_of_conforms_eq_false hconforms] at hreceive
      cases hreceive

/-! ## A pass -/

/-- The questions of a pass that stops are those of the pass over the parameters in front and those
    about the one at which it stops. -/
theorem questions_of_settle_error {front rest : List Parameter} {failure : Failure}
    (hnd : ((front ++ p :: rest).map Parameter.name).Nodup)
    (hbefore : (resolve prompter mode front overrides state).outcome = .ok before)
    (h : (settle prompter mode overrides p before
      (resolve prompter mode front overrides state).state).outcome = .error failure) :
    (resolve prompter mode (front ++ p :: rest) overrides state).questions =
      (resolve prompter mode front overrides state).questions ++
        (settle prompter mode overrides p before
          (resolve prompter mode front overrides state).state).questions := by
  rw [resolve_of_settle_error hnd hbefore h]
  exact List.filterMap_append

/-- A pass that stops at a value of another type ends in one of these ways. -/
theorem StopsAt.endsMistyped
    (h : StopsAt prompter mode overrides state p before (.typeMismatch name expected found)
      params) :
    EndsMistyped prompter overrides before p
      (resolve prompter mode params overrides state).questions state
      (.typeMismatch name expected found) := by
  obtain ⟨hnd, hbefore, hsettle⟩ := h
  have hstep := endsMistyped_of_settle hsettle
  rw [questions_of_settle_error hnd hbefore hsettle]
  rw [accounts_resolve] at hstep ⊢
  exact hstep.behind fun question => name_ne_of_mem_questions_front hnd

/-- A value of another type is not found before the names are known to be distinct. -/
theorem exists_stopsAt_mismatch_iff :
    (resolve prompter mode params overrides state).outcome =
        .error (.typeMismatch name expected found) ↔
      ∃ p before, StopsAt prompter mode overrides state p before
        (.typeMismatch name expected found) params := by
  by_cases hnd : (params.map Parameter.name).Nodup
  · exact outcome_resolve_eq_error_iff hnd
  · obtain ⟨repeated, hrun⟩ := resolve_of_not_nodup hnd prompter mode overrides state
    simp only [hrun, Run.outcome_failed, Except.error.injEq, reduceCtorEq, false_iff, not_exists]
    rintro p before ⟨hdistinct, -, -⟩
    exact hnd hdistinct

/-- **Values of another type.** What a prompt for an integer gives is received as it is, whoever
    answers, and at a terminal what a prompt for a text gives as well. A pass fails for a value of
    another type exactly if it stops at a parameter for it. Then nothing has been asked about this
    parameter, and the value is its override, its default, or what the default refers to; or the
    prompter itself has failed so; or the parameter is a text, and the value is the answer. At a
    terminal it is always the first, whatever is typed. -/
theorem resolve_mismatch (prompter : Prompter σ) (mode : Mode) (params : List Parameter)
    (overrides : Bindings) (state : σ) :
    let run := resolve prompter mode params overrides state
    let typed := fun visible => resolve (terminal visible) mode params overrides
    (∀ p suggested state answer, p.type = .integer →
      (prompt prompter p suggested state).outcome = .ok answer → p.receive answer = .ok answer) ∧
    (∀ visible p suggested lines answer,
      (prompt (terminal visible) p suggested lines).outcome = .ok answer →
        p.receive answer = .ok answer) ∧
    (∀ name expected found,
      (run.outcome = .error (.typeMismatch name expected found) ↔
        ∃ p before, StopsAt prompter mode overrides state p before
          (.typeMismatch name expected found) params) ∧
      ∀ p before, StopsAt prompter mode overrides state p before
          (.typeMismatch name expected found) params →
        EndsMistyped prompter overrides before p run.questions state
          (.typeMismatch name expected found)) ∧
    ∀ visible lines name expected found,
      ((typed visible lines).outcome = .error (.typeMismatch name expected found) ↔
        ∃ p before, StopsAt (terminal visible) mode overrides lines p before
          (.typeMismatch name expected found) params) ∧
      ∀ p before, StopsAt (terminal visible) mode overrides lines p before
          (.typeMismatch name expected found) params →
        expected = p.type.kind ∧ Mistyped overrides before p name found ∧
          ∀ question ∈ (typed visible lines).questions, question.name ≠ p.name := by
  intro run typed
  refine ⟨?_, ?_, ?_, ?_⟩
  · intro p suggested state answer htype h
    exact receive_of_prompt_integer htype h
  · intro visible p suggested lines answer h
    exact receive_of_prompt (terminal_answersText visible) h
  · intro name expected found
    exact ⟨exists_stopsAt_mismatch_iff, fun p before hstops => hstops.endsMistyped⟩
  · intro visible lines name expected found
    have hraises : ¬ (terminal visible).Raises (.typeMismatch name expected found) := by
      intro h
      obtain ⟨fault, hfault⟩ := terminal_raises h
      cases hfault
    exact ⟨exists_stopsAt_mismatch_iff, fun p before hstops =>
      hstops.endsMistyped.mistyped (terminal_answersText visible) hraises⟩

/-- An integer, and behind it a text. A script that is asked for the integer twice and answers the
    question for the text with an integer ends the pass there. At a terminal a line of digits is a
    text where one is asked for; a default that is none ends the pass, and nothing is asked about
    its parameter. -/
theorem resolve_mismatch_answered :
    let size : Parameter := .plain .integer "SIZE"
    let host : Parameter := .plain .text "HOST"
    let node := host.withDefault (.integer 4)
    let script : Script := [some (.text "many"), some (.integer 3), some (.integer 4)]
    let lines := ["3", "4"]
    let settled := Bindings.ofList [("SIZE", .integer 3)]
    let mismatch := Failure.typeMismatch "HOST" .text (.integer 4)
    let run := resolve scripted .interactive [size, host] .empty script
    let typed := resolve (terminal true) .interactive [size, node] .empty lines
    (prompt scripted size none script).outcome = .ok (.integer 3) ∧
      size.receive (.integer 3) = .ok (.integer 3) ∧
      (prompt (terminal true) host none ["4"]).outcome = .ok (.text "4") ∧
      host.receive (.text "4") = .ok (.text "4") ∧
      StopsAt scripted .interactive .empty script host settled mismatch [size, host] ∧
      run.outcome = .error mismatch ∧ "HOST" ∈ run.questions.map Question.name ∧
      EndsMistyped scripted .empty settled host run.questions script mismatch ∧
      StopsAt (terminal true) .interactive .empty lines node settled mismatch [size, node] ∧
      typed.outcome = .error mismatch ∧ Mistyped .empty settled node "HOST" (.integer 4) ∧
      ∀ question ∈ typed.questions, question.name ≠ "HOST" := by
  intro size host node script lines settled mismatch run typed
  obtain ⟨hinteger, -, hstops, -⟩ :=
    resolve_mismatch scripted .interactive [size, host] .empty script
  obtain ⟨-, hterminal, -, htyped⟩ :=
    resolve_mismatch scripted .interactive [size, node] .empty script
  have hsize : (prompt scripted size none script).outcome = .ok (.integer 3) := rfl
  have hhost : (prompt (terminal true) host none ["4"]).outcome = .ok (.text "4") := rfl
  have hscript : StopsAt scripted .interactive .empty script host settled mismatch
      ([size] ++ [host]) := .mk (by decide) rfl rfl
  have hfront : (resolve (terminal true) .interactive [.plain .integer "SIZE"] .empty
      ["3", "4"]).outcome = .ok (.ofList [("SIZE", .integer 3)]) := rfl
  have hlines : StopsAt (terminal true) .interactive .empty lines node settled mismatch
      ([size] ++ [node]) := .mk (by decide) hfront rfl
  obtain ⟨-, hmistyped, hunasked⟩ := (htyped true lines _ _ _).2 _ _ hlines
  exact ⟨hsize, hinteger _ _ _ _ rfl hsize, hhost, hterminal _ _ _ _ _ hhost, hscript,
    (hstops _ _ _).1.2 ⟨_, _, hscript⟩, by decide, (hstops _ _ _).2 _ _ hscript, hlines,
    (htyped true lines _ _ _).1.2 ⟨_, _, hlines⟩, hmistyped, hunasked⟩

end Provision
