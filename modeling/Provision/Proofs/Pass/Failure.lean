import Provision.Dialogue.Script
import Provision.Dialogue.Terminal
import Provision.Proofs.Pass.Default
import Provision.Proofs.Pass.Settled

/-!
# Failures of a pass

A parameter is left without a value in one of five ways: its override is refused, its default cannot
be computed, there is no default and nobody may be asked, its prompt fails, or the answer is
refused. That a name is repeated is none of them: it is found before the first parameter is settled,
or else it is what the prompter says.

Results:

* `Fails`, `outcome_settle_eq_error_iff`: the ways in which the settling of a parameter fails.
* `StopsAt`, `outcome_resolve_eq_error_iff`: the parameter at which a pass fails.
* `Prompter.Raises`: the failures with which a prompter answers.
* `raises_of_resolve_duplicate`: a pass over distinct names finds no name repeated.
* `resolve_duplicate_iff`: the name that a pass finds repeated.
-/

namespace Provision

variable {σ : Type} {prompter : Prompter σ} {mode : Mode} {overrides settled : Bindings}
  {p : Parameter} {params : List Parameter} {state : σ} {failure : Failure} {name : String}

/-! ## One parameter -/

theorem Parameter.receive_eq_error_iff {v : Scalar} :
    p.receive v = .error failure ↔
      p.conforms v = false ∧ failure = .typeMismatch p.name p.type.kind v := by
  constructor
  · intro h
    refine ⟨?_, Parameter.receive_error h⟩
    rw [← Bool.not_eq_true, Parameter.conforms_iff]
    rintro ⟨taken, htaken⟩
    rw [Parameter.receive_eq_ok_iff_takes.2 htaken] at h
    cases h
  · rintro ⟨hconforms, rfl⟩
    exact Parameter.receive_of_conforms_eq_false hconforms

/-- The ways in which a parameter is left without a value, each with its failure. -/
inductive Fails (prompter : Prompter σ) (mode : Mode) (overrides settled : Bindings)
    (p : Parameter) (state : σ) : Failure → Prop where
  | override {given : Scalar} : overrides.get? p.name = some given → p.conforms given = false →
      Fails prompter mode overrides settled p state (.typeMismatch p.name p.type.kind given)
  | default {failure : Failure} : overrides.get? p.name = none →
      defaultOf p settled = .error failure →
      Fails prompter mode overrides settled p state failure
  | unasked : overrides.get? p.name = none → p.default = none → mode = .nonInteractive →
      Fails prompter mode overrides settled p state (.missingValue p.name)
  | prompt {suggested : Option Scalar} {failure : Failure} : overrides.get? p.name = none →
      defaultOf p settled = .ok suggested → mode = .interactive →
      (prompt prompter p suggested state).outcome = .error failure →
      Fails prompter mode overrides settled p state failure
  | answer {suggested : Option Scalar} {answer : Scalar} : overrides.get? p.name = none →
      defaultOf p settled = .ok suggested → mode = .interactive →
      (prompt prompter p suggested state).outcome = .ok answer → p.conforms answer = false →
      Fails prompter mode overrides settled p state (.typeMismatch p.name p.type.kind answer)

theorem fails_of_settle
    (h : (settle prompter mode overrides p settled state).outcome = .error failure) :
    Fails prompter mode overrides settled p state failure := by
  unfold settle at h
  split at h
  · next given hgiven =>
    obtain ⟨hconforms, rfl⟩ := Parameter.receive_eq_error_iff.1 (Except.map_eq_error_iff.1 h)
    exact .override hgiven hconforms
  · next hnone =>
    split at h
    · next hdefault =>
      cases h
      exact .default hnone hdefault
    · next suggested hdefault =>
      cases mode with
      | interactive =>
        rcases Run.outcome_andThen_eq_error_iff.1 h with h | ⟨answer, hanswer, h⟩
        · exact .prompt hnone hdefault rfl h
        · obtain ⟨hconforms, rfl⟩ := Parameter.receive_eq_error_iff.1 (Except.map_eq_error_iff.1 h)
          exact .answer hnone hdefault rfl hanswer hconforms
      | nonInteractive =>
        cases suggested with
        | none =>
          cases h
          exact .unasked hnone (defaultOf_eq_none_iff.1 hdefault) rfl
        | some value => cases h

/-- The settling of a parameter fails in exactly these ways. -/
theorem outcome_settle_eq_error_iff :
    (settle prompter mode overrides p settled state).outcome = .error failure ↔
      Fails prompter mode overrides settled p state failure := by
  refine ⟨fails_of_settle, fun h => ?_⟩
  cases h with
  | override hgiven hconforms =>
    rw [settle_override hgiven, Parameter.receive_of_conforms_eq_false hconforms]
    rfl
  | default hnone hdefault => simp [settle, hnone, hdefault]
  | unasked hnone hdefault hmode =>
    simp [settle, settleDefault, hnone, defaultOf_eq_none_iff.2 hdefault, hmode]
  | prompt hnone hdefault hmode hprompt =>
    simp only [settle, hnone, hdefault, settleDefault, hmode]
    exact Run.outcome_andThen_eq_error_iff.2 (Or.inl hprompt)
  | answer hnone hdefault hmode hanswer hconforms =>
    simp only [settle, hnone, hdefault, settleDefault, hmode]
    refine Run.outcome_andThen_eq_error_iff.2 (Or.inr ⟨_, hanswer, ?_⟩)
    rw [Parameter.receive_of_conforms_eq_false hconforms]
    rfl

/-! ## Where a pass fails -/

/-- A pass over distinct names stops at a parameter: those in front of it have their values, and
    settling it against these fails. -/
inductive StopsAt (prompter : Prompter σ) (mode : Mode) (overrides : Bindings) (state : σ)
    (p : Parameter) (before : Bindings) (failure : Failure) : List Parameter → Prop where
  | mk {front rest : List Parameter} : ((front ++ p :: rest).map Parameter.name).Nodup →
      (resolve prompter mode front overrides state).outcome = .ok before →
      (settle prompter mode overrides p before
        (resolve prompter mode front overrides state).state).outcome = .error failure →
      StopsAt prompter mode overrides state p before failure (front ++ p :: rest)

/-- A pass over distinct names fails exactly as settling the parameter does at which it stops. -/
theorem outcome_resolve_eq_error_iff (hnd : (params.map Parameter.name).Nodup) :
    (resolve prompter mode params overrides state).outcome = .error failure ↔
      ∃ p before, StopsAt prompter mode overrides state p before failure params := by
  constructor
  · intro h
    obtain ⟨front, p, rest, before, rfl, hbefore, hsettle⟩ := exists_front_of_resolve_error hnd h
    exact ⟨p, before, .mk hnd hbefore hsettle⟩
  · rintro ⟨p, before, hnd, hbefore, hsettle⟩
    rw [resolve_of_settle_error hnd hbefore hsettle]

/-! ## Failures of prompters -/

/-- The prompter fails with this where it answers some question. -/
def Prompter.Raises (prompter : Prompter σ) (failure : Failure) : Prop :=
  ∃ question state, (prompter.answer question state).1 = .error failure

/-- A script fails only because there is no answer left, or no default to accept. -/
theorem scripted_raises (h : scripted.Raises failure) : ∃ fault, failure = .prompt fault := by
  obtain ⟨question, script, h⟩ := h
  match script with
  | [] =>
    cases h
    exact ⟨_, rfl⟩
  | some value :: rest => cases h
  | none :: rest =>
    cases hdefault : question.default with
    | none =>
      simp only [scripted, Script.answer, hdefault, Except.error.injEq] at h
      exact ⟨_, h.symm⟩
    | some value => simp [scripted, Script.answer, hdefault] at h

/-- A terminal fails only because no line is left, or because nothing can be seen. -/
theorem terminal_raises {visible : Bool} (h : (terminal visible).Raises failure) :
    ∃ fault, failure = .prompt fault := by
  obtain ⟨question, lines, h⟩ := h
  cases visible with
  | false =>
    cases h
    exact ⟨_, rfl⟩
  | true =>
    cases lines with
    | nil =>
      cases h
      exact ⟨_, rfl⟩
    | cons line rest => cases h

/-! ## Repeated names -/

/-- Where a parameter is settled, a repeated name is found by the prompter alone. -/
theorem raises_of_settle_duplicate
    (h : (settle prompter mode overrides p settled state).outcome =
      .error (.duplicateParameter name)) :
    prompter.Raises (.duplicateParameter name) := by
  cases fails_of_settle h with
  | default _ hdefault =>
    rcases defaultOf_error hdefault with ⟨found, hmismatch⟩ | ⟨source, -, -, hfailure⟩
    · cases hmismatch
    · cases hfailure
  | prompt _ _ _ hprompt =>
    rcases prompt_error hprompt with hselect | hpatience | ⟨_, -, hanswer⟩
    · cases hselect
    · cases hpatience
    · exact ⟨_, _, hanswer⟩

theorem raises_of_resolve_duplicate (hnd : (params.map Parameter.name).Nodup)
    (h : (resolve prompter mode params overrides state).outcome =
      .error (.duplicateParameter name)) :
    prompter.Raises (.duplicateParameter name) := by
  obtain ⟨front, p, rest, before, -, -, hsettle⟩ := exists_front_of_resolve_error hnd h
  exact raises_of_settle_duplicate hsettle

/-- A pass finds the first name that has been mentioned before. -/
theorem resolve_duplicate_iff (hprompter : ¬ prompter.Raises (.duplicateParameter name)) :
    (resolve prompter mode params overrides state).outcome = .error (.duplicateParameter name) ↔
      firstRepeated? [] (params.map Parameter.name) = some name := by
  cases hrepeated : firstRepeated? [] (params.map Parameter.name) with
  | some other => simp [resolve_duplicate hrepeated]
  | none =>
    have hnd : (params.map Parameter.name).Nodup := (firstRepeated?_eq_none_iff.1 hrepeated).1
    simp only [reduceCtorEq, iff_false]
    exact fun h => hprompter (raises_of_resolve_duplicate hnd h)

end Provision
