import Provision.Proofs.Pass.Failure

/-!
# Names that are missing

A template is missing a name that it mentions if no parameter in front has this name. The names
mentioned are looked at before the template is evaluated, so that the evaluation never meets a name
without a value, and before anyone is asked. Which name is missing shows in the declarations and in
the names of the overrides alone: the values that are settled on the way do not count.

Results:

* `Unmet`: the parameters at which a pass is missing a name.
* `unmet_keys_iff`: exactly these have a default that is missing a name.
* `evaluate_ne_missingDependency`: an evaluation is never missing a name that was looked at.
* `resolve_of_unmet`: a pass that comes to such a parameter ends there.
* `resolve_missingDependency`: where and how a pass is missing a name, and what does not count.
-/

namespace Provision

/-- A parameter without an override whose default is a template, and the first name that this
    mentions and no parameter in front has. -/
structure Unmet (overridden front : List String) (p : Parameter)
    (expression dependency : String) : Prop where
  notOverridden : p.name ∉ overridden
  default : p.default = some (.text expression)
  isTemplate : isTemplate expression.toList = true
  first : (mentions expression).find? (fun name => decide (name ∉ front)) = some dependency

/-- None of the answers is that a name is missing. -/
def Prompter.NeverMissing {σ : Type} (prompter : Prompter σ) : Prop :=
  ∀ question state expression dependency,
    (prompter.answer question state).1 ≠ .error (.missingDependency expression dependency)

theorem scripted_neverMissing : scripted.NeverMissing := by
  intro question state expression dependency h
  obtain ⟨fault, hfault⟩ := scripted_raises ⟨question, state, h⟩
  cases hfault

theorem terminal_neverMissing (visible : Bool) : (terminal visible).NeverMissing := by
  intro question state expression dependency h
  obtain ⟨fault, hfault⟩ := terminal_raises ⟨question, state, h⟩
  cases hfault

variable {σ τ : Type} {prompter : Prompter σ} {prompter' : Prompter τ} {mode mode' : Mode}
  {overrides overrides' settled before : Bindings} {state : σ} {state' : τ}
  {front rest front' rest' params : List Parameter} {p p' : Parameter}
  {expression dependency expression' dependency' : String}

/-! ## One parameter -/

theorem firstMissing?_eq_find? (source : String) (settled : Bindings) :
    firstMissing? source settled =
      (mentions source).find? fun name => decide (name ∉ settled.keys) := by
  have hbound : ∀ name, (!settled.contains name) = decide (name ∉ settled.keys) := by
    intro name
    simp only [← Bindings.get?_eq_none_iff, Bindings.contains]
    cases settled.get? name <;> simp
  simp only [firstMissing?, hbound]

/-- An evaluation is never missing a name: the name would have been among those looked at. -/
theorem evaluate_ne_missingDependency {source : String} {type : ParameterType}
    (h : firstMissing? source settled = none) :
    evaluate (.text source) type settled ≠ .error (.missingDependency expression dependency) := by
  intro hmissing
  obtain ⟨-, hmentions, hnone⟩ := evaluate_missingDependency hmissing
  simp [firstMissing?, hmentions, Bindings.contains, hnone] at h

theorem defaultOf_missingDependency_iff :
    defaultOf p settled = .error (.missingDependency expression dependency) ↔
      p.default = some (.text expression) ∧ isTemplate expression.toList = true ∧
        firstMissing? expression settled = some dependency := by
  constructor
  · intro h
    rcases defaultOf_error h with ⟨found, hmismatch⟩ | ⟨source, hdefault, htemplate, -⟩
    · cases hmismatch
    · simp only [defaultOf, hdefault, defaultValue, htemplate, if_true] at h
      cases hfirst : firstMissing? source settled with
      | some name =>
        simp only [hfirst, Except.error.injEq, Failure.missingDependency.injEq] at h
        obtain ⟨rfl, rfl⟩ := h
        exact ⟨hdefault, htemplate, hfirst⟩
      | none =>
        simp only [hfirst] at h
        split at h
        · next hevaluate =>
          cases h
          exact absurd hevaluate (evaluate_ne_missingDependency hfirst)
        · rw [Except.map_eq_error_iff] at h
          cases Parameter.receive_error h
  · rintro ⟨hdefault, htemplate, hfirst⟩
    simp [defaultOf, hdefault, defaultValue, htemplate, hfirst]

/-- Against the values found so far, exactly the unmet parameters have a default that is missing a
    name. -/
theorem unmet_keys_iff :
    Unmet overrides.keys settled.keys p expression dependency ↔
      overrides.get? p.name = none ∧
        defaultOf p settled = .error (.missingDependency expression dependency) := by
  rw [defaultOf_missingDependency_iff, firstMissing?_eq_find?, Bindings.get?_eq_none_iff]
  constructor
  · rintro ⟨hoverridden, hdefault, htemplate, hfirst⟩
    exact ⟨hoverridden, hdefault, htemplate, hfirst⟩
  · rintro ⟨hoverridden, hdefault, htemplate, hfirst⟩
    exact ⟨hoverridden, hdefault, htemplate, hfirst⟩

theorem settle_of_unmet (h : Unmet overrides.keys settled.keys p expression dependency)
    (prompter : Prompter σ) (mode : Mode) (state : σ) :
    settle prompter mode overrides p settled state =
      .failed (.missingDependency expression dependency) state := by
  obtain ⟨hnone, hdefault⟩ := unmet_keys_iff.1 h
  simp [settle, hnone, hdefault]

theorem unmet_of_settle (hprompter : prompter.NeverMissing)
    (h : (settle prompter mode overrides p settled state).outcome =
      .error (.missingDependency expression dependency)) :
    Unmet overrides.keys settled.keys p expression dependency := by
  rw [unmet_keys_iff]
  cases fails_of_settle h with
  | default hnone hdefault => exact ⟨hnone, hdefault⟩
  | prompt _ _ _ hprompt =>
    rcases prompt_error hprompt with hselect | hpatience | ⟨_, -, hanswer⟩
    · cases hselect
    · cases hpatience
    · exact absurd hanswer (hprompter _ _ _ _)

/-! ## A pass -/

theorem Unmet.congr (h : Unmet overrides.keys (front.map Parameter.name) p expression dependency)
    (hsame : p.name ∈ overrides'.keys ↔ p.name ∈ overrides.keys) :
    Unmet overrides'.keys (front.map Parameter.name) p expression dependency :=
  ⟨fun hmem => h.notOverridden (hsame.1 hmem), h.default, h.isTemplate, h.first⟩

/-- A pass that comes to an unmet parameter ends there: it leaves behind what the pass over the
    parameters in front does. -/
theorem resolve_of_unmet (hnd : ((front ++ p :: rest).map Parameter.name).Nodup)
    (hbefore : (resolve prompter mode front overrides state).outcome = .ok before)
    (h : Unmet overrides.keys (front.map Parameter.name) p expression dependency) :
    resolve prompter mode (front ++ p :: rest) overrides state =
      let run := resolve prompter mode front overrides state
      ⟨.error (.missingDependency expression dependency), run.state, run.events⟩ := by
  rw [← keys_of_resolve hbefore] at h
  have hsettle : ∀ state, settle prompter mode overrides p before state =
      .failed (.missingDependency expression dependency) state :=
    settle_of_unmet h prompter mode
  have herror : ∀ state, (settle prompter mode overrides p before state).outcome =
      .error (.missingDependency expression dependency) := by
    intro state
    rw [hsettle, Run.outcome_failed]
  simp [resolve_of_settle_error hnd hbefore (herror _), hsettle, Run.failed]

theorem outcome_resolve_ne_ok_of_unmet
    (h : Unmet overrides.keys (front.map Parameter.name) p expression dependency)
    (values : Bindings) :
    (resolve prompter mode (front ++ p :: rest) overrides state).outcome ≠ .ok values := by
  intro hok
  obtain ⟨before, -, hbefore, -⟩ := exists_front_of_resolve hok
  rw [resolve_of_unmet (outcome_resolve_eq_ok_iff.1 hok).1 hbefore h] at hok
  cases hok

theorem name_ne_of_mem_questions_of_unmet (hnd : ((front ++ p :: rest).map Parameter.name).Nodup)
    (hbefore : (resolve prompter mode front overrides state).outcome = .ok before)
    (h : Unmet overrides.keys (front.map Parameter.name) p expression dependency)
    {question : Question}
    (hquestion : question ∈
      (resolve prompter mode (front ++ p :: rest) overrides state).questions) :
    question.name ≠ p.name := by
  rw [resolve_of_unmet hnd hbefore h] at hquestion
  have hfront : question ∈ (resolve prompter mode front overrides state).questions := hquestion
  exact name_ne_of_mem_questions_front hnd hfront

/-- Where a pass is missing a name, it has come to an unmet parameter. -/
theorem exists_unmet_of_resolve (hprompter : prompter.NeverMissing)
    (hnd : (params.map Parameter.name).Nodup)
    (h : (resolve prompter mode params overrides state).outcome =
      .error (.missingDependency expression dependency)) :
    ∃ front p rest before, params = front ++ p :: rest ∧
      (resolve prompter mode front overrides state).outcome = .ok before ∧
      Unmet overrides.keys (front.map Parameter.name) p expression dependency := by
  obtain ⟨front, p, rest, before, hsplit, hbefore, hsettle⟩ := exists_front_of_resolve_error hnd h
  refine ⟨front, p, rest, before, hsplit, hbefore, ?_⟩
  rw [← keys_of_resolve hbefore]
  exact unmet_of_settle hprompter hsettle

/-! ## Two passes -/

/-- A pass that succeeds does not go beyond an unmet parameter. -/
theorem length_le_of_unmet (hsplit : front ++ p :: rest = front' ++ p' :: rest')
    (h : Unmet overrides.keys (front.map Parameter.name) p expression dependency)
    (hbefore : (resolve prompter mode front' overrides state).outcome = .ok before) :
    front'.length ≤ front.length := by
  rcases List.append_eq_append_iff.1 hsplit with ⟨between, rfl, hrest⟩ | ⟨between, rfl, -⟩
  · cases between with
    | nil => simp
    | cons q between =>
      rw [List.cons_append, List.cons.injEq] at hrest
      obtain ⟨rfl, -⟩ := hrest
      exact absurd hbefore (outcome_resolve_ne_ok_of_unmet h _)
  · simp

/-- A pass with values for the same names is not missing another name. -/
theorem missing_unique (hprompter : prompter.NeverMissing) (hprompter' : prompter'.NeverMissing)
    (hnd : (params.map Parameter.name).Nodup)
    (hsame : ∀ p ∈ params, p.name ∈ overrides'.keys ↔ p.name ∈ overrides.keys)
    (h : (resolve prompter mode params overrides state).outcome =
      .error (.missingDependency expression dependency))
    (h' : (resolve prompter' mode' params overrides' state').outcome =
      .error (.missingDependency expression' dependency')) :
    expression' = expression ∧ dependency' = dependency := by
  obtain ⟨front, p, rest, before, rfl, hbefore, hunmet⟩ := exists_unmet_of_resolve hprompter hnd h
  obtain ⟨front', p', rest', before', hsplit, hbefore', hunmet'⟩ :=
    exists_unmet_of_resolve hprompter' hnd h'
  -- Neither of the passes gets beyond the parameter at which the other one has ended.
  have hle : front'.length ≤ front.length :=
    length_le_of_unmet hsplit (hunmet.congr (hsame p (by simp))) hbefore'
  have hge : front.length ≤ front'.length :=
    length_le_of_unmet hsplit.symm (hunmet'.congr (hsame p' (by simp [hsplit])).symm) hbefore
  obtain ⟨rfl, hrest⟩ := List.append_inj hsplit (Nat.le_antisymm hge hle)
  obtain ⟨rfl, -⟩ := List.cons.inj hrest
  obtain ⟨rfl⟩ := Option.some.inj (hunmet.default.symm.trans hunmet'.default)
  exact ⟨rfl, Option.some.inj (hunmet'.first.symm.trans hunmet.first)⟩

/-- **Missing names.** If a pass over distinct names is missing a name, and this is not what its
    prompter says, it has come to an unmet parameter; and a pass that comes to one ends there,
    before it asks about it, supported or not. An evaluation is never missing a name. A pass with
    values for the same names does not succeed either, whatever these values, the mode and the
    answers, and the name that it is missing, if it is missing one, is the same. -/
theorem resolve_missingDependency (hnd : (params.map Parameter.name).Nodup)
    (prompter : Prompter σ) (mode : Mode) (overrides : Bindings) (state : σ) :
    let run := fun params => resolve prompter mode params overrides state
    (scripted.NeverMissing ∧ ∀ visible, (terminal visible).NeverMissing) ∧
    (prompter.NeverMissing → ∀ expression dependency,
      (run params).outcome = .error (.missingDependency expression dependency) →
        ∃ front p rest before, params = front ++ p :: rest ∧ (run front).outcome = .ok before ∧
          Unmet overrides.keys (front.map Parameter.name) p expression dependency) ∧
    (∀ front p rest before expression dependency, params = front ++ p :: rest →
      (run front).outcome = .ok before →
      Unmet overrides.keys (front.map Parameter.name) p expression dependency →
        run params = ⟨.error (.missingDependency expression dependency), (run front).state,
          (run front).events⟩ ∧
        ∀ question ∈ (run params).questions, question.name ≠ p.name) ∧
    (∀ source type settled, firstMissing? source settled = none → ∀ expression dependency,
      evaluate (.text source) type settled ≠
        .error (.missingDependency expression dependency)) ∧
    (prompter.NeverMissing → ∀ expression dependency,
      (run params).outcome = .error (.missingDependency expression dependency) →
      ∀ {τ : Type} (prompter' : Prompter τ) (mode' : Mode) (overrides' : Bindings) (state' : τ),
        (∀ p ∈ params, p.name ∈ overrides'.keys ↔ p.name ∈ overrides.keys) →
          (∀ values, (resolve prompter' mode' params overrides' state').outcome ≠ .ok values) ∧
          (prompter'.NeverMissing → ∀ expression' dependency',
            (resolve prompter' mode' params overrides' state').outcome =
                .error (.missingDependency expression' dependency') →
              expression' = expression ∧ dependency' = dependency)) := by
  intro run
  refine ⟨⟨scripted_neverMissing, terminal_neverMissing⟩, ?_, ?_, ?_, ?_⟩
  · intro hprompter expression dependency h
    exact exists_unmet_of_resolve hprompter hnd h
  · rintro front p rest before expression dependency rfl hbefore hunmet
    exact ⟨resolve_of_unmet hnd hbefore hunmet,
      fun question => name_ne_of_mem_questions_of_unmet hnd hbefore hunmet⟩
  · intro source type settled hfirst expression dependency
    exact evaluate_ne_missingDependency hfirst
  · intro hprompter expression dependency h τ prompter' mode' overrides' state' hsame
    refine ⟨?_, fun hprompter' expression' dependency' h' =>
      missing_unique hprompter hprompter' hnd hsame h h'⟩
    obtain ⟨front, p, rest, -, rfl, -, hunmet⟩ := exists_unmet_of_resolve hprompter hnd h
    exact outcome_resolve_ne_ok_of_unmet (hunmet.congr (hsame p (by simp)))

/-- The second template is not supported, and mentions a parameter that comes behind it. That this
    one has an override does not help, nor does another value of it. -/
theorem resolve_missingDependency_unsupported :
    let source := "\x7b\x7b params.A \x7d\x7d\x7b\x7b params.C \x7d\x7d"
    let a := (Parameter.plain .text "A").withDefault (.text "x")
    let b := (Parameter.plain .text "B").withDefault (.text source)
    let params := [a, b, .plain .text "C"]
    let run := resolve scripted .interactive params (.ofList [("C", .text "c")])
      [none, some (.text "y")]
    pieces source = .error (.unsupportedExpression source .severalReferences) ∧
      run.outcome = .error (.missingDependency source "C") ∧ run.state = [some (.text "y")] ∧
      (∀ question ∈ run.questions, question.name ≠ "B") ∧
      ∀ values, (resolve (terminal true) .nonInteractive params (.ofList [("C", .text "d")])
        []).outcome ≠ .ok values := by
  intro source a b params run
  have hnd : (params.map Parameter.name).Nodup := by decide
  obtain ⟨⟨hscripted, -⟩, -, hends, -, hothers⟩ := resolve_missingDependency hnd scripted
    .interactive (.ofList [("C", .text "c")]) [none, some (.text "y")]
  have hunmet : Unmet ["C"] ["A"] b source "C" := ⟨by decide, rfl, by decide, by decide⟩
  obtain ⟨hrun, hquestions⟩ :=
    hends [a] b [.plain .text "C"] (.ofList [("A", .text "x")]) source "C" rfl rfl hunmet
  have houtcome : run.outcome = .error (.missingDependency source "C") :=
    congrArg Run.outcome hrun
  refine ⟨by decide, houtcome, congrArg Run.state hrun, hquestions, ?_⟩
  exact (hothers hscripted source "C" houtcome (terminal true) .nonInteractive
    (.ofList [("C", .text "d")]) [] fun _ _ => Iff.rfl).1

end Provision
