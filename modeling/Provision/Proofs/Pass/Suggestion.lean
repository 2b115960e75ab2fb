import Provision.Proofs.Pass.Replay

/-!
# Passes in which every suggestion is accepted

A user who accepts every suggestion gets what a pass without questions gives: the same values, or
the same failure. Only for a parameter without a default the failures differ, because there the
user is asked and has nothing to accept.

Results:

* `Failure.accepted`: what a failure of a pass without questions becomes.
* `outcome_settleAll_accepted`: the outcomes of the two passes, step by step.
* `resolve_accepted`: a pass in which a script accepts every suggestion ends like the pass without
  questions.
-/

namespace Provision

/-- The failure of a pass with accepted suggestions that stands in the place of a failure of a
    pass without questions. -/
def Failure.accepted : Failure → Failure
  | .missingValue name => .prompt (.noDefault name)
  | failure => failure

theorem Failure.accepted_of_ne {failure : Failure}
    (h : ∀ name, failure ≠ .missingValue name) : failure.accepted = failure := by
  cases failure with
  | missingValue name => exact absurd rfl (h name)
  | _ => rfl

/-- A script accepts the suggestions for all parameters without an override, which are entered as
    texts. -/
structure AcceptsAll (overrides : Bindings) (params : List Parameter) (script : Script) :
    Prop where
  accepting : ∀ answer ∈ script, answer = none
  enough : params.countP (isOpen overrides) ≤ script.length
  inputKind : ∀ p ∈ params, isOpen overrides p = true → p.inputKind = .text

namespace AcceptsAll

variable {overrides : Bindings} {p : Parameter} {rest : List Parameter} {script : Script}

theorem of_closed (h : AcceptsAll overrides (p :: rest) script) (hp : isOpen overrides p = false) :
    AcceptsAll overrides rest script where
  accepting := h.accepting
  enough := by
    have henough := h.enough
    rwa [List.countP_cons_of_neg (by simp [hp])] at henough
  inputKind q hq := h.inputKind q (List.mem_cons_of_mem _ hq)

theorem of_open (h : AcceptsAll overrides (p :: rest) script) (hp : isOpen overrides p = true) :
    ∃ answers, script = none :: answers ∧ AcceptsAll overrides rest answers := by
  have henough := h.enough
  rw [List.countP_cons_of_pos hp] at henough
  cases script with
  | nil => simp at henough
  | cons answer answers =>
    obtain rfl : answer = none := h.accepting answer (by simp)
    refine ⟨answers, rfl, fun a ha => h.accepting a (List.mem_cons_of_mem _ ha), ?_,
      fun q hq => h.inputKind q (List.mem_cons_of_mem _ hq)⟩
    exact Nat.le_of_succ_le_succ henough

end AcceptsAll

/-! ## Prompts -/

variable {p : Parameter}

/-- An accepted suggestion is the answer, and takes one answer from the script. -/
theorem prompt_suggestion {value : Scalar} (hinput : p.inputKind = .text)
    (hkind : value.kind = p.type.kind) (answers : Script) :
    (prompt scripted p (some value) (none :: answers)).outcome = .ok value ∧
      (prompt scripted p (some value) (none :: answers)).state = answers := by
  have haccepts : scripted.Accepts 1 (none :: answers) := scripted_accepts 1 answers
  obtain ⟨hprompt, -⟩ := prompt_of_accepts haccepts hinput hkind
  rw [hprompt]
  exact ⟨rfl, rfl⟩

theorem prompt_noDefault (hinput : p.inputKind = .text) (answers : Script) :
    (prompt scripted p none (none :: answers)).outcome = .error (.prompt (.noDefault p.name)) := by
  have hanswer : ∀ kind, (ask scripted (p.question kind none) (none :: answers)).outcome =
      .error (.prompt (.noDefault p.name)) := fun _ => rfl
  cases hp : p.type with
  | text =>
    rw [prompt_of_text hp hinput]
    exact hanswer .text
  | integer =>
    have hpatience : scripted.patience (none :: answers) = answers.length + 1 + 1 := rfl
    rw [prompt_of_integer hp hinput, hpatience, askInteger,
      Run.andThen_of_error (hanswer .number)]

/-! ## One parameter -/

section

variable {σ : Type} {prompter : Prompter σ} {state : σ} {overrides settled : Bindings}
  {rest params : List Parameter} {script : Script}

theorem Parameter.accepted_of_receive {v : Scalar} {failure : Failure}
    (h : p.receive v = .error failure) : failure.accepted = failure := by
  rw [Parameter.receive_error h]
  rfl

theorem accepted_of_defaultOf {failure : Failure} (h : defaultOf p settled = .error failure) :
    failure.accepted = failure := by
  obtain ⟨found, rfl⟩ | ⟨source, -, -, hfailure⟩ := defaultOf_error h
  · rfl
  · cases hfailure <;> rfl

/-- The two ways to settle a parameter end alike, and the rest of the script accepts the
    suggestions for the parameters behind. -/
theorem settle_accepted (prompter : Prompter σ) (settled : Bindings) (state : σ)
    (h : AcceptsAll overrides (p :: rest) script) :
    let quiet := settle prompter .nonInteractive overrides p settled state
    let asked := settle scripted .interactive overrides p settled script
    (∃ value source source', quiet.outcome = .ok (value, source) ∧
        asked.outcome = .ok (value, source') ∧ AcceptsAll overrides rest asked.state) ∨
      ∃ failure, quiet.outcome = .error failure ∧ asked.outcome = .error failure.accepted := by
  intro quiet asked
  cases hgiven : overrides.get? p.name with
  | some given =>
    have hquiet : quiet = .ended ((p.receive given).map (·, .override)) state :=
      settle_override hgiven _ _ _ _
    have hasked : asked = .ended ((p.receive given).map (·, .override)) script :=
      settle_override hgiven _ _ _ _
    rw [hquiet, hasked]
    -- Both passes take the override, and the script keeps all of its answers.
    cases hreceive : p.receive given with
    | error failure =>
      have hfailure : failure.accepted = failure := Parameter.accepted_of_receive hreceive
      exact Or.inr ⟨failure, rfl, by rw [hfailure]; rfl⟩
    | ok value =>
      exact Or.inl ⟨value, .override, .override, rfl, rfl, h.of_closed (by simp [isOpen, hgiven])⟩
  | none =>
    have hopen : isOpen overrides p = true := by simp [isOpen, hgiven]
    have hinput : p.inputKind = .text := h.inputKind p (by simp) hopen
    obtain ⟨answers, rfl, hrest⟩ := h.of_open hopen
    cases hdefault : defaultOf p settled with
    | error failure =>
      have hfailure : failure.accepted = failure := accepted_of_defaultOf hdefault
      refine Or.inr ⟨failure, ?_, ?_⟩
      · simp [quiet, settle, hgiven, hdefault]
      · simp [asked, settle, hgiven, hdefault, hfailure]
    | ok default =>
      have hquiet : quiet = settleDefault prompter .nonInteractive p default state :=
        settle_of_default hgiven hdefault state
      have hasked : asked = settleDefault scripted .interactive p default (none :: answers) :=
        settle_of_default hgiven hdefault _
      rw [hquiet, hasked]
      cases default with
      | none =>
        -- Here alone the failures differ.
        refine Or.inr ⟨.missingValue p.name, rfl, ?_⟩
        rw [settleDefault, Run.andThen_of_error (prompt_noDefault hinput answers)]
        rfl
      | some value =>
        -- The default has been received once, so that the check of the answer lets it pass.
        obtain ⟨v, hreceive⟩ := receive_of_defaultOf hdefault
        have hkind : value.kind = p.type.kind := Parameter.kind_of_receive hreceive
        obtain ⟨houtcome, hstate⟩ := prompt_suggestion hinput hkind answers
        refine Or.inl ⟨value, .default, .prompt, rfl, ?_, ?_⟩
        · rw [settleDefault, Run.andThen_of_ok houtcome, Parameter.receive_of_kind hkind]
          rfl
        · rw [settleDefault, Run.andThen_of_ok houtcome, hstate]
          exact hrest

/-! ## A whole pass -/

/-- A pass in which every suggestion is accepted ends like the pass without questions. -/
theorem outcome_settleAll_accepted (h : AcceptsAll overrides params script) :
    (settleAll scripted .interactive overrides params settled script).outcome =
      (settleAll prompter .nonInteractive overrides params settled state).outcome.mapError
        Failure.accepted := by
  induction params generalizing settled state script with
  | nil => rfl
  | cons p rest ih =>
    rw [settleAll, settleAll]
    obtain ⟨value, source, source', hquiet, hasked, hrest⟩ | ⟨failure, hquiet, hasked⟩ :=
      settle_accepted prompter settled state h
    · rw [Run.andThen_of_ok hquiet, Run.andThen_of_ok hasked]
      exact ih hrest
    · rw [Run.andThen_of_error hquiet, Run.andThen_of_error hasked]
      rfl

theorem outcome_resolve_accepted (h : AcceptsAll overrides params script) :
    (resolve scripted .interactive params overrides script).outcome =
      (resolve prompter .nonInteractive params overrides state).outcome.mapError
        Failure.accepted := by
  cases hrepeated : firstRepeated? [] (params.map Parameter.name) with
  | some name =>
    rw [resolve_duplicate hrepeated, resolve_duplicate hrepeated]
    rfl
  | none =>
    have hnd := (firstRepeated?_eq_none_iff.1 hrepeated).1
    rw [resolve_eq_settleAll hnd, resolve_eq_settleAll hnd]
    exact outcome_settleAll_accepted h

/-- **Accepted suggestions.** If the parameters without an override are entered as texts, and a
    script accepts the suggestion for each of them, a pass with questions gives some values exactly
    if the pass without questions does. Where that misses a value, the user has no default to
    accept; every other failure is the same in both passes. -/
theorem resolve_accepted (prompter : Prompter σ) (state : σ)
    (haccepting : ∀ answer ∈ script, answer = none)
    (henough : params.countP (isOpen overrides) ≤ script.length)
    (hinput : ∀ p ∈ params, isOpen overrides p = true → p.inputKind = .text) :
    let quiet := (resolve prompter .nonInteractive params overrides state).outcome
    let asked := (resolve scripted .interactive params overrides script).outcome
    (∀ values, asked = .ok values ↔ quiet = .ok values) ∧
      (∀ name, quiet = .error (.missingValue name) → asked = .error (.prompt (.noDefault name))) ∧
      ∀ failure, quiet = .error failure → (∀ name, failure ≠ .missingValue name) →
        asked = .error failure := by
  intro quiet asked
  have hasked : asked = quiet.mapError Failure.accepted :=
    outcome_resolve_accepted ⟨haccepting, henough, hinput⟩
  refine ⟨fun values => ?_, fun name hquiet => ?_, fun failure hquiet hne => ?_⟩
  · rw [hasked, Except.mapError_eq_ok_iff]
  · rw [hasked, hquiet]
    rfl
  · rw [hasked]
    exact Except.mapError_eq_error_iff.2 ⟨failure, hquiet, Failure.accepted_of_ne hne⟩

/-- Accepted defaults, a parameter without one, and a template that refers to nothing. -/
theorem resolve_accepted_defaults :
    let zone := (Parameter.plain .text "ZONE").withDefault (.text "eu")
    let host := (Parameter.plain .text "HOST").withDefault (.text "\x7b\x7b params.ZONE \x7d\x7d-1")
    let size := Parameter.plain .integer "SIZE"
    let run := fun params => (resolve scripted .interactive params .empty [none, none]).outcome
    run [zone, host] = .ok (Bindings.ofList [("ZONE", .text "eu"), ("HOST", .text "eu-1")]) ∧
      run [zone, size] = .error (.prompt (.noDefault "SIZE")) ∧
      run [host, zone] =
        .error (.missingDependency "\x7b\x7b params.ZONE \x7d\x7d-1" "ZONE") := by
  intro zone host size run
  have haccepting : ∀ answer ∈ ([none, none] : Script), answer = none := by decide
  refine ⟨?_, ?_, ?_⟩
  · exact ((resolve_accepted scripted [] haccepting (by decide) (by decide)).1 _).2 rfl
  · exact (resolve_accepted scripted [] haccepting (by decide) (by decide)).2.1 _ rfl
  · exact (resolve_accepted scripted [] haccepting (by decide) (by decide)).2.2 _ rfl (by simp)

end

end Provision
