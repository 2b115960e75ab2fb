import Provision.Proofs.Dialogue.Acceptance
import Provision.Proofs.Pass.Default
import Provision.Proofs.Pass.Settled

/-!
# Passes that reproduce values

A pass with questions in which every suggestion is accepted gives the values of a pass without
questions, and asks about every parameter without an override once.

A pass gives some values again if each of them is an override, or the default of its parameter
and not a template. In the interactive mode the suggested defaults have to be accepted. A
default that is a template is never its own value.

Results:

* `isTemplate_of_defaultOf`, `defaultOf_literal`: exactly the literals are their own defaults.
* `defaultOf_of_settle`: what became of the default of a parameter without an override.
* `settle_of_acquiesces`, `resolve_of_acquiesces`: what a pass without questions gives is suggested,
  and given if that is accepted.
* `resolve_of_replays`: a pass whose parameters have their values gives these values, and
  suggests nothing else.
-/

namespace Provision

/-! ## Values as defaults -/

theorem isTemplate_of_defaultOf {p : Parameter} {settled : Bindings} {value : Scalar}
    (h : defaultOf p settled = .ok (some value)) : value.isTemplate = false := by
  obtain ⟨default, -, hdenotes⟩ := defaultOf_eq_some_iff.1 h
  exact hdenotes.isTemplate_eq_false

theorem defaultOf_literal {p : Parameter} {value : Scalar} (hkind : value.kind = p.type.kind)
    (hliteral : value.isTemplate = false) (settled : Bindings) :
    defaultOf (p.withDefault value) settled = .ok (some value) := by
  have htakes : (p.withDefault value).Takes value value :=
    Parameter.receive_eq_ok_iff_takes.1 (Parameter.receive_of_kind hkind)
  exact defaultOf_eq_some_iff.2 ⟨value, rfl, .literal hliteral htakes⟩

/-! ## One parameter -/

/-- The parameter has its value among the given ones as an override, or as a default that is
    not a template. -/
def Replays (overrides values : Bindings) (p : Parameter) : Prop :=
  ∃ value, values.get? p.name = some value ∧ value.kind = p.type.kind ∧
    (overrides.get? p.name = some value ∨
      overrides.get? p.name = none ∧ p.default = some value ∧ value.isTemplate = false)

section

variable {σ : Type} {prompter : Prompter σ} {mode : Mode} {overrides values : Bindings}

/-- Whether a parameter has no override. -/
def isOpen (overrides : Bindings) (p : Parameter) : Bool :=
  (overrides.get? p.name).isNone

/-- In the interactive mode the parameters without an override are entered as texts, and the
    prompter accepts a suggestion for each of them. -/
def Acquiesces (prompter : Prompter σ) (overrides : Bindings) (params : List Parameter)
    (state : σ) : Mode → Prop
  | .nonInteractive => True
  | .interactive =>
    (∀ p ∈ params, isOpen overrides p = true → p.inputKind = .text) ∧
      prompter.Accepts (params.countP (isOpen overrides)) state

theorem settle_of_override {p : Parameter} {value : Scalar} {state : σ}
    (hvalue : overrides.get? p.name = some value) (hkind : value.kind = p.type.kind)
    (settled : Bindings) :
    settle prompter mode overrides p settled state = .done (value, .override) state := by
  rw [settle_override hvalue, Parameter.receive_of_kind hkind]
  rfl

theorem settle_of_default {p : Parameter} {settled : Bindings} {default : Option Scalar}
    (hnone : overrides.get? p.name = none) (hdefault : defaultOf p settled = .ok default)
    (state : σ) :
    settle prompter mode overrides p settled state =
      settleDefault prompter mode p default state := by
  simp [settle, hnone, hdefault]

/-- Without an override the default of a parameter is its value, or it is suggested for it. -/
theorem defaultOf_of_settle {p : Parameter} {settled : Bindings} {state : σ}
    {found : Scalar × Source} (hnone : overrides.get? p.name = none)
    (h : (settle prompter mode overrides p settled state).outcome = .ok found) :
    ∃ default, defaultOf p settled = .ok default ∧
      (default = some found.1 ∨ p.question p.type.answerKind default ∈
        (settle prompter mode overrides p settled state).questions) := by
  cases hdefault : defaultOf p settled with
  | error failure => simp [settle, hnone, hdefault] at h
  | ok default =>
    refine ⟨default, rfl, ?_⟩
    rw [settle_of_default hnone hdefault] at h ⊢
    cases mode with
    | nonInteractive =>
      cases default with
      | none => cases h
      | some value =>
        cases h
        exact Or.inl rfl
    | interactive =>
      obtain ⟨answer, hanswer, -⟩ := Run.outcome_andThen_eq_ok_iff.1 h
      have hasked := mem_questions_of_prompt_ok hanswer
      right
      rw [settleDefault, Run.questions_andThen_of_ok hanswer]
      exact List.mem_append_left _ hasked

/-- What a pass without questions gives to a parameter without an override is suggested for it, and
    given to it when that is accepted. An override is never asked about, so that no acceptance is
    used up. -/
theorem settle_of_acquiesces {τ : Type} {quiet : Prompter τ} {start : τ} {p : Parameter}
    {rest : List Parameter} {settled : Bindings} {state : σ} {found : Scalar × Source}
    (hquiet : (settle quiet .nonInteractive overrides p settled start).outcome = .ok found)
    (hacquiesces : Acquiesces prompter overrides (p :: rest) state .interactive) :
    let run := settle prompter .interactive overrides p settled state
    run.outcome = .ok (found.1, if isOpen overrides p then .prompt else .override) ∧
      run.events = (if isOpen overrides p then
        [.asked (p.question p.type.answerKind (some found.1))] else []) ∧
      Acquiesces prompter overrides rest run.state .interactive := by
  intro run
  obtain ⟨hinput, haccepts⟩ := hacquiesces
  have hrest : ∀ q ∈ rest, isOpen overrides q = true → q.inputKind = .text :=
    fun q hq => hinput q (List.mem_cons_of_mem _ hq)
  obtain ⟨v, hreceive⟩ := receive_of_settle hquiet
  have hkind : found.1.kind = p.type.kind := Parameter.kind_of_receive hreceive
  cases hgiven : overrides.get? p.name with
  | some given =>
    have hclosed : isOpen overrides p = false := by simp [isOpen, hgiven]
    have hrun : run = .done (found.1, .override) state := by
      have hended : run = .ended ((p.receive given).map (·, .override)) state :=
        settle_override hgiven _ _ _ _
      rw [hended, receive_of_settle_override hgiven hquiet]
      rfl
    rw [List.countP_cons_of_neg (by simp [hclosed])] at haccepts
    rw [hrun, hclosed]
    exact ⟨rfl, rfl, hrest, haccepts⟩
  | none =>
    have hopen : isOpen overrides p = true := by simp [isOpen, hgiven]
    obtain ⟨default, hdefault, rfl | hasked⟩ := defaultOf_of_settle hgiven hquiet
    · rw [List.countP_cons_of_pos hopen] at haccepts
      obtain ⟨hprompt, hlater⟩ := prompt_of_accepts haccepts (hinput p (by simp) hopen) hkind
      have hrun : run = settleDefault prompter .interactive p (some found.1) state :=
        settle_of_default hgiven hdefault state
      simp only [settleDefault, hprompt, Run.andThen, Parameter.receive_of_kind hkind] at hrun
      rw [hrun, hopen]
      exact ⟨rfl, rfl, hrest, hlater⟩
    · cases (mem_questions_settle hasked).2.2

/-! ## Passes whose suggestions are accepted -/

/-- What happens for a parameter whose value is suggested and accepted, or is given. -/
def confirmation (overrides values : Bindings) (p : Parameter) : List Event :=
  match values.get? p.name with
  | none => []
  | some value =>
    if isOpen overrides p then
      [.asked (p.question p.type.answerKind (some value)), .noted (.settled p.name .prompt value)]
    else [.noted (.settled p.name .override value)]

variable {τ : Type} {quiet : Prompter τ} {start : τ} {params : List Parameter} {state : σ}

/-- If every suggestion is accepted, a pass ends with the values of a pass without questions. The
    two run side by side: before each parameter they have settled the same values. -/
theorem settleAll_of_acquiesces {settled : Bindings} (hnd : (params.map Parameter.name).Nodup)
    (hquiet : (settleAll quiet .nonInteractive overrides params settled start).outcome = .ok values)
    (hacquiesces : Acquiesces prompter overrides params state .interactive) :
    let run := settleAll prompter .interactive overrides params settled state
    run.outcome = .ok values ∧ run.events = params.flatMap (confirmation overrides values) := by
  induction params generalizing settled start state with
  | nil => exact ⟨hquiet, rfl⟩
  | cons p rest ih =>
    intro run
    obtain ⟨found, hfound, hrest⟩ := outcome_settleAll_cons_eq_ok_iff.1 hquiet
    obtain ⟨houtcome, hevents, hlater⟩ := settle_of_acquiesces hfound hacquiesces
    obtain ⟨hvalues, hbehind⟩ := ih (List.nodup_cons.1 hnd).2 hrest hlater
    have hvalue : values.get? p.name = some found.1 := get?_of_settleAll_insert hrest hnd
    refine ⟨outcome_settleAll_cons_eq_ok_iff.2 ⟨_, houtcome, hvalues⟩, ?_⟩
    have hrun : run.events =
        (settle prompter .interactive overrides p settled state).events ++
          (.noted (.settled p.name (if isOpen overrides p then .prompt else .override) found.1) ::
            rest.flatMap (confirmation overrides values)) := by
      rw [← hbehind]
      exact congrArg Run.events (Run.andThen_of_ok houtcome _)
    rw [hrun, hevents, List.flatMap_cons, confirmation, hvalue]
    cases isOpen overrides p <;> rfl

theorem resolve_of_acquiesces
    (hquiet : (resolve quiet .nonInteractive params overrides start).outcome = .ok values)
    (hacquiesces : Acquiesces prompter overrides params state .interactive) :
    let run := resolve prompter .interactive params overrides state
    run.outcome = .ok values ∧ run.events = params.flatMap (confirmation overrides values) := by
  obtain ⟨hnd, hquiet⟩ := outcome_resolve_eq_ok_iff.1 hquiet
  rw [resolve_eq_settleAll hnd]
  exact settleAll_of_acquiesces hnd hquiet hacquiesces

/-- In a confirmed pass every parameter without an override is asked about once. -/
theorem questions_confirmations (hkeys : ∀ p ∈ params, p.name ∈ values.keys) :
    (params.flatMap (confirmation overrides values)).filterMap Event.question? =
      (params.filter (isOpen overrides)).map fun p =>
        p.question p.type.answerKind (values.get? p.name) := by
  induction params with
  | nil => rfl
  | cons p rest ih =>
    obtain ⟨value, hvalue⟩ := Bindings.mem_keys_iff.1 (hkeys p (by simp))
    rw [List.flatMap_cons, List.filterMap_append, ih fun q hq => hkeys q (by simp [hq]),
      confirmation, List.filter_cons]
    cases isOpen overrides p <;> simp [hvalue, Event.question?]

/-! ## Passes over parameters that have their values -/

/-- Without questions, a parameter that has its value is settled at it. -/
theorem settle_of_replays {p : Parameter} (hp : Replays overrides values p) (prompter : Prompter σ)
    (settled : Bindings) (state : σ) :
    ∃ value source,
      (settle prompter .nonInteractive overrides p settled state).outcome = .ok (value, source) ∧
        values.get? p.name = some value := by
  obtain ⟨value, hvalue, hkind, hoverride | ⟨hnone, hdefault, hliteral⟩⟩ := hp
  · exact ⟨value, .override, by rw [settle_of_override hoverride hkind]; rfl, hvalue⟩
  · have hp : p.withDefault value = p := by rw [Parameter.withDefault, ← hdefault]
    have hown := defaultOf_literal hkind hliteral settled
    rw [hp] at hown
    exact ⟨value, .default, by rw [settle_of_default hnone hown]; rfl, hvalue⟩

/-- Without questions, a pass over parameters that have their values ends, with each of them at its
    value. -/
theorem settleAll_of_replays (hnd : (params.map Parameter.name).Nodup)
    (hparams : ∀ p ∈ params, Replays overrides values p) (prompter : Prompter σ)
    (settled : Bindings) (state : σ) :
    ∃ found,
      (settleAll prompter .nonInteractive overrides params settled state).outcome = .ok found ∧
        ∀ p ∈ params, found.get? p.name = values.get? p.name := by
  induction params generalizing settled state with
  | nil => exact ⟨settled, rfl, by simp⟩
  | cons p rest ih =>
    obtain ⟨value, source, hfound, hvalue⟩ :=
      settle_of_replays (hparams p (by simp)) prompter settled state
    obtain ⟨found, hrun, hget⟩ := ih (List.nodup_cons.1 hnd).2
      (fun q hq => hparams q (List.mem_cons_of_mem _ hq)) (settled.insert p.name value) _
    refine ⟨found, outcome_settleAll_cons_eq_ok_iff.2 ⟨_, hfound, hrun⟩, fun q hq => ?_⟩
    rcases List.mem_cons.1 hq with rfl | hq
    · rw [get?_of_settleAll_insert hrun hnd, hvalue]
    · exact hget q hq

theorem resolve_nonInteractive_of_replays (hnd : (params.map Parameter.name).Nodup)
    (hkeys : values.keys = params.map Parameter.name)
    (hparams : ∀ p ∈ params, Replays overrides values p) (prompter : Prompter σ) (state : σ) :
    (resolve prompter .nonInteractive params overrides state).outcome = .ok values := by
  rw [resolve_eq_settleAll hnd]
  obtain ⟨found, hfound, hget⟩ :=
    settleAll_of_replays hnd hparams prompter Bindings.empty state
  have hnames : found.keys = params.map Parameter.name := by
    rw [keys_of_settleAll hfound hnd (by simp [Bindings.keys_empty]), Bindings.keys_empty,
      List.nil_append]
  have heq : found = values := by
    refine Bindings.ext_view (hnames.trans hkeys.symm) fun name hname => ?_
    rw [hnames] at hname
    obtain ⟨p, hp, rfl⟩ := List.mem_map.1 hname
    exact hget p hp
  exact heq ▸ hfound

/-- A pass whose parameters have their values gives these values, and suggests nothing else. -/
theorem resolve_of_replays (hnd : (params.map Parameter.name).Nodup)
    (hkeys : values.keys = params.map Parameter.name)
    (hparams : ∀ p ∈ params, Replays overrides values p)
    (hacquiesces : Acquiesces prompter overrides params state mode) :
    (resolve prompter mode params overrides state).outcome = .ok values ∧
      ∀ question ∈ (resolve prompter mode params overrides state).questions,
        question.default = values.get? question.name := by
  have hquiet : (resolve prompter .nonInteractive params overrides state).outcome = .ok values :=
    resolve_nonInteractive_of_replays hnd hkeys hparams prompter state
  cases mode with
  | nonInteractive =>
    refine ⟨hquiet, fun question hquestion => ?_⟩
    obtain ⟨p, -, -, -, hmode⟩ := mem_questions_resolve hquestion
    cases hmode
  | interactive =>
    obtain ⟨houtcome, hevents⟩ := resolve_of_acquiesces hquiet hacquiesces
    refine ⟨houtcome, fun question hquestion => ?_⟩
    have hnames : ∀ p ∈ params, p.name ∈ values.keys := by
      intro p hp
      rw [hkeys]
      exact List.mem_map_of_mem hp
    rw [Run.questions, hevents, questions_confirmations hnames] at hquestion
    obtain ⟨p, -, rfl⟩ := List.mem_map.1 hquestion
    rfl

end

end Provision
