import Mathlib.Data.List.Infix
import Mathlib.Data.List.Induction
import Provision.Dialogue.Script
import Provision.Installation.Step
import Provision.Proofs.Conformance
import Provision.Proofs.Pass.Shape

/-!
# Pinned values

A reconfiguration pins the stored values of immutable parameters, and an update those of the
parameters that are declared before and after. A pinned value goes before every override, so
that a step neither changes it nor asks about it.

Results:

* `Installation.get?_of_perform_pinned`, `Installation.not_asked_of_pinned`: what a step does
  with a value that it pins.
* `Installation.stored_of_runs_immutable`: over a whole run, the value of an immutable
  parameter is never changed and never asked about.
-/

namespace Provision

/-! ## Values in the form that parameters take -/

/-- The kinds of values that a parameter takes as they are. -/
def Scalar.isDeclarable (value : Scalar) : Prop :=
  value.kind = .text ∨ value.kind = .integer

theorem Parameter.receive_eq_self {p : Parameter} {value taken : Scalar}
    (hkind : value.isDeclarable) (h : p.receive value = .ok taken) : taken = value := by
  cases Parameter.receive_eq_ok_iff_takes.1 h with
  | text => rfl
  | integer => rfl
  | whole => rcases hkind with hkind | hkind <;> cases hkind

/-! ## Passes with pinned values -/

section

variable {σ : Type} {prompter : Prompter σ} {mode : Mode} {params : List Parameter}
  {pinned overrides values stored : Bindings} {state : σ} {name : String} {value : Scalar}

theorem get?_overlay_pinned (hpinned : pinned.get? name = some value) :
    (overrides.overlay pinned).get? name = some value := by
  rw [Bindings.get?_overlay, hpinned, Option.some_or]

/-- A pinned value is the value of its parameter. -/
theorem get?_of_resolvePinned
    (h : (resolvePinned prompter mode params pinned overrides state).outcome = .ok values)
    (hpinned : pinned.get? name = some value) (hkind : value.isDeclarable)
    (hname : declares params name = true) : values.get? name = some value := by
  obtain ⟨p, hp, rfl⟩ := declares_iff.1 hname
  obtain ⟨taken, htaken, hget⟩ :=
    receive_of_resolve_override h hp (get?_overlay_pinned hpinned)
  rw [hget, Parameter.receive_eq_self hkind htaken]

theorem name_ne_of_mem_questions_resolvePinned {question : Question}
    (h : question ∈ (resolvePinned prompter mode params pinned overrides state).questions)
    (hpinned : pinned.get? name = some value) : question.name ≠ name := by
  obtain ⟨p, -, hquestion, hnone, -⟩ := mem_questions_resolve h
  rintro rfl
  rw [hquestion] at hpinned
  rw [get?_overlay_pinned hpinned] at hnone
  cases hnone

/-! ## Reconfigurations and updates as passes -/

theorem declares_withStoredDefaults :
    declares (withStoredDefaults params stored) name = declares params name := by
  have h : ∀ qs : List Parameter, declares qs name = (qs.map Parameter.name).any (· == name) := by
    intro qs
    simp [declares, List.any_map, Function.comp_def]
  rw [h, h, withStoredDefaults_name]

theorem declares_partitionImmutable :
    declares (partitionImmutable params).1 name = true ↔
      ∃ p ∈ params, p.name = name ∧ p.immutable = true := by
  rw [declares_iff]
  simp only [partitionImmutable, List.partition_eq_filter_filter, List.mem_filter]
  constructor
  · rintro ⟨p, ⟨hp, himmutable⟩, hname⟩
    exact ⟨p, hp, hname, himmutable⟩
  · rintro ⟨p, hp, hname, himmutable⟩
    exact ⟨p, ⟨hp, himmutable⟩, hname⟩

/-- Where names are distinct, exactly the immutable parameters are among the immutable names. -/
theorem declares_partitionImmutable_of_mem {p : Parameter}
    (hnd : (params.map Parameter.name).Nodup) (hp : p ∈ params) :
    declares (partitionImmutable params).1 p.name = p.immutable := by
  rw [Bool.eq_iff_iff, declares_partitionImmutable]
  constructor
  · rintro ⟨q, hq, hname, himmutable⟩
    rwa [List.inj_on_of_nodup_map hnd hq hp hname] at himmutable
  · exact fun himmutable => ⟨p, hp, rfl, himmutable⟩

/-- A reconfiguration pins the stored values of the immutable parameters. -/
theorem get?_storedValues_partitionImmutable {p : Parameter}
    (hnd : (params.map Parameter.name).Nodup) (hp : p ∈ params) (stored : Bindings) :
    (storedValues (partitionImmutable params).1 stored).get? p.name =
      if p.immutable then stored.get? p.name else none := by
  rw [Bindings.get?_storedValues, declares_partitionImmutable_of_mem hnd hp]

theorem outcome_reconfigure_eq_ok_iff :
    (reconfigure prompter mode params stored overrides state).outcome = .ok values ↔
      ∃ found, (resolvePinned prompter mode (withStoredDefaults params stored)
          (storedValues (partitionImmutable params).1 stored) overrides state).outcome =
            .ok found ∧ stored.overlay found = values := by
  rw [reconfigure, Run.outcome_after, Run.outcome_andThen_eq_ok_iff]
  simp

/-- If what is stored has the shape of the declarations, the pass has it too, and nothing else
    is kept. -/
theorem outcome_reconfigure_of_fits (hfits : Fits params stored) :
    (reconfigure prompter mode params stored overrides state).outcome = .ok values ↔
      (resolvePinned prompter mode (withStoredDefaults params stored)
        (storedValues (partitionImmutable params).1 stored) overrides state).outcome =
          .ok values := by
  rw [outcome_reconfigure_eq_ok_iff]
  have hoverlay : ∀ {found}, (resolvePinned prompter mode (withStoredDefaults params stored)
      (storedValues (partitionImmutable params).1 stored) overrides state).outcome = .ok found →
        stored.overlay found = found := by
    intro found hfound
    refine Bindings.overlay_of_keys_eq ?_
    rw [hfits.keys, keys_of_resolve hfound, withStoredDefaults_name]
  constructor
  · rintro ⟨found, hfound, rfl⟩
    rwa [hoverlay hfound]
  · exact fun hfound => ⟨values, hfound, hoverlay hfound⟩

theorem questions_reconfigure :
    (reconfigure prompter mode params stored overrides state).questions =
      (resolvePinned prompter mode (withStoredDefaults params stored)
        (storedValues (partitionImmutable params).1 stored) overrides state).questions := by
  rw [reconfigure, Run.questions_after_noted]
  cases h : (resolvePinned prompter mode (withStoredDefaults params stored)
      (storedValues (partitionImmutable params).1 stored) overrides state).outcome with
  | error failure => rw [Run.questions_andThen_of_error h]
  | ok found => rw [Run.questions_andThen_of_ok h, Run.questions_done, List.append_nil]

theorem questions_update (old new : List Parameter) :
    (update prompter mode old new stored overrides state).questions =
      (resolvePinned prompter mode new
        (storedValues (new.filter fun p => declares old p.name) stored) overrides
          state).questions := by
  rw [update, Run.questions_after_noted]

end

/-! ## Steps -/

/-- Whether a step revises what is stored, and does not resolve it from nothing. -/
def Step.isRevision : Step → Bool
  | .resolve _ _ => false
  | _ => true

namespace Installation

variable {σ : Type} {prompter : Prompter σ} {i : Installation} {state : σ} {step : Step}
  {name : String} {value : Scalar} {values : Bindings}

/-- The values that a step pins. -/
def pinned (i : Installation) : Step → Bindings
  | .resolve _ _ => .empty
  | .reconfigure _ _ => storedValues (partitionImmutable i.declared).1 i.stored
  | .update _ params _ => storedValues (params.filter fun p => declares i.declared p.name) i.stored

theorem get?_pinned_reconfigure {mode : Mode} {overrides : Bindings}
    (hvalue : i.stored.get? name = some value)
    (himmutable : ∃ p ∈ i.declared, p.name = name ∧ p.immutable = true) :
    (i.pinned (.reconfigure mode overrides)).get? name = some value := by
  rw [pinned, Bindings.get?_storedValues, if_pos (declares_partitionImmutable.2 himmutable),
    hvalue]

theorem get?_pinned_update {mode : Mode} {params : List Parameter} {overrides : Bindings}
    (hvalue : i.stored.get? name = some value) (hold : declares i.declared name = true)
    (hnew : declares params name = true) :
    (i.pinned (.update mode params overrides)).get? name = some value := by
  rw [pinned, Bindings.get?_storedValues, declares_filter, hnew, hold, Bool.true_and, if_pos rfl,
    hvalue]

/-- A step that succeeds keeps what it pins. -/
theorem get?_of_perform_pinned (h : (i.perform prompter state step).outcome = .ok values)
    (hpinned : (i.pinned step).get? name = some value) (hkind : value.isDeclarable)
    (hname : declares (i.declaredAfter step) name = true) : values.get? name = some value := by
  cases step with
  | resolve mode overrides => cases hpinned
  | reconfigure mode overrides =>
    obtain ⟨found, hfound, rfl⟩ := outcome_reconfigure_eq_ok_iff.1 h
    have hget := get?_of_resolvePinned hfound hpinned hkind
      (declares_withStoredDefaults.trans hname)
    rw [Bindings.get?_overlay, hget, Option.some_or]
  | update mode params overrides => exact get?_of_resolvePinned h hpinned hkind hname

theorem not_asked_of_pinned {question : Question}
    (h : question ∈ (i.perform prompter state step).questions)
    (hpinned : (i.pinned step).get? name = some value) : question.name ≠ name := by
  cases step with
  | resolve mode overrides => cases hpinned
  | reconfigure mode overrides =>
    rw [perform, questions_reconfigure] at h
    exact name_ne_of_mem_questions_resolvePinned h hpinned
  | update mode params overrides =>
    rw [perform, questions_update] at h
    exact name_ne_of_mem_questions_resolvePinned h hpinned

theorem declares_of_asked_update {mode : Mode} {params : List Parameter} {overrides : Bindings}
    {question : Question}
    (h : question ∈ (i.perform prompter state (.update mode params overrides)).questions) :
    declares params question.name = true := by
  rw [perform, questions_update] at h
  obtain ⟨p, hp, hname, -⟩ := mem_questions_resolve h
  exact declares_iff.2 ⟨p, hp, hname.symm⟩

/-! ## Runs -/

theorem runs_concat (prompter : Prompter σ) (front : List Step) (step : Step) (i : Installation)
    (state : σ) :
    (runs prompter (front ++ [step]) i state).1 =
      (runs prompter front i state).1.next step
        ((runs prompter front i state).1.perform prompter (runs prompter front i state).2
          step).outcome := by
  rw [runs_append]
  rfl

/-- One revision keeps the stored value of a parameter that is declared, is immutable if the
    installation is reconfigured, and is still declared afterwards. -/
theorem stored_of_next (hvalue : i.stored.get? name = some value) (hkind : value.isDeclarable)
    (hrevision : step.isRevision = true) (hbefore : declares i.declared name = true)
    (himmutable : ∀ mode overrides, step = .reconfigure mode overrides →
      ∃ p ∈ i.declared, p.name = name ∧ p.immutable = true)
    (hafter : declares (i.next step (i.perform prompter state step).outcome).declared name =
      true) :
    (i.next step (i.perform prompter state step).outcome).stored.get? name = some value := by
  cases hrun : (i.perform prompter state step).outcome with
  | error failure => exact hvalue
  | ok values =>
    rw [hrun] at hafter
    refine get?_of_perform_pinned hrun ?_ hkind hafter
    cases step with
    | resolve mode overrides => cases hrevision
    | reconfigure mode overrides =>
      exact get?_pinned_reconfigure hvalue (himmutable mode overrides rfl)
    | update mode params overrides => exact get?_pinned_update hvalue hbefore hafter

/-- **An immutable value never changes.** Take any reconfigurations and updates, with any
    overrides, modes and answers. If a parameter is declared in every state of the run, and is
    immutable whenever the installation is reconfigured, then in every state its stored text
    or integer is the one from the start, and no step asks about it. -/
theorem stored_of_runs_immutable (prompter : Prompter σ) {steps : List Step} {i : Installation}
    {state : σ} {name : String} {value : Scalar}
    (hvalue : i.stored.get? name = some value) (hkind : value.isDeclarable)
    (hsteps : ∀ step ∈ steps, step.isRevision = true)
    (hdeclared : ∀ front, front <+: steps →
      declares (runs prompter front i state).1.declared name = true)
    (himmutable : ∀ front mode overrides, front ++ [.reconfigure mode overrides] <+: steps →
      ∃ p ∈ (runs prompter front i state).1.declared, p.name = name ∧ p.immutable = true) :
    (∀ front, front <+: steps →
      (runs prompter front i state).1.stored.get? name = some value) ∧
    ∀ front step, front ++ [step] <+: steps →
      ∀ question ∈ ((runs prompter front i state).1.perform prompter
        (runs prompter front i state).2 step).questions, question.name ≠ name := by
  have hkept : ∀ front, front <+: steps →
      (runs prompter front i state).1.stored.get? name = some value := by
    intro front
    induction front using List.reverseRecOn with
    | nil => exact fun _ => hvalue
    | append_singleton front step ih =>
      intro hfront
      have hbefore : front <+: steps := (List.prefix_append front [step]).trans hfront
      have hafter := hdeclared _ hfront
      rw [runs_concat] at hafter ⊢
      refine stored_of_next (ih hbefore) hkind (hsteps step ?_) (hdeclared front hbefore) ?_ hafter
      · exact hfront.subset (by simp)
      · rintro mode overrides rfl
        exact himmutable front mode overrides hfront
  refine ⟨hkept, ?_⟩
  intro front step hfront question hquestion
  have hbefore : front <+: steps := (List.prefix_append front [step]).trans hfront
  have hstored := hkept front hbefore
  cases step with
  | resolve mode overrides => cases hsteps (.resolve mode overrides) (hfront.subset (by simp))
  | reconfigure mode overrides =>
    exact not_asked_of_pinned hquestion
      (get?_pinned_reconfigure hstored (himmutable front mode overrides hfront))
  | update mode params overrides =>
    -- An update that fails may have any list of parameters, one without the name too.
    rintro rfl
    exact not_asked_of_pinned hquestion (get?_pinned_update hstored (hdeclared front hbefore)
      (declares_of_asked_update hquestion)) rfl

/-- A reconfiguration and an update, both with an override for an immutable parameter. -/
theorem stored_of_runs_immutable_overridden :
    let region : Parameter := { Parameter.plain .text "REGION" with immutable := true }
    let size : Parameter := .plain .integer "SIZE"
    let i : Installation :=
      ⟨[region, size], .ofList [("REGION", .text "eu"), ("SIZE", .integer 3)]⟩
    let steps : List Step :=
      [.reconfigure .interactive (.ofList [("REGION", .text "us")]),
        .update .nonInteractive [size, region] (.ofList [("REGION", .integer 1)])]
    i.stored.get? "REGION" = some (.text "eu") ∧
      (runs scripted steps i [none]).1.stored.get? "REGION" = some (.text "eu") := by
  intro region size i steps
  have hvalue : i.stored.get? "REGION" = some (.text "eu") := rfl
  have hdeclared : ∀ front ∈ steps.inits,
      declares (runs scripted front i [none]).1.declared "REGION" = true := by
    decide
  refine ⟨hvalue, (stored_of_runs_immutable scripted hvalue (Or.inl rfl) (by decide)
    (fun front hfront => hdeclared front ((List.mem_inits _ _).2 hfront)) ?_).1 steps
      (List.prefix_refl steps)⟩
  intro front mode overrides hfront
  obtain ⟨rest, hrest⟩ := hfront
  match front, hrest with
  | [], _ => exact ⟨region, by simp [runs, i], rfl, rfl⟩
  | [_], hrest => simp [steps] at hrest
  | _ :: _ :: _, hrest => simp [steps] at hrest

end Installation

end Provision
