import Provision.Dialogue.Script
import Provision.Proofs.Installation.Pinned

/-!
# The shape of what is stored

What a pass stores has the shape of the declarations. A step keeps this shape: a pass and an update
store a result of their own, and a reconfiguration overlays what is stored with values of the same
names; a step that fails stores nothing. So a value that a step pins is of the type that its
parameter had when it was stored, and passes every check of this type.

Results:

* `Installation.Reaches`: the installations to which steps lead, and with `reaches_runs` those to
  which a list of steps leads.
* `Installation.Shaped.next`: a step keeps the shape.
* `Installation.shaped_of_reaches`: the shape in every installation that is reached, and the pinned
  values that are kept for this reason.
-/

namespace Provision

theorem Fits.of_withStoredDefaults {params : List Parameter} {stored values : Bindings}
    (h : Fits (withStoredDefaults params stored) values) : Fits params values := by
  refine ⟨by rw [h.keys, withStoredDefaults_name], fun p hp => ?_⟩
  obtain ⟨value, hvalue, hkind⟩ := h.kinds _ (List.mem_map_of_mem hp)
  -- A stored default changes neither the name of a parameter nor its type.
  cases hstored : stored.get? p.name with
  | none =>
    rw [hstored] at hvalue hkind
    exact ⟨value, hvalue, hkind⟩
  | some default =>
    rw [hstored] at hvalue hkind
    exact ⟨value, hvalue, hkind⟩

namespace Installation

/-- The installations to which steps lead. Each step has a prompter of its own, in any state. -/
inductive Reaches (i : Installation) : Installation → Prop where
  | start : Reaches i i
  | step {j : Installation} {σ : Type} (prompter : Prompter σ) (state : σ) (step : Step) :
      Reaches i j → Reaches i (j.next step (j.perform prompter state step).outcome)

/-- The declared names are distinct, and what is stored has the shape of the declarations. -/
structure Shaped (i : Installation) : Prop where
  distinct : (i.declared.map Parameter.name).Nodup
  fits : Fits i.declared i.stored

variable {σ : Type} {prompter : Prompter σ} {i j : Installation} {state : σ} {step : Step}
  {mode : Mode} {params : List Parameter} {overrides values : Bindings} {name : String}
  {p q : Parameter} {value : Scalar}

/-! ## Steps -/

theorem shaped_of_resolve
    (h : (Provision.resolve prompter mode params overrides state).outcome = .ok values) :
    Shaped ⟨params, values⟩ :=
  ⟨(outcome_resolve_eq_ok_iff.1 h).1, fits_of_resolve h⟩

/-- What a step stores has the shape of what is declared after it. -/
theorem Shaped.of_perform (hi : i.Shaped)
    (h : (i.perform prompter state step).outcome = .ok values) :
    Shaped ⟨i.declaredAfter step, values⟩ := by
  cases step with
  | resolve mode overrides => exact shaped_of_resolve h
  | update mode params overrides => exact shaped_of_resolve h
  | reconfigure mode overrides =>
    have hpass := (outcome_reconfigure_of_fits hi.fits).1 h
    exact ⟨hi.distinct, (fits_of_resolve hpass).of_withStoredDefaults⟩

/-- A step keeps the shape, whether it succeeds or not. -/
theorem Shaped.next (hi : i.Shaped) (prompter : Prompter σ) (state : σ) (step : Step) :
    (i.next step (i.perform prompter state step).outcome).Shaped := by
  cases h : (i.perform prompter state step).outcome with
  | error failure => exact hi
  | ok values => exact hi.of_perform h

theorem Shaped.of_reaches (hi : i.Shaped) (h : i.Reaches j) : j.Shaped := by
  induction h with
  | start => exact hi
  | step prompter state step _ ih => exact ih.next prompter state step

/-- The installation after some steps with one prompter is reached. -/
theorem reaches_runs (prompter : Prompter σ) (steps : List Step) (i : Installation) (state : σ) :
    i.Reaches (runs prompter steps i state).1 := by
  induction steps using List.reverseRecOn with
  | nil => exact .start
  | append_singleton front step ih =>
    rw [runs_concat]
    exact .step prompter _ step ih

/-! ## Pinned values -/

theorem get?_of_pinned (h : (i.pinned step).get? name = some value) :
    i.stored.get? name = some value := by
  have hstored : ∀ params, (storedValues params i.stored).get? name = some value →
      i.stored.get? name = some value := by
    intro params h
    rw [Bindings.get?_storedValues] at h
    split at h
    · exact h
    · cases h
  cases step with
  | resolve mode overrides => cases h
  | reconfigure mode overrides => exact hstored _ h
  | update mode params overrides => exact hstored _ h

/-- A step keeps a value of a parameter: the value is one that the parameter takes as it is, and
    it is stored for it after the step, whether this succeeds or not. -/
def Keeps (i : Installation) (step : Step) (p : Parameter) (value : Scalar) : Prop :=
  p.receive value = .ok value ∧
    ∀ {σ : Type} (prompter : Prompter σ) (state : σ),
      (i.next step (i.perform prompter state step).outcome).stored.get? p.name = some value

/-- A pinned value is kept if its parameter has the type that it was stored with. -/
theorem Shaped.keeps (hi : i.Shaped) (hp : p ∈ i.declaredAfter step) (hq : q ∈ i.declared)
    (hname : q.name = p.name) (htype : q.type = p.type)
    (hpinned : (i.pinned step).get? p.name = some value) : i.Keeps step p value := by
  have hstored := get?_of_pinned hpinned
  have hkind : value.kind = p.type.kind := by
    obtain ⟨found, hfound, hkind⟩ := hi.fits.kinds q hq
    rw [hname, hstored, Option.some.injEq] at hfound
    rw [hfound, hkind, htype]
  refine ⟨Parameter.receive_eq_ok_iff.2 (Parameter.canonical?_of_kind hkind), ?_⟩
  intro τ prompter state
  cases hrun : (i.perform prompter state step).outcome with
  | error failure => exact hstored
  | ok values =>
    have hdeclarable : value.isDeclarable := by
      cases htype : p.type with
      | text => exact Or.inl (hkind.trans (by rw [htype]; rfl))
      | integer => exact Or.inr (hkind.trans (by rw [htype]; rfl))
    exact get?_of_perform_pinned hrun hpinned hdeclarable (declares_of_mem hp)

/-! ## Reached installations -/

/-- **Shape of what is stored.** Let a pass have given the stored values. After any steps, with any
    overrides, modes and prompters, what is stored has exactly the declared names in order and a
    value of the declared kind for each of them. So every value that a reconfiguration pins is
    kept, and every value that an update pins for a parameter whose type it does not change. -/
theorem shaped_of_reaches
    (h : (Provision.resolve prompter mode i.declared overrides state).outcome = .ok i.stored)
    (hreach : i.Reaches j) :
    j.stored.keys = j.declared.map Parameter.name ∧
    (∀ p ∈ j.declared, ∃ value, j.stored.get? p.name = some value ∧ value.kind = p.type.kind) ∧
    (∀ mode overrides, ∀ p ∈ j.declared, ∀ value,
      (j.pinned (.reconfigure mode overrides)).get? p.name = some value →
        j.Keeps (.reconfigure mode overrides) p value) ∧
    ∀ mode params overrides, ∀ p ∈ params, ∀ q ∈ j.declared, q.name = p.name → q.type = p.type →
      ∀ value, (j.pinned (.update mode params overrides)).get? p.name = some value →
        j.Keeps (.update mode params overrides) p value := by
  have hj : j.Shaped := (shaped_of_resolve h).of_reaches hreach
  refine ⟨hj.fits.keys, hj.fits.kinds, ?_, ?_⟩
  · intro mode overrides p hp value hpinned
    exact hj.keeps hp hp rfl rfl hpinned
  · intro mode params overrides p hp q hq hname htype value hpinned
    exact hj.keeps hp hq hname htype hpinned

/-- An update that asks, one that fails, and a reconfiguration. -/
theorem shaped_of_reaches_extended :
    let zone : Parameter := { Parameter.plain .text "ZONE" with immutable := true }
    let size := (Parameter.plain .integer "SIZE").withDefault (.integer 3)
    let note : Parameter := .plain .text "NOTE"
    let i : Installation :=
      ⟨[size, zone], .ofList [("SIZE", .integer 3), ("ZONE", .text "eu")]⟩
    let j : Installation :=
      ⟨[zone, note, size],
        .ofList [("ZONE", .text "eu"), ("NOTE", .text "n"), ("SIZE", .integer 4)]⟩
    i.Reaches j ∧ j.stored.keys = ["ZONE", "NOTE", "SIZE"] ∧
      j.Keeps (.reconfigure .interactive .empty) zone (.text "eu") ∧
      j.Keeps (.update .interactive [size] .empty) size (.integer 4) := by
  intro zone size note i j
  have h : (Provision.resolve scripted .nonInteractive i.declared
      (.ofList [("ZONE", .text "eu")]) []).outcome = .ok i.stored := rfl
  have hupdated : i.Reaches ⟨[zone, note, size],
      .ofList [("ZONE", .text "eu"), ("NOTE", .text "n"), ("SIZE", .integer 3)]⟩ :=
    .step scripted [some (.text "n")] (.update .interactive [zone, note, size] .empty) .start
  have hfailed : i.Reaches ⟨[zone, note, size],
      .ofList [("ZONE", .text "eu"), ("NOTE", .text "n"), ("SIZE", .integer 3)]⟩ :=
    .step scripted [] (.update .nonInteractive [zone, zone] .empty) hupdated
  have hreach : i.Reaches j :=
    .step scripted [] (.reconfigure .nonInteractive
      (.ofList [("SIZE", .integer 4), ("ZONE", .text "us")])) hfailed
  obtain ⟨hkeys, -, hreconfigure, hupdate⟩ := shaped_of_reaches h hreach
  refine ⟨hreach, hkeys, ?_, ?_⟩
  · exact hreconfigure .interactive .empty zone List.mem_cons_self (.text "eu") rfl
  · exact hupdate .interactive [size] .empty size List.mem_cons_self size
      (by simp [j]) rfl rfl (.integer 4) rfl

end Installation

end Provision
