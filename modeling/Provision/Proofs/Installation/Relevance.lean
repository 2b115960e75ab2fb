import Provision.Dialogue.Script
import Provision.Proofs.Installation.Pinned

/-!
# What a step depends on

A pass looks up the declared names in its overrides, and no others. An update looks up in what is
stored only the names that are declared before and after, and a reconfiguration only the declared
ones; neither of them looks up an override for a value that it pins. So inputs that differ
elsewhere, or in the order of their entries, make no difference.

Results:

* `AgreeOn`: maps that give the same values to the names of some parameters.
* `resolve_congr`: a pass depends on the overrides of the declared names alone.
* `same_run_of_agreeing`: passes, updates and reconfigurations whose inputs agree where they are
  looked up do the same.
-/

namespace Provision

/-- Each of the parameters has the same value in both maps, or a value in neither. -/
def AgreeOn (params : List Parameter) (a b : Bindings) : Prop :=
  ∀ p ∈ params, a.get? p.name = b.get? p.name

instance (params : List Parameter) (a b : Bindings) : Decidable (AgreeOn params a b) :=
  inferInstanceAs (Decidable (∀ p ∈ params, _))

/-- Maps that differ in the order of their entries agree on all names. -/
theorem agreeOn_of_perm {a b : Bindings} (h : a.entries.Perm b.entries) (params : List Parameter) :
    AgreeOn params a b := by
  intro p _
  cases hvalue : b.get? p.name with
  | some value =>
    exact Bindings.mem_entries_iff.1 (h.mem_iff.2 (Bindings.mem_entries_iff.2 hvalue))
  | none =>
    rw [Bindings.get?_eq_none_iff] at hvalue ⊢
    exact fun hmem => hvalue ((h.map Prod.fst).mem_iff.1 hmem)

section

variable {σ : Type} {prompter : Prompter σ} {mode : Mode} {params : List Parameter}
  {overrides overrides' stored stored' pinned : Bindings}

/-! ## Passes -/

theorem settle_congr {p : Parameter} (h : overrides.get? p.name = overrides'.get? p.name)
    (settled : Bindings) (state : σ) :
    settle prompter mode overrides p settled state =
      settle prompter mode overrides' p settled state := by
  rw [settle, settle, h]

theorem settleAll_congr (h : AgreeOn params overrides overrides') (settled : Bindings)
    (state : σ) :
    settleAll prompter mode overrides params settled state =
      settleAll prompter mode overrides' params settled state := by
  induction params generalizing settled state with
  | nil => rfl
  | cons p rest ih =>
    have hrest : AgreeOn rest overrides overrides' := fun q hq => h q (List.mem_cons_of_mem _ hq)
    simp only [settleAll, settle_congr (h p (by simp)), ih hrest]

/-- A pass depends on the overrides of the declared names alone. -/
theorem resolve_congr (h : AgreeOn params overrides overrides') (state : σ) :
    resolve prompter mode params overrides state =
      resolve prompter mode params overrides' state := by
  rw [resolve, resolve, settleAll_congr h]

/-- A pass does not depend on the overrides of pinned names. -/
theorem resolvePinned_congr
    (h : ∀ p ∈ params, pinned.get? p.name = none →
      overrides.get? p.name = overrides'.get? p.name) (state : σ) :
    resolvePinned prompter mode params pinned overrides state =
      resolvePinned prompter mode params pinned overrides' state := by
  refine resolve_congr (fun p hp => ?_) state
  rw [Bindings.get?_overlay, Bindings.get?_overlay]
  cases hpinned : pinned.get? p.name with
  | some value => rfl
  | none => rw [Option.none_or, Option.none_or, h p hp hpinned]

/-! ## What is stored -/

theorem storedValues_congr (h : AgreeOn params stored stored') :
    storedValues params stored = storedValues params stored' := by
  have hvalues : params.filterMap (fun p => (stored.get? p.name).map (p.name, ·)) =
      params.filterMap fun p => (stored'.get? p.name).map (p.name, ·) :=
    List.filterMap_congr fun p hp => by rw [h p hp]
  rw [storedValues, storedValues, hvalues]

theorem withStoredDefaults_congr (h : AgreeOn params stored stored') :
    withStoredDefaults params stored = withStoredDefaults params stored' :=
  List.map_congr_left fun p hp => by rw [h p hp]

/-! ## Updates and reconfigurations -/

theorem update_congr {old new : List Parameter}
    (hstored : AgreeOn (new.filter fun p => declares old p.name) stored stored')
    (hoverrides : ∀ p ∈ new, (declares old p.name = true → stored.get? p.name = none) →
      overrides.get? p.name = overrides'.get? p.name) (state : σ) :
    update prompter mode old new stored overrides state =
      update prompter mode old new stored' overrides' state := by
  rw [update, update, ← storedValues_congr hstored]
  refine congrArg (Run.after _) (resolvePinned_congr (fun p hp hpinned => ?_) state)
  rw [Bindings.get?_storedValues_filter hp] at hpinned
  refine hoverrides p hp fun hold => ?_
  rwa [if_pos hold] at hpinned

/-- Two activities leave the same behind, but for the values of other names. -/
structure Run.SameOn (params : List Parameter) (run other : Run σ Bindings) : Prop where
  outcome : (∃ failure, run.outcome = .error failure ∧ other.outcome = .error failure) ∨
    ∃ values values', run.outcome = .ok values ∧ other.outcome = .ok values' ∧
      AgreeOn params values values'
  state : run.state = other.state
  events : run.events = other.events

/-- What is stored under other names is carried over, and shows in the values of these alone. -/
theorem sameOn_andThen_overlay {run : Run σ Bindings}
    (hkeys : ∀ found, run.outcome = .ok found → found.keys = params.map Parameter.name) :
    Run.SameOn params (run.andThen fun found state => .done (stored.overlay found) state)
      (run.andThen fun found state => .done (stored'.overlay found) state) := by
  cases hrun : run.outcome with
  | error failure =>
    rw [Run.andThen_of_error hrun, Run.andThen_of_error hrun]
    exact ⟨Or.inl ⟨failure, rfl, rfl⟩, rfl, rfl⟩
  | ok found =>
    rw [Run.andThen_of_ok hrun, Run.andThen_of_ok hrun]
    refine ⟨Or.inr ⟨_, _, rfl, rfl, fun p hp => ?_⟩, rfl, rfl⟩
    have hname : p.name ∈ found.keys := hkeys found hrun ▸ List.mem_map_of_mem hp
    obtain ⟨value, hvalue⟩ := Bindings.mem_keys_iff.1 hname
    rw [Bindings.get?_overlay, Bindings.get?_overlay, hvalue, Option.some_or, Option.some_or]

theorem Run.SameOn.after {run other : Run σ Bindings} (h : Run.SameOn params run other)
    (events : List Event) : Run.SameOn params (run.after events) (other.after events) :=
  ⟨h.outcome, h.state, congrArg (events ++ ·) h.events⟩

theorem reconfigure_congr (hstored : AgreeOn params stored stored')
    (hoverrides : ∀ p ∈ params,
      ((∃ q ∈ params, q.name = p.name ∧ q.immutable = true) → stored.get? p.name = none) →
        overrides.get? p.name = overrides'.get? p.name) (state : σ) :
    Run.SameOn params (reconfigure prompter mode params stored overrides state)
      (reconfigure prompter mode params stored' overrides' state) := by
  have himmutable : AgreeOn (partitionImmutable params).1 stored stored' := by
    intro p hp
    rw [partitionImmutable, List.partition_eq_filter_filter] at hp
    exact hstored p (List.mem_filter.1 hp).1
  have hpass : resolvePinned prompter mode (withStoredDefaults params stored)
        (storedValues (partitionImmutable params).1 stored) overrides state =
      resolvePinned prompter mode (withStoredDefaults params stored)
        (storedValues (partitionImmutable params).1 stored) overrides' state := by
    refine resolvePinned_congr (fun q hq hpinned => ?_) state
    have hname : q.name ∈ params.map Parameter.name :=
      withStoredDefaults_name params stored ▸ List.mem_map_of_mem hq
    obtain ⟨p, hp, heq⟩ := List.mem_map.1 hname
    rw [← heq] at hpinned ⊢
    refine hoverrides p hp fun hkept => ?_
    rwa [Bindings.get?_storedValues, if_pos (declares_partitionImmutable.2 hkept)] at hpinned
  rw [reconfigure, reconfigure, ← storedValues_congr himmutable,
    ← withStoredDefaults_congr hstored, ← hpass]
  refine (sameOn_andThen_overlay fun found hfound => ?_).after _
  rw [keys_of_resolve hfound, withStoredDefaults_name]

/-! ## Irrelevant inputs -/

/-- **Irrelevant inputs.** A pass does the same, whatever the overrides of names that are not
    declared. An update does the same, whatever the overrides of pinned names and of names that
    are not declared, and whatever is stored under names that are not declared before and after.
    A reconfiguration asks, tells and fails alike and gives the declared names the same values,
    whatever the overrides of immutable names with a stored value and of names that are not
    declared, and whatever is stored under these. No order of entries matters. -/
theorem same_run_of_agreeing (prompter : Prompter σ) (mode : Mode) (state : σ) :
    (∀ params overrides overrides', AgreeOn params overrides overrides' →
      resolve prompter mode params overrides state =
        resolve prompter mode params overrides' state) ∧
    (∀ old new stored stored' overrides overrides',
      AgreeOn (new.filter fun p => declares old p.name) stored stored' →
      (∀ p ∈ new, (declares old p.name = true → stored.get? p.name = none) →
        overrides.get? p.name = overrides'.get? p.name) →
      update prompter mode old new stored overrides state =
        update prompter mode old new stored' overrides' state) ∧
    (∀ params stored stored' overrides overrides', AgreeOn params stored stored' →
      (∀ p ∈ params,
        ((∃ q ∈ params, q.name = p.name ∧ q.immutable = true) → stored.get? p.name = none) →
          overrides.get? p.name = overrides'.get? p.name) →
      Run.SameOn params (reconfigure prompter mode params stored overrides state)
        (reconfigure prompter mode params stored' overrides' state)) ∧
    ∀ params (a b : Bindings), a.entries.Perm b.entries → AgreeOn params a b := by
  refine ⟨?_, ?_, ?_, ?_⟩
  · intro params overrides overrides' h
    exact resolve_congr h state
  · intro old new stored stored' overrides overrides' hstored hoverrides
    exact update_congr hstored hoverrides state
  · intro params stored stored' overrides overrides' hstored hoverrides
    exact reconfigure_congr hstored hoverrides state
  · intro params a b h
    exact agreeOn_of_perm h params

/-- An override of a pinned value, one of no type that is declared, and values that are left over
    from other declarations, in another order. -/
theorem same_run_of_agreeing_leftovers :
    let region : Parameter := { Parameter.plain .text "REGION" with immutable := true }
    let size : Parameter := .plain .integer "SIZE"
    let params := [region, size]
    let stored := Bindings.ofList [("REGION", .text "eu"), ("SIZE", .integer 3)]
    let stored' := Bindings.ofList
      [("ZONE", .boolean true), ("SIZE", .integer 3), ("REGION", .text "eu")]
    let overrides := Bindings.ofList [("SIZE", .integer 4)]
    let overrides' := Bindings.ofList
      [("REGION", .integer 1), ("ZONE", .text "b"), ("SIZE", .integer 4)]
    let script : Script := [some (.text "us"), none]
    Run.SameOn params (reconfigure scripted .interactive params stored overrides script)
        (reconfigure scripted .interactive params stored' overrides' script) ∧
      update scripted .interactive [region] params stored overrides script =
        update scripted .interactive [region] params stored' overrides' script ∧
      resolve scripted .interactive [size] overrides script =
        resolve scripted .interactive [size] overrides' script := by
  intro region size params stored stored' overrides overrides' script
  obtain ⟨hresolve, hupdate, hreconfigure, -⟩ :=
    same_run_of_agreeing scripted .interactive script
  refine ⟨?_, ?_, ?_⟩
  · exact hreconfigure params stored stored' overrides overrides' (by decide) (by decide)
  · exact hupdate [region] params stored stored' overrides overrides' (by decide) (by decide)
  · exact hresolve [size] overrides overrides' (by decide)

end

end Provision
