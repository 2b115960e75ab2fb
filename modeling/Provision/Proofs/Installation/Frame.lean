import Provision.Proofs.Conformance
import Provision.Proofs.Installation.Relevance
import Provision.Proofs.Installation.Shape
import Provision.Proofs.Pass.Dependency

/-!
# What a reconfiguration leaves alone

A reconfiguration overlays what is stored with a value for every declared parameter. The names that
were stored keep their places, and new ones come behind them; what is stored under a name that is
not declared is carried over, of whatever kind it is. It is carried over unseen: no default refers
to it.

Results:

* `withStoredDefault`, `reconfigureOverrides`: the parameters and the overrides of the pass.
* `keys_of_reconfigure`, `get?_of_reconfigure_undeclared`: the names of the result, and the values
  that are carried over.
* `declares_of_mem_mentions`: a default that is looked at mentions only parameters in front.
* `reconfigure_frame`: what a reconfiguration changes, what it keeps, and what it does not see.
-/

namespace Provision

/-- A parameter with its stored value as default, if there is one. -/
def withStoredDefault (stored : Bindings) (p : Parameter) : Parameter :=
  match stored.get? p.name with
  | some value => p.withDefault value
  | none => p

/-- The overrides of the pass of a reconfiguration. -/
def reconfigureOverrides (params : List Parameter) (stored overrides : Bindings) : Bindings :=
  overrides.overlay (storedValues (partitionImmutable params).1 stored)

/-- The stored value that a reconfiguration keeps for a parameter, which is immutable. -/
def pinned? (stored : Bindings) (p : Parameter) : Option Scalar :=
  if p.immutable then stored.get? p.name else none

variable {σ : Type} {prompter : Prompter σ} {mode : Mode} {params front rest : List Parameter}
  {p : Parameter} {stored overrides values : Bindings} {name : String}
  {state : σ}

/-! ## The pass -/

theorem pinned?_eq_none (h : ¬ (p.immutable = true ∧ p.name ∈ stored.keys)) :
    pinned? stored p = none := by
  unfold pinned?
  split
  · next himmutable => exact Bindings.get?_eq_none_iff.2 fun hmem => h ⟨himmutable, hmem⟩
  · rfl

theorem withStoredDefaults_eq_map (params : List Parameter) (stored : Bindings) :
    withStoredDefaults params stored = params.map (withStoredDefault stored) :=
  rfl

theorem name_withStoredDefault (stored : Bindings) (p : Parameter) :
    (withStoredDefault stored p).name = p.name := by
  unfold withStoredDefault
  split <;> rfl

theorem takes_withStoredDefault_iff {v taken : Scalar} :
    (withStoredDefault stored p).Takes v taken ↔ p.Takes v taken := by
  rw [← Parameter.canonical?_eq_some_iff, ← Parameter.canonical?_eq_some_iff]
  unfold withStoredDefault
  split <;> rfl

/-- A reconfiguration succeeds if the pass does, whose result then overlays what is stored. -/
theorem exists_resolve_of_reconfigure
    (h : (reconfigure prompter mode params stored overrides state).outcome = .ok values) :
    ∃ found, (resolve prompter mode (params.map (withStoredDefault stored))
        (reconfigureOverrides params stored overrides) state).outcome = .ok found ∧
      found.keys = params.map Parameter.name ∧ stored.overlay found = values := by
  obtain ⟨found, hfound, hvalues⟩ := outcome_reconfigure_eq_ok_iff.1 h
  refine ⟨found, hfound, ?_, hvalues⟩
  rw [keys_of_resolve hfound, withStoredDefaults_name]

theorem nodup_of_reconfigure
    (h : (reconfigure prompter mode params stored overrides state).outcome = .ok values) :
    (params.map Parameter.name).Nodup := by
  obtain ⟨found, -, hkeys, -⟩ := exists_resolve_of_reconfigure h
  rw [← hkeys]
  exact found.distinct

theorem get?_reconfigureOverrides (hnd : (params.map Parameter.name).Nodup) (hp : p ∈ params) :
    (reconfigureOverrides params stored overrides).get? p.name =
      (pinned? stored p).or (overrides.get? p.name) := by
  rw [reconfigureOverrides, Bindings.get?_overlay, get?_storedValues_partitionImmutable hnd hp,
    pinned?]

/-! ## Names and values that are carried over -/

theorem keys_of_reconfigure
    (h : (reconfigure prompter mode params stored overrides state).outcome = .ok values) :
    values.keys = stored.keys ++
      (params.map Parameter.name).filter fun name => decide (name ∉ stored.keys) := by
  obtain ⟨found, -, hkeys, rfl⟩ := exists_resolve_of_reconfigure h
  rw [Bindings.keys_overlay, hkeys]

/-- What is stored under a name that is not declared is carried over, and nothing else gets such a
    name. -/
theorem get?_of_reconfigure_undeclared
    (h : (reconfigure prompter mode params stored overrides state).outcome = .ok values)
    (hname : declares params name = false) : values.get? name = stored.get? name := by
  obtain ⟨found, -, hkeys, rfl⟩ := exists_resolve_of_reconfigure h
  have hnone : found.get? name = none := by
    rw [Bindings.get?_eq_none_iff, hkeys]
    intro hmem
    obtain ⟨p, hp, rfl⟩ := List.mem_map.1 hmem
    rw [declares_of_mem hp] at hname
    cases hname
  rw [Bindings.get?_overlay, hnone, Option.none_or]

/-! ## Declared values -/

/-- A declared parameter has a value of its kind, which is the pinned one or else the override, if
    there is one of them. -/
theorem exists_value_of_reconfigure
    (h : (reconfigure prompter mode params stored overrides state).outcome = .ok values)
    (hp : p ∈ params) :
    ∃ value, values.get? p.name = some value ∧ value.kind = p.type.kind ∧
      ∀ given, (pinned? stored p).or (overrides.get? p.name) = some given →
        p.Takes given value := by
  have hnd := nodup_of_reconfigure h
  obtain ⟨found, hfound, -, rfl⟩ := exists_resolve_of_reconfigure h
  have hmem : withStoredDefault stored p ∈ params.map (withStoredDefault stored) :=
    List.mem_map_of_mem hp
  have hfits : Fits params found :=
    (fits_of_resolve hfound).of_withStoredDefaults
  obtain ⟨value, hvalue, hkind⟩ := hfits.kinds p hp
  refine ⟨value, ?_, hkind, fun given hgiven => ?_⟩
  · rw [Bindings.get?_overlay, hvalue, Option.some_or]
  · rw [← get?_reconfigureOverrides hnd hp, ← name_withStoredDefault stored p] at hgiven
    obtain ⟨taken, htaken, hget⟩ := receive_of_resolve_override hfound hmem hgiven
    rw [name_withStoredDefault, hvalue, Option.some.injEq] at hget
    rw [hget, ← takes_withStoredDefault_iff]
    exact Parameter.receive_eq_ok_iff_takes.1 htaken

/-! ## Defaults -/

/-- A default that is looked at mentions only names of parameters in front, whatever else is
    stored. -/
theorem declares_of_mem_mentions
    (h : (reconfigure prompter mode (front ++ p :: rest) stored overrides state).outcome =
      .ok values)
    (hopen : (pinned? stored p).or (overrides.get? p.name) = none) {source : String}
    (hdefault : (withStoredDefault stored p).default = some (.text source))
    (hname : name ∈ mentions source) : declares front name = true := by
  have hnd := nodup_of_reconfigure h
  obtain ⟨found, hfound, -⟩ := exists_resolve_of_reconfigure h
  by_contra hundeclared
  have hnew : name ∉ (front.map (withStoredDefault stored)).map Parameter.name := by
    rw [← withStoredDefaults_eq_map, withStoredDefaults_name]
    intro hmem
    obtain ⟨q, hq, rfl⟩ := List.mem_map.1 hmem
    exact hundeclared (declares_of_mem hq)
  -- The pass need not end at this name, but it ends at the first one that is missing.
  have hmissing : ((mentions source).find? fun name =>
      decide (name ∉ (front.map (withStoredDefault stored)).map Parameter.name)).isSome = true :=
    List.find?_isSome.2 ⟨name, hname, decide_eq_true hnew⟩
  obtain ⟨dependency, hfirst⟩ := Option.isSome_iff_exists.1 hmissing
  have htemplate : isTemplate source.toList = true := by
    by_contra hliteral
    rw [mentions_eq_nil (by simpa using hliteral)] at hname
    cases hname
  have hunmet : Unmet (reconfigureOverrides (front ++ p :: rest) stored overrides).keys
      ((front.map (withStoredDefault stored)).map Parameter.name) (withStoredDefault stored p)
      source dependency := by
    refine ⟨?_, hdefault, htemplate, hfirst⟩
    rw [← Bindings.get?_eq_none_iff, name_withStoredDefault,
      get?_reconfigureOverrides hnd (by simp), hopen]
  rw [List.map_append, List.map_cons] at hfound
  exact outcome_resolve_ne_ok_of_unmet hunmet found hfound

/-! ## The frame -/

/-- **Frame of a reconfiguration.** The result has the stored names in their order, and behind them
    the declared names that were not stored. What is stored under a name that is not declared is
    kept, and an override of such a name gets into the result only if something is stored there.
    Every declared parameter has a value of its kind: the stored one if it is immutable and has
    one, and otherwise its override, if it has one. A default that is looked at refers to
    parameters in front alone, and whatever is stored under names that are not declared, the
    reconfiguration asks, tells and fails alike and gives the declared names the same values. -/
theorem reconfigure_frame (prompter : Prompter σ) (mode : Mode) (params : List Parameter)
    (stored overrides : Bindings) (state : σ) :
    let run := fun stored => reconfigure prompter mode params stored overrides state
    (∀ values, (run stored).outcome = .ok values →
      values.keys = stored.keys ++
        (params.map Parameter.name).filter (fun name => decide (name ∉ stored.keys)) ∧
      (∀ name ∈ stored.keys, declares params name = false →
        values.get? name = stored.get? name) ∧
      (∀ p ∈ params, ∃ value, values.get? p.name = some value ∧ value.kind = p.type.kind ∧
        (∀ kept, p.immutable = true → stored.get? p.name = some kept → p.Takes kept value) ∧
        ∀ given, overrides.get? p.name = some given →
          ¬ (p.immutable = true ∧ p.name ∈ stored.keys) → p.Takes given value) ∧
      (∀ name ∈ overrides.keys, declares params name = false → name ∉ stored.keys →
        name ∉ values.keys) ∧
      ∀ front p rest, params = front ++ p :: rest → overrides.get? p.name = none →
        ¬ (p.immutable = true ∧ p.name ∈ stored.keys) →
        ∀ source, (withStoredDefault stored p).default = some (.text source) →
          ∀ name ∈ mentions source, declares front name = true) ∧
    ∀ stored', AgreeOn params stored stored' → Run.SameOn params (run stored) (run stored') := by
  intro run
  refine ⟨fun values h => ⟨keys_of_reconfigure h, ?_, ?_, ?_, ?_⟩, fun stored' hagree => ?_⟩
  · exact fun name _ hname => get?_of_reconfigure_undeclared h hname
  · intro p hp
    obtain ⟨value, hvalue, hkind, htakes⟩ := exists_value_of_reconfigure h hp
    refine ⟨value, hvalue, hkind, fun kept himmutable hkept => ?_, fun given hgiven hopen => ?_⟩
    · exact htakes kept (by rw [pinned?, if_pos himmutable, hkept, Option.some_or])
    · exact htakes given (by rw [pinned?_eq_none hopen, Option.none_or, hgiven])
  · intro name _ hname hnew
    rw [← Bindings.get?_eq_none_iff] at hnew ⊢
    rw [get?_of_reconfigure_undeclared h hname, hnew]
  · rintro front p rest rfl hnone hopen source hdefault name hname
    refine declares_of_mem_mentions h ?_ hdefault hname
    rw [pinned?_eq_none hopen, Option.none_or, hnone]
  · exact reconfigure_congr hagree (fun _ _ _ => rfl) state

/-- Values that are stored under names that are not declared any more, one of them a NaN; an
    immutable parameter that is pinned against an override, a new one with an override, and a new
    one with a default. Another default refers to a name that is stored, but not declared: whether
    something is stored there makes no difference. -/
theorem reconfigure_frame_leftovers :
    let zone : Parameter := { Parameter.plain .text "ZONE" with immutable := true }
    let size : Parameter := .plain .integer "SIZE"
    let host := (Parameter.plain .text "HOST").withDefault (.text "\x7b\x7b params.ZONE \x7d\x7d-1")
    let node := (Parameter.plain .text "NODE").withDefault (.text "\x7b\x7b params.OLD \x7d\x7d")
    let stored := Bindings.ofList [("LOAD", .float .nan), ("ZONE", .text "eu"), ("OLD", .text "x")]
    let overrides := Bindings.ofList
      [("ZONE", .integer 1), ("SIZE", .integer 3), ("NOTE", .text "n")]
    let run := fun params stored =>
      reconfigure scripted .interactive params stored overrides [none]
    let values := Bindings.ofList [("LOAD", .float .nan), ("ZONE", .text "eu"), ("OLD", .text "x"),
      ("SIZE", .integer 3), ("HOST", .text "eu-1")]
    (run [zone, size, host] stored).outcome = .ok values ∧
      values.keys = ["LOAD", "ZONE", "OLD", "SIZE", "HOST"] ∧
      values.get? "LOAD" = some (.float .nan) ∧ "NOTE" ∉ values.keys ∧
      (∀ found, (run [zone, node] stored).outcome ≠ .ok found) ∧
      Run.SameOn [zone, node] (run [zone, node] stored)
        (run [zone, node] (.ofList [("ZONE", .text "eu")])) := by
  intro zone size host node stored overrides run values
  have h : (run [zone, size, host] stored).outcome = .ok values := rfl
  obtain ⟨hframe, -⟩ := reconfigure_frame scripted .interactive [zone, size, host] stored overrides
    ([none] : Script)
  obtain ⟨hkeys, hkept, -, hnew, -⟩ := hframe values h
  obtain ⟨hnode, hsame⟩ := reconfigure_frame scripted .interactive [zone, node] stored overrides
    ([none] : Script)
  refine ⟨h, hkeys, ?_, ?_, ?_, ?_⟩
  · exact hkept "LOAD" (by decide) rfl
  · exact hnew "NOTE" (by decide) rfl (by decide)
  · intro found hfound
    obtain ⟨-, -, -, -, hmentions⟩ := hnode found hfound
    have hopen : ¬ (node.immutable = true ∧ node.name ∈ stored.keys) := by decide
    have hdeclared := hmentions [zone] node [] rfl rfl hopen _ rfl "OLD" (by decide)
    exact absurd hdeclared (by decide)
  · exact hsame _ (by decide)

end Provision
