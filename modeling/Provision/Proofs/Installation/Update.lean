import Provision.Dialogue.Script
import Provision.Proofs.Conformance
import Provision.Proofs.Installation.Relevance

/-!
# The result of an update

An update keeps the stored values of the parameters that were declared before, in the form that
the new declarations take. All other parameters are settled as in a pass that begins with nothing:
by an override, or else by a default or by the user, against the values in front. What happens to
be stored under the name of a parameter that was not declared before does not count.

Results:

* `retained?`: the stored value that an update keeps for a parameter.
* `Supplied`: the value of a parameter for which there is neither a kept value nor an override.
* `exists_front_of_update`: an update begins with the update to the parameters in front.
* `update_result`: where the values of an update come from, and how a kept value fails.
-/

namespace Provision

/-- The stored value that an update keeps for a parameter, which was declared before. -/
def retained? (old : List Parameter) (stored : Bindings) (p : Parameter) : Option Scalar :=
  if declares old p.name then stored.get? p.name else none

/-- The value of a parameter that nothing gives in advance, against the values in front: where
    nobody is asked its default, and otherwise the answer of the user to whom that is suggested. -/
inductive Supplied {σ : Type} (prompter : Prompter σ) (before : Bindings) (p : Parameter)
    (state : σ) : Mode → Scalar → Prop where
  | default {value : Scalar} : defaultOf p before = .ok (some value) →
      Supplied prompter before p state .nonInteractive value
  | answer {suggested : Option Scalar} {answer value : Scalar} :
      defaultOf p before = .ok suggested →
      (prompt prompter p suggested state).outcome = .ok answer → p.Takes answer value →
      Supplied prompter before p state .interactive value

variable {σ : Type} {prompter : Prompter σ} {mode : Mode} {old front rest new : List Parameter}
  {p : Parameter} {stored overrides values before : Bindings} {kept : Scalar} {state : σ}

/-- Without an override a parameter is settled at the value that it is supplied with. -/
theorem supplied_of_settle {found : Scalar × Source} (hnone : overrides.get? p.name = none)
    (h : (settle prompter mode overrides p before state).outcome = .ok found) :
    Supplied prompter before p state mode found.1 := by
  simp only [settle, hnone] at h
  split at h
  · cases h
  · next suggested hsuggested =>
    cases mode with
    | interactive =>
      obtain ⟨answer, hanswer, h⟩ := Run.outcome_andThen_eq_ok_iff.1 h
      obtain ⟨value, hvalue, rfl⟩ := Except.map_eq_ok_iff.1 h
      exact .answer hsuggested hanswer (Parameter.receive_eq_ok_iff_takes.1 hvalue)
    | nonInteractive =>
      cases suggested with
      | none => cases h
      | some value =>
        cases h
        exact .default hsuggested

/-! ## What an update pins -/

/-- The overrides of the pass of an update. -/
def updateOverrides (old new : List Parameter) (stored overrides : Bindings) : Bindings :=
  overrides.overlay (storedValues (new.filter fun p => declares old p.name) stored)

theorem outcome_update :
    (update prompter mode old new stored overrides state).outcome =
      (resolve prompter mode new (updateOverrides old new stored overrides) state).outcome :=
  rfl

theorem get?_updateOverrides (hp : p ∈ new) :
    (updateOverrides old new stored overrides).get? p.name =
      (retained? old stored p).or (overrides.get? p.name) := by
  rw [updateOverrides, Bindings.get?_overlay, Bindings.get?_storedValues_filter hp, retained?]

/-- An update begins with the update to the parameters in front. -/
theorem resolve_updateOverrides_front (rest : List Parameter) :
    resolve prompter mode front (updateOverrides old (front ++ rest) stored overrides) state =
      resolve prompter mode front (updateOverrides old front stored overrides) state := by
  refine resolve_congr (fun q hq => ?_) state
  rw [get?_updateOverrides hq, get?_updateOverrides (List.mem_append_left _ hq)]

/-- An update that succeeds has given the parameters in front the first values of its result, and
    has then settled the next one against them. -/
theorem exists_front_of_update
    (h : (update prompter mode old new stored overrides state).outcome = .ok values)
    (hsplit : new = front ++ p :: rest) :
    ∃ before found,
      (update prompter mode old front stored overrides state).outcome = .ok before ∧
      before.entries <+: values.entries ∧
      (settle prompter mode (updateOverrides old new stored overrides) p before
        (update prompter mode old front stored overrides state).state).outcome = .ok found ∧
      values.get? p.name = some found.1 := by
  subst hsplit
  rw [outcome_update] at h
  obtain ⟨before, found, hbefore, hprefix, hfound, hvalue, -⟩ := exists_front_of_resolve h
  rw [resolve_updateOverrides_front] at hbefore hfound
  exact ⟨before, found, hbefore, hprefix, hfound, hvalue⟩

/-! ## Where a value comes from -/

theorem takes_of_settle_retained {found : Scalar × Source} (hp : p ∈ new)
    (hkept : retained? old stored p = some kept)
    (h : (settle prompter mode (updateOverrides old new stored overrides) p before
      state).outcome = .ok found) : p.Takes kept found.1 := by
  have hgiven : (updateOverrides old new stored overrides).get? p.name = some kept := by
    rw [get?_updateOverrides hp, hkept, Option.some_or]
  exact Parameter.receive_eq_ok_iff_takes.1 (receive_of_settle_override hgiven h)

theorem takes_of_settle_override {found : Scalar × Source} {given : Scalar} (hp : p ∈ new)
    (hkept : retained? old stored p = none) (hgiven : overrides.get? p.name = some given)
    (h : (settle prompter mode (updateOverrides old new stored overrides) p before
      state).outcome = .ok found) : p.Takes given found.1 := by
  have hgiven : (updateOverrides old new stored overrides).get? p.name = some given := by
    rw [get?_updateOverrides hp, hkept, Option.none_or, hgiven]
  exact Parameter.receive_eq_ok_iff_takes.1 (receive_of_settle_override hgiven h)

theorem supplied_of_settle_update {found : Scalar × Source} (hp : p ∈ new)
    (hkept : retained? old stored p = none) (hnone : overrides.get? p.name = none)
    (h : (settle prompter mode (updateOverrides old new stored overrides) p before
      state).outcome = .ok found) : Supplied prompter before p state mode found.1 := by
  refine supplied_of_settle ?_ h
  rw [get?_updateOverrides hp, hkept, Option.none_or, hnone]

/-! ## Kept values that do not fit -/

/-- A kept value that its parameter does not take ends the update when its turn comes. -/
theorem update_of_not_conforms (hnd : ((front ++ p :: rest).map Parameter.name).Nodup)
    (hkept : retained? old stored p = some kept) (hconforms : p.conforms kept = false)
    (hbefore : (update prompter mode old front stored overrides state).outcome = .ok before) :
    (update prompter mode old (front ++ p :: rest) stored overrides state).outcome =
      .error (.typeMismatch p.name p.type.kind kept) := by
  rw [outcome_update, ← resolve_updateOverrides_front (p :: rest)] at hbefore
  have hgiven : (updateOverrides old (front ++ p :: rest) stored overrides).get? p.name =
      some kept := by
    rw [get?_updateOverrides (by simp), hkept, Option.some_or]
  have herror : ∀ state, (settle prompter mode
      (updateOverrides old (front ++ p :: rest) stored overrides) p before state).outcome =
        .error (.typeMismatch p.name p.type.kind kept) := by
    intro state
    rw [settle_override hgiven, Parameter.receive_of_conforms_eq_false hconforms]
    rfl
  rw [outcome_update, resolve_of_settle_error hnd hbefore (herror _)]

/-! ## The result -/

theorem not_asked_of_retained (hp : p ∈ new) (hkept : retained? old stored p = some kept)
    {question : Question}
    (h : question ∈ (update prompter mode old new stored overrides state).questions) :
    question.name ≠ p.name := by
  have hpinned : (storedValues (new.filter fun p => declares old p.name) stored).get? p.name =
      some kept := by
    rwa [Bindings.get?_storedValues_filter hp]
  rw [questions_update] at h
  exact name_ne_of_mem_questions_resolvePinned h hpinned

theorem update_congr_of_retained {stored' : Bindings}
    (h : ∀ p ∈ new, retained? old stored' p = retained? old stored p) :
    update prompter mode old new stored' overrides state =
      update prompter mode old new stored overrides state := by
  refine update_congr (fun p hp => ?_) (fun _ _ _ => rfl) state
  obtain ⟨hp, hold⟩ := List.mem_filter.1 hp
  simpa [retained?, hold] using h p hp

/-- **Result of an update.** The result has exactly the new names in order. A parameter that was
    declared before and has a stored value keeps it, whatever the overrides; any other parameter
    has its override, or else it is supplied with a value against those in front. What is stored
    elsewhere does not matter at all. No question is about a kept value; if its parameter does not
    take it, the update fails, and if the parameters in front are settled, for this reason. -/
theorem update_result (prompter : Prompter σ) (mode : Mode) (old new : List Parameter)
    (stored overrides : Bindings) (state : σ) :
    let run := fun params => update prompter mode old params stored overrides state
    (∀ values, (run new).outcome = .ok values →
      values.keys = new.map Parameter.name ∧
      (∀ name, declares new name = false → values.get? name = none) ∧
      ∀ front p rest, new = front ++ p :: rest →
        ∃ before value, (run front).outcome = .ok before ∧
          before.keys = front.map Parameter.name ∧ before.entries <+: values.entries ∧
          values.get? p.name = some value ∧
          (∀ kept, retained? old stored p = some kept → p.Takes kept value) ∧
          (retained? old stored p = none →
            (∀ given, overrides.get? p.name = some given → p.Takes given value) ∧
            (overrides.get? p.name = none →
              Supplied prompter before p (run front).state mode value))) ∧
    (∀ stored', (∀ p ∈ new, retained? old stored' p = retained? old stored p) →
      update prompter mode old new stored' overrides state = run new) ∧
    ∀ p ∈ new, ∀ kept, retained? old stored p = some kept →
      (∀ question ∈ (run new).questions, question.name ≠ p.name) ∧
      (p.conforms kept = false →
        (∀ values, (run new).outcome ≠ .ok values) ∧
        ∀ front rest before, new = front ++ p :: rest → (new.map Parameter.name).Nodup →
          (run front).outcome = .ok before →
          (run new).outcome = .error (.typeMismatch p.name p.type.kind kept)) := by
  intro run
  refine ⟨?_, fun stored' h => update_congr_of_retained h, ?_⟩
  · intro values h
    have hkeys : values.keys = new.map Parameter.name := keys_of_resolve h
    refine ⟨hkeys, fun name hname => ?_, fun front p rest hsplit => ?_⟩
    · rw [Bindings.get?_eq_none_iff, hkeys]
      intro hmem
      obtain ⟨p, hp, rfl⟩ := List.mem_map.1 hmem
      simp [declares_of_mem hp] at hname
    · have hp : p ∈ new := hsplit ▸ List.mem_append_right _ List.mem_cons_self
      obtain ⟨before, found, hbefore, hprefix, hfound, hvalue⟩ := exists_front_of_update h hsplit
      refine ⟨before, found.1, hbefore, keys_of_resolve hbefore, hprefix, hvalue, ?_, ?_⟩
      · exact fun kept hkept => takes_of_settle_retained hp hkept hfound
      · exact fun hkept => ⟨fun given hgiven => takes_of_settle_override hp hkept hgiven hfound,
          fun hnone => supplied_of_settle_update hp hkept hnone hfound⟩
  · intro p hp kept hkept
    refine ⟨fun question hquestion => not_asked_of_retained hp hkept hquestion, ?_⟩
    intro hconforms
    refine ⟨fun values h => ?_, ?_⟩
    · obtain ⟨front, rest, hsplit⟩ := List.append_of_mem hp
      obtain ⟨before, found, -, -, hfound, -⟩ := exists_front_of_update h hsplit
      have htakes : p.Takes kept found.1 := takes_of_settle_retained hp hkept hfound
      simp [Parameter.conforms_iff.2 ⟨_, htakes⟩] at hconforms
    · rintro front rest before rfl hnd hbefore
      exact update_of_not_conforms hnd hkept hconforms hbefore

/-- Two kept values, one of them with an override of another type, and two new parameters: what is
    stored under the name of the last one does not count, and its default refers to a kept value.
    A kept integer does not become a text. -/
theorem update_result_renewed :
    let zone : Parameter := .plain .text "ZONE"
    let size : Parameter := .plain .integer "SIZE"
    let host := (Parameter.plain .text "HOST").withDefault (.text "\x7b\x7b params.ZONE \x7d\x7d-1")
    let stored := Bindings.ofList
      [("ZONE", .text "eu"), ("SIZE", .integer 3), ("HOST", .text "old")]
    let overrides := Bindings.ofList [("SIZE", .text "many"), ("NOTE", .text "n")]
    let run := fun new => update scripted .interactive [zone, size] new stored overrides [none]
    let values := Bindings.ofList
      [("SIZE", .integer 3), ("ZONE", .text "eu"), ("NOTE", .text "n"), ("HOST", .text "eu-1")]
    (run [size, zone, .plain .text "NOTE", host]).outcome = .ok values ∧
      (∃ before, before.entries <+: values.entries ∧
        Supplied scripted before host [none] .interactive (.text "eu-1")) ∧
      (run [zone, .plain .text "SIZE", host]).outcome =
        .error (.typeMismatch "SIZE" .text (.integer 3)) := by
  intro zone size host stored overrides run values
  have h : (run [size, zone, .plain .text "NOTE", host]).outcome = .ok values := rfl
  refine ⟨h, ?_, ?_⟩
  · obtain ⟨-, -, hsources⟩ := (update_result scripted .interactive [zone, size]
      [size, zone, .plain .text "NOTE", host] stored overrides [none]).1 values h
    obtain ⟨before, value, -, -, hprefix, hvalue, -, hopen⟩ :=
      hsources [size, zone, .plain .text "NOTE"] host [] rfl
    cases hvalue
    exact ⟨before, hprefix, (hopen rfl).2 rfl⟩
  · obtain ⟨-, -, hkept⟩ := update_result scripted .interactive [zone, size]
      [zone, .plain .text "SIZE", host] stored overrides [none]
    obtain ⟨-, hfails⟩ := hkept (.plain .text "SIZE") (by simp) (.integer 3) rfl
    exact (hfails rfl).2 [zone] [host] _ rfl (by decide) rfl

end Provision
