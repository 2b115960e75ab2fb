import Provision.Dialogue.Script
import Provision.Proofs.Pass.Settled

/-!
# Causality of a pass

A pass over some parameters begins with the pass over those in front, and knows nothing of those
behind. If the parameters in front fail, the others are never looked at; if they get their values,
these are the first ones of the result, and what was asked and told for them stands in front of all
that follows. Only a repeated name is found before everything else, wherever it stands.

Results:

* `Run.events_prefix_andThen`: an activity begins with the events of its first part.
* `resolve_append_of_error`: a failure in front is the failure of the whole pass.
* `take_of_resolve_append`: the values in front are the first values of the result.
* `resolve_causal`: what comes behind does not affect what stands in front.
-/

namespace Provision

namespace Run

variable {σ α β : Type}

/-- An activity begins with the events of its first part, whether this succeeds or fails. -/
theorem events_prefix_andThen (run : Run σ α) (next : α → σ → Run σ β) :
    run.events <+: (run.andThen next).events := by
  cases h : run.outcome with
  | error failure =>
    exact ⟨[], by rw [andThen_of_error h, List.append_nil]⟩
  | ok value =>
    rw [andThen_of_ok h, events_after]
    exact List.prefix_append _ _

end Run

variable {σ : Type} {prompter : Prompter σ} {mode : Mode} {front rest : List Parameter}
  {overrides before values : Bindings} {state : σ} {failure : Failure}

/-- The events of a pass begin with those of the pass over the parameters in front. -/
theorem events_prefix_resolve_append (hnd : ((front ++ rest).map Parameter.name).Nodup)
    (prompter : Prompter σ) (mode : Mode) (overrides : Bindings) (state : σ) :
    (resolve prompter mode front overrides state).events <+:
      (resolve prompter mode (front ++ rest) overrides state).events := by
  rw [resolve_append hnd]
  exact Run.events_prefix_andThen _ _

/-- A failure in front is the failure of the whole pass, and nothing happens after it. -/
theorem resolve_append_of_error (hnd : ((front ++ rest).map Parameter.name).Nodup)
    (h : (resolve prompter mode front overrides state).outcome = .error failure) :
    resolve prompter mode (front ++ rest) overrides state =
      resolve prompter mode front overrides state := by
  rw [resolve_append hnd, Run.andThen_of_error h, ← h]

theorem length_entries_of_resolve
    (h : (resolve prompter mode front overrides state).outcome = .ok before) :
    before.entries.length = front.length := by
  have hkeys := congrArg List.length (keys_of_resolve h)
  rwa [Bindings.keys, List.length_map, List.length_map] at hkeys

theorem take_of_resolve_append
    (hfront : (resolve prompter mode front overrides state).outcome = .ok before)
    (h : (resolve prompter mode (front ++ rest) overrides state).outcome = .ok values) :
    values.entries.take front.length = before.entries := by
  have hprefix := entries_prefix_of_resolve_append hfront h
  rw [← length_entries_of_resolve hfront]
  exact (List.prefix_iff_eq_take.1 hprefix).symm

/-- **Causality.** Let the declared names be distinct, and split the declarations anywhere. If the
    pass over those in front fails, the whole pass is the same run: it fails for the same reason,
    after the same questions and notices, with the prompter in the same state. If it succeeds, its
    questions and notices are the first ones of the whole pass, however that ends, and its values
    are the first values of the result. -/
theorem resolve_causal (hnd : ((front ++ rest).map Parameter.name).Nodup)
    (prompter : Prompter σ) (mode : Mode) (overrides : Bindings) (state : σ) :
    let first := resolve prompter mode front overrides state
    let whole := resolve prompter mode (front ++ rest) overrides state
    (∀ failure, first.outcome = .error failure →
      whole.outcome = .error failure ∧ whole.events = first.events ∧ whole.state = first.state) ∧
    ∀ before, first.outcome = .ok before →
      first.events <+: whole.events ∧ first.questions <+: whole.questions ∧
      first.notices <+: whole.notices ∧
      ∀ values, whole.outcome = .ok values →
        values.entries.take front.length = before.entries := by
  intro first whole
  constructor
  · intro failure hfailure
    have hsame : whole = first := resolve_append_of_error hnd hfailure
    rw [hsame]
    exact ⟨hfailure, rfl, rfl⟩
  · intro before hbefore
    have hevents : first.events <+: whole.events :=
      events_prefix_resolve_append hnd prompter mode overrides state
    refine ⟨hevents, ?_, ?_, fun values hvalues => take_of_resolve_append hbefore hvalues⟩
    · exact hevents.filterMap Event.question?
    · exact hevents.filterMap Event.notice?

/-- Two parameters in front that are asked about, the second one twice. Behind them one that is
    given and one that fails, or one that succeeds. -/
theorem resolve_causal_split :
    let host : Parameter := .plain .text "HOST"
    let size : Parameter := .plain .integer "SIZE"
    let zone : Parameter := .plain .text "ZONE"
    let node := (Parameter.plain .text "NODE").withDefault (.text "\x7b\x7b params.ZONE \x7d\x7d")
    let overrides := Bindings.ofList [("ZONE", .text "eu")]
    let script : Script := [some (.text "a"), some (.text "many"), some (.integer 3), none]
    let run := fun params => resolve scripted .interactive params overrides script
    (run [host, size]).outcome = .ok (.ofList [("HOST", .text "a"), ("SIZE", .integer 3)]) ∧
      (run [host, size]).questions.map Question.name = ["HOST", "SIZE", "SIZE"] ∧
      (run [host, size]).events <+: (run [host, size, node, zone]).events ∧
      (∃ values, (run [host, size, zone, node]).outcome = .ok values ∧
        values.entries.take 2 = [("HOST", .text "a"), ("SIZE", .integer 3)]) ∧
      (run [host, node]).outcome = (run [host, node, size, zone]).outcome := by
  intro host size zone node overrides script run
  have hfront : (run [host, size]).outcome =
      .ok (.ofList [("HOST", .text "a"), ("SIZE", .integer 3)]) := rfl
  refine ⟨hfront, rfl, ?_, ?_, ?_⟩
  · have hnd : (([host, size] ++ [node, zone]).map Parameter.name).Nodup := by decide
    exact ((resolve_causal hnd scripted .interactive overrides script).2 _ hfront).1
  · have hnd : (([host, size] ++ [zone, node]).map Parameter.name).Nodup := by decide
    have hwhole : (run ([host, size] ++ [zone, node])).outcome = .ok (.ofList
        [("HOST", .text "a"), ("SIZE", .integer 3), ("ZONE", .text "eu"), ("NODE", .text "eu")]) :=
      rfl
    obtain ⟨-, -, -, htake⟩ :=
      (resolve_causal hnd scripted .interactive overrides script).2 _ hfront
    exact ⟨_, hwhole, htake _ hwhole⟩
  · have hnd : (([host, node] ++ [size, zone]).map Parameter.name).Nodup := by decide
    have hfails : (run [host, node]).outcome =
        .error (.missingDependency "\x7b\x7b params.ZONE \x7d\x7d" "ZONE") := rfl
    have hwhole :=
      ((resolve_causal hnd scripted .interactive overrides script).1 _ hfails).1
    exact hfails.trans hwhole.symm

end Provision
