import Provision.Proofs.Dialogue.Terminal
import Provision.Proofs.Pass.Replay
import Provision.Proofs.Pass.Shape

/-!
# Passes confirmed line by line

At a terminal a suggestion is accepted by an empty line. So a user who enters nothing but empty
lines gets what a pass without questions gives.

Results:

* `acquiesces_emptyLines`: one empty line for every question accepts all suggestions.
* `eq_readLine_of_fits`: a suggested value is read back from the empty line.
* `resolve_emptyLines`: a pass in which every line is empty gives what a pass without questions
  gives.
-/

namespace Provision

variable {τ : Type} {quiet : Prompter τ} {start : τ} {params : List Parameter}
  {overrides values : Bindings}

/-- One empty line for every question accepts all suggestions. -/
theorem acquiesces_emptyLines
    (hinput : ∀ p ∈ params, isOpen overrides p = true → p.inputKind = .text) (rest : List String) :
    Acquiesces (terminal true) overrides params
      (List.replicate (params.filter (isOpen overrides)).length "" ++ rest) .interactive := by
  refine ⟨hinput, ?_⟩
  rw [List.countP_eq_length_filter]
  exact terminal_accepts _ rest

theorem notInteger_not_mem_confirmations (displayName : String) :
    .notInteger displayName ∉
      (params.flatMap (confirmation overrides values)).filterMap Event.notice? := by
  intro hmem
  obtain ⟨event, hevent, hnotice⟩ := List.mem_filterMap.1 hmem
  obtain ⟨p, -, hevent⟩ := List.mem_flatMap.1 hevent
  unfold confirmation at hevent
  split at hevent
  · cases hevent
  · split at hevent
    · rcases List.mem_cons.1 hevent with rfl | hevent
      · cases hnotice
      · cases List.mem_singleton.1 hevent
        cases hnotice
    · cases List.mem_singleton.1 hevent
      cases hnotice

/-- The empty line stands for the value that is suggested for a parameter. -/
theorem eq_readLine_of_fits (hfits : Fits params values) {p : Parameter} (hp : p ∈ params) :
    values.get? p.name =
      some ((p.question p.type.answerKind (values.get? p.name)).readLine "") := by
  obtain ⟨value, hvalue, hkind⟩ := hfits.kinds p hp
  have hanswers : value.kind = p.type.answerKind.scalarKind :=
    hkind.trans p.type.scalarKind_answerKind.symm
  rw [hvalue]
  exact congrArg some (Question.readLine_empty rfl hanswers).symm

/-- **Enter at every prompt.** Let a pass without questions give some values, and let the parameters
    without an override be entered as texts. Then a pass at a terminal at which only empty lines are
    typed gives the same values. It asks about every parameter without an override once, in order,
    suggesting the value that the pass without questions gives it; no answer is refused, and the
    lines behind are left. The empty line stands for the suggested value, which is read back from
    its text. -/
theorem resolve_emptyLines
    (hquiet : (resolve quiet .nonInteractive params overrides start).outcome = .ok values)
    (hinput : ∀ p ∈ params, isOpen overrides p = true → p.inputKind = .text)
    (rest : List String) :
    let asked := params.filter (isOpen overrides)
    let run := resolve (terminal true) .interactive params overrides
      (List.replicate asked.length "" ++ rest)
    run.outcome = .ok values ∧ run.state = rest ∧
      run.questions = (asked.map fun p =>
        p.question p.type.answerKind (values.get? p.name)) ∧
      (∀ displayName, .notInteger displayName ∉ run.notices) ∧
      ∀ question ∈ run.questions, question.default = some (question.readLine "") := by
  intro asked run
  have hfits : Fits params values := fits_of_resolve hquiet
  have hkeys : ∀ p ∈ params, p.name ∈ values.keys := by
    intro p hp
    rw [hfits.keys]
    exact List.mem_map_of_mem hp
  obtain ⟨houtcome, hevents⟩ := resolve_of_acquiesces hquiet (acquiesces_emptyLines hinput rest)
  have hquestions : run.questions = asked.map fun p =>
      p.question p.type.answerKind (values.get? p.name) := by
    rw [Run.questions, hevents, questions_confirmations hkeys]
  refine ⟨houtcome, ?_, hquestions, ?_, ?_⟩
  · have haccounts : run.state = (terminal true).answered run.questions _ :=
      accounts_resolve params _
    rw [haccounts]
    exact terminal_answered _ _ _ (by rw [hquestions, List.length_replicate, List.length_map])
  · intro displayName
    rw [Run.notices, hevents]
    exact notInteger_not_mem_confirmations displayName
  · intro question hquestion
    rw [hquestions] at hquestion
    obtain ⟨p, hp, rfl⟩ := List.mem_map.1 hquestion
    exact eq_readLine_of_fits hfits (List.mem_of_mem_filter hp)

/-- The smallest integer, a text of several lines, and a reference to it, each accepted by an empty
    line; and a selection that is given. A line is left. -/
theorem resolve_emptyLines_defaults :
    let size := (Parameter.plain .integer "SIZE").withDefault (.integer Int64.minValue)
    let text := (Parameter.plain .text "TEXT").withDefault (.text " a\n\nb ")
    let next := (Parameter.plain .text "NEXT").withDefault (.text "\x7b\x7b params.TEXT \x7d\x7d!")
    let zone : Parameter :=
      { Parameter.plain .text "ZONE" with input := some (.select [⟨none, .text "us"⟩]) }
    let overrides := Bindings.ofList [("ZONE", .text "eu")]
    let run := resolve (terminal true) .interactive [size, zone, text, next] overrides
      ["", "", "", "left"]
    run.outcome = .ok (.ofList [("SIZE", .integer Int64.minValue), ("ZONE", .text "eu"),
        ("TEXT", .text " a\n\nb "), ("NEXT", .text " a\n\nb !")]) ∧
      run.state = ["left"] ∧ run.questions.map Question.name = ["SIZE", "TEXT", "NEXT"] := by
  intro size text next zone overrides run
  have hquiet : (resolve (terminal false) .nonInteractive [size, zone, text, next] overrides
      []).outcome = .ok (.ofList [("SIZE", .integer Int64.minValue), ("ZONE", .text "eu"),
        ("TEXT", .text " a\n\nb "), ("NEXT", .text " a\n\nb !")]) := rfl
  obtain ⟨houtcome, hstate, hquestions, -⟩ := resolve_emptyLines hquiet (by decide) ["left"]
  exact ⟨houtcome, hstate, (congrArg (List.map Question.name) hquestions).trans rfl⟩

end Provision
