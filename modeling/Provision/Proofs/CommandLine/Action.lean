import Provision.CommandLine.Run
import Provision.Proofs.Outcome

/-!
# What commands give

A command goes through its files and its pass, and each of these steps may refuse to go on. What a
command gives does not depend on the transcript: the steps only add to it.

Results:

* `CommandLine.Gives`: the values that an action can end with, whatever the transcript is.
* `CommandLine.Gives.bind`: what one action after another gives.
* `CommandLine.ResolvePrints`, `CommandLine.UpdatePrints`: what is printed without questions.
* `CommandLine.run_resolve_iff`, `CommandLine.run_update_iff`: how a command line ends that is
  understood.
-/

namespace Provision

namespace CommandLine

variable {α β : Type} {action : Action α} {P : α → Prop}

/-! ## Actions -/

/-- The outcome of an action that begins with some transcript. -/
def outcomeFrom (entries : List Entry) (action : Action α) : Except Refusal α :=
  (action.run entries).1

/-- The values that an action ends with, whatever stands in the transcript before it. An action that
    is refused ends with none. -/
def Gives (action : Action α) (P : α → Prop) : Prop :=
  ∀ entries value, outcomeFrom entries action = .ok value ↔ P value

theorem Gives.congr {Q : α → Prop} (h : Gives action P) (hsame : ∀ value, P value ↔ Q value) :
    Gives action Q := fun entries value => (h entries value).trans (hsame value)

theorem gives_pure (value : α) : Gives (pure value) fun result => value = result := by
  intro entries result
  constructor
  · intro h
    cases h
    rfl
  · rintro rfl
    rfl

theorem gives_throw (refusal : Refusal) : Gives (throw refusal : Action α) fun _ => False := by
  intro entries result
  constructor
  · intro h
    cases h
  · exact False.elim

theorem gives_tell (told : List Entry) : Gives (tell told) fun _ => True :=
  fun _ _ => ⟨fun _ => trivial, fun _ => rfl⟩

theorem gives_orRefuse (outcome : Except Failure α) :
    Gives (orRefuse outcome) fun value => outcome = .ok value := by
  cases outcome with
  | error failure => exact (gives_throw _).congr fun value => by simp
  | ok found => exact (gives_pure found).congr fun value => by simp

/-- An action after another one gives what it gives for a value of the first. -/
theorem Gives.bind {next : α → Action β} {Q : α → β → Prop} (h : Gives action P)
    (hnext : ∀ value, P value → Gives (next value) (Q value)) :
    Gives (action >>= next) fun result => ∃ value, P value ∧ Q value result := by
  intro entries result
  have hrun : outcomeFrom entries (action >>= next) =
      (ExceptT.bindCont next (action.run entries).1 (action.run entries).2).1 := rfl
  have hfirst : outcomeFrom entries action = (action.run entries).1 := rfl
  rw [hrun, ← hfirst]
  cases houtcome : outcomeFrom entries action with
  | error refusal =>
    constructor
    · intro hresult
      cases hresult
    · rintro ⟨value, hvalue, -⟩
      rw [(h entries value).2 hvalue] at houtcome
      cases houtcome
  | ok value =>
    -- The next action begins with the transcript that this one has left; it gives the same.
    have hvalue : P value := (h entries value).1 houtcome
    refine (hnext value hvalue (action.run entries).2 result).trans ⟨fun hresult => ?_, ?_⟩
    · exact ⟨value, hvalue, hresult⟩
    · rintro ⟨other, hother, hresult⟩
      rw [(h entries other).2 hother] at houtcome
      cases houtcome
      exact hresult

/-- A record changes nothing but the transcript. -/
theorem Gives.after_tell {next : Unit → Action α} (told : List Entry) (h : Gives (next ()) P) :
    Gives (tell told >>= next) P :=
  ((gives_tell told).bind fun _ _ => h).congr fun value => by simp

/-! ## Commands -/

/-- The values at a path. There are none where nothing is, and none without a path. -/
def valuesFound (world : World) : Option String → Except Failure Bindings
  | none => .ok .empty
  | some path => (world.contents path).readValues?.map (·.getD .empty)

theorem gives_manifestAt (world : World) (path : String) :
    Gives (manifestAt world path) fun m => (world.contents path).readManifest path = .ok m :=
  gives_orRefuse _

theorem gives_valuesAt (world : World) (path : String) :
    Gives (valuesAt world path) fun values => valuesFound world (some path) = .ok values := by
  refine ((gives_orRefuse _).bind (Q := fun found values => found.getD .empty = values) ?_).congr
    fun values => Except.map_eq_ok_iff.symm
  rintro (_ | values) -
  · exact (gives_pure Bindings.empty).after_tell _
  · exact gives_pure values

theorem gives_inputs (world : World) (input : InputArguments) :
    Gives (inputs world input) fun found =>
      (world.contents input.declarations).readManifest input.declarations = .ok found.1 ∧
        valuesFound world input.overrides = .ok found.2 := by
  unfold inputs
  refine ((gives_manifestAt world input.declarations).bind (Q := fun m found =>
    ∃ overrides, valuesFound world input.overrides = .ok overrides ∧ (m, overrides) = found)
    fun m _ => ?_).congr fun found => ?_
  · -- The overrides are read in one branch and not in the other, and both go on alike.
    cases input.overrides with
    | none =>
      refine ((gives_pure Bindings.empty).bind fun overrides _ =>
        (gives_pure (m, overrides)).after_tell _).congr fun found => ?_
      simp [valuesFound]
    | some path =>
      exact (gives_valuesAt world path).bind fun overrides _ =>
        (gives_pure (m, overrides)).after_tell _
  · constructor
    · rintro ⟨m, hm, overrides, hoverrides, rfl⟩
      exact ⟨hm, hoverrides⟩
    · rintro ⟨hm, hoverrides⟩
      exact ⟨found.1, hm, found.2, hoverrides, rfl⟩

theorem gives_modeOf (world : World) :
    Gives (modeOf world true) fun mode => .nonInteractive = mode :=
  gives_pure _

theorem gives_valuesOf (run : Run (List String) Bindings) :
    Gives (valuesOf run) fun values => run.outcome = .ok values :=
  (gives_orRefuse _).after_tell _

/-- What the command for a pass prints without questions: the values that the pass finds. -/
def ResolvePrints (world : World) (input : InputArguments) (printed : String) : Prop :=
  ∃ (m : Manifest) (overrides values : Bindings),
    (world.contents input.declarations).readManifest input.declarations = .ok m ∧
    valuesFound world input.overrides = .ok overrides ∧
    (Provision.resolve (prompter world) .nonInteractive m.params overrides
      world.typed).outcome = .ok values ∧
    input.format.printed values = printed

theorem gives_resolve (world : World) (input : InputArguments) :
    Gives (resolve world true input) (ResolvePrints world input) := by
  unfold resolve
  refine ((gives_inputs world input).bind fun found _ => (gives_modeOf world).bind fun mode _ =>
    (gives_valuesOf _).bind fun values _ => gives_pure _).congr fun printed => ?_
  constructor
  · rintro ⟨⟨m, overrides⟩, ⟨hm, hoverrides⟩, mode, rfl, values, hvalues, hprinted⟩
    exact ⟨m, overrides, values, hm, hoverrides, hvalues, hprinted⟩
  · rintro ⟨m, overrides, values, hm, hoverrides, hvalues, hprinted⟩
    exact ⟨(m, overrides), ⟨hm, hoverrides⟩, .nonInteractive, rfl, values, hvalues, hprinted⟩

/-- What an update from one manifest to another one prints: its values, and nothing if both state
    one version. -/
def UpdatePrints (world : World) (format : Format) (previous : String) (old m : Manifest)
    (overrides : Bindings) (printed : String) : Prop :=
  if old.sameVersion m then "" = printed
  else ∃ stored values : Bindings, valuesFound world (some previous) = .ok stored ∧
    (Provision.update (prompter world) .nonInteractive old.params m.params stored overrides
      world.typed).outcome = .ok values ∧
    format.printed values = printed

theorem gives_update (world : World) (input : InputArguments) (origin previous : String) :
    Gives (update world true input origin previous) fun printed =>
      ∃ (m : Manifest) (overrides : Bindings) (old : Manifest),
        (world.contents input.declarations).readManifest input.declarations = .ok m ∧
        valuesFound world input.overrides = .ok overrides ∧
        (world.contents origin).readManifest origin = .ok old ∧
        UpdatePrints world input.format previous old m overrides printed := by
  unfold update
  refine ((gives_inputs world input).bind fun found _ =>
    (gives_manifestAt world origin).bind (Q := fun old printed =>
      UpdatePrints world input.format previous old found.1 found.2 printed)
      fun old _ => ?_).congr fun printed => ?_
  · unfold UpdatePrints
    by_cases hsame : old.sameVersion found.1 = true
    · simp only [if_pos hsame]
      exact (gives_pure "").after_tell _
    · simp only [if_neg hsame]
      refine Gives.after_tell _ (((gives_modeOf world).bind fun mode _ =>
        (gives_valuesAt world previous).bind fun stored _ =>
          (gives_valuesOf _).bind fun values _ => gives_pure _).congr fun printed => ?_)
      simp
  · constructor
    · rintro ⟨⟨m, overrides⟩, ⟨hm, hoverrides⟩, old, hold, hprinted⟩
      exact ⟨m, overrides, old, hm, hoverrides, hold, hprinted⟩
    · rintro ⟨m, overrides, old, hm, hoverrides, hold, hprinted⟩
      exact ⟨(m, overrides), ⟨hm, hoverrides⟩, old, hold, hprinted⟩

/-! ## Command lines -/

section

variable {world : World} {words : List String} {invocation : Invocation} {input : InputArguments}
  {origin previous printed : String} {verbose : Bool}

/-- A command line that is understood ends well exactly if its command gives what is printed. -/
theorem run_eq_finished_iff
    (h : Arguments.ofWords? world.environment words = some (.invoke invocation)) :
    (∃ shown, run world words = .finished printed shown) ↔
      outcomeFrom [] (invoke world invocation) = .ok printed := by
  have hrun : run world words = answer world (.invoke invocation) := by simp only [run, h]
  have houtcome : outcomeFrom [] (invoke world invocation) =
      ((invoke world invocation).run [] : Except Refusal String × List Entry).1 := rfl
  rw [hrun, houtcome, answer]
  rcases (invoke world invocation).run [] with ⟨_ | found, told⟩ <;> simp

theorem run_resolve_iff (h : Arguments.ofWords? world.environment words =
      some (.invoke ⟨verbose, true, .resolve input⟩)) :
    (∃ shown, run world words = .finished printed shown) ↔ ResolvePrints world input printed := by
  have hgives : Gives (invoke world ⟨verbose, true, .resolve input⟩) (ResolvePrints world input) :=
    (gives_resolve world input).after_tell _
  exact (run_eq_finished_iff h).trans (hgives [] printed)

theorem run_update_iff (h : Arguments.ofWords? world.environment words =
      some (.invoke ⟨verbose, true, .update input origin previous⟩)) :
    (∃ shown, run world words = .finished printed shown) ↔
      ∃ (m : Manifest) (overrides : Bindings) (old : Manifest),
        (world.contents input.declarations).readManifest input.declarations = .ok m ∧
        valuesFound world input.overrides = .ok overrides ∧
        (world.contents origin).readManifest origin = .ok old ∧
        UpdatePrints world input.format previous old m overrides printed := by
  have hgives : Gives (invoke world ⟨verbose, true, .update input origin previous⟩) _ :=
    (gives_update world input origin previous).after_tell _
  exact (run_eq_finished_iff h).trans (hgives [] printed)

end

end CommandLine

end Provision
