import Mathlib.Data.List.Induction
import Provision.Proofs.Dialogue.Accounting
import Provision.Proofs.Pass.Causality

/-!
# The journal of a pass

A pass writes one record for each parameter that gets a value: its name, where the value came from,
and the value as text. So the journal of a pass, finished or not, holds the values that were found,
in the order of the declarations. Between these records stand the notices of answers that were no
integers: each one behind the records of all parameters in front of the one that was asked about,
and before the record of this one.

Results:

* `settlements`: the records of values among events.
* `Parameter.Dialogue`, `dialogue_settle`: the events of a step before its record.
* `source_of_settle`: where the value of a step comes from.
* `settlements_of_resolve`: the records of a pass that succeeds.
* `exists_front_of_notice`: where the notice of an answer stands.
* `resolve_trail`: the journal of every pass.
-/

namespace Provision

/-! ## Records of values -/

/-- Where the value of a parameter comes from: from the overrides if its name is in them, and
    otherwise from where the mode says. -/
def sourceOf (mode : Mode) (overrides : Bindings) (name : String) : Source :=
  if overrides.contains name then .override
  else match mode with
    | .interactive => .prompt
    | .nonInteractive => .default

/-- The record of the value of a parameter. -/
def settlement (mode : Mode) (overrides : Bindings) (entry : String × Scalar) : Record :=
  ⟨.debug, "params_core::resolve", "Resolved parameter",
    [("param", .text entry.1), ("source", .shown (sourceOf mode overrides entry.1).name),
      ("value", .shown entry.2.display)]⟩

/-- The records of values among events, in order: those with the message of such a record. -/
def settlements (events : List Event) : List Record :=
  ((events.filterMap Event.notice?).map Notice.record).filter
    fun record => record.message = "Resolved parameter"

theorem settlements_append (events others : List Event) :
    settlements (events ++ others) = settlements events ++ settlements others := by
  simp only [settlements, List.filterMap_append, List.map_append, List.filter_append]

theorem settlements_asked (question : Question) (events : List Event) :
    settlements (.asked question :: events) = settlements events :=
  rfl

/-- The notice of an answer that is no integer is no record of a value, whatever the parameter is
    called. -/
theorem settlements_notInteger (displayName : String) (events : List Event) :
    settlements (.noted (.notInteger displayName) :: events) = settlements events := by
  have hmessage : displayName ++ " must be an integer; retrying..." ≠ "Resolved parameter" := by
    intro h
    have hlast := congrArg (fun message => message.toList.getLast?) h
    simp [String.toList_append, List.getLast?_append] at hlast
  simp [settlements, Event.notice?, Notice.record, hmessage]

theorem settlements_settled (name : String) (source : Source) (value : Scalar)
    (events : List Event) :
    settlements (.noted (.settled name source value) :: events) =
      (Notice.settled name source value).record :: settlements events := by
  simp [settlements, Event.notice?, Notice.record]

/-! ## One parameter -/

/-- What a prompt for a parameter leaves behind: its question, and for an integer, after an answer
    that is none, the notice of this and the question once more. -/
inductive Parameter.Dialogue (p : Parameter) (question : Question) : List Event → Prop where
  | unasked : p.Dialogue question []
  | asked : p.Dialogue question [.asked question]
  | again {events : List Event} : p.type = .integer → p.Dialogue question events →
      p.Dialogue question (.asked question :: .noted (.notInteger p.displayName) :: events)

namespace Parameter.Dialogue

variable {p : Parameter} {question : Question} {events : List Event}

theorem settlements_eq_nil (h : p.Dialogue question events) : settlements events = [] := by
  induction h with
  | unasked => rfl
  | asked => rfl
  | again _ _ ih => rw [settlements_asked, settlements_notInteger, ih]

/-- Every notice of a dialogue stands right behind the question, and tells that an answer for this
    parameter is no integer. -/
theorem of_notice {pre post : List Event} {notice : Notice} (h : p.Dialogue question events)
    (hsplit : events = pre ++ .noted notice :: post) :
    p.type = .integer ∧ notice = .notInteger p.displayName ∧
      pre.getLast? = some (.asked question) := by
  induction h generalizing pre with
  | unasked => simp at hsplit
  | asked =>
    rcases pre with _ | ⟨event, pre⟩
    · cases hsplit
    · simp at hsplit
  | again htype _ ih =>
    rcases pre with _ | ⟨event, _ | ⟨other, pre⟩⟩
    · cases hsplit
    · cases hsplit
      exact ⟨htype, rfl, rfl⟩
    · obtain ⟨rfl, rfl, hbehind⟩ := by simpa using hsplit
      obtain ⟨-, hnotice, hlast⟩ := ih hbehind
      rw [List.getLast?_cons, List.getLast?_cons, hlast]
      exact ⟨htype, hnotice, rfl⟩

end Parameter.Dialogue

variable {σ : Type} {prompter : Prompter σ} {mode : Mode} {overrides settled : Bindings}
  {p : Parameter} {state : σ}

theorem dialogue_askInteger (htype : p.type = .integer) (question : Question) (patience : Nat)
    (state : σ) :
    p.Dialogue question
      (askInteger prompter question p.displayName patience state).events := by
  induction patience generalizing state with
  | zero => exact .unasked
  | succ patience ih =>
    rw [askInteger]
    cases hanswer : (ask prompter question state).outcome with
    | error failure =>
      rw [Run.andThen_of_error hanswer]
      exact .asked
    | ok answer =>
      rw [Run.andThen_of_ok hanswer, Run.events_after]
      cases answer.toInteger? with
      | some n => exact .asked
      | none => exact .again htype (ih _)

theorem dialogue_prompt (p : Parameter) (default : Option Scalar) (state : σ) :
    p.Dialogue (p.question p.type.answerKind default)
      (prompt prompter p default state).events := by
  cases hinput : p.inputKind with
  | select =>
    rw [prompt_select hinput]
    exact .unasked
  | text =>
    cases htype : p.type with
    | text =>
      rw [prompt_of_text htype hinput]
      exact .asked
    | integer =>
      rw [prompt_of_integer htype hinput]
      exact dialogue_askInteger htype _ _ _

/-- The events of a step are a dialogue, with the default as it was then. -/
theorem dialogue_settle (prompter : Prompter σ) (mode : Mode) (overrides : Bindings)
    (p : Parameter) (settled : Bindings) (state : σ) :
    ∃ default, p.Dialogue (p.question p.type.answerKind default)
      (settle prompter mode overrides p settled state).events := by
  unfold settle
  cases overrides.get? p.name with
  | some value => exact ⟨none, .unasked⟩
  | none =>
    cases defaultOf p settled with
    | error failure => exact ⟨none, .unasked⟩
    | ok default =>
      refine ⟨default, ?_⟩
      cases mode with
      | nonInteractive => cases default <;> exact .unasked
      | interactive =>
        simp only [settleDefault]
        rw [Run.events_andThen_of_silent fun _ _ => rfl]
        exact dialogue_prompt p default state

/-- A step holds no record of a value: this is written after it. -/
theorem settlements_settle (p : Parameter) (settled : Bindings) (state : σ) :
    settlements (settle prompter mode overrides p settled state).events = [] := by
  obtain ⟨default, hdialogue⟩ := dialogue_settle prompter mode overrides p settled state
  exact hdialogue.settlements_eq_nil

theorem source_of_settle {found : Scalar × Source}
    (h : (settle prompter mode overrides p settled state).outcome = .ok found) :
    found.2 = sourceOf mode overrides p.name := by
  unfold settle at h
  unfold sourceOf Bindings.contains
  cases hoverride : overrides.get? p.name with
  | some value =>
    rw [hoverride] at h
    obtain ⟨taken, -, rfl⟩ := Except.map_eq_ok_iff.1 h
    rfl
  | none =>
    rw [hoverride] at h
    cases hdefault : defaultOf p settled with
    | error failure => simp [hdefault] at h
    | ok default =>
      simp only [hdefault] at h
      cases mode with
      | interactive =>
        obtain ⟨answer, -, h⟩ := Run.outcome_andThen_eq_ok_iff.1 h
        obtain ⟨taken, -, rfl⟩ := Except.map_eq_ok_iff.1 h
        rfl
      | nonInteractive =>
        cases default with
        | none => cases h
        | some value =>
          cases h
          rfl

/-! ## Passes -/

variable {front rest params : List Parameter} {before values : Bindings}

/-- What a pass writes when a step has ended: the record of its value, if it has one. -/
def Parameter.conclusion (p : Parameter) : Except Failure (Scalar × Source) → List Event
  | .ok found => [.noted (.settled p.name found.2 found.1)]
  | .error _ => []

theorem level_of_mem_conclusion {outcome : Except Failure (Scalar × Source)} {notice : Notice}
    (h : .noted notice ∈ p.conclusion outcome) : notice.record.level = .debug := by
  cases outcome with
  | error failure => cases h
  | ok found =>
    cases List.mem_singleton.1 h
    rfl

/-- The record of a step that succeeds. -/
theorem settlements_conclusion {found : Scalar × Source}
    (h : (settle prompter mode overrides p settled state).outcome = .ok found) :
    settlements (p.conclusion (.ok found)) = [settlement mode overrides (p.name, found.1)] := by
  rw [Parameter.conclusion, settlements_settled, source_of_settle h]
  rfl

theorem outcome_resolve_snoc {found : Scalar × Source}
    (hnd : ((front ++ [p]).map Parameter.name).Nodup)
    (hbefore : (resolve prompter mode front overrides state).outcome = .ok before)
    (hfound : (settle prompter mode overrides p before
      (resolve prompter mode front overrides state).state).outcome = .ok found) :
    (resolve prompter mode (front ++ [p]) overrides state).outcome =
      .ok (before.insert p.name found.1) := by
  rw [resolve_append hnd, Run.andThen_of_ok hbefore, settleAll, Run.andThen_of_ok hfound]
  rfl

theorem events_resolve_snoc (hnd : ((front ++ [p]).map Parameter.name).Nodup)
    (hbefore : (resolve prompter mode front overrides state).outcome = .ok before) :
    (resolve prompter mode (front ++ [p]) overrides state).events =
      (resolve prompter mode front overrides state).events ++
        ((settle prompter mode overrides p before
            (resolve prompter mode front overrides state).state).events ++
          p.conclusion (settle prompter mode overrides p before
            (resolve prompter mode front overrides state).state).outcome) := by
  rw [resolve_append hnd, Run.andThen_of_ok hbefore, settleAll, Run.events_after]
  cases hlast : (settle prompter mode overrides p before
      (resolve prompter mode front overrides state).state).outcome with
  | error failure =>
    rw [Run.andThen_of_error hlast, Parameter.conclusion, List.append_nil]
  | ok found =>
    rw [Run.andThen_of_ok hlast]
    rfl

theorem not_mem_keys_of_resolve (hnd : ((front ++ p :: rest).map Parameter.name).Nodup)
    (hbefore : (resolve prompter mode front overrides state).outcome = .ok before) :
    p.name ∉ before.keys := by
  rw [keys_of_resolve hbefore]
  exact not_mem_names_front hnd List.mem_cons_self

/-- The records of a pass that succeeds are those of its values. -/
theorem settlements_of_resolve
    (h : (resolve prompter mode params overrides state).outcome = .ok values) :
    settlements (resolve prompter mode params overrides state).events =
      values.entries.map (settlement mode overrides) := by
  induction params using List.reverseRecOn generalizing values with
  | nil =>
    cases h
    rfl
  | append_singleton front p ih =>
    have hnd := (outcome_resolve_eq_ok_iff.1 h).1
    obtain ⟨before, found, hbefore, -, hfound, -, -⟩ := exists_front_of_resolve h
    obtain rfl : before.insert p.name found.1 = values :=
      Except.ok.inj ((outcome_resolve_snoc hnd hbefore hfound).symm.trans h)
    rw [events_resolve_snoc hnd hbefore, settlements_append, settlements_append, ih hbefore,
      settlements_settle, List.nil_append, hfound, settlements_conclusion hfound,
      Bindings.entries_insert (not_mem_keys_of_resolve hnd hbefore), List.map_append]
    rfl

/-- The records of a pass that fails are those of the values in front of where it fails. -/
theorem settlements_of_settle_error {failure : Failure}
    (hnd : ((front ++ p :: rest).map Parameter.name).Nodup)
    (hbefore : (resolve prompter mode front overrides state).outcome = .ok before)
    (herror : (settle prompter mode overrides p before
      (resolve prompter mode front overrides state).state).outcome = .error failure) :
    settlements (resolve prompter mode (front ++ p :: rest) overrides state).events =
      before.entries.map (settlement mode overrides) := by
  rw [resolve_of_settle_error hnd hbefore herror]
  simp only [settlements_append, settlements_of_resolve hbefore, settlements_settle,
    List.append_nil]

/-! ## Notices of answers -/

theorem split_append {α : Type} {xs ys pre post : List α} {a : α}
    (h : xs ++ ys = pre ++ a :: post) :
    (∃ between, xs = pre ++ a :: between ∧ post = between ++ ys) ∨
      ∃ between, pre = xs ++ between ∧ ys = between ++ a :: post := by
  rcases List.append_eq_append_iff.1 h with ⟨between, hpre, hys⟩ | ⟨between, hxs, hpost⟩
  · exact Or.inr ⟨between, hpre, hys⟩
  · rcases between with _ | ⟨b, between⟩
    · exact Or.inr ⟨[], by simpa using hxs.symm, by simpa using hpost.symm⟩
    · cases hpost
      exact Or.inl ⟨between, hxs, rfl⟩

/-- Where the notice of an answer stands: behind the question for an integer parameter, after the
    records of the parameters in front of this one, and before its own record if it gets a value. -/
theorem exists_front_of_notice {pre post : List Event} {notice : Notice}
    (hnd : (params.map Parameter.name).Nodup)
    (hsplit : (resolve prompter mode params overrides state).events =
      pre ++ .noted notice :: post)
    (hlevel : notice.record.level = .error) :
    ∃ front p rest before, params = front ++ p :: rest ∧ p.type = .integer ∧
      notice = .notInteger p.displayName ∧
      (∃ default, pre.getLast? = some (.asked (p.question .number default))) ∧
      (resolve prompter mode front overrides state).outcome = .ok before ∧
      settlements pre = before.entries.map (settlement mode overrides) ∧
      ∀ found, (settle prompter mode overrides p before
          (resolve prompter mode front overrides state).state).outcome = .ok found →
        ∃ later, settlements post = settlement mode overrides (p.name, found.1) :: later := by
  -- From the end, because the notices given for the parameters in front are those of the pass over
  -- them, and what is behind only makes `post` longer.
  induction params using List.reverseRecOn generalizing post with
  | nil => simp [resolve, firstRepeated?, settleAll, Run.done] at hsplit
  | append_singleton init q ih =>
    have hinit : (init.map Parameter.name).Nodup := (nodup_names_append_iff.1 hnd).1
    cases hbefore : (resolve prompter mode init overrides state).outcome with
    | error failure =>
      rw [resolve_append_of_error hnd hbefore] at hsplit
      obtain ⟨front, p, rest, before, rfl, hrest⟩ := ih hinit hsplit
      exact ⟨front, p, rest ++ [q], before, by simp, hrest⟩
    | ok before =>
      rw [events_resolve_snoc hnd hbefore] at hsplit
      rcases split_append hsplit with ⟨between, hfirst, rfl⟩ | ⟨between, rfl, hlast⟩
      · -- The notice was given for one of the parameters in front.
        obtain ⟨front, p, rest, earlier, rfl, htype, hnotice, hasked, hearlier, hpre, hpost⟩ :=
          ih hinit hfirst
        refine ⟨front, p, rest ++ [q], earlier, by simp, htype, hnotice, hasked, hearlier, hpre, ?_⟩
        intro found hfound
        obtain ⟨later, hlater⟩ := hpost found hfound
        exact ⟨_, by rw [settlements_append, hlater, List.cons_append]⟩
      · obtain ⟨default, hdialogue⟩ := dialogue_settle prompter mode overrides q before
          (resolve prompter mode init overrides state).state
        rcases split_append hlast with ⟨between, hasked, rfl⟩ | ⟨between, rfl, hconclusion⟩
        · obtain ⟨htype, hnotice, hquestion⟩ := hdialogue.of_notice hasked
          have hnone := hdialogue.settlements_eq_nil
          rw [hasked, settlements_append, List.append_eq_nil_iff] at hnone
          refine ⟨init, q, [], before, rfl, htype, hnotice, ⟨default, ?_⟩, hbefore, ?_, ?_⟩
          · rw [List.getLast?_append, hquestion, htype]
            rfl
          · rw [settlements_append, settlements_of_resolve hbefore, hnone.1, List.append_nil]
          · intro found hfound
            rw [hnotice, settlements_notInteger] at hnone
            rw [settlements_append, hnone.2, List.nil_append, hfound, settlements_conclusion hfound]
            exact ⟨[], rfl⟩
        · -- The record of a value is no error.
          have hmem : .noted notice ∈ q.conclusion (settle prompter mode overrides q before
              (resolve prompter mode init overrides state).state).outcome := by
            rw [hconclusion]
            exact List.mem_append_right _ List.mem_cons_self
          rw [level_of_mem_conclusion hmem] at hlevel
          cases hlevel

/-! ## The journal of a pass -/

/-- **Audit trail.** A pass that succeeds writes one record for each declared parameter, in order,
    and none else of this kind: with its name, where its value comes from, and the text of the value
    that is in the result. A repeated name is found before anything is asked or written. A pass over
    distinct names that fails does so at one parameter, and has written the records of those in
    front of it. Whatever is written as an error tells that an answer for an integer parameter is
    none; it stands behind the question for this parameter and the records of those in front of it,
    and the next record is its own, if it gets a value. -/
theorem resolve_trail (prompter : Prompter σ) (mode : Mode) (params : List Parameter)
    (overrides : Bindings) (state : σ) :
    let pass := fun params => resolve prompter mode params overrides state
    let run := pass params
    let step := fun front p before =>
      settle prompter mode overrides p before (pass front).state
    let recorded := fun values : Bindings =>
      values.entries.map (settlement mode overrides)
    (∀ values, run.outcome = .ok values →
      settlements run.events = recorded values ∧ values.keys = params.map Parameter.name) ∧
    (¬(params.map Parameter.name).Nodup →
      (∃ name, run.outcome = .error (.duplicateParameter name)) ∧ run.events = []) ∧
    (∀ failure, run.outcome = .error failure → (params.map Parameter.name).Nodup →
      ∃ front p rest before, params = front ++ p :: rest ∧ (pass front).outcome = .ok before ∧
        (step front p before).outcome = .error failure ∧
        settlements run.events = recorded before ∧ before.keys = front.map Parameter.name) ∧
    ∀ pre notice post, run.events = pre ++ .noted notice :: post → notice.record.level = .error →
      ∃ front p rest before, params = front ++ p :: rest ∧ p.type = .integer ∧
        notice = .notInteger p.displayName ∧
        (∃ default, pre.getLast? = some (.asked (p.question .number default))) ∧
        (pass front).outcome = .ok before ∧ before.keys = front.map Parameter.name ∧
        settlements pre = recorded before ∧
        ∀ found, (step front p before).outcome = .ok found →
          ∃ later, settlements post = settlement mode overrides (p.name, found.1) :: later := by
  intro pass run step recorded
  refine ⟨fun values h => ⟨settlements_of_resolve h, keys_of_resolve h⟩, fun hrepeated => ?_,
    fun failure h hnd => ?_, fun pre notice post hsplit hlevel => ?_⟩
  · obtain ⟨name, hname⟩ := resolve_of_not_nodup hrepeated prompter mode overrides state
    rw [show run = .failed (.duplicateParameter name) state from hname]
    exact ⟨⟨name, rfl⟩, rfl⟩
  · obtain ⟨front, p, rest, before, hparams, hbefore, herror⟩ :=
      exists_front_of_resolve_error hnd h
    refine ⟨front, p, rest, before, hparams, hbefore, herror, ?_, keys_of_resolve hbefore⟩
    subst hparams
    exact settlements_of_settle_error hnd hbefore herror
  · have hnd : (params.map Parameter.name).Nodup := by
      by_contra hrepeated
      obtain ⟨name, hname⟩ := resolve_of_not_nodup hrepeated prompter mode overrides state
      rw [show run = .failed (.duplicateParameter name) state from hname] at hsplit
      simp [Run.failed] at hsplit
    obtain ⟨front, p, rest, before, hparams, htype, hnotice, hasked, hbefore, hpre, hpost⟩ :=
      exists_front_of_notice hnd hsplit hlevel
    exact ⟨front, p, rest, before, hparams, htype, hnotice, hasked, hbefore,
      keys_of_resolve hbefore, hpre, hpost⟩

/-- A parameter that is answered, one that is given, and an integer that is asked for twice. Behind
    them a pass may end, or fail at a default without a value to refer to. -/
theorem resolve_trail_retried :
    let host : Parameter := .plain .text "HOST"
    let zone : Parameter := .plain .text "ZONE"
    let size : Parameter := .plain .integer "SIZE"
    let node := (Parameter.plain .text "NODE").withDefault (.text "\x7b\x7b params.LATER \x7d\x7d")
    let overrides := Bindings.ofList [("ZONE", .text "eu")]
    let script : Script := [some (.text "a"), some (.text "many"), some (.integer 5)]
    let run := fun params => resolve scripted .interactive params overrides script
    let record := fun name source value =>
      Record.mk .debug "params_core::resolve" "Resolved parameter"
        [("param", .text name), ("source", .shown source), ("value", .shown value)]
    settlements (run [host, zone, size]).events =
        [record "HOST" "Prompt" "\"a\"", record "ZONE" "Override" "\"eu\"",
          record "SIZE" "Prompt" "5"] ∧
      (∃ front p rest, [host, zone, size, node] = front ++ p :: rest ∧
        (settlements (run [host, zone, size, node]).events).length = front.length) ∧
      (∃ front p rest, [host, zone, size] = front ++ p :: rest ∧ p.type = .integer ∧
        p.displayName = "SIZE" ∧
        (settlements ((run [host, zone, size]).events.take 4)).length = front.length) ∧
      (run [host, zone, host]).events = [] := by
  intro host zone size node overrides script run record
  have htrail (params : List Parameter) :=
    resolve_trail scripted .interactive params overrides script
  have hcount (front : List Parameter) (before : Bindings)
      (hbefore : (run front).outcome = .ok before) (records : List Record)
      (hrecords : records = before.entries.map (settlement .interactive overrides)) :
      records.length = front.length := by
    rw [hrecords, List.length_map, length_entries_of_resolve hbefore]
  refine ⟨?_, ?_, ?_, ?_⟩
  · have hvalues : (run [host, zone, size]).outcome = .ok (.ofList
        [("HOST", .text "a"), ("ZONE", .text "eu"), ("SIZE", .integer 5)]) := rfl
    exact ((htrail [host, zone, size]).1 _ hvalues).1
  · have hfailure : (run [host, zone, size, node]).outcome =
        .error (.missingDependency "\x7b\x7b params.LATER \x7d\x7d" "LATER") := rfl
    obtain ⟨front, p, rest, before, hparams, hbefore, -, hrecords, -⟩ :=
      (htrail [host, zone, size, node]).2.2.1 _ hfailure (by decide)
    exact ⟨front, p, rest, hparams, hcount front before hbefore _ hrecords⟩
  · have hsplit : (run [host, zone, size]).events = (run [host, zone, size]).events.take 4 ++
        .noted (.notInteger "SIZE") :: (run [host, zone, size]).events.drop 5 := rfl
    obtain ⟨front, p, rest, before, hparams, htype, hnotice, -, hbefore, -, hrecords, -⟩ :=
      (htrail [host, zone, size]).2.2.2 _ _ _ hsplit rfl
    exact ⟨front, p, rest, hparams, htype, (Notice.notInteger.inj hnotice).symm,
      hcount front before hbefore _ hrecords⟩
  · exact ((htrail [host, zone, host]).2.1 (by decide)).2

end Provision
