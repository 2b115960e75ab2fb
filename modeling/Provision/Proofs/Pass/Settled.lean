import Mathlib.Data.List.Nodup
import Provision.Proofs.Bindings
import Provision.Proofs.Dialogue.Run
import Provision.Proofs.Outcome

/-!
# What a pass settles

A pass over a list of parameters is the pass over the first ones followed by the pass over the
others. So every value of a result was settled against the values in front of it, and nothing
that comes later changes it.

Results:

* `settleAll_append`, `resolve_append`: a pass over two lists is one pass after the other.
* `exists_front_of_resolve`: the values in front of a value, and what it was settled against.
* `exists_front_of_resolve_error`, `resolve_of_settle_error`: where a pass fails.
* `mem_questions_resolve`: only parameters without an override are asked about.
* `accounts_resolve`: a pass leaves the prompter as its questions do.
-/

namespace Provision

namespace Run

variable {σ α β : Type}

theorem after_andThen (events : List Event) (run : Run σ α) (next : α → σ → Run σ β) :
    (run.after events).andThen next = (run.andThen next).after events := by
  rcases run with ⟨_ | value, state, before⟩
  · rfl
  · simp [andThen, after]

end Run

/-! ## Repeated names -/

theorem nodup_names_append_iff {front rest : List Parameter} :
    ((front ++ rest).map Parameter.name).Nodup ↔
      (front.map Parameter.name).Nodup ∧ (rest.map Parameter.name).Nodup ∧
        ∀ q ∈ front, ∀ p ∈ rest, q.name ≠ p.name := by
  rw [List.map_append, List.nodup_append]
  simp

theorem not_mem_names_front {front rest : List Parameter} {p : Parameter}
    (hnd : ((front ++ rest).map Parameter.name).Nodup) (hp : p ∈ rest) :
    p.name ∉ front.map Parameter.name := by
  intro hmem
  obtain ⟨q, hq, hname⟩ := List.mem_map.1 hmem
  exact (nodup_names_append_iff.1 hnd).2.2 q hq p hp hname

theorem firstRepeated?_eq_none_iff {seen names : List String} :
    firstRepeated? seen names = none ↔ names.Nodup ∧ ∀ name ∈ names, name ∉ seen := by
  induction names generalizing seen with
  | nil => simp [firstRepeated?]
  | cons name rest ih =>
    rw [firstRepeated?]
    split_ifs with h
    · simp [h]
    · rw [ih, List.nodup_cons]
      constructor
      · rintro ⟨hnd, hrest⟩
        refine ⟨⟨fun hmem => hrest name hmem (by simp), hnd⟩, ?_⟩
        intro other hother
        rcases List.mem_cons.1 hother with rfl | hother
        · exact h
        · exact fun hseen => hrest other hother (List.mem_cons_of_mem _ hseen)
      · rintro ⟨⟨hname, hnd⟩, hall⟩
        refine ⟨hnd, fun other hother hseen => ?_⟩
        rcases List.mem_cons.1 hseen with rfl | hseen
        · exact hname hother
        · exact hall other (List.mem_cons_of_mem _ hother) hseen

section

variable {σ : Type} {prompter : Prompter σ} {mode : Mode} {overrides : Bindings}

/-! ## One parameter -/

theorem receive_of_defaultOf {p : Parameter} {settled : Bindings} {value : Scalar}
    (h : defaultOf p settled = .ok (some value)) : ∃ v, p.receive v = .ok value := by
  unfold defaultOf at h
  split at h
  · cases h
  · split at h
    · cases h
    · next v _ =>
      obtain ⟨taken, htaken, hsome⟩ := Except.map_eq_ok_iff.1 h
      cases hsome
      exact ⟨v, htaken⟩

/-- Whatever the source of a value, its parameter has received it. -/
theorem receive_of_settle {p : Parameter} {settled : Bindings} {state : σ}
    {found : Scalar × Source}
    (h : (settle prompter mode overrides p settled state).outcome = .ok found) :
    ∃ v, p.receive v = .ok found.1 := by
  unfold settle at h
  split at h
  · next v _ =>
    obtain ⟨taken, htaken, rfl⟩ := Except.map_eq_ok_iff.1 h
    exact ⟨v, htaken⟩
  · split at h
    · cases h
    · next default hdefault =>
      cases mode with
      | interactive =>
        obtain ⟨answer, -, h⟩ := Run.outcome_andThen_eq_ok_iff.1 h
        obtain ⟨taken, htaken, rfl⟩ := Except.map_eq_ok_iff.1 h
        exact ⟨answer, htaken⟩
      | nonInteractive =>
        cases default with
        | none => cases h
        | some value =>
          cases h
          exact receive_of_defaultOf hdefault

theorem receive_of_settle_override {p : Parameter} {settled : Bindings} {state : σ}
    {found : Scalar × Source} {value : Scalar} (hvalue : overrides.get? p.name = some value)
    (h : (settle prompter mode overrides p settled state).outcome = .ok found) :
    p.receive value = .ok found.1 := by
  rw [settle_override hvalue] at h
  obtain ⟨taken, htaken, rfl⟩ := Except.map_eq_ok_iff.1 h
  exact htaken

/-- A question of a step is about its parameter, for which there is no override, and only asked
    if the user may be asked. -/
theorem mem_questions_settle {p : Parameter} {settled : Bindings} {state : σ}
    {question : Question}
    (h : question ∈ (settle prompter mode overrides p settled state).questions) :
    question.name = p.name ∧ overrides.get? p.name = none ∧ mode = .interactive := by
  unfold settle at h
  split at h
  · cases h
  · next hnone =>
    split at h
    · cases h
    · next default _ =>
      cases mode with
      | interactive =>
        refine ⟨?_, hnone, rfl⟩
        rcases Run.mem_questions_andThen h with h | ⟨answer, -, h⟩
        · rw [mem_questions_prompt h]
          rfl
        · cases h
      | nonInteractive => cases default <;> cases h

theorem accounts_settle (p : Parameter) (settled : Bindings) (state : σ) :
    (settle prompter mode overrides p settled state).Accounts prompter state := by
  unfold settle
  split
  · exact Run.accounts_ended _ _
  · split
    · exact Run.accounts_ended _ _
    · next default _ =>
      cases mode with
      | interactive => exact (accounts_prompt p default state).andThen fun _ => rfl
      | nonInteractive => cases default <;> exact Run.accounts_ended _ _

/-! ## A list of parameters -/

theorem outcome_settleAll_cons_eq_ok_iff {p : Parameter} {rest : List Parameter}
    {settled values : Bindings} {state : σ} :
    (settleAll prompter mode overrides (p :: rest) settled state).outcome = .ok values ↔
      ∃ found, (settle prompter mode overrides p settled state).outcome = .ok found ∧
        (settleAll prompter mode overrides rest (settled.insert p.name found.1)
          (settle prompter mode overrides p settled state).state).outcome = .ok values :=
  Run.outcome_andThen_eq_ok_iff

theorem settleAll_append (xs ys : List Parameter) (settled : Bindings) (state : σ) :
    settleAll prompter mode overrides (xs ++ ys) settled state =
      (settleAll prompter mode overrides xs settled state).andThen fun found state =>
        settleAll prompter mode overrides ys found state := by
  induction xs generalizing settled state with
  | nil => rfl
  | cons p xs ih =>
    simp only [List.cons_append, settleAll, Run.andThen_assoc, ih, Run.after_andThen]

/-- Distinct names that have no value yet have none when the first of them is settled. -/
theorem not_mem_keys_insert {p : Parameter} {rest : List Parameter} {settled : Bindings}
    (hnd : ((p :: rest).map Parameter.name).Nodup) (hnew : ∀ q ∈ p :: rest, q.name ∉ settled.keys)
    (value : Scalar) : ∀ q ∈ rest, q.name ∉ (settled.insert p.name value).keys := by
  rw [List.map_cons, List.nodup_cons] at hnd
  intro q hq hmem
  rcases Bindings.mem_keys_insert.1 hmem with heq | hmem
  · exact hnd.1 (heq ▸ List.mem_map_of_mem hq)
  · exact hnew q (List.mem_cons_of_mem _ hq) hmem

/-- The entries settled before stand in front of those of the result. -/
theorem entries_prefix_of_settleAll {params : List Parameter} {settled values : Bindings}
    {state : σ}
    (h : (settleAll prompter mode overrides params settled state).outcome = .ok values)
    (hnd : (params.map Parameter.name).Nodup) (hnew : ∀ p ∈ params, p.name ∉ settled.keys) :
    settled.entries <+: values.entries := by
  induction params generalizing settled state with
  | nil =>
    cases h
    exact List.prefix_refl _
  | cons p rest ih =>
    obtain ⟨found, -, hrest⟩ := outcome_settleAll_cons_eq_ok_iff.1 h
    have hlater := ih hrest (List.nodup_cons.1 hnd).2 (not_mem_keys_insert hnd hnew _)
    rw [Bindings.entries_insert (hnew p (by simp))] at hlater
    exact (List.prefix_append _ _).trans hlater

/-- The names of the result are those of the parameters behind the ones settled before. -/
theorem keys_of_settleAll {params : List Parameter} {settled values : Bindings} {state : σ}
    (h : (settleAll prompter mode overrides params settled state).outcome = .ok values)
    (hnd : (params.map Parameter.name).Nodup) (hnew : ∀ p ∈ params, p.name ∉ settled.keys) :
    values.keys = settled.keys ++ params.map Parameter.name := by
  induction params generalizing settled state with
  | nil =>
    cases h
    simp
  | cons p rest ih =>
    obtain ⟨found, -, hrest⟩ := outcome_settleAll_cons_eq_ok_iff.1 h
    rw [ih hrest (List.nodup_cons.1 hnd).2 (not_mem_keys_insert hnd hnew _), Bindings.keys_insert,
      if_neg (hnew p (by simp)), List.map_cons, List.append_assoc, List.singleton_append]

theorem get?_of_settleAll {params : List Parameter} {settled values : Bindings} {state : σ}
    (h : (settleAll prompter mode overrides params settled state).outcome = .ok values)
    {name : String} (hname : ∀ p ∈ params, p.name ≠ name) :
    values.get? name = settled.get? name := by
  induction params generalizing settled state with
  | nil =>
    cases h
    rfl
  | cons p rest ih =>
    obtain ⟨found, -, hrest⟩ := outcome_settleAll_cons_eq_ok_iff.1 h
    rw [ih hrest fun q hq => hname q (List.mem_cons_of_mem _ hq), Bindings.get?_insert,
      if_neg (Ne.symm (hname p (by simp)))]

/-- What a parameter is settled at is its value in the result, because no parameter behind it has
    its name. -/
theorem get?_of_settleAll_insert {p : Parameter} {rest : List Parameter} {value : Scalar}
    {settled values : Bindings} {state : σ}
    (h : (settleAll prompter mode overrides rest (settled.insert p.name value) state).outcome =
      .ok values)
    (hnd : ((p :: rest).map Parameter.name).Nodup) : values.get? p.name = some value := by
  have hne : ∀ q ∈ rest, q.name ≠ p.name := fun q hq heq =>
    (List.nodup_cons.1 hnd).1 (heq ▸ List.mem_map_of_mem hq)
  rw [get?_of_settleAll h hne, Bindings.get?_insert, if_pos rfl]

/-- A pass that fails has failed at one parameter, behind those in front that have their values. -/
theorem exists_settle_of_settleAll_error {params : List Parameter} {settled : Bindings} {state : σ}
    {failure : Failure}
    (h : (settleAll prompter mode overrides params settled state).outcome = .error failure) :
    ∃ front p rest before, params = front ++ p :: rest ∧
      (settleAll prompter mode overrides front settled state).outcome = .ok before ∧
      (settle prompter mode overrides p before
        (settleAll prompter mode overrides front settled state).state).outcome =
          .error failure := by
  induction params generalizing settled state with
  | nil => cases h
  | cons p rest ih =>
    rcases Run.outcome_andThen_eq_error_iff.1 h with h | ⟨found, hfound, h⟩
    · exact ⟨[], p, rest, settled, rfl, rfl, h⟩
    · obtain ⟨front, q, tail, before, rfl, hbefore, herror⟩ := ih h
      refine ⟨p :: front, q, tail, before, rfl, ?_⟩
      rw [settleAll, Run.andThen_of_ok hfound]
      exact ⟨hbefore, herror⟩

theorem mem_questions_settleAll {params : List Parameter} {settled : Bindings} {state : σ}
    {question : Question}
    (h : question ∈ (settleAll prompter mode overrides params settled state).questions) :
    ∃ p ∈ params, question.name = p.name ∧ overrides.get? p.name = none ∧
      mode = .interactive := by
  induction params generalizing settled state with
  | nil => cases h
  | cons p rest ih =>
    rcases Run.mem_questions_andThen h with h | ⟨found, -, h⟩
    · exact ⟨p, by simp, mem_questions_settle h⟩
    · have hnoted : question ∈ (settleAll prompter mode overrides rest
          (settled.insert p.name found.1)
          (settle prompter mode overrides p settled state).state).questions := by
        simpa [Event.question?] using h
      obtain ⟨q, hq, hquestion⟩ := ih hnoted
      exact ⟨q, List.mem_cons_of_mem _ hq, hquestion⟩

/-- A pass leaves the prompter as its questions do. -/
theorem accounts_settleAll (params : List Parameter) (settled : Bindings) (state : σ) :
    (settleAll prompter mode overrides params settled state).Accounts prompter state := by
  induction params generalizing settled state with
  | nil => exact Run.accounts_ended _ _
  | cons p rest ih =>
    refine (accounts_settle p settled state).andThen fun found => ?_
    exact (ih _ _).after_noted [.settled p.name found.2 found.1]

/-! ## A whole pass -/

theorem accounts_resolve (params : List Parameter) (state : σ) :
    (resolve prompter mode params overrides state).Accounts prompter state := by
  unfold resolve
  split
  · exact Run.accounts_ended _ _
  · exact accounts_settleAll params .empty state

theorem resolve_eq_settleAll {params : List Parameter}
    (hnd : (params.map Parameter.name).Nodup) (state : σ) :
    resolve prompter mode params overrides state =
      settleAll prompter mode overrides params .empty state := by
  have hnone : firstRepeated? [] (params.map Parameter.name) = none :=
    firstRepeated?_eq_none_iff.2 ⟨hnd, by simp⟩
  simp [resolve, hnone]

theorem resolve_of_not_nodup {params : List Parameter}
    (h : ¬(params.map Parameter.name).Nodup) (prompter : Prompter σ) (mode : Mode)
    (overrides : Bindings) (state : σ) :
    ∃ name, resolve prompter mode params overrides state =
      .failed (.duplicateParameter name) state := by
  cases hrepeated : firstRepeated? [] (params.map Parameter.name) with
  | none => exact absurd (firstRepeated?_eq_none_iff.1 hrepeated).1 h
  | some name => exact ⟨name, resolve_duplicate hrepeated prompter mode overrides state⟩

theorem outcome_resolve_eq_ok_iff {params : List Parameter} {values : Bindings} {state : σ} :
    (resolve prompter mode params overrides state).outcome = .ok values ↔
      (params.map Parameter.name).Nodup ∧
        (settleAll prompter mode overrides params .empty state).outcome = .ok values := by
  by_cases hnd : (params.map Parameter.name).Nodup
  · simp [resolve_eq_settleAll hnd, hnd]
  · obtain ⟨name, hrun⟩ := resolve_of_not_nodup hnd prompter mode overrides state
    simp [hrun, hnd]

theorem keys_of_resolve {params : List Parameter} {values : Bindings} {state : σ}
    (h : (resolve prompter mode params overrides state).outcome = .ok values) :
    values.keys = params.map Parameter.name := by
  obtain ⟨hnd, h⟩ := outcome_resolve_eq_ok_iff.1 h
  rw [keys_of_settleAll h hnd (by simp [Bindings.keys_empty]), Bindings.keys_empty,
    List.nil_append]

/-- **Causality.** A pass begins with the pass over the parameters in front. -/
theorem resolve_append {front rest : List Parameter}
    (hnd : ((front ++ rest).map Parameter.name).Nodup) (state : σ) :
    resolve prompter mode (front ++ rest) overrides state =
      (resolve prompter mode front overrides state).andThen fun before state =>
        settleAll prompter mode overrides rest before state := by
  have hfront : (front.map Parameter.name).Nodup := (nodup_names_append_iff.1 hnd).1
  rw [resolve_eq_settleAll hnd, resolve_eq_settleAll hfront, settleAll_append]

theorem entries_prefix_of_resolve_append {front rest : List Parameter} {before values : Bindings}
    {state : σ} (hfront : (resolve prompter mode front overrides state).outcome = .ok before)
    (h : (resolve prompter mode (front ++ rest) overrides state).outcome = .ok values) :
    before.entries <+: values.entries := by
  have hnd := (outcome_resolve_eq_ok_iff.1 h).1
  rw [resolve_append hnd, Run.andThen_of_ok hfront, Run.outcome_after] at h
  refine entries_prefix_of_settleAll h (nodup_names_append_iff.1 hnd).2.1 fun q hq => ?_
  rw [keys_of_resolve hfront]
  exact not_mem_names_front hnd hq

/-- A pass that succeeds has given the parameters in front the first values of its result, and has
    then settled the next one against them. -/
theorem exists_front_of_resolve {front rest : List Parameter} {p : Parameter} {values : Bindings}
    {state : σ}
    (h : (resolve prompter mode (front ++ p :: rest) overrides state).outcome = .ok values) :
    ∃ before found, (resolve prompter mode front overrides state).outcome = .ok before ∧
      before.entries <+: values.entries ∧
      (settle prompter mode overrides p before
        (resolve prompter mode front overrides state).state).outcome = .ok found ∧
      values.get? p.name = some found.1 ∧
      ∀ question ∈ (settle prompter mode overrides p before
          (resolve prompter mode front overrides state).state).questions,
        question ∈ (resolve prompter mode (front ++ p :: rest) overrides state).questions := by
  have hnd := (outcome_resolve_eq_ok_iff.1 h).1
  have hsplit := h
  rw [resolve_append hnd] at hsplit
  obtain ⟨before, hfront, hbehind⟩ := Run.outcome_andThen_eq_ok_iff.1 hsplit
  obtain ⟨found, hfound, hrest⟩ := outcome_settleAll_cons_eq_ok_iff.1 hbehind
  have hvalue : values.get? p.name = some found.1 :=
    get?_of_settleAll_insert hrest (nodup_names_append_iff.1 hnd).2.1
  refine ⟨before, found, hfront, entries_prefix_of_resolve_append hfront h, hfound, hvalue, ?_⟩
  intro question hquestion
  rw [resolve_append hnd, Run.questions_andThen_of_ok hfront, settleAll,
    Run.questions_andThen_of_ok hfound]
  exact List.mem_append_right _ (List.mem_append_left _ hquestion)

/-- A pass over distinct names that fails has failed at one parameter, behind those in front that
    have their values. -/
theorem exists_front_of_resolve_error {params : List Parameter} {state : σ} {failure : Failure}
    (hnd : (params.map Parameter.name).Nodup)
    (h : (resolve prompter mode params overrides state).outcome = .error failure) :
    ∃ front p rest before, params = front ++ p :: rest ∧
      (resolve prompter mode front overrides state).outcome = .ok before ∧
      (settle prompter mode overrides p before
        (resolve prompter mode front overrides state).state).outcome = .error failure := by
  rw [resolve_eq_settleAll hnd] at h
  obtain ⟨front, p, rest, before, rfl, hbefore, herror⟩ := exists_settle_of_settleAll_error h
  have hfront : (front.map Parameter.name).Nodup := (nodup_names_append_iff.1 hnd).1
  refine ⟨front, p, rest, before, rfl, ?_⟩
  rw [resolve_eq_settleAll hfront]
  exact ⟨hbefore, herror⟩

/-- A pass ends where a parameter cannot be settled. -/
theorem resolve_of_settle_error {front rest : List Parameter} {p : Parameter} {before : Bindings}
    {state : σ} {failure : Failure} (hnd : ((front ++ p :: rest).map Parameter.name).Nodup)
    (hbefore : (resolve prompter mode front overrides state).outcome = .ok before)
    (herror : (settle prompter mode overrides p before
      (resolve prompter mode front overrides state).state).outcome = .error failure) :
    resolve prompter mode (front ++ p :: rest) overrides state =
      let first := resolve prompter mode front overrides state
      let last := settle prompter mode overrides p before first.state
      ⟨.error failure, last.state, first.events ++ last.events⟩ := by
  rw [resolve_append hnd, Run.andThen_of_ok hbefore, settleAll, Run.andThen_of_error herror]
  rfl

/-- Every value of a result, what it was settled against, and what was asked for it. -/
theorem exists_settle_of_resolve {params : List Parameter} {values : Bindings} {state : σ}
    (h : (resolve prompter mode params overrides state).outcome = .ok values)
    {front rest : List Parameter} {p : Parameter} (hsplit : params = front ++ p :: rest) :
    ∃ (before : Bindings) (state' : σ) (found : Scalar × Source),
      before.keys = front.map Parameter.name ∧
      (∀ name ∈ before.keys, values.get? name = before.get? name) ∧
      (settle prompter mode overrides p before state').outcome = .ok found ∧
      values.get? p.name = some found.1 ∧
      ∀ question ∈ (settle prompter mode overrides p before state').questions,
        question ∈ (resolve prompter mode params overrides state).questions := by
  subst hsplit
  obtain ⟨before, found, hbefore, hprefix, hfound, hvalue, hquestions⟩ :=
    exists_front_of_resolve h
  exact ⟨before, _, found, keys_of_resolve hbefore, fun _ => Bindings.get?_of_prefix hprefix,
    hfound, hvalue, hquestions⟩

theorem receive_of_resolve_override {params : List Parameter} {values : Bindings} {state : σ}
    (h : (resolve prompter mode params overrides state).outcome = .ok values) {p : Parameter}
    (hp : p ∈ params) {value : Scalar} (hvalue : overrides.get? p.name = some value) :
    ∃ taken, p.receive value = .ok taken ∧ values.get? p.name = some taken := by
  obtain ⟨front, rest, hsplit⟩ := List.append_of_mem hp
  obtain ⟨before, state', found, -, -, hfound, hget, -⟩ := exists_settle_of_resolve h hsplit
  exact ⟨found.1, receive_of_settle_override hvalue hfound, hget⟩

/-- Only parameters without an override are asked about, and only if the user may be asked. -/
theorem mem_questions_resolve {params : List Parameter} {state : σ} {question : Question}
    (h : question ∈ (resolve prompter mode params overrides state).questions) :
    ∃ p ∈ params, question.name = p.name ∧ overrides.get? p.name = none ∧
      mode = .interactive := by
  unfold resolve at h
  split at h
  · cases h
  · exact mem_questions_settleAll h

theorem name_ne_of_mem_questions_front {front rest : List Parameter} {p : Parameter} {state : σ}
    (hnd : ((front ++ p :: rest).map Parameter.name).Nodup) {question : Question}
    (h : question ∈ (resolve prompter mode front overrides state).questions) :
    question.name ≠ p.name := by
  obtain ⟨q, hq, hname, -⟩ := mem_questions_resolve h
  rw [hname]
  exact (nodup_names_append_iff.1 hnd).2.2 q hq p List.mem_cons_self

end

end Provision
