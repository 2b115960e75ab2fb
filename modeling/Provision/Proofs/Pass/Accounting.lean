import Provision.Proofs.Dialogue.Accounting
import Provision.Proofs.Pass.Failure
import Provision.Proofs.Pass.Replay

/-!
# The questions of a pass accounted for

A pass asks about the parameters without an override, one after the other, a block of questions
about each. It ends before a parameter about which nothing can be asked, and where an answer is
missing or refused. So the questions come in the order of the declarations, and an answer is never
taken for another parameter than the one that was asked about.

Results:

* `Unaskable`, `resolve_of_unaskable`: where nothing can be asked, a pass ends.
* `AsksInBlocks`, `resolve_asksInBlocks`: the questions of a pass, a block for each parameter.
* `balances_resolve`: the questions of a pass and the answers that are taken.
* `resolve_accounting`: the questions and answers of a pass.
-/

namespace Provision

section

variable {σ : Type} {prompter : Prompter σ} {overrides settled before : Bindings} {p : Parameter}
  {front rest params : List Parameter} {state : σ} {failure : Failure}

/-! ## Parameters about which nothing can be asked -/

/-- The failure of a parameter about which nothing can be asked: its default has no value, or
    something would have to be selected. -/
inductive Unaskable (settled : Bindings) (p : Parameter) : Failure → Prop where
  | default {failure : Failure} : defaultOf p settled = .error failure →
      Unaskable settled p failure
  | select {default : Option Scalar} : defaultOf p settled = .ok default →
      p.inputKind = .select → Unaskable settled p (.unsupportedInput p.name .select)

theorem isOpen_iff : isOpen overrides p = true ↔ overrides.get? p.name = none := by
  simp [isOpen]

theorem settle_of_unaskable (hopen : isOpen overrides p = true) (h : Unaskable settled p failure)
    (state : σ) :
    settle prompter .interactive overrides p settled state = .failed failure state := by
  rw [isOpen_iff] at hopen
  cases h with
  | default hdefault => simp [settle, hopen, hdefault]
  | select hdefault hinput =>
    rw [settle_of_default hopen hdefault, settleDefault, prompt_select hinput, Run.failed_andThen]

/-- A pass ends before a parameter about which nothing can be asked: it leaves behind what the pass
    over the parameters in front does. -/
theorem resolve_of_unaskable (hnd : ((front ++ p :: rest).map Parameter.name).Nodup)
    (hopen : isOpen overrides p = true)
    (hbefore : (resolve prompter .interactive front overrides state).outcome = .ok before)
    (h : Unaskable before p failure) :
    resolve prompter .interactive (front ++ p :: rest) overrides state =
      let first := resolve prompter .interactive front overrides state
      ⟨.error failure, first.state, first.events⟩ := by
  have hsettle : ∀ state, settle prompter .interactive overrides p before state =
      .failed failure state := settle_of_unaskable hopen h
  have herror : ∀ state, (settle prompter .interactive overrides p before state).outcome =
      .error failure := by
    intro state
    rw [hsettle, Run.outcome_failed]
  simp [resolve_of_settle_error hnd hbefore (herror _), hsettle, Run.failed]

/-- What is settled for a parameter without an override has been entered as a text. -/
theorem inputKind_of_settle {found : Scalar × Source} (hopen : isOpen overrides p = true)
    (h : (settle prompter .interactive overrides p settled state).outcome = .ok found) :
    p.inputKind = .text := by
  cases hinput : p.inputKind with
  | text => rfl
  | select =>
    obtain ⟨default, hdefault, -⟩ := defaultOf_of_settle (isOpen_iff.1 hopen) h
    rw [settle_of_unaskable hopen (.select hdefault hinput)] at h
    cases h

theorem inputKind_of_resolve {values : Bindings}
    (h : (resolve prompter .interactive params overrides state).outcome = .ok values)
    (hp : p ∈ params) (hopen : isOpen overrides p = true) : p.inputKind = .text := by
  obtain ⟨front, rest, hsplit⟩ := List.append_of_mem hp
  obtain ⟨before, state', found, -, -, hfound, -⟩ := exists_settle_of_resolve h hsplit
  exact inputKind_of_settle hopen hfound

/-! ## Blocks of questions -/

/-- The questions of a pass, in blocks about one parameter each. The blocks are about the first
    parameters without an override, and about all of them if the pass succeeds. What a block
    suggests is the default of its parameter, computed from the values of the parameters in front.
    `pass` is the pass over some first parameters. -/
structure AsksInBlocks (overrides : Bindings) (pass : List Parameter → Run σ Bindings)
    (params : List Parameter) (blocks : List (Parameter × List Question)) : Prop where
  questions : (pass params).questions = blocks.flatMap Prod.snd
  firsts : blocks.map Prod.fst <+: params.filter (isOpen overrides)
  complete : ∀ values, (pass params).outcome = .ok values →
    blocks.map Prod.fst = params.filter (isOpen overrides)
  block : ∀ block ∈ blocks, ∃ front rest before default, params = front ++ block.1 :: rest ∧
    (pass front).outcome = .ok before ∧ block.1.inputKind = .text ∧
    defaultOf block.1 before = .ok default ∧ block.1.Block default block.2

/-- A parameter is settled without a question, or with a block of questions about it. Without a
    question nothing is settled but an override. -/
theorem settle_block (overrides : Bindings) (p : Parameter) (settled : Bindings)
    (hpatience : prompter.patience state ≠ 0) :
    let run := settle prompter .interactive overrides p settled state
    (run.questions = [] ∧ ∀ found, run.outcome = .ok found → isOpen overrides p = false) ∨
      (isOpen overrides p = true ∧ p.inputKind = .text ∧
        ∃ default, defaultOf p settled = .ok default ∧ p.Block default run.questions) := by
  intro run
  cases hopen : isOpen overrides p with
  | false =>
    obtain ⟨given, hgiven⟩ := Option.isSome_iff_exists.1 (by simpa [isOpen] using hopen)
    have hrun : run = .ended ((p.receive given).map (·, .override)) state :=
      settle_override hgiven _ _ _ _
    rw [hrun]
    exact Or.inl ⟨rfl, fun _ _ => rfl⟩
  | true =>
    have hunasked : ∀ failure, Unaskable settled p failure →
        run.questions = [] ∧ ∀ found, run.outcome ≠ .ok found := by
      intro failure h
      have hrun : run = .failed failure state := settle_of_unaskable hopen h state
      rw [hrun]
      refine ⟨rfl, fun found hfound => ?_⟩
      cases hfound
    cases hdefault : defaultOf p settled with
    | error failure =>
      obtain ⟨hnone, hfails⟩ := hunasked failure (.default hdefault)
      exact Or.inl ⟨hnone, fun found hfound => absurd hfound (hfails found)⟩
    | ok default =>
      cases hinput : p.inputKind with
      | select =>
        obtain ⟨hnone, hfails⟩ := hunasked _ (.select hdefault hinput)
        exact Or.inl ⟨hnone, fun found hfound => absurd hfound (hfails found)⟩
      | text =>
        refine Or.inr ⟨rfl, rfl, default, rfl, ?_⟩
        have hrun : run = settleDefault prompter .interactive p default state :=
          settle_of_default (isOpen_iff.1 hopen) hdefault state
        have hquestions : run.questions = (prompt prompter p default state).questions := by
          rw [hrun]
          exact Run.questions_andThen_of_unasked (fun _ _ => rfl) _
        rw [hquestions]
        exact block_prompt hinput hpatience

variable {blocks others : List (Parameter × List Question)}

theorem asksInBlocks_singleton (overrides : Bindings) (p : Parameter) (settled : Bindings)
    (hpatience : prompter.patience state ≠ 0) :
    ∃ blocks, AsksInBlocks overrides
      (fun front => settleAll prompter .interactive overrides front settled state) [p] blocks := by
  have hquestions : (settleAll prompter .interactive overrides [p] settled state).questions =
      (settle prompter .interactive overrides p settled state).questions :=
    Run.questions_andThen_of_unasked (fun _ _ => rfl) _
  rcases settle_block overrides p settled hpatience with
    ⟨hnone, hclosed⟩ | ⟨hopen, hinput, default, hdefault, hblock⟩
  · refine ⟨[], hquestions.trans hnone, List.nil_prefix, fun values h => ?_, by simp⟩
    obtain ⟨found, hfound, -⟩ := outcome_settleAll_cons_eq_ok_iff.1 h
    simp [hclosed found hfound]
  · refine ⟨[(p, _)], hquestions.trans (List.append_nil _).symm, ?_, fun _ _ => ?_, ?_⟩
    · simp [hopen]
    · simp [hopen]
    · intro block hmem
      rw [List.mem_singleton.1 hmem]
      exact ⟨[], [], settled, default, rfl, rfl, hinput, hdefault, hblock⟩

/-- Where the pass over the parameters in front fails, its blocks are all there are. -/
theorem AsksInBlocks.append_of_error
    (h : AsksInBlocks overrides
      (fun front => settleAll prompter .interactive overrides front settled state) front blocks)
    (hfailure : (settleAll prompter .interactive overrides front settled state).outcome =
      .error failure) (rest : List Parameter) :
    AsksInBlocks overrides
      (fun front => settleAll prompter .interactive overrides front settled state)
      (front ++ rest) blocks where
  questions := by
    rw [settleAll_append, Run.questions_andThen_of_error hfailure]
    exact h.questions
  firsts := by
    rw [List.filter_append]
    exact h.firsts.trans (List.prefix_append _ _)
  complete values hvalues := by
    rw [settleAll_append, Run.andThen_of_error hfailure] at hvalues
    cases hvalues
  block block hmem := by
    obtain ⟨first, behind, before, default, rfl, hblock⟩ := h.block block hmem
    exact ⟨first, behind ++ rest, before, default, by simp, hblock⟩

/-- Where it succeeds, the blocks of the others come behind. -/
theorem AsksInBlocks.append_of_ok
    (h : AsksInBlocks overrides
      (fun front => settleAll prompter .interactive overrides front settled state) front blocks)
    (hbefore : (settleAll prompter .interactive overrides front settled state).outcome =
      .ok before)
    (hothers : AsksInBlocks overrides
      (fun behind => settleAll prompter .interactive overrides behind before
        (settleAll prompter .interactive overrides front settled state).state) rest others) :
    AsksInBlocks overrides
      (fun front => settleAll prompter .interactive overrides front settled state)
      (front ++ rest) (blocks ++ others) where
  questions := by
    rw [settleAll_append, Run.questions_andThen_of_ok hbefore, List.flatMap_append]
    exact congrArg₂ _ h.questions hothers.questions
  firsts := by
    rw [List.map_append, List.filter_append, h.complete _ hbefore, List.prefix_append_right_inj]
    exact hothers.firsts
  complete values hvalues := by
    rw [settleAll_append, Run.andThen_of_ok hbefore] at hvalues
    rw [List.map_append, List.filter_append, h.complete _ hbefore,
      hothers.complete values hvalues]
  block block hmem := by
    rcases List.mem_append.1 hmem with hmem | hmem
    · obtain ⟨first, behind, found, default, rfl, hblock⟩ := h.block block hmem
      exact ⟨first, behind ++ rest, found, default, by simp, hblock⟩
    · obtain ⟨first, behind, found, default, rfl, hfound, hblock⟩ := hothers.block block hmem
      refine ⟨front ++ first, behind, found, default, by simp, ?_, hblock⟩
      rw [settleAll_append, Run.andThen_of_ok hbefore]
      exact hfound

theorem settleAll_asksInBlocks (hpatience : ∀ state, prompter.patience state ≠ 0)
    (params : List Parameter) (settled : Bindings) (state : σ) :
    ∃ blocks, AsksInBlocks overrides
      (fun front => settleAll prompter .interactive overrides front settled state)
      params blocks := by
  induction params generalizing settled state with
  | nil => exact ⟨[], rfl, List.nil_prefix, fun _ _ => rfl, by simp⟩
  | cons p rest ih =>
    -- A pass over one parameter, and then one over the others against what it has settled.
    obtain ⟨blocks, hblocks⟩ := asksInBlocks_singleton overrides p settled (hpatience state)
    cases hfront : (settleAll prompter .interactive overrides [p] settled state).outcome with
    | error failure => exact ⟨blocks, hblocks.append_of_error hfront rest⟩
    | ok before =>
      obtain ⟨others, hothers⟩ := ih before _
      exact ⟨blocks ++ others, hblocks.append_of_ok hfront hothers⟩

/-- The questions of a pass come in blocks. -/
theorem resolve_asksInBlocks (hpatience : ∀ state, prompter.patience state ≠ 0)
    (params : List Parameter) (overrides : Bindings) (state : σ) :
    ∃ blocks, AsksInBlocks overrides
      (fun front => resolve prompter .interactive front overrides state) params blocks := by
  by_cases hnd : (params.map Parameter.name).Nodup
  · have hrun : resolve prompter .interactive params overrides state =
        settleAll prompter .interactive overrides params .empty state :=
      resolve_eq_settleAll hnd state
    obtain ⟨blocks, hblocks⟩ := settleAll_asksInBlocks hpatience params .empty state
    refine ⟨blocks, ?_, hblocks.firsts, fun values h => ?_, fun block hmem => ?_⟩
    · rw [hrun]
      exact hblocks.questions
    · rw [hrun] at h
      exact hblocks.complete values h
    · obtain ⟨front, rest, before, default, rfl, hbefore, hblock⟩ := hblocks.block block hmem
      refine ⟨front, rest, before, default, rfl, ?_, hblock⟩
      rw [resolve_eq_settleAll (nodup_names_append_iff.1 hnd).1]
      exact hbefore
  · obtain ⟨name, hrun⟩ := resolve_of_not_nodup hnd prompter .interactive overrides state
    refine ⟨[], ?_, List.nil_prefix, fun values h => ?_, by simp⟩
    · rw [hrun]
      rfl
    · rw [hrun] at h
      cases h

theorem nodup_of_mem_questions {mode : Mode} {question : Question}
    (h : question ∈ (resolve prompter mode params overrides state).questions) :
    (params.map Parameter.name).Nodup := by
  cases hrepeated : firstRepeated? [] (params.map Parameter.name) with
  | some name =>
    rw [resolve_duplicate hrepeated] at h
    cases h
  | none => exact (firstRepeated?_eq_none_iff.1 hrepeated).1

/-- A parameter that is asked about is entered as a text. -/
theorem inputKind_of_mem_questions (hpatience : ∀ state, prompter.patience state ≠ 0)
    {question : Question}
    (h : question ∈ (resolve prompter .interactive params overrides state).questions)
    (hp : p ∈ params) (hname : question.name = p.name) : p.inputKind = .text := by
  obtain ⟨blocks, hblocks⟩ := resolve_asksInBlocks hpatience params overrides state
  have hquestion : question ∈ blocks.flatMap Prod.snd := hblocks.questions ▸ h
  obtain ⟨block, hmem, hquestion⟩ := List.mem_flatMap.1 hquestion
  obtain ⟨front, rest, before, default, hsplit, -, hinput, -, hblock⟩ := hblocks.block block hmem
  have hsame : block.1.name = p.name := by
    rw [← hname, hblock.same question hquestion]
    rfl
  have hblock : block.1 ∈ params := by
    rw [hsplit]
    simp
  rw [← List.inj_on_of_nodup_map (nodup_of_mem_questions h) hblock hp hsame]
  exact hinput

theorem defaultOf_ne_prompt (fault : PromptFault) :
    defaultOf p settled ≠ .error (.prompt fault) := by
  intro h
  rcases defaultOf_error h with ⟨found, hmismatch⟩ | ⟨source, -, -, hfailure⟩
  · cases hmismatch
  · cases hfailure

/-- What goes wrong with a question where a parameter is settled has gone wrong in its prompt. -/
theorem prompt_of_settle_error {mode : Mode} {fault : PromptFault}
    (h : (settle prompter mode overrides p settled state).outcome = .error (.prompt fault)) :
    ∃ default, (prompt prompter p default state).outcome = .error (.prompt fault) := by
  cases fails_of_settle h with
  | default _ hdefault => exact absurd hdefault (defaultOf_ne_prompt fault)
  | prompt _ _ _ hprompt => exact ⟨_, hprompt⟩

end

/-! ## Questions and answers -/

section

variable {mode : Mode} {overrides settled : Bindings} {p : Parameter} {params : List Parameter}
  {script : Script}

theorem unanswered_of_receive {v : Scalar} {source : Source} :
    unanswered ((p.receive v).map (·, source)) = 0 := by
  refine unanswered_eq_zero fun name h => ?_
  rw [Except.map_eq_error_iff] at h
  cases Parameter.receive_error h

theorem balances_settle (mode : Mode) (overrides : Bindings) (p : Parameter) (settled : Bindings)
    (script : Script) : (settle scripted mode overrides p settled script).Balances script := by
  unfold settle
  split
  · exact Run.balances_ended unanswered_of_receive script
  · split
    · next failure hdefault =>
      refine Run.balances_ended (unanswered_eq_zero fun name h => ?_) script
      cases h
      exact defaultOf_ne_prompt _ hdefault
    · next default _ =>
      cases mode with
      | interactive =>
        exact (balances_prompt p default script).andThen fun _ =>
          Run.balances_ended unanswered_of_receive _
      | nonInteractive => cases default <;> exact Run.balances_ended rfl script

theorem balances_settleAll (params : List Parameter) (settled : Bindings) (script : Script) :
    (settleAll scripted mode overrides params settled script).Balances script := by
  induction params generalizing settled script with
  | nil => exact Run.balances_ended rfl script
  | cons p rest ih =>
    refine (balances_settle mode overrides p settled script).andThen fun found => ?_
    exact (ih _ _).after_noted [.settled p.name found.2 found.1]

theorem balances_resolve (params : List Parameter) (script : Script) :
    (resolve scripted mode params overrides script).Balances script := by
  unfold resolve
  split
  · exact Run.balances_ended rfl script
  · exact balances_settleAll params .empty script

/-- No pass fails because a script bears no more questions. -/
theorem resolve_scripted_ne_patienceEnded (params : List Parameter) (script : Script)
    (name : String) :
    (resolve scripted mode params overrides script).outcome ≠
      .error (.prompt (.patienceEnded name)) := by
  intro hended
  cases hrepeated : firstRepeated? [] (params.map Parameter.name) with
  | some repeated =>
    rw [resolve_duplicate hrepeated] at hended
    cases hended
  | none =>
    have hnd := (firstRepeated?_eq_none_iff.1 hrepeated).1
    obtain ⟨front, p, rest, before, -, -, hsettle⟩ := exists_front_of_resolve_error hnd hended
    obtain ⟨default, hprompt⟩ := prompt_of_settle_error hsettle
    exact prompt_scripted_ne_patienceEnded p default _ name hprompt

/-! ## The questions and answers of a pass -/

/-- **Questions and answers.** Without questions a pass leaves the script as it is. With questions,
    they come in blocks about the first parameters without an override, and about all of them if
    the pass succeeds; a block suggests what the values in front make of the default. A pass that
    comes to a parameter about which nothing can be asked ends there, without a question about it;
    and it never goes past a selection. The script loses one answer for each question, unless it is
    empty: then the pass has failed, and the last question has got no answer. -/
theorem resolve_accounting (params : List Parameter) (overrides : Bindings) (script : Script) :
    let quiet := resolve scripted .nonInteractive params overrides script
    let pass := fun front => resolve scripted .interactive front overrides script
    let run := pass params
    (quiet.questions = [] ∧ quiet.state = script) ∧
    (∃ blocks, AsksInBlocks overrides pass params blocks) ∧
    (∀ front p rest before failure, params = front ++ p :: rest →
      (params.map Parameter.name).Nodup → isOpen overrides p = true →
      (pass front).outcome = .ok before → Unaskable before p failure →
      run = ⟨.error failure, (pass front).state, (pass front).events⟩ ∧
        ∀ question ∈ run.questions, question.name ≠ p.name) ∧
    (∀ p ∈ params, isOpen overrides p = true → p.inputKind = .select →
      (∀ values, run.outcome ≠ .ok values) ∧
        ∀ question ∈ run.questions, question.name ≠ p.name) ∧
    (∀ name, run.outcome ≠ .error (.prompt (.patienceEnded name))) ∧
    ∃ taken, script = taken ++ run.state ∧
      (∀ name, run.outcome = .error (.prompt (.noAnswer name)) →
        run.state = [] ∧ run.questions.length = taken.length + 1) ∧
      ((∀ name, run.outcome ≠ .error (.prompt (.noAnswer name))) →
        run.questions.length = taken.length) := by
  intro quiet pass run
  have hblocks : ∃ blocks, AsksInBlocks overrides pass params blocks :=
    resolve_asksInBlocks scripted_patience_ne_zero params overrides script
  refine ⟨?_, hblocks, ?_, ?_, resolve_scripted_ne_patienceEnded params script, ?_⟩
  · have hnone : quiet.questions = [] := by
      refine List.eq_nil_iff_forall_not_mem.2 fun question hquestion => ?_
      obtain ⟨p, -, -, -, hmode⟩ := mem_questions_resolve hquestion
      cases hmode
    have haccounts : quiet.state = scripted.answered quiet.questions script :=
      accounts_resolve params script
    rw [hnone] at haccounts
    exact ⟨hnone, haccounts⟩
  · rintro front p rest before failure rfl hnd hopen hbefore h
    have hrun : run = ⟨.error failure, (pass front).state, (pass front).events⟩ :=
      resolve_of_unaskable hnd hopen hbefore h
    refine ⟨hrun, fun question hquestion => ?_⟩
    have hfront : question ∈ (pass front).questions := by
      rw [hrun] at hquestion
      exact hquestion
    obtain ⟨q, hq, hname, -⟩ := mem_questions_resolve hfront
    rw [hname]
    exact (nodup_names_append_iff.1 hnd).2.2 q hq p (by simp)
  · intro p hp hopen hinput
    refine ⟨fun values hvalues => ?_, fun question hquestion hname => ?_⟩
    · cases hinput.symm.trans (inputKind_of_resolve hvalues hp hopen)
    · cases hinput.symm.trans
        (inputKind_of_mem_questions scripted_patience_ne_zero hquestion hp hname)
  · exact (balances_resolve params script).exists_taken (accounts_resolve params script)

/-- A parameter that is given, an integer that is asked for twice, and a suggestion that is
    accepted. A script of two answers ends with the second question for the integer; one of five
    keeps the last for the selection, which takes none. -/
theorem resolve_accounting_selection :
    let host : Parameter := .plain .text "HOST"
    let zone : Parameter := .plain .text "ZONE"
    let size : Parameter := .plain .integer "SIZE"
    let node := (Parameter.plain .text "NODE").withDefault (.text "\x7b\x7b params.HOST \x7d\x7d")
    let tier : Parameter :=
      { Parameter.plain .text "TIER" with input := some (.select [⟨none, .text "us"⟩]) }
    let overrides := Bindings.ofList [("ZONE", .text "eu")]
    let answers : Script := [some (.text "a"), some (.text "many")]
    let script : Script := answers ++ [some (.integer 3), none, some (.text "us")]
    let run := resolve scripted .interactive [host, zone, size, node, tier] overrides
    (run answers).questions.length = answers.length + 1 ∧
      (run script).outcome = .error (.unsupportedInput "TIER" .select) ∧
      (run script).state = [some (.text "us")] ∧ (run script).questions.length = 4 := by
  intro host zone size node tier overrides answers script run
  obtain ⟨-, -, -, -, -, taken, htaken, hdry, -⟩ :=
    resolve_accounting [host, zone, size, node, tier] overrides answers
  obtain ⟨-, -, hends, -, -, -⟩ :=
    resolve_accounting [host, zone, size, node, tier] overrides script
  have hselect : Unaskable (.ofList [("HOST", .text "a"), ("ZONE", .text "eu"),
      ("SIZE", .integer 3), ("NODE", .text "a")]) tier (.unsupportedInput "TIER" .select) :=
    .select rfl rfl
  have hrun := (hends [host, zone, size, node] tier [] _ _ rfl (by decide) rfl rfl hselect).1
  obtain ⟨hstate, hquestions⟩ := hdry "SIZE" rfl
  rw [hstate, List.append_nil] at htaken
  refine ⟨htaken ▸ hquestions, congrArg Run.outcome hrun, ?_, ?_⟩
  · exact (congrArg Run.state hrun).trans rfl
  · exact (congrArg (List.length ∘ Run.questions) hrun).trans rfl

end

end Provision
