import Provision.Dialogue.Script
import Provision.Proofs.Installation.Relevance
import Provision.Proofs.Pass.ClosedForm
import Provision.Proofs.Pass.Replay

/-!
# Passes over given values

A result is made of values that its parameters take as they are. So the values of a result, given as
overrides, make the same result without a question: no default is computed any more, and a text is
never read as a template. And it makes no difference which of them are given, as long as the others
are settled as before.

Results:

* `Bindings.restrict`: the entries of some names.
* `Run.Silent`: an activity that gives a value without a question.
* `settleAll_of_given`, `resolve_of_fits`: a pass in which every value is given.
* `resolve_of_own`: a pass in which some values are given that it finds anyway.
* `resolve_own_values`: the values of a result reproduce it, all of them or some.
-/

namespace Provision

/-! ## Some of the entries -/

/-- The entries of the names that are kept. -/
def Bindings.restrict (b : Bindings) (keep : String → Bool) : Bindings where
  entries := b.entries.filter fun entry => keep entry.1
  distinct := (List.Sublist.map _ List.filter_sublist).nodup b.distinct

theorem Bindings.get?_restrict (b : Bindings) (keep : String → Bool) (name : String) :
    (b.restrict keep).get? name = if keep name then b.get? name else none := by
  refine Option.ext fun value => ?_
  rw [← mem_entries_iff, restrict, List.mem_filter, mem_entries_iff]
  split_ifs with h <;> simp [h]

section

variable {σ τ : Type} {prompter : Prompter σ} {other : Prompter τ} {mode : Mode}
  {params : List Parameter} {overrides given values : Bindings} {state : σ} {start : τ}

/-! ## All values are given -/

/-- An activity that gives a value without a question, and leaves the prompter as it is. -/
structure Run.Silent {α : Type} (run : Run σ α) (state : σ) (value : α) : Prop where
  outcome : run.outcome = .ok value
  unasked : run.questions = []
  unchanged : run.state = state

theorem Run.silent_after_noted {α : Type} (value : α) (notices : List Notice) (state : σ) :
    ((done value state).after (notices.map .noted)).Silent state value :=
  ⟨rfl, questions_after_noted notices _, rfl⟩

theorem Run.notices_done_after_noted {α : Type} (value : α) (notices : List Notice) (state : σ) :
    ((done value state).after (notices.map .noted)).notices = notices := by
  have hsome : Event.notice? ∘ Event.noted = some := rfl
  rw [Run.notices, events_after, done, List.append_nil, List.filterMap_map, hsome,
    List.filterMap_some]

/-- What is told of values that are given. -/
def givenNotices (entries : List (String × Scalar)) : List Notice :=
  entries.map fun entry => .settled entry.1 .override entry.2

/-- Given values of the declared kinds are all that a pass needs. -/
theorem settleAll_of_given {value : Parameter → Scalar}
    (hgiven : ∀ p ∈ params, overrides.get? p.name = some (value p))
    (hkind : ∀ p ∈ params, (value p).kind = p.type.kind) (settled : Bindings) (state : σ) :
    let entries := params.map fun p => (p.name, value p)
    settleAll prompter mode overrides params settled state =
      (Run.done (settled.insertAll entries) state).after ((givenNotices entries).map .noted) := by
  induction params generalizing settled with
  | nil => rfl
  | cons p rest ih =>
    intro entries
    have hfirst : settle prompter mode overrides p settled state =
        .done (value p, .override) state :=
      settle_of_override (hgiven p (by simp)) (hkind p (by simp)) settled
    have hrest := ih (fun q hq => hgiven q (List.mem_cons_of_mem _ hq))
      (fun q hq => hkind q (List.mem_cons_of_mem _ hq)) (settled.insert p.name (value p))
    rw [settleAll, hfirst, Run.done_andThen, hrest]
    rfl

theorem Fits.exists_entries (h : Fits params values) :
    ∃ value : Parameter → Scalar, values.entries = params.map (fun p => (p.name, value p)) ∧
      ∀ p ∈ params, values.get? p.name = some (value p) ∧ (value p).kind = p.type.kind := by
  have hvalue : ∀ p : Parameter, ∃ value, p ∈ params →
      values.get? p.name = some value ∧ value.kind = p.type.kind := by
    intro p
    by_cases hp : p ∈ params
    · obtain ⟨value, hvalue⟩ := h.kinds p hp
      exact ⟨value, fun _ => hvalue⟩
    · exact ⟨.boolean false, fun hmem => absurd hmem hp⟩
  choose value hvalue using hvalue
  refine ⟨value, ?_, hvalue⟩
  apply List.map_injective_iff.2 (Option.some_injective _)
  rw [Bindings.entries_eq_map, h.keys, List.map_map, List.map_map]
  exact List.map_congr_left fun p hp => by simp [(hvalue p hp).1]

/-- A pass gives the values of the declared kinds that it is given. Nothing is asked, and all that
    is told is that they are overrides. -/
theorem resolve_of_fits (h : Fits params values) (hagree : AgreeOn params overrides values)
    (prompter : Prompter σ) (mode : Mode) (state : σ) :
    resolve prompter mode params overrides state =
      (Run.done values state).after ((givenNotices values.entries).map .noted) := by
  have hnd : (params.map Parameter.name).Nodup := h.keys ▸ values.distinct
  obtain ⟨value, hentries, hvalue⟩ := h.exists_entries
  have hgiven : ∀ p ∈ params, overrides.get? p.name = some (value p) := fun p hp =>
    (hagree p hp).trans (hvalue p hp).1
  have hofList : Bindings.empty.insertAll values.entries = values := values.ofList_entries
  rw [resolve_eq_settleAll hnd, settleAll_of_given hgiven (fun p hp => (hvalue p hp).2),
    ← hentries, hofList]

/-! ## Some values are given -/

/-- Without questions it makes no difference to a parameter which of its values is given: the one it
    had been given before, or the one that it has been settled at. -/
theorem settle_of_own {p : Parameter} {settled : Bindings} {found : Scalar × Source}
    (h : (settle prompter .nonInteractive overrides p settled state).outcome = .ok found)
    (hown : given.get? p.name = some found.1 ∨ given.get? p.name = overrides.get? p.name)
    (start : τ) :
    ∃ source, (settle other .nonInteractive given p settled start).outcome =
      .ok (found.1, source) := by
  rcases hown with hvalue | hsame
  · obtain ⟨v, hreceive⟩ := receive_of_settle h
    rw [settle_of_override hvalue (Parameter.kind_of_receive hreceive)]
    exact ⟨.override, rfl⟩
  · rw [settle_congr hsame]
    exact outcome_settle_nonInteractive_iff.2 (outcome_settle_nonInteractive_iff.1 ⟨_, h⟩)

theorem settleAll_of_own {settled : Bindings} (hnd : (params.map Parameter.name).Nodup)
    (h : (settleAll prompter .nonInteractive overrides params settled state).outcome =
      .ok values)
    (hown : ∀ p ∈ params, given.get? p.name = values.get? p.name ∨
      given.get? p.name = overrides.get? p.name) (start : τ) :
    (settleAll other .nonInteractive given params settled start).outcome = .ok values := by
  -- The two passes run side by side: before each parameter they have settled the same values.
  induction params generalizing settled state start with
  | nil => exact h
  | cons p rest ih =>
    obtain ⟨found, hfound, hrest⟩ := outcome_settleAll_cons_eq_ok_iff.1 h
    have hvalue : values.get? p.name = some found.1 := get?_of_settleAll_insert hrest hnd
    have hfirst := hown p (by simp)
    rw [hvalue] at hfirst
    obtain ⟨source, hsettle⟩ := settle_of_own hfound hfirst start
    refine outcome_settleAll_cons_eq_ok_iff.2 ⟨_, hsettle, ?_⟩
    exact ih (List.nodup_cons.1 hnd).2 hrest
      (fun q hq => hown q (List.mem_cons_of_mem _ hq)) _

/-- A pass without questions gives the same values where some parameters are given the values that
    they get anyway. -/
theorem resolve_of_own
    (h : (resolve prompter .nonInteractive params overrides state).outcome = .ok values)
    (hown : ∀ p ∈ params, given.get? p.name = values.get? p.name ∨
      given.get? p.name = overrides.get? p.name) (other : Prompter τ) (start : τ) :
    (resolve other .nonInteractive params given start).outcome = .ok values := by
  obtain ⟨hnd, h⟩ := outcome_resolve_eq_ok_iff.1 h
  exact outcome_resolve_eq_ok_iff.2 ⟨hnd, settleAll_of_own hnd h hown start⟩

/-- **Own values.** The values of a result, given as overrides, reproduce it in both modes and at
    every prompter, which is asked nothing. If nobody was asked for the result, some of its values
    are enough: given over the old overrides, they make the same result again. -/
theorem resolve_own_values
    (h : (resolve prompter mode params overrides state).outcome = .ok values) :
    (∀ (τ : Type) (other : Prompter τ) (mode' : Mode) (start : τ),
      (resolve other mode' params values start).Silent start values) ∧
    (mode = .nonInteractive →
      ∀ (keep : String → Bool) (τ : Type) (other : Prompter τ) (start : τ),
        (resolve other .nonInteractive params (overrides.overlay (values.restrict keep))
          start).outcome = .ok values) := by
  constructor
  · intro τ other mode' start
    rw [resolve_of_fits (fits_of_resolve h) (fun _ _ => rfl)]
    exact Run.silent_after_noted values _ start
  · rintro rfl keep τ other start
    refine resolve_of_own h (fun p hp => ?_) other start
    rw [Bindings.get?_overlay, Bindings.get?_restrict]
    have hname : p.name ∈ values.keys := keys_of_resolve h ▸ List.mem_map_of_mem hp
    obtain ⟨value, hvalue⟩ := Bindings.mem_keys_iff.1 hname
    cases keep p.name with
    | true => exact Or.inl (by rw [if_pos rfl, hvalue, Option.some_or])
    | false => exact Or.inr (by rw [if_neg Bool.false_ne_true, Option.none_or])

/-- A given text that looks like a template, a given integer, and two defaults. The value of the
    second default is given, and then everything. -/
theorem resolve_own_values_delimiters :
    let note : Parameter := .plain .text "NOTE"
    let size : Parameter := .plain .integer "SIZE"
    let host := (Parameter.plain .text "HOST").withDefault (.text "a")
    let node := (Parameter.plain .text "NODE").withDefault (.text "\x7b\x7b params.HOST \x7d\x7d-1")
    let params := [note, size, host, node]
    let overrides := Bindings.ofList
      [("SIZE", .integer 3), ("NOTE", .text "\x7b\x7b params.NODE \x7d\x7d")]
    let values := Bindings.ofList [("NOTE", .text "\x7b\x7b params.NODE \x7d\x7d"),
      ("SIZE", .integer 3), ("HOST", .text "a"), ("NODE", .text "a-1")]
    (resolve scripted .nonInteractive params overrides []).outcome = .ok values ∧
      (resolve scripted .nonInteractive params
        (overrides.overlay (values.restrict (· == "NODE"))) []).outcome = .ok values ∧
      (resolve scripted .interactive params values []).outcome = .ok values ∧
      (resolve scripted .interactive params values []).questions = [] := by
  intro note size host node params overrides values
  have h : (resolve scripted .nonInteractive params overrides []).outcome = .ok values := rfl
  obtain ⟨hall, hsome⟩ := resolve_own_values h
  have hagain := hall Script scripted .interactive []
  exact ⟨h, hsome rfl (· == "NODE") Script scripted [], hagain.outcome, hagain.unasked⟩

end

end Provision
