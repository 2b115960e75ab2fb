import Provision.Proofs.Installation.Pinned
import Provision.Proofs.Pass.Replay

/-!
# Reconfiguring without a change

A reconfiguration suggests the stored values as defaults. A default that is a template is not
taken for what it is but for what it refers to, so a stored text that happens to be a template
does not survive. These texts are the only ones that do not.

Results:

* `StoredLiterally`: what is stored for mutable parameters are literals.
* `reconfigure_unchanged_iff`: a reconfiguration without a change gives what was stored exactly
  if that is stored literally.
* `reconfigure_changes_template`: a stored template that is replaced by what it refers to.
-/

namespace Provision

/-- What is stored for mutable parameters are literals. -/
def StoredLiterally (params : List Parameter) (stored : Bindings) : Prop :=
  ∀ p ∈ params, p.immutable = false →
    ∀ value, stored.get? p.name = some value → value.isTemplate = false

/-- The overrides of a reconfiguration to which none are given: the values that it pins. -/
def pinnedAlone (params : List Parameter) (stored : Bindings) : Bindings :=
  Bindings.empty.overlay (storedValues (partitionImmutable params).1 stored)

variable {σ : Type} {prompter : Prompter σ} {mode : Mode} {params : List Parameter}
  {overrides values : Bindings} {state : σ}

/-! ## The pass of a reconfiguration -/

theorem get?_pinnedAlone {p : Parameter} (hnd : (params.map Parameter.name).Nodup)
    (hp : p ∈ params) (stored : Bindings) :
    (pinnedAlone params stored).get? p.name =
      if p.immutable then stored.get? p.name else none := by
  rw [pinnedAlone, Bindings.get?_overlay, Bindings.get?_empty, Option.or_none,
    get?_storedValues_partitionImmutable hnd hp]

theorem mem_withStoredDefaults (hfits : Fits params values) {q : Parameter} :
    q ∈ withStoredDefaults params values ↔
      ∃ p ∈ params, ∃ value, values.get? p.name = some value ∧ p.withDefault value = q := by
  rw [withStoredDefaults, List.mem_map]
  constructor
  · rintro ⟨p, hp, rfl⟩
    obtain ⟨value, hvalue, -⟩ := hfits.kinds p hp
    exact ⟨p, hp, value, hvalue, by rw [hvalue]⟩
  · rintro ⟨p, hp, value, hvalue, rfl⟩
    exact ⟨p, hp, by rw [hvalue]⟩

/-- As many suggestions have to be accepted as there are mutable parameters. -/
theorem countP_isOpen (hnd : (params.map Parameter.name).Nodup) (hfits : Fits params values) :
    (withStoredDefaults params values).countP (isOpen (pinnedAlone params values)) =
      params.countP fun p => !p.immutable := by
  rw [withStoredDefaults, List.countP_map]
  refine List.countP_congr fun p hp => ?_
  obtain ⟨value, hvalue, -⟩ := hfits.kinds p hp
  simp only [Function.comp_apply, hvalue]
  rw [isOpen, Parameter.withDefault, get?_pinnedAlone hnd hp, hvalue]
  cases p.immutable <;> simp

/-- A prompter that accepts a suggestion for each mutable parameter accepts all that the pass
    makes. -/
theorem acquiesces_of_accepts (hnd : (params.map Parameter.name).Nodup)
    (hfits : Fits params values)
    (hinput : ∀ p ∈ params, p.immutable = false → p.inputKind = .text)
    (haccepts : prompter.Accepts (params.countP fun p => !p.immutable) state) :
    Acquiesces prompter (pinnedAlone params values) (withStoredDefaults params values) state
      .interactive := by
  refine ⟨fun q hq hopen => ?_, ?_⟩
  · obtain ⟨p, hp, value, hvalue, rfl⟩ := (mem_withStoredDefaults hfits).1 hq
    rw [isOpen, Parameter.withDefault, get?_pinnedAlone hnd hp, hvalue] at hopen
    cases himmutable : p.immutable with
    | true => simp [himmutable] at hopen
    | false => exact hinput p hp himmutable
  · rwa [countP_isOpen hnd hfits]

/-! ## Literals are kept -/

/-- The stored literals are pinned, or they are defaults. -/
theorem replays_withStoredDefaults (hnd : (params.map Parameter.name).Nodup)
    (hfits : Fits params values) (hliteral : StoredLiterally params values) {q : Parameter}
    (hq : q ∈ withStoredDefaults params values) :
    Replays (pinnedAlone params values) values q := by
  obtain ⟨p, hp, value, hvalue, rfl⟩ := (mem_withStoredDefaults hfits).1 hq
  obtain ⟨found, hfound, hkind⟩ := hfits.kinds p hp
  rw [hvalue, Option.some.injEq] at hfound
  subst hfound
  have hpinned := get?_pinnedAlone hnd hp values
  refine ⟨value, hvalue, hkind, ?_⟩
  cases himmutable : p.immutable with
  | true =>
    rw [himmutable, if_pos rfl, hvalue] at hpinned
    exact Or.inl hpinned
  | false =>
    rw [himmutable, if_neg Bool.false_ne_true] at hpinned
    exact Or.inr ⟨hpinned, rfl, hliteral p hp himmutable value hvalue⟩

theorem reconfigure_of_storedLiterally (hnd : (params.map Parameter.name).Nodup)
    (hfits : Fits params values) (hliteral : StoredLiterally params values)
    (hacquiesces : Acquiesces prompter (pinnedAlone params values)
      (withStoredDefaults params values) state mode) :
    (reconfigure prompter mode params values .empty state).outcome = .ok values ∧
      ∀ question ∈ (reconfigure prompter mode params values .empty state).questions,
        question.default = values.get? question.name := by
  rw [outcome_reconfigure_of_fits hfits, questions_reconfigure]
  refine resolve_of_replays ?_ ?_ (fun q hq => ?_) hacquiesces
  · rwa [withStoredDefaults_name]
  · rw [withStoredDefaults_name, hfits.keys]
  · exact replays_withStoredDefaults hnd hfits hliteral hq

/-! ## Templates are not kept -/

theorem storedLiterally_of_reconfigure (hnd : (params.map Parameter.name).Nodup)
    (hfits : Fits params values)
    (h : (reconfigure prompter mode params values .empty state).outcome = .ok values)
    (hquestions : ∀ question ∈
      (reconfigure prompter mode params values .empty state).questions,
        question.default = values.get? question.name) :
    StoredLiterally params values := by
  intro p hp hmutable value hvalue
  rw [outcome_reconfigure_of_fits hfits] at h
  rw [questions_reconfigure] at hquestions
  have hmem : p.withDefault value ∈ withStoredDefaults params values :=
    (mem_withStoredDefaults hfits).2 ⟨p, hp, value, hvalue, rfl⟩
  obtain ⟨front, rest, hsplit⟩ := List.append_of_mem hmem
  obtain ⟨before, state', found, -, -, hfound, hget, hasked⟩ := exists_settle_of_resolve h hsplit
  have hopen := get?_pinnedAlone hnd hp values
  rw [hmutable, if_neg Bool.false_ne_true] at hopen
  -- Either way the default of the parameter is its stored value, so this is no template.
  obtain ⟨default, hdefault, hdecided⟩ :=
    defaultOf_of_settle (p := p.withDefault value) hopen hfound
  have hsame : default = some value := by
    rcases hdecided with hdecided | hdecided
    · rw [hdecided, ← hget]
      exact hvalue
    · exact (hquestions _ (hasked _ hdecided)).trans hvalue
  rw [hsame] at hdefault
  exact isTemplate_of_defaultOf hdefault

/-! ## Stability -/

theorem questions_reconfigure_nonInteractive (question : Question) :
    question ∉ (reconfigure prompter .nonInteractive params values overrides state).questions := by
  rw [questions_reconfigure]
  intro h
  obtain ⟨p, -, -, -, hmode⟩ := mem_questions_resolve h
  cases hmode

/-- **Stability.** Let a pass have given the stored values. A reconfiguration without overrides
    gives them again exactly if they are stored literally, where nobody is asked. Where every
    suggestion is accepted, they are given again and suggested as they are stored under exactly
    the same condition. -/
theorem reconfigure_unchanged_iff {τ : Type} {first : Prompter τ} {mode : Mode}
    {overrides : Bindings} {start : τ}
    (h : (resolve first mode params overrides start).outcome = .ok values)
    (prompter : Prompter σ) (state : σ) :
    ((reconfigure prompter .nonInteractive params values .empty state).outcome = .ok values ↔
      StoredLiterally params values) ∧
    ((∀ p ∈ params, p.immutable = false → p.inputKind = .text) →
      prompter.Accepts (params.countP fun p => !p.immutable) state →
        ((reconfigure prompter .interactive params values .empty state).outcome = .ok values ∧
            (∀ question ∈
              (reconfigure prompter .interactive params values .empty state).questions,
                question.default = values.get? question.name) ↔
          StoredLiterally params values)) := by
  have hfits := fits_of_resolve h
  have hnd := (outcome_resolve_eq_ok_iff.1 h).1
  constructor
  · constructor
    · intro hsame
      refine storedLiterally_of_reconfigure hnd hfits hsame fun question hquestion => ?_
      exact absurd hquestion (questions_reconfigure_nonInteractive question)
    · intro hliteral
      have hnobody : Acquiesces prompter (pinnedAlone params values)
          (withStoredDefaults params values) state .nonInteractive := trivial
      exact (reconfigure_of_storedLiterally hnd hfits hliteral hnobody).1
  · intro hinput haccepts
    constructor
    · rintro ⟨hsame, hquestions⟩
      exact storedLiterally_of_reconfigure hnd hfits hsame hquestions
    · intro hliteral
      have hacquiesces := acquiesces_of_accepts hnd hfits hinput haccepts
      exact reconfigure_of_storedLiterally hnd hfits hliteral hacquiesces

/-- An immutable text, a text and an integer, where the immutable text is a template. -/
theorem reconfigure_unchanged_iff_pinned :
    let params : List Parameter :=
      [{ Parameter.plain .text "ZONE" with immutable := true }, .plain .text "HOST",
        .plain .integer "SIZE"]
    let values := Bindings.ofList
      [("ZONE", .text "\x7b\x7b params.HOST \x7d\x7d"), ("HOST", .text "eu-1"),
        ("SIZE", .integer 3)]
    (reconfigure scripted .nonInteractive params values .empty []).outcome = .ok values ∧
      (reconfigure scripted .interactive params values .empty [none, none]).outcome =
        .ok values := by
  intro params values
  have h : (resolve scripted .nonInteractive params values []).outcome = .ok values := rfl
  have hliteral : StoredLiterally params values := by
    intro p hp hmutable value hvalue
    simp only [params, List.mem_cons, List.not_mem_nil, or_false] at hp
    rcases hp with rfl | rfl | rfl
    · cases hmutable
    · cases hvalue
      decide
    · cases hvalue
      rfl
  have hinput : ∀ p ∈ params, p.immutable = false → p.inputKind = .text := by decide
  refine ⟨(reconfigure_unchanged_iff h scripted []).1.2 hliteral, ?_⟩
  exact ((reconfigure_unchanged_iff h scripted [none, none]).2 hinput
    (scripted_accepts 2 [])).2 hliteral |>.1

/-- **A stored template is lost.** An override that is a template is stored as it is. The next
    reconfiguration, without any override, replaces it by the value that it refers to. -/
theorem reconfigure_changes_template :
    let params : List Parameter := [.plain .text "A", .plain .text "B"]
    let values := Bindings.ofList
      [("A", .text "x"), ("B", .text "\x7b\x7b params.A \x7d\x7d")]
    (resolve scripted .nonInteractive params values []).outcome = .ok values ∧
      (reconfigure scripted .nonInteractive params values .empty []).outcome ≠ .ok values ∧
      (reconfigure scripted .nonInteractive params values .empty []).outcome =
        .ok (.ofList [("A", .text "x"), ("B", .text "x")]) := by
  intro params values
  have hchanged : (reconfigure scripted .nonInteractive params values .empty []).outcome =
      .ok (.ofList [("A", .text "x"), ("B", .text "x")]) := rfl
  refine ⟨rfl, ?_, hchanged⟩
  rw [hchanged]
  intro hsame
  have hentry := congrArg (fun b => b.get? "B") (Except.ok.inj hsame)
  exact absurd hentry (by decide)

end Provision
