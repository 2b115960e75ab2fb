import Provision.Proofs.Template.Evaluation
import Provision.Proofs.Template.Mention

/-!
# Failures of templates

A template that has no value is not supported, or the name that it refers to has no value of the
kind that is needed. A failure of the first sort, and that of a name without any value, tells
which template it is about.

Results:

* `Failure.OfTemplate`: the failures with which the evaluation of a template can end.
* `evaluate_error`: a field that cannot be evaluated is a template, and fails with one of these.
* `evaluate_missingDependency`: a name that is missing there is mentioned in the template.
* `mentions_eq_references`: a supported text mentions the names that it refers to, so that no name
  is missing where all that are mentioned have a value.
-/

namespace Provision

/-- The failures of a template. All but that of a kind tell the template. -/
inductive Failure.OfTemplate (source : String) : Failure → Prop where
  | mismatch {name : String} {kind : ScalarKind} {found : Scalar} :
      OfTemplate source (.typeMismatch name kind found)
  | missing {name : String} : OfTemplate source (.missingDependency source name)
  | unsupported {fault : TemplateFault} : OfTemplate source (.unsupportedExpression source fault)

variable {source name expression dependency : String} {values : Bindings} {kind : ScalarKind}
  {failure : Failure}

theorem lookup_error (h : lookup source name kind values = .error failure) :
    failure.OfTemplate source := by
  unfold lookup at h
  split at h
  · cases h
    exact .missing
  · split at h
    · cases h
    · cases h
      exact .mismatch

theorem substitute_error {found : List Piece}
    (h : substitute source values found = .error failure) : failure.OfTemplate source := by
  induction found with
  | nil => cases h
  | cons piece rest ih =>
    cases piece with
    | literal content =>
      rw [substitute, Except.map_eq_error_iff] at h
      exact ih h
    | reference name =>
      rw [substitute] at h
      split at h
      · next hlookup =>
        cases h
        exact lookup_error hlookup
      · rw [Except.map_eq_error_iff] at h
        exact ih h

theorem evaluateText_error (h : evaluateText source values = .error failure) :
    failure.OfTemplate source := by
  unfold evaluateText at h
  split at h
  · split at h
    · next hpieces =>
      cases h
      obtain ⟨fault, rfl⟩ := pieces_error hpieces
      exact .unsupported
    · split at h
      · next hsubstitute =>
        cases h
        exact substitute_error hsubstitute
      · split at h
        · cases h
          exact .unsupported
        · cases h
  · cases h

theorem evaluateReference_error (h : evaluateReference kind source values = .error failure) :
    failure.OfTemplate source := by
  unfold evaluateReference at h
  split at h
  · next hpieces =>
    cases h
    obtain ⟨fault, rfl⟩ := pieces_error hpieces
    exact .unsupported
  · split at h
    · cases h
      exact .unsupported
    · exact lookup_error h

/-- A field that cannot be evaluated is a template, and tells what is wrong with it. -/
theorem evaluate_error {field : Scalar} {type : ParameterType}
    (h : evaluate field type values = .error failure) :
    ∃ source, field = .text source ∧ isTemplate source.toList = true ∧
      failure.OfTemplate source := by
  have htemplate : field.isTemplate = true := by
    by_contra hliteral
    rw [evaluate_literal (Bool.eq_false_iff.2 hliteral)] at h
    cases h
  obtain ⟨source, rfl, hsource⟩ := exists_text_of_isTemplate htemplate
  refine ⟨source, rfl, hsource, ?_⟩
  cases type with
  | text => exact evaluateText_error (Except.map_eq_error_iff.1 h)
  | integer =>
    simp only [evaluate, evaluateBare, hsource, if_true] at h
    exact evaluateReference_error h

/-! ## Names without a value -/

theorem lookup_missingDependency_iff :
    lookup source name kind values = .error (.missingDependency expression dependency) ↔
      values.get? name = none ∧ source = expression ∧ name = dependency := by
  unfold lookup
  cases values.get? name with
  | none => simp
  | some value => by_cases hkind : value.kind = kind <;> simp [hkind]

/-- A text in which a name is missing refers to this name. -/
theorem evaluateText_missingDependency (htemplate : isTemplate source.toList = true)
    (h : evaluateText source values = .error (.missingDependency expression dependency)) :
    source = expression ∧ values.get? dependency = none ∧
      ∃ before after, Refers source.toList before dependency after := by
  rw [evaluateText, if_pos htemplate] at h
  split at h
  · next hpieces =>
    obtain ⟨fault, rfl⟩ := pieces_error hpieces
    cases h
  · next hpieces =>
    obtain ⟨before, name, after, href, rfl⟩ := (pieces_eq_ok_iff htemplate).1 hpieces
    split at h
    · next hsubstitute =>
      cases h
      rw [substitute_piecesAround, Except.map_eq_error_iff] at hsubstitute
      obtain ⟨hnone, hsource, rfl⟩ := lookup_missingDependency_iff.1 hsubstitute
      exact ⟨hsource, hnone, before, after, href⟩
    · split at h <;> cases h

/-- A reference whose name is missing refers to this name. -/
theorem evaluateReference_missingDependency (htemplate : isTemplate source.toList = true)
    (h : evaluateReference kind source values =
      .error (.missingDependency expression dependency)) :
    source = expression ∧ values.get? dependency = none ∧
      ∃ before after, Refers source.toList before dependency after := by
  rw [evaluateReference] at h
  split at h
  · next hpieces =>
    obtain ⟨fault, rfl⟩ := pieces_error hpieces
    cases h
  · next hpieces =>
    obtain ⟨before, name, after, href, rfl⟩ := (pieces_eq_ok_iff htemplate).1 hpieces
    split at h
    · cases h
    · next hbare =>
      obtain ⟨-, -, rfl⟩ := bareReference_piecesAround_eq_ok_iff.1 hbare
      obtain ⟨hnone, hsource, rfl⟩ := lookup_missingDependency_iff.1 h
      exact ⟨hsource, hnone, before, after, href⟩

/-- The name that is missing where a template is evaluated is the only one that it mentions. -/
theorem evaluate_missingDependency {type : ParameterType}
    (h : evaluate (.text source) type values = .error (.missingDependency expression dependency)) :
    source = expression ∧ mentions source = [dependency] ∧ values.get? dependency = none := by
  obtain ⟨_, hsource, htemplate, -⟩ := evaluate_error h
  cases hsource
  have hrefers : source = expression ∧ values.get? dependency = none ∧
      ∃ before after, Refers source.toList before dependency after := by
    cases type with
    | text => exact evaluateText_missingDependency htemplate (Except.map_eq_error_iff.1 h)
    | integer =>
      simp only [evaluate, evaluateBare, htemplate, if_true] at h
      exact evaluateReference_missingDependency htemplate h
  obtain ⟨hexpression, hnone, before, after, href⟩ := hrefers
  exact ⟨hexpression, mentions_of_refers href, hnone⟩

/-! ## Names mentioned and names referred to -/

theorem filterMap_name?_literals (cs : List Char) : (literals cs).filterMap Piece.name? = [] := by
  by_cases h : cs = [] <;> simp [literals, h, Piece.name?]

/-- A text mentions the names of the references that the grammar gives it. -/
theorem mentions_of_parses {found : List Piece} (h : Parses source.toList found) :
    mentions source = found.filterMap Piece.name? := by
  cases h with
  | literal hund =>
    rw [mentions_eq_nil (isTemplate_eq_false_of_undelimited hund), filterMap_name?_literals]
  | @reference before after name href =>
    rw [mentions_of_refers href, piecesAround, List.filterMap_append, List.filterMap_cons,
      filterMap_name?_literals, filterMap_name?_literals]
    rfl

theorem length_mentions_of_parses {found : List Piece} (h : Parses source.toList found) :
    (mentions source).length ≤ 1 := by
  cases h with
  | literal hund =>
    rw [mentions_eq_nil (isTemplate_eq_false_of_undelimited hund)]
    exact Nat.zero_le 1
  | reference href =>
    rw [mentions_of_refers href]
    exact Nat.le_refl 1

/-- **Agreement.** A supported text mentions exactly the names of the references among its pieces,
    in this order, and that is one at most. So, if all names that a text mentions have a value, its
    evaluation is not missing a name, supported or not, whatever the type. -/
theorem mentions_eq_references (source : String) :
    (∀ found, pieces source = .ok found →
      mentions source = found.filterMap Piece.name? ∧ (mentions source).length ≤ 1) ∧
    (∀ (type : ParameterType) (values : Bindings), (∀ name ∈ mentions source, name ∈ values.keys) →
      ∀ expression dependency, evaluate (.text source) type values ≠
        .error (.missingDependency expression dependency)) := by
  constructor
  · intro found hpieces
    have hparses := pieces_eq_ok_iff_parses.1 hpieces
    exact ⟨mentions_of_parses hparses, length_mentions_of_parses hparses⟩
  · intro type values hbound expression dependency hmissing
    obtain ⟨-, hmentions, hnone⟩ := evaluate_missingDependency hmissing
    have hmem : dependency ∈ mentions source := by simp [hmentions]
    exact Bindings.get?_eq_none_iff.1 hnone (hbound dependency hmem)

/-- A supported template, whose name is bound to a value of the other kind: the evaluation fails,
    but no name is missing. -/
theorem mentions_eq_references_mismatched :
    let source := "db-\x7b\x7b params.ZONE \x7d\x7d"
    let values := Bindings.ofList [("SIZE", .integer 3), ("ZONE", .integer 4)]
    pieces source = .ok [.literal "db-", .reference "ZONE"] ∧
      mentions source = [.literal "db-", .reference "ZONE"].filterMap Piece.name? ∧
      "ZONE" ∈ values.keys ∧
      evaluate (.text source) .text values ≠ .error (.missingDependency source "ZONE") := by
  intro source values
  have hpieces : pieces source = .ok [.literal "db-", .reference "ZONE"] := by decide
  have hmentions := ((mentions_eq_references source).1 _ hpieces).1
  have hbound : "ZONE" ∈ values.keys := by decide
  have hall : ∀ name ∈ mentions source, name ∈ values.keys := by
    intro name hname
    rw [hmentions] at hname
    rw [List.mem_singleton.1 hname]
    exact hbound
  exact ⟨hpieces, hmentions, hbound,
    (mentions_eq_references source).2 .text values hall source "ZONE"⟩

end Provision
