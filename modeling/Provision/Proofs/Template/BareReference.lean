import Provision.Proofs.Template.Failure

/-!
# Bare references

A field for an integer or a truth value holds a literal, which stands for itself, or a template,
which has to be a bare reference: a reference with nothing but white space around it. It has the
value of its name, which must be of the kind that the field needs. What stands around a reference is
looked at first, so that a template of any other form is not supported whether or not the names in
it have values.

Results:

* `RefersAlone`: the bare references.
* `evaluateReference_cases`: a template is a bare reference and looked up, or not supported.
* `evaluateReference_ne_noReference`: no template lacks a reference, for it holds both delimiters.
* `evaluateBare_exact`: the value of a field, or the cause for which it has none.
-/

namespace Provision

/-- The text is a reference to `name` with nothing but white space around it. -/
structure RefersAlone (source : List Char) (name : String) : Prop where
  written : ∃ front left right back, Blank front ∧ Blank left ∧ Blank right ∧ Blank back ∧
    source = front ++ Token.openingText ++ (left ++ (referencePrefix ++ name.toList) ++ right) ++
      Token.closingText ++ back
  isName : isName name.toList = true

variable {source name expression : String} {values : Bindings} {kind : ScalarKind}

/-! ## White space around a reference -/

theorem not_mem_of_blank {cs : List Char} (hblank : Blank cs) {c : Char}
    (hc : isBlank c = false) : c ∉ cs := by
  intro hmem
  rw [hblank c hmem] at hc
  cases hc

theorem undelimited_of_blank {cs : List Char} (hblank : Blank cs) : Undelimited cs :=
  undelimited_of_not_mem (not_mem_of_blank hblank (by decide)) (not_mem_of_blank hblank (by decide))

/-- The bare references are the templates in which the literal text is white space. -/
theorem refersAlone_iff {source : List Char} :
    RefersAlone source name ↔
      ∃ before after, Refers source before name after ∧ Blank before ∧ Blank after := by
  constructor
  · rintro ⟨⟨front, left, right, back, hfront, hleft, hright, hback, hsource⟩, hname⟩
    have hboundary : front.getLast? ≠ some '{' := fun hlast =>
      not_mem_of_blank hfront (by decide) (List.mem_of_getLast? hlast)
    exact ⟨front, back, ⟨⟨left, right, hleft, hright, hsource⟩, hname, undelimited_of_blank hfront,
      hboundary, undelimited_of_blank hback⟩, hfront, hback⟩
  · rintro ⟨before, after, ⟨⟨left, right, hleft, hright, hsource⟩, hname, -⟩, hbefore, hafter⟩
    exact ⟨⟨before, left, right, after, hbefore, hleft, hright, hafter, hsource⟩, hname⟩

/-! ## Templates without a reference -/

/-- Tokens are never told to hold no reference: they may be literal text alone. -/
theorem ofTokens_ne_noReference (ts : List Token) :
    Piece.ofTokens ts ≠ .error .noReference := by
  induction ts using Piece.ofTokens.induct with
  | case2 content rest ih =>
    rw [Piece.ofTokens, Ne, Except.map_eq_error_iff]
    exact ih
  | case4 content rest name hname ih =>
    simp only [Piece.ofTokens, hname, Ne, Except.map_eq_error_iff]
    exact ih
  | case5 content rest hname => simp [Piece.ofTokens, hname]
  | _ => simp [Piece.ofTokens]

theorem pieces_ne_noReference :
    pieces source ≠ .error (.unsupportedExpression expression .noReference) := by
  intro h
  obtain ⟨fault, hfault, hsame⟩ := Except.mapError_eq_error_iff.1 h
  cases hsame
  unfold Piece.ofText at hfault
  split at hfault
  · split_ifs at hfault
    cases hfault
  · next hothers =>
    cases hfault
    exact ofTokens_ne_noReference _ hothers

theorem bareReference_ne_noReference {found : List Piece} (hmem : .reference name ∈ found) :
    Piece.bareReference found ≠ .error .noReference := by
  unfold Piece.bareReference
  split_ifs
  · simp
  · have hsome : found.findSome? Piece.name? ≠ none := fun hnone =>
      absurd (List.findSome?_eq_none_iff.1 hnone _ hmem) (by simp [Piece.name?])
    split
    · simp
    · next hnone => exact absurd hnone hsome

/-! ## Values looked up -/

theorem lookup_mismatch_iff {found : String} {expected : ScalarKind} {value : Scalar} :
    lookup source name kind values = .error (.typeMismatch found expected value) ↔
      name = found ∧ kind = expected ∧ values.get? name = some value ∧ value.kind ≠ kind := by
  unfold lookup
  cases values.get? name with
  | none => simp
  | some other =>
    by_cases hkind : other.kind = kind
    · simp only [if_pos hkind, reduceCtorEq, Option.some.injEq, false_iff, not_and, not_not]
      rintro - - rfl
      exact hkind
    · simp only [if_neg hkind, Except.error.injEq, Failure.typeMismatch.injEq, Option.some.injEq]
      constructor
      · rintro ⟨rfl, rfl, rfl⟩
        exact ⟨rfl, rfl, rfl, hkind⟩
      · rintro ⟨rfl, rfl, rfl, -⟩
        exact ⟨rfl, rfl, rfl⟩

theorem lookup_ne_unsupported {fault : TemplateFault} :
    lookup source name kind values ≠ .error (.unsupportedExpression expression fault) := by
  unfold lookup
  split
  · simp
  · split_ifs <;> simp

/-! ## Templates -/

theorem evaluateReference_of_refersAlone (h : RefersAlone source.toList name) :
    evaluateReference kind source values = lookup source name kind values := by
  obtain ⟨before, after, href, hbefore, hafter⟩ := refersAlone_iff.1 h
  have hbare : Piece.bareReference (piecesAround before name after) = .ok name :=
    bareReference_piecesAround_eq_ok_iff.2 ⟨hbefore, hafter, rfl⟩
  simp only [evaluateReference, pieces_of_refers href, hbare]

/-- A template of any other form is not supported, whatever has a value. -/
theorem evaluateReference_of_not_refersAlone (htemplate : isTemplate source.toList = true)
    (h : ∀ name, ¬ RefersAlone source.toList name) :
    ∃ fault, evaluateReference kind source values =
      .error (.unsupportedExpression source fault) := by
  cases hpieces : pieces source with
  | error failure =>
    obtain ⟨fault, rfl⟩ := pieces_error hpieces
    exact ⟨fault, by rw [evaluateReference, hpieces]⟩
  | ok found =>
    obtain ⟨before, name, after, href, rfl⟩ := (pieces_eq_ok_iff htemplate).1 hpieces
    cases hbare : Piece.bareReference (piecesAround before name after) with
    | error fault => exact ⟨fault, by simp only [evaluateReference, hpieces, hbare]⟩
    | ok found =>
      obtain ⟨hbefore, hafter, -⟩ := bareReference_piecesAround_eq_ok_iff.1 hbare
      exact absurd (refersAlone_iff.2 ⟨before, after, href, hbefore, hafter⟩) (h name)

/-- A template is a bare reference and looked up, or it is not supported. -/
theorem evaluateReference_cases (htemplate : isTemplate source.toList = true)
    (kind : ScalarKind) (values : Bindings) :
    (∃ name, RefersAlone source.toList name ∧
      evaluateReference kind source values = lookup source name kind values) ∨
    (∀ name, ¬ RefersAlone source.toList name) ∧
      ∃ fault, evaluateReference kind source values =
        .error (.unsupportedExpression source fault) := by
  by_cases halone : ∃ name, RefersAlone source.toList name
  · obtain ⟨name, halone⟩ := halone
    exact Or.inl ⟨name, halone, evaluateReference_of_refersAlone halone⟩
  · have hnone : ∀ name, ¬ RefersAlone source.toList name := not_exists.1 halone
    exact Or.inr ⟨hnone, evaluateReference_of_not_refersAlone htemplate hnone⟩

theorem evaluateReference_missing_iff (htemplate : isTemplate source.toList = true)
    {dependency : String} :
    evaluateReference kind source values = .error (.missingDependency expression dependency) ↔
      expression = source ∧ RefersAlone source.toList dependency ∧
        values.get? dependency = none := by
  constructor
  · intro h
    rcases evaluateReference_cases htemplate kind values with ⟨name, halone, heq⟩ | ⟨-, fault, heq⟩
    · rw [heq, lookup_missingDependency_iff] at h
      obtain ⟨hnone, rfl, rfl⟩ := h
      exact ⟨rfl, halone, hnone⟩
    · rw [heq] at h
      cases h
  · rintro ⟨rfl, halone, hnone⟩
    rw [evaluateReference_of_refersAlone halone]
    exact lookup_missingDependency_iff.2 ⟨hnone, rfl, rfl⟩

theorem evaluateReference_mismatch_iff (htemplate : isTemplate source.toList = true)
    {expected : ScalarKind} {value : Scalar} :
    evaluateReference kind source values = .error (.typeMismatch name expected value) ↔
      expected = kind ∧ RefersAlone source.toList name ∧ values.get? name = some value ∧
        value.kind ≠ kind := by
  constructor
  · intro h
    rcases evaluateReference_cases htemplate kind values with ⟨name, halone, heq⟩ | ⟨-, fault, heq⟩
    · rw [heq, lookup_mismatch_iff] at h
      obtain ⟨rfl, rfl, hvalue, hkind⟩ := h
      exact ⟨rfl, halone, hvalue, hkind⟩
    · rw [heq] at h
      cases h
  · rintro ⟨rfl, halone, hvalue, hkind⟩
    rw [evaluateReference_of_refersAlone halone]
    exact lookup_mismatch_iff.2 ⟨rfl, rfl, hvalue, hkind⟩

/-- A template is not supported exactly if it is no bare reference. -/
theorem evaluateReference_unsupported_iff (htemplate : isTemplate source.toList = true) :
    (∃ fault, evaluateReference kind source values =
        .error (.unsupportedExpression expression fault)) ↔
      expression = source ∧ ∀ name, ¬ RefersAlone source.toList name := by
  constructor
  · rintro ⟨fault, h⟩
    rcases evaluateReference_cases htemplate kind values with ⟨name, -, heq⟩ | ⟨hnone, _, heq⟩
    · exact absurd (heq.symm.trans h) lookup_ne_unsupported
    · rw [heq] at h
      cases h
      exact ⟨rfl, hnone⟩
  · rintro ⟨rfl, hnone⟩
    exact evaluateReference_of_not_refersAlone htemplate hnone

/-- No template lacks a reference: both delimiters stand in it, so that its pieces are not literal
    text alone. -/
theorem evaluateReference_ne_noReference (htemplate : isTemplate source.toList = true) :
    evaluateReference kind source values ≠
      .error (.unsupportedExpression expression .noReference) := by
  intro h
  unfold evaluateReference at h
  split at h
  · next hpieces =>
    cases h
    exact pieces_ne_noReference hpieces
  · next hpieces =>
    obtain ⟨before, name, after, -, rfl⟩ := (pieces_eq_ok_iff htemplate).1 hpieces
    split at h
    · next hbare =>
      cases h
      have hmem : .reference name ∈ piecesAround before name after := by simp [piecesAround]
      exact bareReference_ne_noReference hmem hbare
    · exact lookup_ne_unsupported h

/-! ## Fields -/

theorem evaluateBare_literal {field : Scalar} (h : field.isTemplate = false) :
    evaluateBare kind field values = .ok field := by
  cases field with
  | text source => exact if_neg (Bool.eq_false_iff.1 h)
  | _ => rfl

theorem evaluateBare_template (htemplate : isTemplate source.toList = true) :
    evaluateBare kind (.text source) values = evaluateReference kind source values :=
  if_pos htemplate

/-- **Bare references.** A field that is no template stands for itself. A template has a value
    exactly if it is a reference with nothing but white space around it, to a name whose value is of
    the kind that is needed, and it is this value; a name without a value is missing, and one with a
    value of another kind is of the wrong type. Every other template is not supported, whatever
    values its names have. No field is ever told to hold no reference. -/
theorem evaluateBare_exact (kind : ScalarKind) (values : Bindings) :
    (∀ field, field.isTemplate = false → evaluateBare kind field values = .ok field) ∧
    (∀ source, isTemplate source.toList = true →
      (∀ value, evaluateBare kind (.text source) values = .ok value ↔
        ∃ name, RefersAlone source.toList name ∧ values.get? name = some value ∧
          value.kind = kind) ∧
      (∀ expression dependency,
        evaluateBare kind (.text source) values =
            .error (.missingDependency expression dependency) ↔
          expression = source ∧ RefersAlone source.toList dependency ∧
            values.get? dependency = none) ∧
      (∀ name expected value,
        evaluateBare kind (.text source) values = .error (.typeMismatch name expected value) ↔
          expected = kind ∧ RefersAlone source.toList name ∧ values.get? name = some value ∧
            value.kind ≠ kind) ∧
      (∀ expression,
        (∃ fault, evaluateBare kind (.text source) values =
            .error (.unsupportedExpression expression fault)) ↔
          expression = source ∧ ∀ name, ¬ RefersAlone source.toList name)) ∧
    ∀ field expression, evaluateBare kind field values ≠
      .error (.unsupportedExpression expression .noReference) := by
  refine ⟨fun field => evaluateBare_literal, fun source htemplate => ?_, fun field expression => ?_⟩
  · simp only [evaluateBare_template htemplate]
    refine ⟨fun value => ?_, fun expression dependency => evaluateReference_missing_iff htemplate,
      fun name expected value => evaluateReference_mismatch_iff htemplate,
      fun expression => evaluateReference_unsupported_iff htemplate⟩
    constructor
    · intro h
      obtain ⟨before, name, after, href, hbefore, hafter, hvalue⟩ :=
        (evaluateReference_eq_ok_iff htemplate).1 h
      exact ⟨name, refersAlone_iff.2 ⟨before, after, href, hbefore, hafter⟩, hvalue⟩
    · rintro ⟨name, halone, hvalue⟩
      rw [evaluateReference_of_refersAlone halone]
      exact lookup_eq_ok_iff.2 hvalue
  · cases htemplate : field.isTemplate with
    | false =>
      rw [evaluateBare_literal htemplate]
      simp
    | true =>
      obtain ⟨source, rfl, hsource⟩ := exists_text_of_isTemplate htemplate
      rw [evaluateBare_template hsource]
      exact evaluateReference_ne_noReference hsource

/-- A bare reference to a name of the right kind, of another kind, and without a value; a reference
    behind a text, which is not supported although its name has no value; and a literal. -/
theorem evaluateBare_exact_around :
    let alone := " \x7b\x7bparams.N \x7d\x7d\n"
    let behind := "n=\x7b\x7bparams.N\x7d\x7d"
    let bound := fun value : Scalar => Bindings.ofList [("N", value)]
    RefersAlone alone.toList "N" ∧
      evaluateBare .integer (.text alone) (bound (.integer 3)) = .ok (.integer 3) ∧
      evaluateBare .boolean (.text alone) (bound (.boolean true)) = .ok (.boolean true) ∧
      evaluateBare .integer (.text alone) (bound (.boolean true)) =
        .error (.typeMismatch "N" .integer (.boolean true)) ∧
      evaluateBare .boolean (.text alone) Bindings.empty = .error (.missingDependency alone "N") ∧
      (∃ fault, evaluateBare .integer (.text behind) Bindings.empty =
        .error (.unsupportedExpression behind fault)) ∧
      evaluateBare .integer (.text "params.N") Bindings.empty = .ok (.text "params.N") := by
  intro alone behind bound
  have hspace : Blank [' '] ∧ Blank ['\n'] ∧ Blank [] := by
    refine ⟨?_, ?_, fun c hc => absurd hc List.not_mem_nil⟩ <;>
    · intro c hc
      rw [List.mem_singleton.1 hc]
      rfl
  obtain ⟨hblank, hnewline, hempty⟩ := hspace
  have halone : RefersAlone alone.toList "N" :=
    ⟨⟨[' '], [], [' '], ['\n'], hblank, hempty, hblank, hnewline, by decide⟩, by decide⟩
  have hbehind : Refers behind.toList ['n', '='] "N" [] :=
    ⟨⟨[], [], hempty, hempty, by decide⟩, by decide,
      undelimited_of_not_mem (by decide) (by decide), by decide, undelimited_nil⟩
  have hnone : ∀ name, ¬ RefersAlone behind.toList name := by
    intro name h
    obtain ⟨before, after, href, hbefore, -⟩ := refersAlone_iff.1 h
    obtain ⟨rfl, -, -⟩ := hbehind.unique href
    exact absurd (hbefore 'n' List.mem_cons_self) (by decide)
  have hexact := fun kind values => (evaluateBare_exact kind values).2.1 alone (by decide)
  refine ⟨halone, ?_, ?_, ?_, ?_, ?_, ?_⟩
  · exact ((hexact .integer _).1 (.integer 3)).2 ⟨"N", halone, rfl, rfl⟩
  · exact ((hexact .boolean _).1 (.boolean true)).2 ⟨"N", halone, rfl, rfl⟩
  · exact ((hexact .integer _).2.2.1 "N" .integer (.boolean true)).2
      ⟨rfl, halone, rfl, by decide⟩
  · exact ((hexact .boolean Bindings.empty).2.1 alone "N").2 ⟨rfl, halone, rfl⟩
  · exact (((evaluateBare_exact .integer Bindings.empty).2.1 behind (by decide)).2.2.2 behind).2
      ⟨rfl, hnone⟩
  · exact (evaluateBare_exact .integer Bindings.empty).1 (.text "params.N") rfl

end Provision
