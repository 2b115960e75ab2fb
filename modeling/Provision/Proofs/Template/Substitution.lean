import Provision.Proofs.Template.Failure

/-!
# Substitution

The text of a template is that of the name it refers to, between the literal texts, if no delimiter
is left in it. Otherwise the template has no text, for one of three causes: the name has no value,
its value is no text, or the template is not supported, be it as it is written or for what
substitution would leave. A text that has been found is a literal, so that it is not evaluated a
second time, whatever the values are then.

Results:

* `TextOutcome`: what the evaluation of a template can come to, and when.
* `evaluateText_missing_iff`, `evaluateText_mismatch_iff`, `evaluateText_unsupported_iff`: when a
  template fails for which of the causes.
* `evaluateText_exact`: the text of a field, or the cause for which it has none.
-/

namespace Provision

variable {source text : String} {before after : List Char} {name : String} {values : Bindings}

/-- Substitution leaves a delimiter: the value of the name is a text that brings one, or with which
    one forms. -/
def Delimited (values : Bindings) (before : List Char) (name : String) (after : List Char) : Prop :=
  ∃ found, values.get? name = some (.text found) ∧ ¬ Undelimited (before ++ found.toList ++ after)

/-- What the evaluation of a template comes to. -/
inductive TextOutcome (source : String) (values : Bindings) : Except Failure String → Prop where
  | substituted {before after : List Char} {name found : String} :
      Refers source.toList before name after → values.get? name = some (.text found) →
      Undelimited (before ++ found.toList ++ after) →
      TextOutcome source values (.ok (String.ofList (before ++ found.toList ++ after)))
  | missing {before after : List Char} {name : String} :
      Refers source.toList before name after → values.get? name = none →
      TextOutcome source values (.error (.missingDependency source name))
  | mismatched {before after : List Char} {name : String} {value : Scalar} :
      Refers source.toList before name after → values.get? name = some value →
      value.kind ≠ .text → TextOutcome source values (.error (.typeMismatch name .text value))
  | delimited {before after : List Char} {name : String} :
      Refers source.toList before name after → Delimited values before name after →
      TextOutcome source values (.error (.unsupportedExpression source .delimitersRemain))
  | unsupported {fault : TemplateFault} :
      (∀ before name after, ¬ Refers source.toList before name after) →
      TextOutcome source values (.error (.unsupportedExpression source fault))

/-! ## Templates that refer to a name -/

theorem evaluateText_of_missing (href : Refers source.toList before name after)
    (hnone : values.get? name = none) :
    evaluateText source values = .error (.missingDependency source name) :=
  evaluateText_of_lookup_error href (lookup_missingDependency_iff.2 ⟨hnone, rfl, rfl⟩)

theorem evaluateText_of_mismatch {value : Scalar} (href : Refers source.toList before name after)
    (hvalue : values.get? name = some value) (hkind : value.kind ≠ .text) :
    evaluateText source values = .error (.typeMismatch name .text value) := by
  refine evaluateText_of_lookup_error href ?_
  simp only [lookup, hvalue, if_neg hkind]

theorem evaluateText_of_delimited (href : Refers source.toList before name after)
    (h : Delimited values before name after) :
    evaluateText source values = .error (.unsupportedExpression source .delimitersRemain) := by
  obtain ⟨found, hfound, hdelimited⟩ := h
  rw [evaluateText_of_found href hfound]
  exact if_pos (occurs_or_occurs_iff.2 hdelimited)

/-! ## All templates -/

/-- A template that refers to no name is not supported as it is written. -/
theorem evaluateText_of_not_refers (htemplate : isTemplate source.toList = true)
    (h : ∀ before name after, ¬ Refers source.toList before name after) (values : Bindings) :
    ∃ fault, evaluateText source values = .error (.unsupportedExpression source fault) := by
  cases hpieces : pieces source with
  | ok found =>
    obtain ⟨before, name, after, href, -⟩ := (pieces_eq_ok_iff htemplate).1 hpieces
    exact absurd href (h before name after)
  | error failure =>
    obtain ⟨fault, rfl⟩ := pieces_error hpieces
    exact ⟨fault, by rw [evaluateText, if_pos htemplate, hpieces]⟩

theorem textOutcome_evaluateText (htemplate : isTemplate source.toList = true)
    (values : Bindings) : TextOutcome source values (evaluateText source values) := by
  by_cases hrefers : ∃ before name after, Refers source.toList before name after
  · obtain ⟨before, name, after, href⟩ := hrefers
    cases hvalue : values.get? name with
    | none =>
      rw [evaluateText_of_missing href hvalue]
      exact .missing href hvalue
    | some value =>
      by_cases hkind : value.kind = .text
      · obtain ⟨found, rfl⟩ := Scalar.kind_eq_text_iff.1 hkind
        by_cases hund : Undelimited (before ++ found.toList ++ after)
        · rw [(evaluateText_of_refers href).2 ⟨found, hvalue, hund, rfl⟩]
          exact .substituted href hvalue hund
        · rw [evaluateText_of_delimited href ⟨found, hvalue, hund⟩]
          exact .delimited href ⟨found, hvalue, hund⟩
      · rw [evaluateText_of_mismatch href hvalue hkind]
        exact .mismatched href hvalue hkind
  · have hnone : ∀ before name after, ¬ Refers source.toList before name after :=
      fun before name after href => hrefers ⟨before, name, after, href⟩
    obtain ⟨fault, herror⟩ := evaluateText_of_not_refers htemplate hnone values
    rw [herror]
    exact .unsupported hnone

theorem evaluateText_missing_iff (htemplate : isTemplate source.toList = true)
    {expression dependency : String} :
    evaluateText source values = .error (.missingDependency expression dependency) ↔
      expression = source ∧ values.get? dependency = none ∧
        ∃ before after, Refers source.toList before dependency after := by
  constructor
  · intro h
    obtain ⟨hsource, hnone, hrefers⟩ := evaluateText_missingDependency htemplate h
    exact ⟨hsource.symm, hnone, hrefers⟩
  · rintro ⟨rfl, hnone, before, after, href⟩
    exact evaluateText_of_missing href hnone

theorem evaluateText_mismatch_iff (htemplate : isTemplate source.toList = true)
    {kind : ScalarKind} {value : Scalar} :
    evaluateText source values = .error (.typeMismatch name kind value) ↔
      kind = .text ∧ values.get? name = some value ∧ value.kind ≠ .text ∧
        ∃ before after, Refers source.toList before name after := by
  constructor
  · intro h
    have houtcome := textOutcome_evaluateText htemplate values
    rw [h] at houtcome
    cases houtcome with
    | mismatched href hvalue hkind => exact ⟨rfl, hvalue, hkind, _, _, href⟩
  · rintro ⟨rfl, hvalue, hkind, before, after, href⟩
    exact evaluateText_of_mismatch href hvalue hkind

/-- A template is not supported exactly if it refers to no name, or substitution leaves a
    delimiter. -/
theorem evaluateText_unsupported_iff (htemplate : isTemplate source.toList = true)
    {expression : String} :
    (∃ fault, evaluateText source values = .error (.unsupportedExpression expression fault)) ↔
      expression = source ∧ ∀ before name after, Refers source.toList before name after →
        Delimited values before name after := by
  constructor
  · rintro ⟨fault, h⟩
    have houtcome := textOutcome_evaluateText htemplate values
    rw [h] at houtcome
    cases houtcome with
    | delimited href hdelimited =>
      refine ⟨rfl, fun before name after href' => ?_⟩
      obtain ⟨rfl, rfl, rfl⟩ := href.unique href'
      exact hdelimited
    | unsupported hnone =>
      exact ⟨rfl, fun before name after href => absurd href (hnone before name after)⟩
  · rintro ⟨rfl, hdelimited⟩
    by_cases hrefers : ∃ before name after, Refers expression.toList before name after
    · obtain ⟨before, name, after, href⟩ := hrefers
      exact ⟨_, evaluateText_of_delimited href (hdelimited before name after href)⟩
    · have hnone : ∀ before name after, ¬ Refers expression.toList before name after :=
        fun before name after href => hrefers ⟨before, name, after, href⟩
      exact evaluateText_of_not_refers htemplate hnone values

/-! ## Results -/

/-- A text that has been found is a literal. -/
theorem isTemplate_of_evaluateText (h : evaluateText source values = .ok text) :
    isTemplate text.toList = false := by
  cases htemplate : isTemplate source.toList with
  | false =>
    rw [evaluateText_literal htemplate] at h
    cases h
    exact htemplate
  | true =>
    obtain ⟨before, name, after, found, -, -, hund, rfl⟩ := (evaluateText_eq_ok_iff htemplate).1 h
    rw [String.toList_ofList]
    exact isTemplate_eq_false_of_undelimited hund

/-- **Substitution.** A literal is its own text. A template has a text exactly if it refers to a
    name whose value is a text, with which no delimiter is left, and it is the literal texts with
    this one between them; a name without a value is missing, and one with a value of another kind
    is of the wrong type; in every other case the template is not supported. A text that has been
    found is its own text, whatever the values are then. -/
theorem evaluateText_exact (source : String) (values : Bindings) :
    (isTemplate source.toList = false → evaluateText source values = .ok source) ∧
    (isTemplate source.toList = true →
      (∀ text, evaluateText source values = .ok text ↔
        ∃ before name after found, Refers source.toList before name after ∧
          values.get? name = some (.text found) ∧ Undelimited (before ++ found.toList ++ after) ∧
          text = String.ofList (before ++ found.toList ++ after)) ∧
      (∀ expression dependency,
        evaluateText source values = .error (.missingDependency expression dependency) ↔
          expression = source ∧ values.get? dependency = none ∧
            ∃ before after, Refers source.toList before dependency after) ∧
      (∀ name kind value, evaluateText source values = .error (.typeMismatch name kind value) ↔
        kind = .text ∧ values.get? name = some value ∧ value.kind ≠ .text ∧
          ∃ before after, Refers source.toList before name after) ∧
      (∀ expression,
        (∃ fault, evaluateText source values = .error (.unsupportedExpression expression fault)) ↔
          expression = source ∧ ∀ before name after, Refers source.toList before name after →
            Delimited values before name after)) ∧
    ∀ text, evaluateText source values = .ok text →
      ∀ values', evaluateText text values' = .ok text := by
  refine ⟨fun hliteral => evaluateText_literal hliteral values,
    fun htemplate => ⟨?_, ?_, ?_, ?_⟩, ?_⟩
  · exact fun text => evaluateText_eq_ok_iff htemplate
  · exact fun expression dependency => evaluateText_missing_iff htemplate
  · exact fun name kind value => evaluateText_mismatch_iff htemplate
  · exact fun expression => evaluateText_unsupported_iff htemplate
  · exact fun text h => evaluateText_literal (isTemplate_of_evaluateText h)

/-- A closing brace behind a reference. It is kept behind most texts, and the result is not
    evaluated again; behind a text that ends in another one it completes a delimiter. -/
theorem evaluateText_exact_seam :
    let source := "\x7b\x7b params.A \x7d\x7d\x7d"
    let bound := fun value : Scalar => Bindings.ofList [("A", value)]
    isTemplate source.toList = true ∧ Refers source.toList [] "A" ['\x7d'] ∧
      evaluateText source (bound (.text "x")) = .ok "x\x7d" ∧
      (∀ values, evaluateText "x\x7d" values = .ok "x\x7d") ∧
      evaluateText source Bindings.empty = .error (.missingDependency source "A") ∧
      evaluateText source (bound (.integer 3)) = .error (.typeMismatch "A" .text (.integer 3)) ∧
      ∃ fault, evaluateText source (bound (.text "x\x7d")) =
        .error (.unsupportedExpression source fault) := by
  intro source bound
  have htemplate : isTemplate source.toList = true := by decide
  have hblank : Blank [' '] := by
    intro c hc
    rw [List.mem_singleton.1 hc]
    rfl
  have href : Refers source.toList [] "A" ['\x7d'] :=
    ⟨⟨[' '], [' '], hblank, hblank, by decide⟩, by decide, undelimited_nil, by decide,
      undelimited_singleton '\x7d'⟩
  have hexact := fun values => (evaluateText_exact source values).2.1 htemplate
  have hok : evaluateText source (bound (.text "x")) = .ok "x\x7d" :=
    ((hexact _).1 _).2 ⟨[], "A", ['\x7d'], "x", href, rfl, ⟨rfl, rfl⟩, by decide⟩
  refine ⟨htemplate, href, hok, (evaluateText_exact source _).2.2 _ hok, ?_, ?_, ?_⟩
  · exact ((hexact _).2.1 source "A").2 ⟨rfl, rfl, [], ['\x7d'], href⟩
  · exact ((hexact _).2.2.1 "A" .text (.integer 3)).2
      ⟨rfl, rfl, by decide, [], ['\x7d'], href⟩
  · refine ((hexact _).2.2.2 source).2 ⟨rfl, fun before name after href' => ?_⟩
    obtain ⟨rfl, rfl, rfl⟩ := href.unique href'
    exact ⟨"x\x7d", rfl, fun hund => absurd hund.2 (by decide)⟩

end Provision
