import Provision.Pass
import Provision.Proofs.Conformance
import Provision.Proofs.Template.Failure

/-!
# What a default stands for

A literal default is its own value, in the form that the parameter takes. A template stands for
the value of the parameter that it refers to: in a text parameter put between the literal texts,
in an integer parameter alone. A parameter that is settled without asking anyone has its
override, or else what its default stands for.

Results:

* `Denotes`, `Settles`: the values of defaults and of parameters against the values found so far.
* `defaultOf_eq_some_iff`, `defaultOf_eq_none_iff`: the computed default is what the declared
  one stands for, and there is none exactly if none is declared.
* `defaultOf_error`: the failures with which the computation of a default can end.
* `Settles.unique`: values found so far that do not contradict each other give the same value.
-/

namespace Provision

/-- What a default of a parameter stands for, against the values found so far. -/
inductive Denotes (settled : Bindings) (p : Parameter) : Scalar → Scalar → Prop where
  | literal {default value : Scalar} : default.isTemplate = false → p.Takes default value →
      Denotes settled p default value
  /-- The text that is referred to stands between the literal texts, and no delimiter is left. -/
  | substituted {source : String} {before after : List Char} {name found : String} :
      p.type = .text → Refers source.toList before name after →
      settled.get? name = some (.text found) → Undelimited (before ++ found.toList ++ after) →
      Denotes settled p (.text source) (.text (String.ofList (before ++ found.toList ++ after)))
  /-- A reference to an integer stands alone. -/
  | referred {source : String} {before after : List Char} {name : String} {n : Int64} :
      p.type = .integer → Refers source.toList before name after → Blank before → Blank after →
      settled.get? name = some (.integer n) → Denotes settled p (.text source) (.integer n)

/-- The value of a parameter for which nobody is asked, against the values found so far. -/
inductive Settles (overrides settled : Bindings) (p : Parameter) : Scalar → Prop where
  | override {given value : Scalar} : overrides.get? p.name = some given → p.Takes given value →
      Settles overrides settled p value
  | default {default value : Scalar} : overrides.get? p.name = none → p.default = some default →
      Denotes settled p default value → Settles overrides settled p value

variable {settled overrides : Bindings} {p : Parameter} {default value : Scalar}

/-! ## Computed defaults -/

theorem defaultValue_literal {type : ParameterType} (h : default.isTemplate = false) :
    defaultValue type default settled = .ok default := by
  cases default with
  | text source =>
    have hsource : isTemplate source.toList = false := h
    simp [defaultValue, hsource]
  | integer n => rfl
  | float x => rfl
  | boolean b => rfl

theorem firstMissing?_of_refers {source : String} {before after : List Char} {name : String}
    (href : Refers source.toList before name after) (hbound : settled.get? name = some value) :
    firstMissing? source settled = none := by
  simp [firstMissing?, mentions_of_refers href, Bindings.contains, hbound]

/-- The value of a template, before its type is looked at. -/
theorem defaultValue_template_eq_ok_iff {type : ParameterType} {source : String}
    (htemplate : isTemplate source.toList = true) :
    defaultValue type (.text source) settled = .ok value ↔
      ∃ before name after, Refers source.toList before name after ∧
        match type with
        | .text => ∃ found, settled.get? name = some (.text found) ∧
            Undelimited (before ++ found.toList ++ after) ∧
            value = .text (String.ofList (before ++ found.toList ++ after))
        | .integer => Blank before ∧ Blank after ∧
            settled.get? name = some value ∧ value.kind = .integer := by
  simp only [defaultValue, if_pos htemplate]
  constructor
  · intro h
    split at h
    · cases h
    · cases type with
      | text =>
        obtain ⟨text, htext, rfl⟩ := Except.map_eq_ok_iff.1 h
        obtain ⟨before, name, after, found, href, hfound, hund, rfl⟩ :=
          (evaluateText_eq_ok_iff htemplate).1 htext
        exact ⟨before, name, after, href, found, hfound, hund, rfl⟩
      | integer =>
        simp only [evaluate, evaluateBare, if_pos htemplate] at h
        exact (evaluateReference_eq_ok_iff htemplate).1 h
  · rintro ⟨before, name, after, href, h⟩
    cases type with
    | text =>
      obtain ⟨found, hfound, hund, rfl⟩ := h
      rw [firstMissing?_of_refers href hfound]
      simp only [evaluate]
      rw [(evaluateText_of_refers href).2 ⟨found, hfound, hund, rfl⟩]
      rfl
    | integer =>
      obtain ⟨hbefore, hafter, hvalue, hkind⟩ := h
      rw [firstMissing?_of_refers href hvalue]
      simp only [evaluate, evaluateBare, if_pos htemplate]
      exact (evaluateReference_eq_ok_iff htemplate).2
        ⟨before, name, after, href, hbefore, hafter, hvalue, hkind⟩

/-- A default without a value is a template that cannot be evaluated. -/
theorem defaultValue_error {type : ParameterType} {failure : Failure}
    (h : defaultValue type default settled = .error failure) :
    ∃ source, default = .text source ∧ isTemplate source.toList = true ∧
      failure.OfTemplate source := by
  cases hdefault : default.isTemplate with
  | false => simp [defaultValue_literal hdefault] at h
  | true =>
    obtain ⟨source, rfl, htemplate⟩ := exists_text_of_isTemplate hdefault
    refine ⟨source, rfl, htemplate, ?_⟩
    simp only [defaultValue, if_pos htemplate] at h
    split at h
    · cases h
      exact .missing
    · obtain ⟨_, hsource, -, hfailure⟩ := evaluate_error h
      cases hsource
      exact hfailure

/-- The value of a default, received by its parameter, is what the default denotes. -/
theorem exists_defaultValue_iff_denotes :
    (∃ v, defaultValue p.type default settled = .ok v ∧ p.receive v = .ok value) ↔
      Denotes settled p default value := by
  constructor
  · rintro ⟨v, hv, hreceive⟩
    have htakes : p.Takes v value := Parameter.receive_eq_ok_iff_takes.1 hreceive
    cases hdefault : default.isTemplate with
    | false =>
      rw [defaultValue_literal hdefault] at hv
      cases hv
      exact .literal hdefault htakes
    | true =>
      obtain ⟨source, rfl, htemplate⟩ := exists_text_of_isTemplate hdefault
      obtain ⟨before, name, after, href, h⟩ := (defaultValue_template_eq_ok_iff htemplate).1 hv
      cases htype : p.type with
      | text =>
        rw [htype] at h
        obtain ⟨found, hfound, hund, rfl⟩ := h
        cases htakes
        exact .substituted htype href hfound hund
      | integer =>
        rw [htype] at h
        obtain ⟨hbefore, hafter, hvalue, hkind⟩ := h
        obtain ⟨n, rfl⟩ := Scalar.kind_eq_integer_iff.1 hkind
        cases htakes
        exact .referred htype href hbefore hafter hvalue
  · intro h
    cases h with
    | literal hdefault htakes =>
      exact ⟨default, defaultValue_literal hdefault, Parameter.receive_eq_ok_iff_takes.2 htakes⟩
    | substituted htype href hfound hund =>
      refine ⟨_, (defaultValue_template_eq_ok_iff href.isTemplate).2 ⟨_, _, _, href, ?_⟩,
        Parameter.receive_eq_ok_iff_takes.2 (.text htype)⟩
      rw [htype]
      exact ⟨_, hfound, hund, rfl⟩
    | referred htype href hbefore hafter hvalue =>
      refine ⟨_, (defaultValue_template_eq_ok_iff href.isTemplate).2 ⟨_, _, _, href, ?_⟩,
        Parameter.receive_eq_ok_iff_takes.2 (.integer htype)⟩
      rw [htype]
      exact ⟨hbefore, hafter, hvalue, rfl⟩

theorem Denotes.isTemplate_eq_false (h : Denotes settled p default value) :
    value.isTemplate = false := by
  cases h with
  | literal hdefault htakes =>
    cases htakes with
    | text => exact hdefault
    | integer => rfl
    | whole => rfl
  | substituted _ _ _ hund =>
    rw [Scalar.isTemplate, String.toList_ofList]
    exact isTemplate_eq_false_of_undelimited hund
  | referred => rfl

/-- The computed default is what the declared one denotes. -/
theorem defaultOf_eq_some_iff :
    defaultOf p settled = .ok (some value) ↔
      ∃ default, p.default = some default ∧ Denotes settled p default value := by
  simp only [← exists_defaultValue_iff_denotes]
  unfold defaultOf
  cases hdefault : p.default with
  | none => simp
  | some field =>
    cases hvalue : defaultValue p.type field settled with
    | error failure => simp [hvalue]
    | ok v => simp [hvalue, Except.map_eq_ok_iff]

theorem defaultOf_eq_none_iff : defaultOf p settled = .ok none ↔ p.default = none := by
  unfold defaultOf
  cases hdefault : p.default with
  | none => simp
  | some field =>
    cases hvalue : defaultValue p.type field settled with
    | error failure => simp [hvalue]
    | ok v => simp [hvalue, Except.map_eq_ok_iff]

/-- A default that cannot be computed is not of the type of its parameter, or it is a template
    that cannot be evaluated. -/
theorem defaultOf_error {failure : Failure} (h : defaultOf p settled = .error failure) :
    (∃ found, failure = .typeMismatch p.name p.type.kind found) ∨
      ∃ source, p.default = some (.text source) ∧ isTemplate source.toList = true ∧
        failure.OfTemplate source := by
  unfold defaultOf at h
  split at h
  · cases h
  · next default hdefault =>
    split at h
    · next hvalue =>
      cases h
      obtain ⟨source, rfl, htemplate, hfailure⟩ := defaultValue_error hvalue
      exact Or.inr ⟨source, hdefault, htemplate, hfailure⟩
    · next found _ =>
      rw [Except.map_eq_error_iff] at h
      exact Or.inl ⟨found, Parameter.receive_error h⟩

/-! ## Settled values -/

section

variable {σ : Type} {prompter : Prompter σ} {state : σ}

/-- Where nobody is asked, a parameter is settled at exactly one value, from one source. -/
theorem outcome_settle_nonInteractive_iff :
    (∃ source, (settle prompter .nonInteractive overrides p settled state).outcome =
        .ok (value, source)) ↔
      Settles overrides settled p value := by
  constructor
  · rintro ⟨source, h⟩
    unfold settle at h
    split at h
    · next given hgiven =>
      obtain ⟨taken, htaken, hfound⟩ := Except.map_eq_ok_iff.1 h
      cases hfound
      exact .override hgiven (Parameter.receive_eq_ok_iff_takes.1 htaken)
    · next hnone =>
      split at h
      · cases h
      · next computed hcomputed =>
        cases computed with
        | none => cases h
        | some v =>
          cases h
          obtain ⟨default, hdefault, hdenotes⟩ := defaultOf_eq_some_iff.1 hcomputed
          exact .default hnone hdefault hdenotes
  · intro h
    cases h with
    | override hgiven htakes =>
      refine ⟨.override, ?_⟩
      rw [settle_override hgiven, Parameter.receive_eq_ok_iff_takes.2 htakes]
      rfl
    | default hnone hdefault hdenotes =>
      refine ⟨.default, ?_⟩
      have hcomputed : defaultOf p settled = .ok (some value) :=
        defaultOf_eq_some_iff.2 ⟨_, hdefault, hdenotes⟩
      simp [settle, hnone, hcomputed, settleDefault, Run.done]

end

/-! ## Uniqueness -/

/-- Values found so far that do not contradict each other give a default the same meaning. -/
theorem Denotes.unique {other : Bindings} {value' : Scalar} (h : Denotes settled p default value)
    (h' : Denotes other p default value')
    (hsame : ∀ name a b, settled.get? name = some a → other.get? name = some b → a = b) :
    value = value' := by
  cases h with
  | literal hdefault htakes =>
    cases h' with
    | literal _ htakes' => exact htakes.unique htakes'
    | substituted _ href' => cases href'.isTemplate.symm.trans hdefault
    | referred _ href' => cases href'.isTemplate.symm.trans hdefault
  | substituted htype href hfound _ =>
    cases h' with
    | literal hdefault' _ => cases href.isTemplate.symm.trans hdefault'
    | substituted _ href' hfound' _ =>
      obtain ⟨rfl, rfl, rfl⟩ := href.unique href'
      cases hsame _ _ _ hfound hfound'
      rfl
    | referred htype' => simp [htype] at htype'
  | referred htype href _ _ hvalue =>
    cases h' with
    | literal hdefault' _ => cases href.isTemplate.symm.trans hdefault'
    | substituted htype' => simp [htype] at htype'
    | referred _ href' _ _ hvalue' =>
      obtain ⟨rfl, rfl, rfl⟩ := href.unique href'
      exact hsame _ _ _ hvalue hvalue'

/-- Values found so far that do not contradict each other settle a parameter at one value. -/
theorem Settles.unique {other : Bindings} {value' : Scalar}
    (h : Settles overrides settled p value) (h' : Settles overrides other p value')
    (hsame : ∀ name a b, settled.get? name = some a → other.get? name = some b → a = b) :
    value = value' := by
  cases h with
  | override hgiven htakes =>
    cases h' with
    | override hgiven' htakes' =>
      cases hgiven.symm.trans hgiven'
      exact htakes.unique htakes'
    | default hnone' => simp [hgiven] at hnone'
  | default hnone hdefault hdenotes =>
    cases h' with
    | override hgiven' => simp [hnone] at hgiven'
    | default _ hdefault' hdenotes' =>
      cases hdefault.symm.trans hdefault'
      exact hdenotes.unique hdenotes' hsame

end Provision
