import Provision.Proofs.Template.Grammar
import Provision.Template.Evaluation

/-!
# Values of templates

The value of a supported template depends on nothing but the value of the name that it refers to. In
a text field that is put between the literal texts, where it must not form a delimiter with them; in
any other field it stands alone.

Results:

* `evaluateText_eq_ok_iff`: the text of a template.
* `evaluateReference_eq_ok_iff`: the value of a template that stands for another kind of value.
-/

namespace Provision

variable {source : String} {before after : List Char} {name : String}

theorem exists_text_of_isTemplate {field : Scalar} (h : field.isTemplate = true) :
    ∃ source, field = .text source ∧ isTemplate source.toList = true := by
  cases field with
  | text source => exact ⟨source, rfl, h⟩
  | integer n => cases h
  | float x => cases h
  | boolean b => cases h

/-! ## Values looked up -/

variable {expression : String} {values : Bindings} {kind : ScalarKind} {value : Scalar}

theorem lookup_eq_ok_iff :
    lookup expression name kind values = .ok value ↔
      values.get? name = some value ∧ value.kind = kind := by
  unfold lookup
  cases values.get? name with
  | none => simp
  | some found =>
    by_cases hkind : found.kind = kind
    · simp only [if_pos hkind, Except.ok.injEq, Option.some.injEq, iff_self_and]
      rintro rfl
      exact hkind
    · simp only [if_neg hkind, reduceCtorEq, Option.some.injEq, false_iff, not_and]
      rintro rfl
      exact hkind

/-! ## Texts -/

theorem substitute_literals_append (cs : List Char) (rest : List Piece) :
    substitute expression values (literals cs ++ rest) =
      (substitute expression values rest).map (cs ++ ·) := by
  by_cases h : cs = []
  · cases hrest : substitute expression values rest <;> simp [literals, h, hrest, Except.map]
  · simp [literals, h, substitute]

theorem substitute_piecesAround :
    substitute expression values (piecesAround before name after) =
      (lookup expression name .text values).map fun value =>
        before ++ value.plain.toList ++ after := by
  have hafter : substitute expression values (literals after) = .ok after := by
    rw [← List.append_nil (literals after), substitute_literals_append]
    simp [substitute, Except.map]
  rw [piecesAround, substitute_literals_append, substitute]
  cases lookup expression name .text values <;> simp [hafter, Except.map]

theorem occurs_or_occurs_iff {cs : List Char} :
    (occurs Token.openingText cs || occurs Token.closingText cs) = true ↔ ¬ Undelimited cs := by
  rw [Undelimited, ← Bool.or_eq_false_iff, Bool.not_eq_false]

/-- A template whose name has no text fails as the lookup of the name does. -/
theorem evaluateText_of_lookup_error {failure : Failure}
    (h : Refers source.toList before name after)
    (hlookup : lookup source name .text values = .error failure) :
    evaluateText source values = .error failure := by
  rw [evaluateText, if_pos h.isTemplate, pieces_of_refers h]
  simp only [substitute_piecesAround, hlookup]
  rfl

/-- The text of the name is put between the literal texts, and delimiters are looked for. -/
theorem evaluateText_of_found {found : String} (h : Refers source.toList before name after)
    (hfound : values.get? name = some (.text found)) :
    evaluateText source values =
      if occurs Token.openingText (before ++ found.toList ++ after) ||
          occurs Token.closingText (before ++ found.toList ++ after) then
        .error (.unsupportedExpression source .delimitersRemain)
      else .ok (String.ofList (before ++ found.toList ++ after)) := by
  have hlookup : lookup source name .text values = .ok (.text found) :=
    lookup_eq_ok_iff.2 ⟨hfound, rfl⟩
  rw [evaluateText, if_pos h.isTemplate, pieces_of_refers h]
  simp only [substitute_piecesAround, hlookup]
  rfl

/-- The text of a template, given what it refers to. -/
theorem evaluateText_of_refers {text : String} (h : Refers source.toList before name after) :
    evaluateText source values = .ok text ↔
      ∃ found, values.get? name = some (.text found) ∧
        Undelimited (before ++ found.toList ++ after) ∧
        text = String.ofList (before ++ found.toList ++ after) := by
  cases hlookup : lookup source name .text values with
  | error failure =>
    simp only [evaluateText_of_lookup_error h hlookup, reduceCtorEq, false_iff, not_exists, not_and]
    intro found hfound
    have hok : lookup source name .text values = .ok (.text found) :=
      lookup_eq_ok_iff.2 ⟨hfound, rfl⟩
    simp [hlookup] at hok
  | ok value =>
    obtain ⟨hvalue, hkind⟩ := lookup_eq_ok_iff.1 hlookup
    obtain ⟨found, rfl⟩ := Scalar.kind_eq_text_iff.1 hkind
    rw [evaluateText_of_found h hvalue]
    simp only [hvalue, Option.some.injEq, Scalar.text.injEq, exists_eq_left']
    generalize before ++ found.toList ++ after = whole
    by_cases hund : Undelimited whole
    · rw [if_neg fun hdelimiters => occurs_or_occurs_iff.1 hdelimiters hund, Except.ok.injEq]
      simp [hund, eq_comm]
    · rw [if_pos (occurs_or_occurs_iff.2 hund)]
      simp [hund]

/-- The text of a template is that of the name it refers to, between the literal texts. It must
    hold no delimiter, be it that the value brings one or that one forms where the texts meet. -/
theorem evaluateText_eq_ok_iff {text : String} (htemplate : isTemplate source.toList = true) :
    evaluateText source values = .ok text ↔
      ∃ before name after found, Refers source.toList before name after ∧
        values.get? name = some (.text found) ∧ Undelimited (before ++ found.toList ++ after) ∧
        text = String.ofList (before ++ found.toList ++ after) := by
  constructor
  · intro h
    have hrefers : ∃ before name after, Refers source.toList before name after := by
      rw [evaluateText, if_pos htemplate] at h
      split at h
      · cases h
      · next hpieces =>
        obtain ⟨before, name, after, href, -⟩ := (pieces_eq_ok_iff htemplate).1 hpieces
        exact ⟨before, name, after, href⟩
    obtain ⟨before, name, after, href⟩ := hrefers
    obtain ⟨found, hfound⟩ := (evaluateText_of_refers href).1 h
    exact ⟨before, name, after, found, href, hfound⟩
  · rintro ⟨before, name, after, found, href, hfound⟩
    exact (evaluateText_of_refers href).2 ⟨found, hfound⟩

/-! ## Other values -/

theorem any_isSolid_literals (cs : List Char) :
    (literals cs).any Piece.isSolid = !cs.all isBlank := by
  by_cases h : cs = [] <;> simp [literals, h, Piece.isSolid]

theorem any_isSolid_piecesAround_eq_false_iff :
    (piecesAround before name after).any Piece.isSolid = false ↔ Blank before ∧ Blank after := by
  simp [piecesAround, any_isSolid_literals, Piece.isSolid, Blank]

theorem bareReference_piecesAround_eq_ok_iff {found : String} :
    Piece.bareReference (piecesAround before name after) = .ok found ↔
      Blank before ∧ Blank after ∧ name = found := by
  have hname : (piecesAround before name after).findSome? Piece.name? = some name := by
    have hnone : (literals before).findSome? Piece.name? = none := by
      by_cases h : before = [] <;> simp [literals, h, Piece.name?]
    rw [piecesAround, List.findSome?_append, hnone]
    rfl
  rw [Piece.bareReference, hname, ← and_assoc, ← any_isSolid_piecesAround_eq_false_iff]
  cases (piecesAround before name after).any Piece.isSolid <;> simp

/-- The value of a template that is a reference alone, which is that of the name. -/
theorem evaluateReference_eq_ok_iff (htemplate : isTemplate source.toList = true) :
    evaluateReference kind source values = .ok value ↔
      ∃ before name after, Refers source.toList before name after ∧ Blank before ∧ Blank after ∧
        values.get? name = some value ∧ value.kind = kind := by
  rw [evaluateReference]
  constructor
  · intro h
    split at h
    · cases h
    · next hpieces =>
      obtain ⟨before, name, after, href, rfl⟩ := (pieces_eq_ok_iff htemplate).1 hpieces
      split at h
      · cases h
      · next hbare =>
        obtain ⟨hbefore, hafter, rfl⟩ := bareReference_piecesAround_eq_ok_iff.1 hbare
        exact ⟨before, name, after, href, hbefore, hafter, lookup_eq_ok_iff.1 h⟩
  · rintro ⟨before, name, after, href, hbefore, hafter, hvalue⟩
    rw [pieces_of_refers href]
    simp only [bareReference_piecesAround_eq_ok_iff.2 ⟨hbefore, hafter, rfl⟩]
    exact lookup_eq_ok_iff.2 hvalue

end Provision
