import Provision.Bindings
import Provision.Template.Piece

/-!
# Evaluation of templates

A template is evaluated against the values found so far. In a text field the value of the
reference takes the place of the reference; an integer or a truth value is a reference alone,
with nothing but white space around it. Literals stand for themselves.

Results:

* `evaluateText_literal`: a literal text is not changed.
* `evaluate_literal`: whatever is not a template is its own value.
-/

namespace Provision

/-- Whether a field is a template (`is_expression`). -/
def Scalar.isTemplate : Scalar → Bool
  | .text s => Provision.isTemplate s.toList
  | _ => false

/-- The value of a name, which must have the kind asked for (`lookup`). -/
def lookup (expression name : String) (kind : ScalarKind) (values : Bindings) :
    Except Failure Scalar :=
  match values.get? name with
  | none => .error (.missingDependency expression name)
  | some value =>
    if value.kind = kind then .ok value else .error (.typeMismatch name kind value)

/-- The pieces with each reference replaced by the text that it refers to: the loop of
    `resolve_string`. -/
def substitute (expression : String) (values : Bindings) : List Piece → Except Failure (List Char)
  | [] => .ok []
  | .literal content :: rest => (substitute expression values rest).map (content.toList ++ ·)
  | .reference name :: rest =>
    match lookup expression name .text values with
    | .error failure => .error failure
    | .ok value => (substitute expression values rest).map (value.plain.toList ++ ·)

/-- The text of a field (`resolve_string`). No delimiter may be left in it, so that it is not a
    template again. -/
def evaluateText (field : String) (values : Bindings) : Except Failure String :=
  if isTemplate field.toList then
    match pieces field with
    | .error failure => .error failure
    | .ok found =>
      match substitute field values found with
      | .error failure => .error failure
      | .ok text =>
        if occurs Token.openingText text || occurs Token.closingText text then
          .error (.unsupportedExpression field .delimitersRemain)
        else .ok (String.ofList text)
  else .ok field

namespace Piece

/-- Whether a piece is text that is not blank: trimming leaves something of it, by
    `trim_eq_nil_iff`. -/
def isSolid : Piece → Bool
  | .literal content => !content.toList.all isBlank
  | .reference _ => false

/-- The name of a reference. -/
def name? : Piece → Option String
  | .reference name => some name
  | .literal _ => none

/-- The name of the only reference, if there is nothing else but white space: the loop of
    `resolve_identity`. -/
def bareReference (found : List Piece) : Except TemplateFault String :=
  if found.any isSolid then .error .surroundingText
  else
    match found.findSome? name? with
    | some name => .ok name
    | none => .error .noReference

end Piece

/-- The value of a template that is a reference alone (`resolve_identity`). -/
def evaluateReference (kind : ScalarKind) (expression : String) (values : Bindings) :
    Except Failure Scalar :=
  match pieces expression with
  | .error failure => .error failure
  | .ok found =>
    match Piece.bareReference found with
    | .error fault => .error (.unsupportedExpression expression fault)
    | .ok name => lookup expression name kind values

/-- The value of a field of a kind other than text, a reference alone or a literal (`resolve_int`
    and `resolve_boolean`, which differ in the kind only). -/
def evaluateBare (kind : ScalarKind) (field : Scalar) (values : Bindings) :
    Except Failure Scalar :=
  match field with
  | .text s => if isTemplate s.toList then evaluateReference kind s values else .ok field
  | _ => .ok field

/-- The value of a field of a parameter of the given type (`resolve`). -/
def evaluate (field : Scalar) (type : ParameterType) (values : Bindings) :
    Except Failure Scalar :=
  match type, field with
  | .text, .text s => (evaluateText s values).map .text
  | .text, _ => .ok field
  | .integer, _ => evaluateBare .integer field values

theorem evaluateText_literal {field : String} (h : isTemplate field.toList = false)
    (values : Bindings) : evaluateText field values = .ok field := by
  simp [evaluateText, h]

theorem evaluate_literal {field : Scalar} (h : field.isTemplate = false) (type : ParameterType)
    (values : Bindings) : evaluate field type values = .ok field := by
  cases type <;> cases field <;>
    simp_all [evaluate, evaluateBare, evaluateText, Scalar.isTemplate, Except.map]

end Provision
