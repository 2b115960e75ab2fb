import Provision.Scalar

/-!
# Parameters

A parameter of a deployable unit as it is declared: its type, its name and what is known about
how to find a value for it.
-/

namespace Provision

/-- The types that a parameter can be declared with (`ParamType`). -/
inductive ParameterType where
  | text
  | integer
  deriving DecidableEq, Repr

namespace ParameterType

/-- The kind that the values of a type have (`value_kind`). -/
def kind : ParameterType → ScalarKind
  | .text => .text
  | .integer => .integer

/-- The type with this name in a manifest. -/
def ofName? (name : String) : Option ParameterType :=
  if name = "string" then some .text
  else if name = "int" then some .integer
  else none

end ParameterType

/-- One of the values offered by a selection (`SelectOption`). -/
structure Choice where
  label : Option String
  value : Scalar
  deriving DecidableEq

/-- How a user is meant to enter a value (`InputSpec`). -/
inductive Input where
  | text (sample : Option String)
  | select (choices : List Choice)
  deriving DecidableEq

/-- The kinds of input (`InputKind`). -/
inductive InputKind where
  | text
  | select
  deriving DecidableEq, Repr

/-- The name of a kind of input. -/
def InputKind.name : InputKind → String
  | .text => "text"
  | .select => "select"

/-- The kind of an input. -/
def Input.kind : Input → InputKind
  | .text _ => .text
  | .select _ => .select

/-- A declared parameter (`Param` with its `ParamSpec`). Its default is a literal or a template
    over other parameters. -/
structure Parameter where
  type : ParameterType
  name : String
  label : Option String
  description : Option String
  default : Option Scalar
  immutable : Bool
  input : Option Input
  deriving DecidableEq

namespace Parameter

/-- A parameter of which only the type and the name are declared. -/
def plain (type : ParameterType) (name : String) : Parameter :=
  ⟨type, name, none, none, none, false, none⟩

/-- The kind of input with which a user is asked (`effective_input_kind`). -/
def inputKind (p : Parameter) : InputKind :=
  (p.input.map Input.kind).getD .text

/-- The name shown to users: the label, or else the name (`display_name`). -/
def displayName (p : Parameter) : String :=
  p.label.getD p.name

/-- The parameter with another default (`with_default`). -/
def withDefault (p : Parameter) (value : Scalar) : Parameter :=
  { p with default := some value }

end Parameter

end Provision
