import Provision.Number.Shortest
import Provision.Text.Quoted

/-!
# Scalars

The values that a parameter can be given: texts, integers of 64 bits, doubles and truth values.

Results:

* `Scalar.toInteger?_integer`: an integer is read as itself.
* `Scalar.kind_eq_integer_iff`, `Scalar.kind_eq_text_iff`: the scalars of the declarable kinds.
-/

namespace Provision

/-- The kinds of scalars (`ValueKind`). -/
inductive ScalarKind where
  | text
  | integer
  | float
  | boolean
  deriving DecidableEq, Repr

/-- The name of a kind in messages. -/
def ScalarKind.name : ScalarKind → String
  | .text => "string"
  | .integer => "int"
  | .float => "float"
  | .boolean => "bool"

/-- A value that a parameter can be given (`ParamValue`). -/
inductive Scalar where
  | text (value : String)
  | integer (value : Int64)
  | float (value : Binary64)
  | boolean (value : Bool)
  deriving DecidableEq

namespace Scalar

/-- The kind of a scalar. -/
def kind : Scalar → ScalarKind
  | .text _ => .text
  | .integer _ => .integer
  | .float _ => .float
  | .boolean _ => .boolean

theorem kind_eq_text_iff {v : Scalar} : v.kind = .text ↔ ∃ s, v = .text s := by
  cases v <;> simp [kind]

theorem kind_eq_integer_iff {v : Scalar} : v.kind = .integer ↔ ∃ n, v = .integer n := by
  cases v <;> simp [kind]

/-- The text of a text (`as_str`). -/
def toText? : Scalar → Option String
  | .text s => some s
  | _ => none

/-- The truth value of a truth value (`as_bool`). -/
def toBool? : Scalar → Option Bool
  | .boolean b => some b
  | _ => none

/-- The integer that a number denotes, if it is whole and has 64 bits (`as_integer`). The bounds
    are put to the exact value of a double, not to the double. -/
def toInteger? : Scalar → Option Int64
  | .integer n => some n
  | .float x => x.toInt?.bind Numeral.int64?
  | _ => none

theorem toInteger?_integer (n : Int64) : toInteger? (.integer n) = some n :=
  rfl

/-- The text of a scalar as it stands in output: a text is itself (`to_plain_string`). -/
def plain : Scalar → String
  | .text s => s
  | .integer n => String.ofList (Numeral.ofInt n.toInt)
  | .float x => FloatStyle.plain.render x
  | .boolean true => "true"
  | .boolean false => "false"

/-- The text of a scalar as it stands in messages: a text is quoted (`Display`). -/
def display : Scalar → String
  | .text s => quoted s
  | v => v.plain

end Scalar

end Provision
