import Provision.Output.Json
import Provision.Text.Blank
import Provision.Toml.Writer

/-!
# Output formats

The values are printed as JSON, as a TOML table, or as lines of a name and its value.

Results:

* `Format.ofName?_name`: a format is found by its name.
* `Format.env_append`: the lines of more values stand behind those of the first ones.
-/

namespace Provision

/-- The formats in which values are printed (`OutputFormat`). -/
inductive Format where
  | json
  | toml
  | env
  deriving DecidableEq, Repr

namespace Format

/-- The name of a format. -/
def name : Format → String
  | .json => "json"
  | .toml => "toml"
  | .env => "env"

/-- The format with a name. -/
def ofName? (name : String) : Option Format :=
  [json, toml, env].find? (·.name == name)

theorem ofName?_name (format : Format) : ofName? format.name = some format := by
  cases format <;> decide

/-- The line of a name and its value, without quotes. -/
def envLine (entry : String × Scalar) : List Char :=
  entry.1.toList ++ ('=' :: (entry.2.plain.toList ++ ['\n']))

/-- The lines of names and values. -/
def envLines (entries : List (String × Scalar)) : List Char :=
  entries.flatMap envLine

theorem env_append (xs ys : List (String × Scalar)) :
    envLines (xs ++ ys) = envLines xs ++ envLines ys := by
  simp [envLines]

/-- The values in a format (`render`). -/
def render (format : Format) (values : Bindings) : List Char :=
  match format with
  | .json => Json.object values
  | .toml => Toml.write values
  | .env => envLines values.entries

/-- What is printed: the rendered values without white space at the end, and one line end
    (`print_values`). -/
def printed (format : Format) (values : Bindings) : String :=
  String.ofList (trimEnd (format.render values) ++ ['\n'])

end Format

end Provision
