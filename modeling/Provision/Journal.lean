import Provision.Scalar

/-!
# Journal

What happens while values are found, told to the user in records: a level, the component that
speaks, a message, and fields.
-/

namespace Provision

/-- How much a record matters. -/
inductive Level where
  | debug
  | info
  | warn
  | error
  deriving DecidableEq, Repr

/-- The name of a level. -/
def Level.name : Level → String
  | .debug => "DEBUG"
  | .info => "INFO"
  | .warn => "WARN"
  | .error => "ERROR"

/-- The value of a field: a text, or something shown by its own notation. -/
inductive FieldValue where
  | text (value : String)
  | shown (value : String)
  deriving DecidableEq, Repr

/-- The value of a field without quotes. -/
def FieldValue.content : FieldValue → String
  | .text value => value
  | .shown value => value

/-- The value of a field as it stands in a line: a text is quoted. -/
def FieldValue.inLine : FieldValue → String
  | .text value => quoted value
  | .shown value => value

/-- One record of the journal. -/
structure Record where
  level : Level
  component : String
  message : String
  fields : List (String × FieldValue)
  deriving DecidableEq, Repr

/-- Where a value came from (`ValueSource`). -/
inductive Source where
  | override
  | default
  | prompt
  deriving DecidableEq, Repr

/-- The name of a source. -/
def Source.name : Source → String
  | .override => "Override"
  | .default => "Default"
  | .prompt => "Prompt"

/-- What the journal tells of a pass over the declarations, and of a change of an
    installation: what `resolve`, `prompt_int_param`, `report_immutable` and `update` write. -/
inductive Notice where
  /-- A parameter has its value. -/
  | settled (name : String) (source : Source) (value : Scalar)
  /-- An answer was not an integer, and the question is put again. -/
  | notInteger (displayName : String)
  /-- Immutable parameters keep their values; `several` if there is more than one. -/
  | keeping (several : Bool)
  | kept (name : String) (value : Scalar)
  /-- How the kept values can be changed nevertheless. -/
  | keepingAdvice (several : Bool)
  /-- A parameter is dropped by an update. -/
  | dropped (name : String)
  deriving DecidableEq

/-- The record of a notice. -/
def Notice.record : Notice → Record
  | .settled name source value =>
    ⟨.debug, "params_core::resolve", "Resolved parameter",
      [("param", .text name), ("source", .shown source.name), ("value", .shown value.display)]⟩
  | .notInteger displayName =>
    ⟨.error, "params_core::prompt", displayName ++ " must be an integer; retrying...", []⟩
  | .keeping several =>
    ⟨.warn, "params_core::reconfigure",
      "The following param" ++ (if several then "s are" else " is") ++
        " immutable and won't be changed:", []⟩
  | .kept name value =>
    ⟨.info, "params_core::reconfigure", "param: " ++ name ++ ", value: " ++ value.display, []⟩
  | .keepingAdvice several =>
    ⟨.info, "params_core::reconfigure",
      (if several then "To set different values for these params"
        else "To set a different value for this param") ++
        ", uninstall the extension, then install a new instance of this extension.", []⟩
  | .dropped name =>
    ⟨.info, "params_core::reconfigure",
      "param: " ++ name ++ " is no longer declared and will be removed", []⟩

end Provision
