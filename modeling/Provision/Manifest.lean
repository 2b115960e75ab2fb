import Provision.Parameter.Name
import Provision.Snapshot

/-!
# Manifests

Component `params_core::manifest`. A manifest is a TOML document that declares parameters, and may
state a version. Keys that mean nothing are passed over. Every parameter has a name, made of
letters, digits and underscores, and no two have the same.
-/

namespace Provision

/-- The declarations of a unit (`ParamManifest`). -/
structure Manifest where
  version : Option String
  params : List Parameter

namespace Manifest

/-- The text of a value. -/
def textOf? : Toml → Option String
  | .text s => some s
  | _ => none

/-- A value that may be missing: `some none` if it is, and `none` if it is not as it should
    be. -/
def optional? {α : Type} (read : Toml → Option α) (key : String) (entries : Toml.Entries) :
    Option (Option α) :=
  match entries.lookup key with
  | none => some none
  | some value => (read value).map some

/-- A value that must be there. -/
def required? {α : Type} (read : Toml → Option α) (key : String) (entries : Toml.Entries) :
    Option α :=
  (entries.lookup key).bind read

/-- The truth value of a value. -/
def boolOf? : Toml → Option Bool
  | .boolean b => some b
  | _ => none

/-- A choice: a table, or its label and value in a list. -/
def choiceOf? : Toml → Option Choice
  | .table _ entries => do
    let label ← optional? textOf? "label" entries
    let value ← required? Toml.toScalar? "value" entries
    return ⟨label, value⟩
  | .array _ [label, value] => do
    let label ← textOf? label
    let value ← value.toScalar?
    return ⟨some label, value⟩
  | _ => none

/-- The example of a text input: a table, or the fields of one in a list. A date or a time is
    taken for a table without an example. -/
def textInputOf? : Toml → Option Input
  | .table _ entries => (optional? textOf? "example" entries).map .text
  | .array _ [] => some (.text none)
  | .array _ [sample] => (textOf? sample).map fun s => .text (some s)
  | .moment => some (.text none)
  | _ => none

/-- The choices of a selection. -/
def selectInputOf? : Toml → Option Input
  | .array _ items => (items.mapM choiceOf?).map .select
  | _ => none

/-- An input: a table with the kind of the input as its only key. -/
def inputOf? : Toml → Option Input
  | .table _ [(kind, value)] =>
    if kind = InputKind.text.name then textInputOf? value
    else if kind = InputKind.select.name then selectInputOf? value
    else none
  | _ => none

/-- The parameter that a table declares. -/
def parameterOf? : Toml → Option Parameter
  | .table _ entries => do
    let type ← required? (fun value => (textOf? value).bind ParameterType.ofName?) "type" entries
    let name ← required? textOf? "name" entries
    let label ← optional? textOf? "label" entries
    let description ← optional? textOf? "description" entries
    let default ← optional? Toml.toScalar? "default" entries
    let immutable ← optional? boolOf? "immutable" entries
    let input ← optional? inputOf? "input" entries
    return ⟨type, name, label, description, default, immutable.getD false, input⟩
  | _ => none

/-- The parameters that an array of tables declares. -/
def parametersOf? : Toml → Option (List Parameter)
  | .array _ items => items.mapM parameterOf?
  | _ => none

/-- The manifest that a document holds, before the names are looked at. -/
def ofEntries? (entries : Toml.Entries) : Option Manifest := do
  let version ← optional? textOf? "version" entries
  let params ← optional? parametersOf? "params" entries
  return ⟨version, params.getD []⟩

/-- The first fault of a name, where the names in front of it are known: the body of the loop of
    `validate`. -/
def faultOf? (before : List String) (name : String) : Option Failure :=
  if name.isEmpty then some (.invalidName name .empty)
  else if !name.toList.all isNameChar then some (.invalidName name .characters)
  else if name ∈ before then some (.duplicateParameter name)
  else none

/-- The first fault of a list of names, read from the left. -/
def firstFault? (before : List String) : List String → Option Failure
  | [] => none
  | name :: rest =>
    match faultOf? before name with
    | some failure => some failure
    | none => firstFault? (name :: before) rest

/-- The manifest, if all names are as they should be (`validate`). -/
def validate (m : Manifest) : Except Failure Manifest :=
  match firstFault? [] (m.params.map Parameter.name) with
  | some failure => .error failure
  | none => .ok m

/-- Reads a manifest (`from_toml`). -/
def read (source : String) : Except Failure Manifest :=
  match (Toml.read? source.toList).bind ofEntries? with
  | none => .error .malformedManifest
  | some m => m.validate

/-- Whether two manifests state one version (`same_version`). -/
def sameVersion (a b : Manifest) : Bool :=
  match a.version, b.version with
  | some x, some y => x == y
  | _, _ => false

end Manifest

end Provision
