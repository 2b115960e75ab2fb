import Provision.Failure
import Provision.Toml.Reader
import Provision.Toml.Writer

/-!
# Snapshots of values

A snapshot is a TOML document with one entry for each value: texts, integers, doubles and truth
values, and nothing else. Overrides and stored values are kept in such files.
-/

namespace Provision

/-- The scalar that a value of a document is. -/
def Toml.toScalar? : Toml → Option Scalar
  | .text s => some (.text s)
  | .integer n => some (.integer n)
  | .float x => some (.float x)
  | .boolean b => some (.boolean b)
  | _ => none

namespace Snapshot

/-- The entries of a table of scalars. -/
def entries? : Toml.Entries → Option (List (String × Scalar))
  | [] => some []
  | (key, value) :: rest =>
    match value.toScalar? with
    | none => none
    | some scalar => (entries? rest).map ((key, scalar) :: ·)

/-- Reads the values of a snapshot (`values_from_toml`). -/
def read (source : String) : Except Failure Bindings :=
  match (Toml.read? source.toList).bind entries? with
  | some entries => .ok (.ofList entries)
  | none => .error .malformedValues

/-- Writes the values of a snapshot (`values_to_toml`). -/
def write (values : Bindings) : String :=
  String.ofList (Toml.write values)

end Snapshot

end Provision
