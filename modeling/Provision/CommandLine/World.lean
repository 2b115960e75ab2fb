import Provision.Journal
import Provision.Manifest

/-!
# What a command line can see

The files, and whether and how questions can be put. A missing manifest is a failure, and a
missing file of values holds none.
-/

namespace Provision

/-- What stands at a path. -/
inductive Contents where
  | missing
  | directory
  /-- The path leads through a file as if that were a directory. -/
  | underFile
  /-- The path, or a name in it, is longer than it may be. -/
  | nameTooLong
  | file (bytes : ByteArray)

/-- What a command line can see of its surroundings. -/
structure World where
  /-- What stands at each path. -/
  contents : String → Contents
  /-- What the environment says of forbidding questions. -/
  environment : Option String
  /-- Whether lines can be typed. -/
  canType : Bool
  /-- Whether questions can be seen. -/
  canSee : Bool
  /-- The lines that the user types. -/
  typed : List String

namespace Contents

/-- The text at a path. -/
def text : Contents → Except Failure (Option String)
  | .missing => .ok none
  | .directory => .error (.unreadable .directory)
  | .underFile => .error (.unreadable .notDirectory)
  | .nameTooLong => .error (.unreadable .nameTooLong)
  | .file bytes =>
    match String.fromUTF8? bytes with
    | some s => .ok (some s)
    | none => .error (.unreadable .notUtf8)

/-- Whether a file or a directory stands there. -/
def exist : Contents → Bool
  | .missing => false
  | .underFile => false
  | .nameTooLong => false
  | _ => true

/-- The manifest at a path (`from_path`). -/
def readManifest (path : String) (contents : Contents) : Except Failure Manifest :=
  if contents.exist then
    match contents.text with
    | .error failure => .error failure
    | .ok none => .error (.manifestNotFound path)
    | .ok (some source) => Manifest.read source
  else .error (.manifestNotFound path)

/-- The values at a path; nothing is there if the file is missing (`values_from_path`). -/
def readValues? (contents : Contents) : Except Failure (Option Bindings) :=
  match contents.text with
  | .error failure => .error failure
  | .ok none => .ok none
  | .ok (some source) => (Snapshot.read source).map some

end Contents

end Provision
