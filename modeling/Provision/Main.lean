import Provision.CommandLine.Run

/-!
# The program

The outer layer: it looks at the files, types what the user types, and prints. All decisions are
made by `CommandLine.run`; when that asks for a line that has not been typed yet, one more line
is read and the command line is run again.
-/

namespace Provision

namespace Program

/-- What stands at a path. A directory can be opened and not be read; a path through a file, or
    one that is too long, cannot be opened. -/
def contentsAt (path : String) : IO Contents := do
  try
    return .file (← IO.FS.readBinFile path)
  catch
    | .inappropriateType none _ _ => return .directory
    | .inappropriateType (some _) _ _ => return .underFile
    | .invalidArgument (some _) _ _ => return .nameTooLong
    | _ => return .missing

/-- The files that a request names. -/
def paths : Request → List String
  | .invoke invocation =>
    match invocation.command with
    | .resolve input => input.declarations :: input.overrides.toList
    | .configure input previous => input.declarations :: previous :: input.overrides.toList
    | .update input origin previous =>
      input.declarations :: origin :: previous :: input.overrides.toList
  | _ => []

/-- Shows an entry to the user. -/
def showEntry (entry : CommandLine.Shown) : IO Unit :=
  match entry with
  | .line text => IO.eprintln text
  | .question question =>
    let suggestion := match question.default with
      | some value => " [" ++ value.plain ++ "]"
      | none => ""
    IO.eprintln (question.message ++ suggestion ++ ":")

/-- Shows the entries that have not been shown yet. -/
def showAll (entries : List CommandLine.Shown) (already : Nat) : IO Unit :=
  (entries.drop already).forM showEntry

/-- Runs the command line, reading lines as they are asked for. -/
partial def drive (world : World) (words : List String) (already : Nat) : IO UInt32 := do
  match CommandLine.run world words with
  | .rejected =>
    IO.eprintln "error: invalid arguments"
    return 2
  | .finished printed shown =>
    showAll shown already
    IO.print printed
    return 0
  | .refused (.failure (.prompt (.noLine name))) shown =>
    showAll shown already
    let line ← (← IO.getStdin).getLine
    if line.isEmpty then
      IO.eprintln ("error: prompt failed: no line left for '" ++ name ++ "'")
      return 1
    let typed := String.ofList (line.toList.filter (· != '\n'))
    drive { world with typed := world.typed ++ [typed] } words shown.length
  | .refused refusal shown =>
    showAll shown already
    IO.eprintln ("error: " ++ refusal.message)
    return 1

end Program

end Provision

open Provision in
/-- The entry point. -/
def main (words : List String) : IO UInt32 := do
  let environment ← IO.getEnv "PARAMS_NON_INTERACTIVE"
  let named := match Arguments.ofWords? environment words with
    | some request => Program.paths request
    | none => []
  let contents ← named.mapM fun path => return (path, ← Program.contentsAt path)
  let world : World := {
    contents := fun path => (contents.lookup path).getD .missing
    environment
    canType := ← (← IO.getStdin).isTty
    canSee := ← (← IO.getStderr).isTty
    typed := [] }
  Program.drive world words 0
