import Pacts.Command.Wanted
import Pacts.Files.Snapshot
import Pacts.Http.Connection

/-!
# The program

The files that a command line needs are read first; the rest is decided by `Command.Plan`, whose
questions are asked over connections.
-/

set_option autoImplicit false

namespace Pacts.Program

/-- The number of a failure, which may have been turned into a negative one, and a text about it. -/
def failureText (code : UInt32) (text : String) : String :=
  let number := if code < 0x80000000 then code.toNat else (0 - code).toNat
  match number with
  | 2 => Files.noSuchFile
  | 13 => Files.permissionDenied
  | 20 => Files.notADirectory
  | 21 => Files.isADirectory
  | 36 => Files.nameTooLong
  | _ => Files.problem number text

/-- What the system says about a failure. -/
def systemText : IO.Error → String
  | .noFileOrDirectory _ code text => failureText code text
  | .permissionDenied _ code text => failureText code text
  | .inappropriateType _ code text => failureText code text
  | .invalidArgument _ code text => failureText code text
  | .resourceExhausted _ code text => failureText code text
  | .noSuchThing _ code text => failureText code text
  | e => toString e

/-- The bytes of a file, or what is wrong. -/
def readFile (path : String) : IO (Except String ByteArray) := do
  try
    return .ok (← IO.FS.readBinFile path)
  catch e => return .error (systemText e)

/-- What kind of thing a path leads to, if to any. -/
def kindOf? (path : String) : IO (Option IO.FS.FileType) := do
  try
    return some (← (IO.FS.DirEntry.mk path "").root.metadata).type
  catch _ => return none

/-- The names of the files that are found in a directory under its path, or what is wrong with the
directory, if there is one. -/
def readNames (dir : String) : IO (Option (Except String (List String))) := do
  if (← kindOf? dir) == some .dir then
    try
      let mut names := []
      for entry in ← (IO.FS.DirEntry.mk dir "").root.readDir do
        if (← kindOf? (Files.join dir entry.fileName)) == some .file then
          names := entry.fileName :: names
      return some (.ok names)
    catch e => return some (.error (systemText e))
  else return none

/-- A snapshot with the files and directories that are wanted and are not in it yet. -/
def look (invocation : Command.Invocation) (s : Files.Snapshot) : IO Files.Snapshot := do
  let mut s := s
  for dir in invocation.wantedDirectories do
    match ← readNames dir with
    | some names => s := s.withDirectory dir names
    | none => pure ()
  for path in invocation.wantedFiles s.files do
    if (s.content? path).isNone then s := s.withContent path (← readFile path)
  return s

/-- Bytes cut at every byte 0. -/
def cutAtZero (bytes : List UInt8) : List (List UInt8) :=
  bytes.foldr (fun b pieces =>
    match b == 0, pieces with
    | false, piece :: rest => (b :: piece) :: rest
    | _, _ => [] :: pieces) [[]]

/-- The variables of the process, as far as they are texts. -/
def environment : IO Environment := do
  try
    let bytes ← IO.FS.readBinFile "/proc/self/environ"
    return ⟨(cutAtZero bytes.toList).filterMap fun line => (Text.ofUtf8? line).map String.ofList⟩
  catch _ => return ⟨[]⟩

/-- Runs a command line. -/
def run (arguments : List String) : IO Command.Outcome := do
  let plan ← match Command.Invocation.ofArguments arguments with
    | .error m => pure (Command.Plan.settled (.misuse m))
    | .ok invocation => do
      let s ← look invocation (← look invocation .empty)
      pure (Command.Plan.ofInvocation (← environment) s.files invocation)
  plan.session.runIn (Http.reply plan.timeout)

end Pacts.Program

/-- Runs the command line and writes how it comes out. -/
def main (arguments : List String) : IO UInt32 := do
  let outcome ← Pacts.Program.run arguments
  IO.print outcome.output
  IO.eprint outcome.complaint
  return UInt32.ofNat outcome.exit
