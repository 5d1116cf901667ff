import Pacts.Command.Invocation
import Pacts.Text.Letters

/-!
# Help

The help text is put together from the flags that are read, so it cannot leave one out.
-/

set_option autoImplicit false

namespace Pacts.Command

namespace Help

/-- How a flag is listed, without its purpose. -/
def heading (f : Flag) : String :=
  let letter := match f.letter with
    | some c => String.ofList ['-', c, ',', ' ']
    | none => "    "
  letter ++ f.spelling ++ if f.hasValue then " <" ++ raised f.name ++ ">" else ""

/-- A text with blanks behind it up to a length. -/
def filled (length : Nat) (s : String) : String :=
  s ++ String.ofList (List.replicate (length - s.length) ' ')

/-- Headings with their purposes, one under the other. -/
def listing (entries : List (String × String)) : String :=
  let length := (entries.map (·.1.length)).foldl max 0
  String.join (entries.map fun (head, purpose) =>
    "  " ++ filled length head ++ "  " ++ purpose ++ "\n")

/-- The lines about flags. -/
def flagLines (flags : List Flag) : String :=
  "Options:\n" ++ listing (flags.map fun f => (heading f, f.purpose))

/-- What the command `broker` is for. -/
def brokerPurpose : String := "Load pacts for a provider from a pact broker"

/-- What the command `folder` is for. -/
def folderPurpose : String := "Load pacts for a provider from a directory of pact files"

/-- The help text on a command, or on all of them. -/
def text (name : Option String) : String :=
  if name = some "broker" then
    brokerPurpose ++ "\n\nUsage: pactload broker [OPTIONS] --provider <PROVIDER>\n\n" ++
      flagLines brokerFlags
  else if name = some "folder" then
    folderPurpose ++ "\n\nUsage: pactload folder [OPTIONS] --provider <PROVIDER> <DIR>\n\n" ++
      "Arguments:\n" ++ listing [(directoryPlace, "Directory holding `*.json` pact files")] ++
      "\n" ++ flagLines folderFlags
  else
    "Resolve consumer pacts for a provider from a pact broker or a directory\n\n" ++
      "Usage: pactload [OPTIONS] <COMMAND>\n\n" ++
      "Commands:\n" ++
      listing [("broker", brokerPurpose), ("folder", folderPurpose),
        (Invocation.helpName, "Print help on a command")] ++
      "\n" ++ flagLines commonFlags

end Help

end Pacts.Command
