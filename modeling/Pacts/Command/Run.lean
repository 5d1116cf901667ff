import Pacts.Command.Help
import Pacts.Command.Overlay
import Pacts.Command.Report
import Pacts.Load.Broker
import Pacts.Load.Folder
import Pacts.Load.Lookups
import Pacts.Load.SettingsFile

/-!
# Running a command line

A command line comes out with an exit status and with what is written to the standard output and to
the standard error.  The status is 0 when all went well, 1 when the pacts could not be loaded, and 2
when the command line makes no sense.  Only what went well writes to the standard output.

The command `broker` takes it for a failure that there are no pacts, unless the settings or a flag
say otherwise; the command `folder` does not.
-/

set_option autoImplicit false

namespace Pacts.Command

/-! ## Failures -/

/-- What went wrong, and what each of these was caused by. -/
structure Failure where
  message : String
  causes : List String
  deriving DecidableEq, Repr

namespace Failure

/-- A load went wrong in the course of something. -/
def ofLoad (context : String) (e : LoadError) : Failure :=
  ⟨context, e.message :: e.cause?.toList⟩

/-- Lines behind a heading; all but the first are indented as far as the heading goes. -/
def indentedLines (heading : String) (indent : Nat) (cause : String) : String :=
  let lines := (Text.fields '\n' cause.toList).map String.ofList
  let blanks := "\n" ++ String.ofList (List.replicate indent ' ')
  heading ++ blanks.intercalate lines

/-- The causes, numbered if there are several. -/
def causeLines : List String → List String
  | [cause] => [indentedLines "    " 4 cause]
  | causes => causes.zipIdx.map fun (cause, n) =>
      indentedLines ("    " ++ toString n ++ ": ") 7 cause

/-- A failure as it is written out. -/
def text (f : Failure) : String :=
  "Error: " ++ f.message ++
    (if f.causes.isEmpty then ""
      else "\n\nCaused by:\n" ++ "\n".intercalate (causeLines f.causes)) ++ "\n"

end Failure

/-! ## Outcomes -/

/-- How a command line comes out. -/
structure Outcome where
  exit : Nat
  output : String
  complaint : String
  deriving DecidableEq, Repr

namespace Outcome

/-- All went well. -/
def success (output : String) : Outcome := ⟨0, output, ""⟩

/-- The pacts could not be loaded. -/
def failure (f : Failure) : Outcome := ⟨1, "", f.text⟩

/-- The command line makes no sense. -/
def misuse (m : Misuse) : Outcome :=
  ⟨2, "", "error: " ++ m.message ++ "\n\nFor more information, try '--help'.\n"⟩

end Outcome

/-! ## Commands -/

/-- The settings that a command starts from: those of its settings file, if it names one. -/
def BrokerCommand.start (c : BrokerCommand) (files : Files) : Except Failure BrokerSettings :=
  match c.config with
  | none => .ok .default
  | some path =>
    match BrokerSettings.ofFile files path with
    | .ok s => .ok s
    | .error e => .error (.ofLoad ("failed to read config " ++ path) e)

/-- How a load from a broker with settings comes out. -/
def BrokerCommand.outcome (c : BrokerCommand) (s : BrokerSettings) (named : Lookup) :
    Session Outcome := do
  let (loader, result) ← (BrokerLoader.ofSettings s).load named c.provider
  match result with
  | .error e =>
    return .failure (.ofLoad ("failed to load pacts for provider '" ++ c.provider ++ "'") e)
  | .ok pacts =>
    let source := loader.description named
    if pacts = [] ∧ s.failIfNone then
      return .failure ⟨"no pacts found for provider '" ++ c.provider ++ "' in " ++ source ++
        " (pass --allow-empty to accept)", []⟩
    else return .success (Report.text ⟨source, pacts⟩ c.json)

/-- How the command `folder` comes out. -/
def FolderCommand.outcome (c : FolderCommand) (files : Files) : Outcome :=
  let (loader, result) := (FolderLoader.ofDirectory c.dir).load files c.provider
  match result with
  | .error e => .failure (.ofLoad ("failed to load pacts from " ++ c.dir) e)
  | .ok pacts => .success (Report.text ⟨loader.description, pacts⟩ c.json)

/-- What the program is called, with its version. -/
def versionText : String := "pactload 0.1.0\n"

/-- What a command line will do: how long it waits for a broker, in seconds, and what it asks of
it. -/
structure Plan where
  timeout : Option Nat
  session : Session Outcome

namespace Plan

/-- The plan to ask nothing. -/
def settled (outcome : Outcome) : Plan := ⟨none, .done outcome⟩

/-- What is asked for is done. -/
def ofInvocation (env : Environment) (files : Files) : Invocation → Plan
  | .help name => settled (.success (Help.text name))
  | .version => settled (.success versionText)
  | .folder c => settled (c.outcome files)
  | .broker c =>
    match c.start files with
    | .error f => settled (.failure f)
    | .ok start =>
      let s := c.settings start
      ⟨s.timeout, c.outcome s (Lookup.namedOrVariables env files s.lookup)⟩

/-- What a command line will do. -/
def ofArguments (env : Environment) (files : Files) (arguments : List String) : Plan :=
  match Invocation.ofArguments arguments with
  | .error m => settled (.misuse m)
  | .ok invocation => ofInvocation env files invocation

end Plan

end Pacts.Command
