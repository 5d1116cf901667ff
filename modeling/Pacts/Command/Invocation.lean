import Pacts.Command.Given

/-!
# What a command line asks for

There are two commands: `broker` loads pacts from a broker, and `folder` loads them from a
directory.  `Invocation.ofArguments` reads a command line.
-/

set_option autoImplicit false

namespace Pacts.Command

/-! ## Flags -/

/-- The flag that asks for help. -/
def helpFlag : Flag := ⟨"help", some 'h', .help, "Print help"⟩

/-- The flag that asks for more to be said; it may stand in front of a command and behind it. -/
def verboseFlag : Flag := ⟨"verbose", some 'v', .switch, "Log loader decisions"⟩

/-- The flag that names the provider. -/
def providerFlag : Flag := ⟨"provider", none, .text, "Provider to load pacts for"⟩

/-- The flag that asks for a report in JSON. -/
def jsonFlag : Flag := ⟨"json", none, .switch, "Emit machine-readable JSON"⟩

/-- The flags in front of a command. -/
def commonFlags : List Flag :=
  [verboseFlag, helpFlag, ⟨"version", some 'V', .version, "Print version"⟩]

/-- The flags of the command `broker`. -/
def brokerFlags : List Flag :=
  [providerFlag,
    ⟨"config", some 'c', .path, "Loader config file (YAML)"⟩,
    ⟨"host", none, .text, "Host of the broker"⟩,
    ⟨"port", none, .text, "Port of the broker"⟩,
    ⟨"scheme", none, .text, "Scheme of the broker's URL"⟩,
    ⟨"tag", none, .list, "Tag expression; repeatable. Replaces the configured tags"⟩,
    ⟨"consumer", none, .list,
      "Consumer inclusion expression; repeatable. Replaces the configured list"⟩,
    ⟨"auth-scheme", none, .text, "Scheme of the credentials"⟩,
    ⟨"username", none, .text, "User of the broker"⟩,
    ⟨"password", none, .text, "Password of the user"⟩,
    ⟨"token", none, .text, "Token of the user"⟩,
    ⟨"allow-empty", none, .switch, "Succeed even when no pacts are found"⟩,
    jsonFlag, verboseFlag, helpFlag]

/-- The flags of the command `folder`. -/
def folderFlags : List Flag := [providerFlag, jsonFlag, verboseFlag, helpFlag]

/-- The place of the directory among the arguments of the command `folder`. -/
def directoryPlace : String := "<DIR>"

/-! ## Commands -/

/-- The command `broker`. -/
structure BrokerCommand where
  provider : String
  /-- The path of the settings file. -/
  config : Option String
  host : Option String
  port : Option String
  scheme : Option String
  tags : List String
  consumers : List String
  authScheme : Option String
  username : Option String
  password : Option String
  token : Option String
  allowEmpty : Bool
  json : Bool
  deriving DecidableEq, Repr

/-- The command `folder`. -/
structure FolderCommand where
  dir : String
  provider : String
  json : Bool
  deriving DecidableEq, Repr

/-- What a command line asks for. -/
inductive Invocation where
  | broker (command : BrokerCommand)
  | folder (command : FolderCommand)
  /-- Help, on a command if one is named. -/
  | help (name : Option String)
  | version
  deriving DecidableEq, Repr

/-- The command `broker` of what was read. -/
def BrokerCommand.ofGiven (g : Given) : Except Misuse BrokerCommand :=
  match g.text? "provider" with
  | none => .error (.missing [providerFlag.spelling])
  | some provider => .ok
    { provider
      config := g.text? "config"
      host := g.text? "host"
      port := g.text? "port"
      scheme := g.text? "scheme"
      tags := g.texts "tag"
      consumers := g.texts "consumer"
      authScheme := g.text? "auth-scheme"
      username := g.text? "username"
      password := g.text? "password"
      token := g.text? "token"
      allowEmpty := g.has "allow-empty"
      json := g.has "json" }

/-- The command `folder` of what was read. -/
def FolderCommand.ofGiven (g : Given) : Except Misuse FolderCommand :=
  match g.others, g.text? "provider" with
  | [dir], some provider => .ok { dir, provider, json := g.has "json" }
  | [_], none => .error (.missing [providerFlag.spelling])
  | _, some _ => .error (.missing [directoryPlace])
  | _, none => .error (.missing [providerFlag.spelling, directoryPlace])

namespace Invocation

/-- The name of the command that explains the others. -/
def helpName : String := "help"

/-- What is asked for when reading ended early. -/
def ofStop (name : Option String) : Stop → Except Misuse Invocation
  | .misuse m => .error m
  | .help => .ok (.help name)
  | .version => .ok .version

/-- What the command of a name is asked to do. -/
def ofName (name : String) (arguments : List String) : Except Misuse Invocation :=
  if name = "broker" then
    match Given.nothing.read brokerFlags [] none arguments with
    | .error stop => ofStop (some name) stop
    | .ok g => (BrokerCommand.ofGiven g).map .broker
  else if name = "folder" then
    match Given.nothing.read folderFlags [directoryPlace] none arguments with
    | .error stop => ofStop (some name) stop
    | .ok g => (FolderCommand.ofGiven g).map .folder
  else if name = helpName then
    match arguments with
    | [] => .ok (.help none)
    | [topic] =>
      if topic = "broker" ∨ topic = "folder" then .ok (.help (some topic))
      else if topic = helpName then .ok (.help none)
      else .error (.unknownCommand topic)
    | _ :: extra :: _ => .error (.unknownCommand extra)
  else .error (.unknownCommand name)

/-- What a command line asks for. -/
def ofArguments (arguments : List String) : Except Misuse Invocation :=
  match Given.readName commonFlags .nothing arguments with
  | .error stop => ofStop none stop
  | .ok (name, arguments) => ofName name arguments

end Invocation

end Pacts.Command
