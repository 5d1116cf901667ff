/-!
# Flags of a command line

A command knows a list of flags.  A flag has a long name, which follows two dashes, and perhaps a
letter, which follows one.  What follows a flag depends on its kind.

Reading a command line may end early: with a misuse, or because help or the version is asked for.
-/

set_option autoImplicit false

namespace Pacts.Command

/-- What a flag does. -/
inductive Kind where
  /-- It stands alone, and at most once. -/
  | switch
  /-- It has a value, and is there at most once. -/
  | text
  /-- It has a value that is not empty, and is there at most once. -/
  | path
  /-- It has a value, and may be there any number of times. -/
  | list
  | help
  | version
  deriving DecidableEq, Repr

/-- A flag. -/
structure Flag where
  name : String
  letter : Option Char
  kind : Kind
  /-- What the flag is for. -/
  purpose : String
  deriving DecidableEq, Repr

/-- Whether a flag is followed by a value. -/
def Flag.hasValue (f : Flag) : Bool :=
  match f.kind with
  | .text | .path | .list => true
  | .switch | .help | .version => false

/-- How a flag is written. -/
def Flag.spelling (f : Flag) : String := "--" ++ f.name

/-- What can be wrong with a command line. -/
inductive Misuse where
  | noCommand
  | unknownCommand (name : String)
  | unknownFlag (argument : String)
  | unneededValue (flag : String)
  | missingValue (name : String)
  | repeated (flag : String)
  | unexpected (argument : String)
  | missing (names : List String)
  deriving DecidableEq, Repr

/-- The wording of a misuse. -/
def Misuse.message : Misuse → String
  | .noCommand => "a command is missing"
  | .unknownCommand name => "unrecognized command '" ++ name ++ "'"
  | .unknownFlag argument => "unexpected argument '" ++ argument ++ "' found"
  | .unneededValue flag => "unexpected value for '" ++ flag ++ "' found"
  | .missingValue name => "a value is required for '" ++ name ++ "' but none was supplied"
  | .repeated flag => "the argument '" ++ flag ++ "' cannot be used multiple times"
  | .unexpected argument => "unexpected argument '" ++ argument ++ "' found"
  | .missing names => "required arguments were not provided: " ++ ", ".intercalate names

/-- Why reading a command line ends early. -/
inductive Stop where
  | misuse (misuse : Misuse)
  | help
  | version
  deriving DecidableEq, Repr

end Pacts.Command
