import Pacts.Command.Flag

/-!
# Reading the arguments of a command

The arguments are read from left to right.  Two dashes alone end the flags; what follows is taken as
it is.  A value follows its flag as the next argument, unless that starts with a dash and something
behind it, or behind `=` in the same argument, or, for a letter, behind the letter.  Letters that
have no values may share an argument.
-/

set_option autoImplicit false

namespace Pacts.Command

/-- What was read: the names of the flags with their values, and the other arguments. -/
structure Given where
  flags : List (String × String)
  others : List String
  deriving DecidableEq, Repr

namespace Given

/-- Nothing was read yet. -/
def nothing : Given := ⟨[], []⟩

/-- Whether a flag was there. -/
def has (g : Given) (name : String) : Bool := g.flags.any (·.1 == name)

/-- The values of a flag. -/
def texts (g : Given) (name : String) : List String :=
  (g.flags.filter (·.1 == name)).map (·.2)

/-- The value of a flag. -/
def text? (g : Given) (name : String) : Option String := (g.texts name).head?

/-! ## Single arguments -/

/-- An argument by its form. -/
inductive Form where
  /-- Two dashes alone. -/
  | escape
  /-- A name behind two dashes, and the text behind the first `=`. -/
  | long (name : String) (value : Option String)
  /-- Letters behind a dash. -/
  | short (letters : List Char)
  | plain
  deriving DecidableEq, Repr

/-- The form of an argument. -/
def formOf (argument : String) : Form :=
  match argument.toList with
  | '-' :: '-' :: cs =>
    if cs.isEmpty then .escape
    else
      let name := String.ofList (cs.takeWhile (· ≠ '='))
      match cs.dropWhile (· ≠ '=') with
      | _ :: value => .long name (some (String.ofList value))
      | [] => .long name none
  | '-' :: c :: cs => .short (c :: cs)
  | _ => .plain

/-- A flag has been read with its value. -/
def addFlag (g : Given) (f : Flag) (value : String) : Except Stop Given :=
  match f.kind with
  | .help => .error .help
  | .version => .error .version
  | .list => .ok { g with flags := g.flags ++ [(f.name, value)] }
  | kind =>
    if g.has f.name then .error (.misuse (.repeated f.spelling))
    else if kind = .path ∧ value = "" then .error (.misuse (.missingValue f.spelling))
    else .ok { g with flags := g.flags ++ [(f.name, value)] }

/-- Another argument has been read, of at most as many as there are places for. -/
def addOther (places : List String) (g : Given) (argument : String) : Except Stop Given :=
  match places[g.others.length]? with
  | none => .error (.misuse (.unexpected argument))
  | some place =>
    if argument = "" then .error (.misuse (.missingValue place))
    else .ok { g with others := g.others ++ [argument] }

/-- A flag by its name is read.  Returns the flag as well if its value is still to come. -/
def readLong (flags : List Flag) (g : Given) (name : String) (value : Option String) :
    Except Stop (Given × Option Flag) :=
  match flags.find? (·.name == name) with
  | none => .error (.misuse (.unknownFlag ("--" ++ name)))
  | some f =>
    match f.hasValue, value with
    | true, some value => return (← g.addFlag f value, none)
    | true, none => return (g, some f)
    | false, some _ => .error (.misuse (.unneededValue f.spelling))
    | false, none => return (← g.addFlag f "", none)

/-- Flags by their letters are read.  Returns the last flag as well if its value is still to
come. -/
def readLetters (flags : List Flag) (g : Given) : List Char → Except Stop (Given × Option Flag)
  | [] => .ok (g, none)
  | c :: cs =>
    match flags.find? (·.letter == some c) with
    | none => .error (.misuse (.unknownFlag (String.ofList ['-', c])))
    | some f =>
      if f.hasValue then
        match cs with
        | [] => .ok (g, some f)
        | '=' :: value => return (← g.addFlag f (String.ofList value), none)
        | value => return (← g.addFlag f (String.ofList value), none)
      else do readLetters flags (← g.addFlag f "") cs

/-! ## All arguments -/

/-- Reads the arguments of a command that has places for other arguments than flags; `pending` is
the flag whose value comes next. -/
def read (flags : List Flag) (places : List String) (g : Given) (pending : Option Flag) :
    List String → Except Stop Given
  | [] =>
    match pending with
    | some f => .error (.misuse (.missingValue f.spelling))
    | none => .ok g
  | argument :: arguments =>
    match pending, formOf argument with
    | some f, .plain => do
      read flags places (← g.addFlag f argument) none arguments
    | some f, _ => .error (.misuse (.missingValue f.spelling))
    | none, .escape => arguments.foldlM (addOther places) g
    | none, .long name value => do
      let (g, pending) ← g.readLong flags name value
      read flags places g pending arguments
    | none, .short letters => do
      let (g, pending) ← g.readLetters flags letters
      read flags places g pending arguments
    | none, .plain => do
      read flags places (← g.addOther places argument) none arguments

/-- Reads the flags in front of the name of a command.  Returns the name and the arguments behind
it. -/
def readName (flags : List Flag) (g : Given) : List String → Except Stop (String × List String)
  | [] => .error (.misuse .noCommand)
  | argument :: arguments =>
    match formOf argument with
    | .plain => .ok (argument, arguments)
    | .escape => .error (.misuse .noCommand)
    | .long name value => do
      let (g, _) ← g.readLong flags name value
      readName flags g arguments
    | .short letters => do
      let (g, _) ← g.readLetters flags letters
      readName flags g arguments

end Given

end Pacts.Command
