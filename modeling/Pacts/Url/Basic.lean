import Pacts.Text.Percent

/-!
# Uniform resource locators

A URL is kept in its parts, each of them already encoded.  Its path is a list of segments, or, for a
URL such as `mailto:someone`, a bare text behind the scheme.  A URL with a host, or with a bare
`//`, has an authority; the host may then be empty.

`Url.text` writes the parts in a row.  A path whose first segment is empty would look like an
authority when there is none, so `/.` is put in front of it.
-/

set_option autoImplicit false

namespace Pacts

namespace Url

/-- The path of a URL. -/
inductive Path where
  | segments (names : List String)
  | bare (text : String)
  deriving DecidableEq, Repr

/-- The text of a path. -/
def Path.text : Path → String
  | .segments names => String.join (names.map ("/" ++ ·))
  | .bare text => text

/-- What can be wrong with a URL. -/
inductive Defect where
  | emptyHost
  | idna
  | port
  | ipv4
  | ipv6
  | domainCharacter
  | relativeWithoutBase
  | relativeWithBareBase
  deriving DecidableEq, Repr

/-- The wording of a defect. -/
def Defect.message : Defect → String
  | .emptyHost => "empty host"
  | .idna => "invalid international domain name"
  | .port => "invalid port number"
  | .ipv4 => "invalid IPv4 address"
  | .ipv6 => "invalid IPv6 address"
  | .domainCharacter => "invalid domain character"
  | .relativeWithoutBase => "relative URL without a base"
  | .relativeWithBareBase => "relative URL with a cannot-be-a-base base"

/-- The scheme of files. -/
def fileScheme : String := "file"

/-- The port that a scheme means when none is given. -/
def defaultPort? (scheme : String) : Option Nat :=
  if scheme = "http" ∨ scheme = "ws" then some 80
  else if scheme = "https" ∨ scheme = "wss" then some 443
  else if scheme = "ftp" then some 21
  else none

/-- Whether a scheme is one of those whose URLs always have a host and a path. -/
def isSpecial (scheme : String) : Bool := (defaultPort? scheme).isSome || scheme == fileScheme

end Url

/-- A URL, in its parts. -/
structure Url where
  scheme : String
  username : String
  password : Option String
  /-- The host; `none` when there is no authority at all. -/
  host : Option String
  /-- The port, unless it is the one that the scheme means anyway. -/
  port : Option Nat
  path : Url.Path
  query : Option String
  fragment : Option String
  deriving DecidableEq, Repr

namespace Url

/-- Whether the URL names a host. -/
def hasHost (u : Url) : Bool :=
  match u.host with
  | none => false
  | some h => !h.isEmpty

/-- The user and the password, as they stand in front of the host. -/
def userinfo (u : Url) : String :=
  match u.password with
  | some p => u.username ++ ":" ++ p ++ "@"
  | none => if u.username.isEmpty then "" else u.username ++ "@"

/-- What stands between the scheme and the path. -/
def authority (u : Url) : String :=
  match u.host with
  | some h =>
    "//" ++ u.userinfo ++ h ++ (match u.port with | some p => ":" ++ toString p | none => "")
  | none => match u.path with
    | .segments ("" :: _ :: _) => "/."
    | _ => ""

/-- What stands behind the path. -/
def tail (u : Url) : String :=
  (match u.query with | some q => "?" ++ q | none => "") ++
    (match u.fragment with | some f => "#" ++ f | none => "")

/-- The text of a URL. -/
def text (u : Url) : String := u.scheme ++ ":" ++ u.authority ++ u.path.text ++ u.tail

/-- The port a connection goes to. -/
def effectivePort? (u : Url) : Option Nat := u.port.or (defaultPort? u.scheme)

/-- The URL with another port; `none` when it has no host to which a port could belong. -/
def withPort? (u : Url) (port : Nat) : Option Url :=
  if u.hasHost ∧ u.scheme ≠ fileScheme then
    some { u with port := if defaultPort? u.scheme = some port then none else some port }
  else none

end Url

end Pacts
