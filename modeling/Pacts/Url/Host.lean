import Pacts.Url.Domain
import Pacts.Url.Ipv6

/-!
# Hosts

A host is an address between brackets, a numeric address, or a name.  The hosts of the special
schemes are domain names; any other scheme takes its host as it is.
-/

set_option autoImplicit false

namespace Pacts.Url

/-- What follows an opening bracket, without the closing one at the end. -/
def bracketed? : List Char → Option (Except Defect (List Char))
  | '[' :: cs =>
    if cs.getLast? = some ']' then some (.ok cs.dropLast) else some (.error .ipv6)
  | _ => none

/-- The host of a special scheme. -/
def domainHost (cs : List Char) : Except Defect String :=
  match bracketed? cs with
  | some (.ok inner) => ipv6Host inner
  | some (.error e) => .error e
  | none =>
    match (Text.ofUtf8? (Text.percentDecode (Text.utf8 cs))).bind domainName? with
    | none => .error .idna
    | some name =>
      if name.isEmpty then .error .emptyHost
      else if endsInNumber name then ipv4Host name
      else .ok (String.ofList name)

/-- The characters that the host of a scheme that is not special may not hold. -/
def isForbiddenInHost (c : Char) : Bool :=
  c.toNat == 0 || c == '\t' || c == '\n' || c == '\r' || " #/:<>?@[\\]^|".toList.contains c

/-- The characters that stand for themselves in such a host. -/
def plainInHost (c : Char) : Bool := 0x20 ≤ c.toNat && c.toNat < 0x7F

/-- The host of a scheme that is not special. -/
def plainHost (cs : List Char) : Except Defect String :=
  match bracketed? cs with
  | some (.ok inner) => ipv6Host inner
  | some (.error e) => .error e
  | none =>
    if cs.any isForbiddenInHost then .error .domainCharacter
    else .ok (String.ofList (Text.percentEncode plainInHost cs))

end Pacts.Url
