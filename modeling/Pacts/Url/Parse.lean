import Pacts.Text.Fields
import Pacts.Text.Letters
import Pacts.Url.Host

/-!
# URLs from texts

`Url.parse` takes a text apart into scheme, authority, path, query and fragment, and
`Url.resolve` does the same for a text that may leave out parts, which then come from a base.

Blanks and controls around the text are dropped, and tabs and line breaks anywhere in it.  The
schemes of the web are special: their URLs always have a host, a backslash in them counts as a
slash, and any number of slashes may stand in front of the host.

The path is read segment by segment.  A segment of one dot is dropped and a segment of two dots
takes the segment in front of it away; when one of them comes last it leaves an empty segment.
-/

set_option autoImplicit false

namespace Pacts.Url

/-! ## Characters -/

/-- A text without the blanks and controls around it, and without tabs and line breaks. -/
def cleaned (cs : List Char) : List Char :=
  let blank := fun c : Char => c.toNat ≤ 0x20
  (((cs.dropWhile blank).reverse.dropWhile blank).reverse).filter
    fun c => c ≠ '\t' ∧ c ≠ '\n' ∧ c ≠ '\r'

/-- The printable characters of the first 128, apart from those listed. -/
def printableBut (but : String) (c : Char) : Bool :=
  0x20 ≤ c.toNat && c.toNat < 0x7F && !but.toList.contains c

/-- The characters that stand for themselves in a fragment. -/
def plainInFragment : Char → Bool := printableBut " \"<>`"

/-- The characters that stand for themselves in a segment of a path. -/
def plainInPath : Char → Bool := printableBut " \"<>`#?\x7b\x7d"

/-- The characters that stand for themselves in the name or the password of a user. -/
def plainInUserinfo : Char → Bool := printableBut " \"<>`#?\x7b\x7d/:;=@[\\]^|"

/-- The characters that stand for themselves in a query. -/
def plainInQuery (special : Bool) : Char → Bool :=
  if special then printableBut " \"#<>'" else printableBut " \"#<>"

/-- The characters that stand for themselves in a bare path. -/
def plainInBarePath : Char → Bool := printableBut ""

/-- A text with some of its characters encoded. -/
def encoded (plain : Char → Bool) (cs : List Char) : String :=
  String.ofList (Text.percentEncode plain cs)

/-- Whether a character separates the segments of a path. -/
def isSlash (special : Bool) (c : Char) : Bool := c == '/' || (special && c == '\\')

/-! ## Segments -/

/-- Whether a segment means to stay. -/
def isSingleDot (segment : String) : Bool := lowered segment == "." || lowered segment == "%2e"

/-- Whether a segment means to go back. -/
def isDoubleDot (segment : String) : Bool :=
  let s := lowered segment
  s == ".." || s == "%2e." || s == ".%2e" || s == "%2e%2e"

/-- Whether a segment is a drive letter and a colon or a bar. -/
def isDrive (segment : List Char) : Bool :=
  match segment with
  | [c, d] => c.isAlpha && (d == ':' || d == '|')
  | _ => false

/-- Whether a segment is a drive letter and a colon. -/
def isPlainDrive (segment : String) : Bool :=
  match segment.toList with
  | [c, ':'] => c.isAlpha
  | _ => false

/-- The segments without the last one; the drive of a file stays. -/
def shortened (file : Bool) (segments : List String) : List String :=
  match file, segments with
  | true, [drive] => if isPlainDrive drive then [drive] else []
  | _, segments => segments.dropLast

/-- The segments after one more; `last` tells that no slash follows it. -/
def addSegment (file last : Bool) (segments : List String) (segment : String) : List String :=
  if isDoubleDot segment then
    let segments := shortened file segments
    if last then segments ++ [""] else segments
  else if isSingleDot segment then
    if last then segments ++ [""] else segments
  else if file ∧ segments = [] ∧ isDrive segment.toList then
    [String.ofList (segment.toList.take 1) ++ ":"]
  else segments ++ [segment]

/-- The segments after all of those in a list. -/
def addSegments (file : Bool) (segments : List String) : List String → List String
  | [] => segments
  | [s] => addSegment file true segments s
  | s :: t :: rest => addSegments file (addSegment file false segments s) (t :: rest)

/-- A path cut at its slashes. -/
def splitPath (special : Bool) (cs : List Char) : List (List Char) :=
  Text.fields '/' (cs.map fun c => if isSlash special c then '/' else c)

/-- Segments without the empty ones in front, of which one stays if there is no other. -/
def withoutEmptyFront (segments : List String) : List String :=
  match segments.dropWhile (·.isEmpty) with
  | [] => if segments.isEmpty then [] else [""]
  | rest => rest

/-- The segments of a path text, behind segments that are already there. -/
def readPath (scheme : String) (segments : List String) (cs : List Char) : List String :=
  let special := isSpecial scheme
  let file := scheme == fileScheme
  let read := addSegments file segments ((splitPath special cs).map (encoded plainInPath))
  if file then withoutEmptyFront read else read

/-! ## Query and fragment -/

/-- What stands in front of the first character of a kind, and that character with the rest. -/
def cutAt (stop : Char → Bool) (cs : List Char) : List Char × List Char :=
  (cs.takeWhile (!stop ·), cs.dropWhile (!stop ·))

/-- The fragment in a text that is empty or starts with its mark. -/
def readFragment : List Char → Option String
  | '#' :: cs => some (encoded plainInFragment cs)
  | _ => none

/-- The query and the fragment in a text that is empty or starts with one of their marks. -/
def readTail (scheme : String) : List Char → Option String × Option String
  | '?' :: cs =>
    let (query, rest) := cutAt (· == '#') cs
    (some (encoded (plainInQuery (isSpecial scheme)) query), readFragment rest)
  | cs => (none, readFragment cs)

/-- Whether a character ends a path. -/
def endsPath (c : Char) : Bool := c == '?' || c == '#'

/-- The URL with the path, the query and the fragment of a text; the path starts from `segments`. -/
def withPathOf (u : Url) (segments : List String) (cs : List Char) : Url :=
  let (path, rest) := cutAt endsPath cs
  let (query, fragment) := readTail u.scheme rest
  { u with path := .segments (readPath u.scheme segments path), query, fragment }

/-! ## Authority -/

/-- Whether a character ends an authority. -/
def endsAuthority (special : Bool) (c : Char) : Bool := isSlash special c || endsPath c

/-- The user and the password in the text in front of the last `@`. -/
def readUserinfo (cs : List Char) : String × Option String :=
  let (username, rest) := cutAt (· == ':') cs
  match rest with
  | _ :: c :: password => (encoded plainInUserinfo username,
      some (encoded plainInUserinfo (c :: password)))
  | _ => (encoded plainInUserinfo username, none)

/-- Splits an authority at its last `@`, if it has one. -/
def splitUserinfo (cs : List Char) : Option (List Char) × List Char :=
  if cs.contains '@' then
    let host := (cs.reverse.takeWhile (· ≠ '@')).reverse
    (some (cs.take (cs.length - host.length - 1)), host)
  else (none, cs)

/-- The host at the start of a text, and the rest from the colon on; colons between brackets belong
to the host. -/
def splitHost : (inside : Bool) → List Char → List Char × List Char
  | _, [] => ([], [])
  | inside, c :: cs =>
    if c = ':' ∧ !inside then ([], c :: cs)
    else
      let (host, rest) := splitHost (c = '[' ∨ (inside ∧ c ≠ ']')) cs
      (c :: host, rest)

/-- The port in a text that is empty or starts with a colon. -/
def readPort (scheme : String) : List Char → Except Defect (Option Nat)
  | ':' :: cs =>
    if !cs.all Char.isDigit then .error .port
    else
      let port := (digitsValue? 10 cs).getD 0
      if 65535 < port then .error .port
      else if cs.isEmpty ∨ defaultPort? scheme = some port then .ok none
      else .ok (some port)
  | _ => .ok none

/-- The path behind an authority: that of a special scheme always has a segment, and any other is
empty or starts with a slash. -/
def withPathBehindHost (u : Url) (cs : List Char) : Url :=
  match cs with
  | [] => if isSpecial u.scheme then u.withPathOf [] [] else { u with path := .segments [] }
  | c :: rest =>
    if isSlash (isSpecial u.scheme) c then u.withPathOf [] rest
    else if endsPath c ∧ !isSpecial u.scheme then
      let (query, fragment) := readTail u.scheme (c :: rest)
      { u with path := .segments [], query, fragment }
    else u.withPathOf [] (c :: rest)

/-- A URL from what stands behind `//`. -/
def readAuthority (scheme : String) (cs : List Char) : Except Defect Url := do
  let special := isSpecial scheme
  let (authority, rest) := cutAt (endsAuthority special) cs
  let (userinfo, hostAndPort) := splitUserinfo authority
  if userinfo = some [] ∧ hostAndPort = [] ∧ rest ≠ [] then throw .emptyHost
  let (username, password) := readUserinfo (userinfo.getD [])
  let (hostText, portText) := splitHost false hostAndPort
  if hostText = [] ∧ (special ∨ portText ≠ [] ∨ !username.isEmpty ∨ password.isSome) then
    throw .emptyHost
  let host ← if special then domainHost hostText else plainHost hostText
  -- a backslash ends the port also where it does not end the authority
  let (portText, overrun) := cutAt (· == '\\') portText
  let port ← readPort scheme portText
  let u : Url :=
    { scheme, username, password, host := some host, port, path := .segments [],
      query := none, fragment := none }
  return u.withPathBehindHost (overrun ++ rest)

/-! ## Files -/

/-- A URL of a file on a host. -/
def fileUrl (host : String) : Url :=
  { scheme := fileScheme, username := "", password := none, host := some host, port := none,
    path := .segments [], query := none, fragment := none }

/-- The segments of a path. -/
def segmentsOf (u : Url) : List String :=
  match u.path with
  | .segments names => names
  | .bare _ => []

/-- Whether a text starts with a drive, as a segment of its own. -/
def startsWithDrive : List Char → Bool
  | c :: d :: rest =>
    isDrive [c, d] && (match rest with
      | [] => true
      | e :: _ => endsAuthority true e)
  | _ => false

/-- A URL of a file from what stands behind `file://`. -/
def readFileHost (cs : List Char) : Except Defect Url := do
  let (hostText, rest) := cutAt (endsAuthority true) cs
  if isDrive hostText then return (fileUrl "").withPathOf [] cs
  else if hostText = [] then return (fileUrl "").withPathOf [] rest
  else
    let host ← domainHost hostText
    if host = "localhost" then return (fileUrl "").withPathOf [] rest
    else
      let u := (fileUrl host).withPathBehindHost rest
      -- a drive takes the place of the host
      match u.segmentsOf with
      | drive :: _ =>
        let first := (splitPath true (rest.drop 1)).headD []
        return if isPlainDrive drive ∧ isDrive first then { u with host := some "" } else u
      | [] => return u

/-- The URL without what stands behind its path. -/
def upToPath (u : Url) : Url := { u with query := none, fragment := none }

/-- The URL with another query and fragment, from their text. -/
def withTailOf (u : Url) (cs : List Char) : Url :=
  let (query, fragment) := readTail u.scheme cs
  { u with query, fragment }

/-- A URL of a file from what stands behind the scheme. -/
def readFile (base? : Option Url) (cs : List Char) : Except Defect Url :=
  match cs with
  | c :: rest =>
    if isSlash true c then
      match rest with
      | d :: behind =>
        if isSlash true d then readFileHost behind
        else .ok (fromRoot rest)
      | [] => .ok (fromRoot rest)
    else match base? with
      | none => .ok ((fileUrl "").withPathOf [] cs)
      | some base =>
        if c = '?' then .ok (base.upToPath.withTailOf cs)
        else if c = '#' then .ok { base with fragment := readFragment cs }
        else if startsWithDrive cs then .ok ((fileUrl "").withPathOf [] cs)
        else .ok (base.upToPath.withPathOf (shortened true base.segmentsOf) cs)
  | [] => match base? with
    | none => .ok ((fileUrl "").withPathOf [] [])
    | some base => .ok { base with fragment := none }
where
  /-- The file at a path from the root, on the host and the drive of the base. -/
  fromRoot (rest : List Char) : Url :=
    match base? with
    | none => (fileUrl "").withPathOf [] rest
    | some base =>
      if startsWithDrive rest then (fileUrl "").withPathOf [] rest
      else match base.segmentsOf with
        | drive :: _ =>
          if isPlainDrive drive then (fileUrl "").withPathOf [drive] rest
          else (fileUrl (base.host.getD "")).withPathOf [] rest
        | [] => (fileUrl (base.host.getD "")).withPathOf [] rest

/-! ## Whole URLs -/

/-- The scheme in front of the first colon, made small, and what stands behind the colon. -/
def splitScheme (cs : List Char) : Option (String × List Char) :=
  let inScheme := fun c : Char => c.isAlphanum || c == '+' || c == '-' || c == '.'
  match cs.head?, cs.takeWhile inScheme, cs.dropWhile inScheme with
  | some c, scheme, ':' :: rest =>
    if c.isAlpha then some (lowered (String.ofList scheme), rest) else none
  | _, _, _ => none

/-- A URL of a scheme that is not special, from what stands behind the colon. -/
def readPlain (scheme : String) (cs : List Char) : Except Defect Url :=
  let u : Url :=
    { scheme, username := "", password := none, host := none, port := none, path := .segments [],
      query := none, fragment := none }
  match cs with
  | '/' :: '/' :: rest => readAuthority scheme rest
  | '/' :: rest => .ok (u.withPathOf [] rest)
  | cs =>
    let (path, rest) := cutAt endsPath cs
    .ok ({ u with path := .bare (encoded plainInBarePath path) }.withTailOf rest)

/-- A URL that lacks its scheme, from its base. -/
def readRelative (base : Url) (cs : List Char) : Except Defect Url :=
  let slash := fun c : Char => c == '/' || c == '\\'
  match cs with
  | [] => .ok { base with fragment := none }
  | '?' :: _ => .ok (base.upToPath.withTailOf cs)
  | '#' :: _ => .ok { base with fragment := readFragment cs }
  | c :: rest =>
    if slash c then
      match cs with
      | '/' :: '/' :: behind => readAuthority base.scheme behind
      | _ =>
        if 2 ≤ (cs.takeWhile slash).length then readAuthority base.scheme (cs.dropWhile slash)
        else .ok (base.upToPath.withPathOf [] rest)
    else .ok (base.upToPath.withPathOf base.segmentsOf.dropLast cs)

/-- A URL of a special scheme, from what stands behind the colon. -/
def readSpecial (base? : Option Url) (scheme : String) (cs : List Char) : Except Defect Url :=
  let slash := fun c : Char => c == '/' || c == '\\'
  let authority := readAuthority scheme (cs.dropWhile slash)
  match base? with
  | some base =>
    if (cs.takeWhile slash).length < 2 ∧ base.scheme = scheme then readRelative base cs
    else authority
  | none => authority

/-- A URL from a text and, for the parts it lacks, a base. -/
def read (base? : Option Url) (text : String) : Except Defect Url :=
  let cs := cleaned text.toList
  match splitScheme cs with
  | some (scheme, rest) =>
    if scheme = fileScheme then readFile (base?.filter (·.scheme == fileScheme)) rest
    else if isSpecial scheme then readSpecial base? scheme rest
    else readPlain scheme rest
  | none =>
    match base? with
    | none => .error .relativeWithoutBase
    | some base =>
      match cs, base.path with
      | '#' :: _, _ => .ok { base with fragment := readFragment cs }
      | _, .bare _ => .error .relativeWithBareBase
      | _, _ => if base.scheme = fileScheme then readFile (some base) cs else readRelative base cs

/-- The URL that a text is. -/
def parse (text : String) : Except Defect Url := read none text

/-- The URL that a text means where the base is at hand. -/
def resolve (base : Url) (text : String) : Except Defect Url := read (some base) text

end Pacts.Url
