import Pacts.Broker.Error
import Pacts.Json.Writer
import Pacts.Url.Parse

/-!
# Links in documents

A document of a broker has an object `_links`, whose members are links: an object with the member
`href`, or a list of such objects.  The `href` of a link that is marked as templated holds fields
such as `{provider}`, which are filled with names; a name is encoded so that it cannot leave its
segment of the path.
-/

set_option autoImplicit false

namespace Pacts

namespace Links

/-- The member that holds the links. -/
def member : String := "_links"

/-! ## Templates -/

/-- The characters that stand for themselves in a name that fills a field. -/
def plainInName (c : Char) : Bool :=
  c.isAlphanum || c == '-' || c == '.' || c == '_' || c == '~'

/-- A name as it stands in a path. -/
def encodeName (name : List Char) : List Char := Text.percentEncode plainInName name

/-- The text with `replacement` in the place of every `pattern`, found from the left, once `skip`
more characters have been dropped. -/
def replaceFrom (pattern replacement : List Char) : (skip : Nat) → List Char → List Char
  | _, [] => []
  | skip + 1, _ :: cs => replaceFrom pattern replacement skip cs
  | 0, c :: cs =>
    if pattern.isPrefixOf (c :: cs) then
      replacement ++ replaceFrom pattern replacement (pattern.length - 1) cs
    else c :: replaceFrom pattern replacement 0 cs

/-- The text of the field of a key. -/
def fieldText (key : String) : List Char := '{' :: key.toList ++ ['}']

/-- A template in which the fields of one key are filled. -/
def fillField (template : List Char) (param : String × String) : List Char :=
  replaceFrom (fieldText param.1) (encodeName param.2.toList) 0 template

/-- A template in which the fields are filled, one parameter after the other. -/
def fillTemplate (template : String) (params : List (String × String)) : String :=
  String.ofList (params.foldl fillField template.toList)

/-! ## Following a link -/

/-- The names of the members of an object. -/
def names (members : List (String × Json)) : List String := members.map (·.1)

/-- The `href` of a link of a document, or what is wrong with the document. -/
def href (doc : Json) (rel : String) : Except String (String × Bool) :=
  match doc.get? member with
  | none => .error ("response has no '" ++ member ++ "', LINK: '" ++ rel ++ "'")
  | some (.obj links) =>
    match Json.lookupMember rel links with
    | none =>
      .error ("link '" ++ rel ++ "' was not found in the response, " ++
        "only the following links were found: " ++ quotedList (names links))
    | some link =>
      match (link.get? "href").bind Json.str? with
      | none => .error ("expected link '" ++ rel ++ "' in map form, but found: " ++ link.compact)
      | some text => .ok (text, ((link.get? "templated").bind Json.bool?).getD false)
  | some other => .error ("expected a map of links, but found: " ++ other.compact)

/-- The URL that a link of a document leads to. -/
def follow (base : Url) (doc : Json) (rel : String) (params : List (String × String)) :
    Except BrokerError Url :=
  match href doc rel with
  | .error reason => .error (.invalidHal base.text reason)
  | .ok (text, templated) =>
    let target := if templated then fillTemplate text params else text
    match Url.resolve base target with
    | .ok u => .ok u
    | .error defect => .error (.invalidUrl target defect)

/-- The links under a name: the objects of a list, or the one object that is there. -/
def entries (doc : Json) (rel : String) : List Json :=
  match (doc.get? member).bind (·.get? rel) with
  | some (.arr items) => items.filter Json.isObject
  | some (.obj members) => [.obj members]
  | _ => []

end Links

end Pacts
