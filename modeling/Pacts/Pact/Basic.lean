import Pacts.Files
import Pacts.Json.Reader
import Pacts.Text.Blank

/-!
# Pacts

A pact is a contract between a consumer and a provider.  Of the JSON value it is read from only the
two names, the interactions, the messages and the metadata matter; everything else is passed over.
The lists and the metadata are kept as they are.

`Pact.ofJson` reads a value and `Pact.toJson` writes it back; `ofJson_toJson` says that reading what
was written gives the same pact.
-/

set_option autoImplicit false

namespace Pacts

/-- A contract between a consumer and a provider. -/
structure Pact where
  consumer : String
  provider : String
  interactions : List Json
  messages : List Json
  metadata : Json
  /-- The path or the URL the pact was read from. -/
  source : String
  deriving DecidableEq

/-- Why a file or a value could not be read. -/
inductive ReadError where
  /-- The file or the directory at the path could not be read. -/
  | io (path problem : String)
  /-- The source does not hold the JSON of a pact. -/
  | parse (source problem : String)
  /-- The source holds JSON, but not that of a pact. -/
  | invalid (source reason : String)
  /-- The file at the path does not hold a table of values. -/
  | yaml (path problem : String)
  deriving DecidableEq, Repr

/-- The wording of an error. -/
def ReadError.message : ReadError → String
  | .io path problem => "I/O error at " ++ path ++ ": " ++ problem
  | .parse source problem => "failed to parse pact from " ++ source ++ ": " ++ problem
  | .invalid source reason => "invalid pact document from " ++ source ++ ": " ++ reason
  | .yaml path problem => "failed to parse " ++ path ++ ": " ++ problem

/-- What an error was caused by, when that is a fact of its own. -/
def ReadError.cause? : ReadError → Option String
  | .io _ problem => some problem
  | .parse _ problem => some problem
  | .invalid _ _ => none
  | .yaml _ problem => some problem

namespace Pact

/-- The name of the consumer or of the provider in a value, if it is one that is not blank. -/
def nameIn (v : Json) (field : String) : Option String := do
  let name ← ((← v.get? field).get? "name").bind Json.str?
  if isBlankString name then none else some name

/-- The list in a field of a value; a field that is not there stands for no items. -/
def itemsIn (v : Json) (field source : String) : Except ReadError (List Json) :=
  match v.get? field with
  | none => .ok []
  | some (.arr items) => .ok items
  | some other =>
    .error (.parse source ("invalid type: " ++ other.kind ++ ", expected a sequence"))

/-- The pact of a JSON value. -/
def ofJson (v : Json) (source : String) : Except ReadError Pact :=
  match nameIn v "consumer", nameIn v "provider" with
  | none, _ => .error (.invalid source "missing consumer name")
  | some _, none => .error (.invalid source "missing provider name")
  | some consumer, some provider => do
    let interactions ← itemsIn v "interactions" source
    let messages ← itemsIn v "messages" source
    .ok {
      consumer, provider, interactions, messages
      metadata := (v.get? "metadata").getD .null
      source }

/-- The pact of a JSON text. -/
def ofText (text source : String) : Except ReadError Pact :=
  match Json.read .whole text with
  | .error problem => .error (.parse source problem)
  | .ok v => ofJson v source

/-- The pact in a file. -/
def ofFile (files : Files) (path : String) : Except ReadError Pact :=
  match files.text path with
  | .error problem => .error (.io path problem)
  | .ok text => ofText text path

/-- The JSON value of a pact.  Its source is not part of it. -/
def toJson (p : Pact) : Json :=
  .obj [("consumer", .obj [("name", .str p.consumer)]),
    ("provider", .obj [("name", .str p.provider)]),
    ("interactions", .arr p.interactions),
    ("messages", .arr p.messages),
    ("metadata", p.metadata)]

/-- The number of interactions and messages. -/
def interactionCount (p : Pact) : Nat := p.interactions.length + p.messages.length

/-- The names under which the metadata may hold the version of the specification. -/
def specKeys : List String :=
  ["pactSpecification", "pact-specification", "pactSpecificationVersion"]

/-- The version under one name: the member `version` of what is there, or else that itself. -/
def specVersionAt (metadata : Json) (key : String) : Option String :=
  (metadata.get? key).bind fun entry => ((entry.get? "version").getD entry).str?

/-- The version of the specification that the pact follows, if it is declared. -/
def specVersion (p : Pact) : Option String := specKeys.findSome? (specVersionAt p.metadata)

/-- The pact with the canonical forms of its JSON values. -/
def canonical (p : Pact) : Pact :=
  { p with
    interactions := Json.canonicalItems p.interactions
    messages := Json.canonicalItems p.messages
    metadata := p.metadata.canonical }

/-- Two pacts that differ at most in the sign of a zero. -/
def same (p q : Pact) : Bool := decide (p.canonical = q.canonical)

theorem nameIn_of_get {v : Json} {field name : String}
    (h : v.get? field = some (.obj [("name", .str name)])) (hn : isBlankString name = false) :
    nameIn v field = some name := by
  rw [nameIn, h]
  simp [Json.get?, Json.lookupMember, Json.str?, hn]

/-- A pact whose names are not blank is read back from what it is written as. -/
theorem ofJson_toJson (p : Pact) (hc : isBlankString p.consumer = false)
    (hp : isBlankString p.provider = false) : ofJson p.toJson p.source = .ok p := by
  have h1 : nameIn p.toJson "consumer" = some p.consumer :=
    nameIn_of_get (by simp [toJson, Json.get?, Json.lookupMember]) hc
  have h2 : nameIn p.toJson "provider" = some p.provider :=
    nameIn_of_get (by simp [toJson, Json.get?, Json.lookupMember]) hp
  simp only [ofJson, h1, h2]
  simp [toJson, itemsIn, Json.get?, Json.lookupMember, bind, Except.bind]

end Pact

end Pacts
