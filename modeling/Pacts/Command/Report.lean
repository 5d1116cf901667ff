import Pacts.Json.Writer
import Pacts.Pact.Basic
import Pacts.Text.Table

/-!
# Reports

A report lists loaded pacts and says where they were loaded from, as a table or in JSON.
-/

set_option autoImplicit false

namespace Pacts.Command

/-- Loaded pacts. -/
structure Report where
  /-- Where the pacts were loaded from, in words. -/
  source : String
  pacts : List Pact

namespace Report

/-- A pact in a report. -/
def entry (p : Pact) : Json :=
  .obj [("consumer", .str p.consumer), ("provider", .str p.provider),
    ("interactions", .num (.integer p.interactionCount)),
    ("spec_version", match p.specVersion with
      | some v => .str v
      | none => .null),
    ("source", .str p.source)]

/-- A report as a value of JSON. -/
def toJson (r : Report) : Json :=
  .obj [("source", .str r.source), ("pacts", .arr (r.pacts.map entry))]

/-- The titles of the columns of a table. -/
def titles : List String := ["consumer", "provider", "interactions", "spec", "source"]

/-- A pact in a table. -/
def row (p : Pact) : List String :=
  [p.consumer, p.provider, toString p.interactionCount, p.specVersion.getD "-", p.source]

/-- The line above a table. -/
def heading (r : Report) : String := r.source ++ " | " ++ toString r.pacts.length ++ " pact(s)"

/-- A report as a table. -/
def toTable (r : Report) : String :=
  r.heading ++ "\n" ++
    (if r.pacts.isEmpty then "No pacts found." else Text.table titles (r.pacts.map row)) ++ "\n"

/-- A report as it is written out. -/
def text (r : Report) (json : Bool) : String :=
  if json then r.toJson.indented 0 ++ "\n" else r.toTable

end Report

end Pacts.Command
