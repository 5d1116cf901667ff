import Pacts.Command.Report
import Pacts.Proofs.Json.Indented

/-!
# Reports in JSON are read back

A report in JSON is one object; whoever reads it finds where the pacts were loaded from and one
entry for every pact, in the order of the report (`read_text`).
-/

set_option autoImplicit false

namespace Pacts.Command.Report

/-- The entry of a pact as it is read back. -/
def readEntry (p : Pact) : Json :=
  .obj [("consumer", .str p.consumer),
    ("interactions", .num (.integer (p.interactions.length + p.messages.length : Nat))),
    ("provider", .str p.provider),
    ("source", .str p.source),
    ("spec_version", match p.specVersion with
      | some v => .str v
      | none => .null)]

/-- A report as it is read back. -/
def readJson (r : Report) : Json :=
  .obj [("pacts", .arr (r.pacts.map readEntry)), ("source", .str r.source)]

theorem ordered_entry (p : Pact) : (entry p).ordered = readEntry p := by
  rw [entry, readEntry]
  cases p.specVersion <;> (simp only [Json.ordered, Json.orderedMembers]; rfl)

theorem ordered_toJson (r : Report) : r.toJson.ordered = r.readJson := by
  have hentries : Json.orderedItems (r.pacts.map entry) = r.pacts.map readEntry := by
    rw [Json.orderedItems_eq_map, List.map_map]
    exact List.map_congr_left fun p _ => ordered_entry p
  rw [toJson, Json.ordered]
  simp only [Json.orderedMembers, Json.ordered, hentries]
  rfl

/-- A report is legible as long as its counts fit into 64 bits. -/
theorem legible_toJson {r : Report} (h : ∀ p ∈ r.pacts, p.interactionCount < 2 ^ 64) :
    r.toJson.Legible Json.maxDepth := by
  have hentry : ∀ p ∈ r.pacts, (entry p).Legible 125 := by
    intro p hp
    have hcount : (Json.Number.integer p.interactionCount).IsWord := by
      have := h p hp
      constructor <;> omega
    refine ⟨trivial, trivial, hcount, ?_, trivial, trivial⟩
    cases p.specVersion <;> trivial
  refine ⟨trivial, (Json.legibleItems_iff _ _).2 ?_, trivial⟩
  intro item hitem
  obtain ⟨p, hp, rfl⟩ := List.mem_map.1 hitem
  exact hentry p hp

/-- **A report in JSON is read back**: one object that says where the pacts were loaded from and has
an entry for every pact. -/
theorem read_text {r : Report} (h : ∀ p ∈ r.pacts, p.interactionCount < 2 ^ 64) :
    Json.read .whole (r.text true) = .ok r.readJson := by
  rw [← ordered_toJson]
  exact Json.read_indented (legible_toJson h)

/-- The output of a command that reports pacts.  In JSON it is one object that says where the pacts
were loaded from and has an entry for every pact, in order; that is what the reader of JSON texts
finds, which keeps integers of 64 bits.  No list in memory is longer than that. -/
structure WrittenTo (r : Report) (json : Bool) (output : String) : Prop where
  text : output = r.text json
  read : json = true → (∀ p ∈ r.pacts, p.interactionCount < 2 ^ 64) →
    Json.read .whole output = .ok r.readJson

theorem writtenTo_text (r : Report) (json : Bool) : r.WrittenTo json (r.text json) := by
  refine ⟨rfl, ?_⟩
  rintro rfl hcounts
  exact read_text hcounts

end Pacts.Command.Report
