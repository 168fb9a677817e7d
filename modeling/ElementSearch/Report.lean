import ElementSearch.Tier
import ElementSearch.Value.Document

/-! Attachments of a report.
A search that found nothing leaves behind what was asked for, tier by tier, as a JSON document
with the locator's name on it. -/

namespace ElementSearch

inductive Format where
  | json
  | plain
deriving DecidableEq

def Format.label : Format → String
  | json => "JSON"
  | plain => "TEXT"

structure Attachment where
  name : String
  format : Format
  body : String

namespace Attachment

def ofValue (name : String) (data : Value) : Outcome Attachment := do
  return ⟨name, .json, ← data.jsonIndented⟩

def ofText (name text : String) : Attachment := ⟨name, .plain, text⟩

def tierEntry (t : Tier) : Value :=
  .dict [(.text "tier", .int t.position), (.text "name", t.name), (.text "kind", t.query.kind),
    (.text "value", t.query.value), (.text "best_effort", .bool t.bestEffort)]

def attemptsMessage (shown family : String) (count : Nat) : String :=
  "Attaching " ++ toString count ++ " attempt(s) for " ++ family ++ " " ++ shown

def ofAttempts (shown family : String) (tiers : List Tier) : Outcome Attachment :=
  ofValue ("Locator attempts: " ++ shown)
    (.dict [(.text "locator", shown), (.text "family", family),
      (.text "attempts", .list (tiers.map tierEntry))])

end Attachment

end ElementSearch
