import AsyncLint.Proofs.Document
import AsyncLint.Report.Format

/-!
# What a report in JSON says

Findings are taken from a JSON value by the names of their fields, in whatever order these stand. Nothing is lost in a
report: its text describes an object from which exactly its findings can be taken.
-/

namespace AsyncLint

open Json

namespace Json.Value

/-- The value behind a key. -/
def field? (key : String) : Value → Option Value
  | .object fields => fields.lookup key
  | _ => none

def text? : Value → Option String
  | .string s => some s
  | _ => none

def natural? : Value → Option Nat
  | .number n => some n
  | _ => none

end Json.Value

def Severity.ofName? (name : String) : Option Severity :=
  [("info", .info), ("warning", .warning), ("error", .error)].lookup name

def Location.ofJson? (v : Value) : Option Location := do
  return {
    file := ← (← v.field? "file").text?
    line := ← (← v.field? "line").natural?
    column := ← (← v.field? "column").natural? }

def Finding.ofJson? (v : Value) : Option Finding := do
  return {
    ruleId := ← (← v.field? "rule_id").text?
    declaration := ← (← v.field? "declaration").text?
    location := ← Location.ofJson? (← v.field? "location")
    message := ← (← v.field? "message").text?
    severity := ← Severity.ofName? (← (← v.field? "severity").text?) }

theorem Severity.ofName?_toString (s : Severity) : Severity.ofName? s.toString = some s := by
  cases s <;> rfl

theorem Location.ofJson?_toJson (l : Location) : Location.ofJson? l.toJson = some l :=
  rfl

theorem Finding.ofJson?_toJson (f : Finding) : Finding.ofJson? f.toJson = some f := by
  have hread : Finding.ofJson? f.toJson = (Location.ofJson? f.location.toJson).bind fun location =>
      (Severity.ofName? f.severity.toString).bind fun severity => some { f with location, severity } :=
    rfl
  rw [hread, Location.ofJson?_toJson, Severity.ofName?_toString]
  rfl

theorem mapM_ofJson?_toJson (fs : List Finding) : (fs.map Finding.toJson).mapM Finding.ofJson? = some fs := by
  induction fs with
  | nil => rfl
  | cons f fs ih => simp [Finding.ofJson?_toJson, ih]

/-- A report in JSON describes an object with three fields: the findings of all files in order, the number of files and
the number of findings. -/
theorem render_json_lossless (r : Report) :
    ∃ elements : List Value,
      Json.parse (r.render .json) = .ok (.object
        [("findings", .list elements), ("files", .number r.files.length), ("finding_count", .number elements.length)]) ∧
      elements.mapM Finding.ofJson? = some (r.files.flatMap (·.findings)) := by
  refine ⟨r.findings.map Finding.toJson, ?_, mapM_ofJson?_toJson r.findings⟩
  rw [List.length_map]
  exact Json.parse_toString_append r.toValue (List.forall_mem_singleton.mpr rfl)

end AsyncLint
