import CodeGauge.Report.Json

/-!
# The tools on offer

A tool is described by its name, what it does, and the arguments that it takes, as a document.
Follows section 10.10 of the specification.
-/

namespace CodeGauge

/-- An argument of a tool. -/
structure ToolArgument where
  name : String
  type : String
  description : String
  default : Option Json := none

/-- A tool as it is listed. -/
structure ToolDescription where
  name : String
  description : String
  arguments : List ToolArgument := []
  required : List String := []

/-- The document of an argument. -/
def ToolArgument.report (a : ToolArgument) : Json :=
  .object <| [("type", .text a.type), ("description", .text a.description)] ++
    (a.default.map fun d => ("default", d)).toList

/-- The document of a tool. -/
def ToolDescription.report (t : ToolDescription) : Json :=
  let arguments := Json.object (t.arguments.map fun a => (a.name, a.report))
  .object [
    ("name", .text t.name),
    ("description", .text t.description),
    ("inputSchema", .object <| [("type", .text "object"), ("properties", arguments)] ++
      (if t.required.isEmpty then [] else [("required", .list (t.required.map .text))]))]

/-- All tools, in the order in which they are listed. -/
def toolDescriptions : List ToolDescription := [
  { name := "metrics_file"
    description := "Get precomputed metrics for a file: lines of code, symbol count, " ++
      "cross-file fan-in/fan-out and a weighted complexity score. " ++
      "Optionally include per-symbol metrics."
    arguments := [
      { name := "path", type := "string", description := "File path as it was indexed" },
      { name := "include_symbols", type := "boolean",
        description := "Also return metrics for every symbol in the file",
        default := some (.bool false) }]
    required := ["path"] },
  { name := "metrics_symbol"
    description := "Get precomputed metrics for one symbol: lines of code, fan-in, fan-out " ++
      "and cyclomatic complexity (currently a placeholder value)."
    arguments := [{ name := "symbol_id", type := "integer", description := "Symbol ID" }]
    required := ["symbol_id"] },
  { name := "metrics_hotspots"
    description := "List the files with the highest complexity score, optionally filtered by " ++
      "minimum lines of code, fan-in or fan-out."
    arguments := [
      { name := "limit", type := "integer", description := "Maximum files (default: 20)" },
      { name := "min_loc", type := "integer", description := "Minimum lines of code" },
      { name := "min_fan_in", type := "integer", description := "Minimum fan-in" },
      { name := "min_fan_out", type := "integer", description := "Minimum fan-out" }] },
  { name := "metrics_stats"
    description := "Get statistics about the indexed graph and its metrics tables." }]

end CodeGauge
