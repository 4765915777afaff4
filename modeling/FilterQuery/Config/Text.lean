import FilterQuery.Config.Document
import FilterQuery.Json.Parser
import FilterQuery.Yaml.Parser

/-! # Configurations from texts

A configuration is written as a document in JSON or in YAML. A text that is no document is
malformed; all else is a matter of the document.
-/

namespace FilterQuery

/-- What a document is written in. -/
inductive DocumentFormat where
  | json
  | yaml
  deriving DecidableEq

/-- The document of a text. -/
def DocumentFormat.parse? : DocumentFormat → String → Option Json
  | json, s => Json.parse? s
  | yaml, s => Yaml.parse? s

/-- The configuration that a text describes. -/
def Config.ofText (format : DocumentFormat) (s : String) : Except ConfigError Config :=
  match format.parse? s with
  | some document => ofDocument document
  | none => .error .malformed

end FilterQuery
