/-! # Errors of a configuration

Why a configuration is not accepted, and the options that a configuration document may have. The
wording of an error is `ConfigError.message`; that of an unreadable document ends with the words of the
library that reads it.
-/

namespace FilterQuery

/-- An option of a configuration document. -/
inductive ConfigOption where
  /-- Which fields each key stands for. -/
  | fieldMapping
  /-- Conditions of every search. -/
  | forcedFilter
  /-- Conditions of a search without a filter string. -/
  | defaultFilter
  /-- The order of a search without a sort string. -/
  | defaultOrder
  /-- Whether substring matches respect case. -/
  | caseSensitive
  /-- How filter strings are written. -/
  | grammar
  deriving DecidableEq

namespace ConfigOption

/-- All options. -/
def values : List ConfigOption :=
  [fieldMapping, forcedFilter, defaultFilter, defaultOrder, caseSensitive, grammar]

/-- The name of an option in documents. -/
def name : ConfigOption → String
  | fieldMapping => "field_mapping"
  | forcedFilter => "forced_filter"
  | defaultFilter => "default_filter"
  | defaultOrder => "default_order"
  | caseSensitive => "case_sensitive"
  | grammar => "grammar"

/-- The option with a name. -/
def ofName? (s : String) : Option ConfigOption :=
  values.find? (·.name == s)

/-- What the value of an option is, in words. -/
def expected : ConfigOption → String
  | fieldMapping => "a mapping of keys to fields"
  | forcedFilter | defaultFilter => "a mapping of field names to values"
  | defaultOrder => "a list of field names"
  | caseSensitive => "true/false"
  | grammar => "one of \"suffix\", \"colon\""

/-- An option is found by its name. -/
@[simp] theorem ofName?_name (o : ConfigOption) : ofName? o.name = some o := by
  cases o <;> decide

/-- What is found by a name has this name. -/
theorem name_of_ofName? {s : String} {o : ConfigOption} (h : ofName? s = some o) : o.name = s := by
  simpa using List.find?_some h

end ConfigOption

/-- A place in a configuration. -/
inductive Place where
  /-- The whole document. -/
  | document
  /-- The value of an option. -/
  | option (option : ConfigOption)
  /-- The fields of a key in the field mapping. -/
  | target (key : String)
  /-- The value of a field in a filter option. -/
  | filterValue (option : ConfigOption) (field : String)
  deriving DecidableEq

namespace Place

/-- The name of a place. -/
def name : Place → String
  | document => "searcher configuration"
  | option o => o.name
  | target key => ConfigOption.fieldMapping.name ++ "." ++ key
  | filterValue o field => o.name ++ "." ++ field

/-- What stands in a place, in words. -/
def expected : Place → String
  | document => "a mapping of options"
  | option o => o.expected
  | target _ => "a field name or list of field names"
  | filterValue _ _ => "a string, number or boolean"

end Place

/-- Why a configuration is not accepted. -/
inductive ConfigError where
  /-- No key is mapped. -/
  | missingFieldMapping
  /-- A mapped key cannot be written in a filter string. -/
  | invalidKey (key : String)
  /-- A mapped key has no field, or an empty one. -/
  | emptyTargets (key : String)
  /-- Something else stands in a place than is expected there. -/
  | wrongShape (place : Place)
  /-- The document has an option of no known name. -/
  | unknownOption (name : String)
  /-- The text is no document. What its reader says about that is not kept here, but is given to
  `ConfigError.messageWith`. -/
  | malformed
  deriving DecidableEq

/-- The wording of an error. -/
def ConfigError.message : ConfigError → String
  | missingFieldMapping => "field_mapping is not defined or is empty"
  | invalidKey key => "field_mapping key '" ++ key ++ "' must match [A-Za-z0-9_]+"
  | emptyTargets key => "field_mapping key '" ++ key ++ "' must name at least one target field"
  | wrongShape place => place.name ++ " should be " ++ place.expected
  | unknownOption name => "unknown searcher option '" ++ name ++ "'"
  | malformed => "malformed searcher configuration"

/-- The wording of an error, with what the reader of the document says if it cannot be read. -/
def ConfigError.messageWith (complaint : String) : ConfigError → String
  | malformed => malformed.message ++ ": " ++ complaint
  | e => e.message

end FilterQuery
