import FilterQuery.Config.Setting
import FilterQuery.Json.Basic

/-! # Configurations from documents

A configuration document is an object whose members are options. Members are read in their order,
and the first that is unknown or has a value of another shape than expected is reported; after
that the options are checked like those of any draft. A null stands for an absent option.
-/

namespace FilterQuery

/-- The options that a document has given so far. -/
structure Options where
  mapping : Option FieldMapping
  forcedFilter : Option FilterMap
  defaultFilter : Option FilterMap
  defaultOrder : List String
  caseSensitive : Bool
  grammar : Grammar

namespace Options

/-- No option is given. -/
def absent : Options := ⟨none, none, none, [], false, .suffix⟩

/-- The texts of a list of texts. -/
def texts? (items : List Json) : Option (List String) :=
  items.mapM fun
    | .string s => some s
    | _ => none

/-- The fields that the document names for a key: one text or a list of texts. -/
def targets? : Json → Option (List String)
  | .string field => some [field]
  | .array items => texts? items
  | _ => none

/-- The text that a filter compares with: a text, a number or a boolean. -/
def filterText? : Json → Option String
  | .string s => some s
  | .number n => some n.text
  | .bool true => some "true"
  | .bool false => some "false"
  | _ => none

/-- The table of an object's members, each value read with `read?`; the first that cannot be read
is reported by its place. -/
def table {α : Type} (read? : Json → Option α) (place : String → Place) :
    List (String × Json) → Except ConfigError (Table String α) :=
  List.foldlM (fun t (k, v) =>
    match read? v with
    | some a => .ok (t.insert k a)
    | none => .error (.wrongShape (place k))) .empty

/-- Reads the value of an option that is not null. -/
def read (options : Options) (o : ConfigOption) (v : Json) : Except ConfigError Options :=
  match o, v with
  | .fieldMapping, .object members => do
    let m ← table targets? .target members
    return { options with mapping := some m }
  | .forcedFilter, .object members => do
    let m ← table filterText? (.filterValue .forcedFilter) members
    return { options with forcedFilter := some m }
  | .defaultFilter, .object members => do
    let m ← table filterText? (.filterValue .defaultFilter) members
    return { options with defaultFilter := some m }
  | .defaultOrder, .array items =>
    match texts? items with
    | some terms => .ok { options with defaultOrder := terms }
    | none => .error (.wrongShape (.option .defaultOrder))
  | .caseSensitive, .bool b => .ok { options with caseSensitive := b }
  | .grammar, .string s =>
    match Grammar.ofName? s with
    | some g => .ok { options with grammar := g }
    | none => .error (.wrongShape (.option .grammar))
  | o, _ => .error (.wrongShape (.option o))

/-- Reads a member of the document. -/
def readMember (options : Options) (name : String) (v : Json) : Except ConfigError Options :=
  match ConfigOption.ofName? name with
  | none => .error (.unknownOption name)
  | some o =>
    match v with
    | .null => .ok options
    | v => options.read o v

/-- The options that the members of a document give. -/
def ofMembers (members : List (String × Json)) : Except ConfigError Options :=
  members.foldlM (fun options (name, v) => options.readMember name v) absent

/-- The options as a draft; without a field mapping there is none. -/
def draft (options : Options) : Except ConfigError Draft :=
  match options.mapping with
  | none => .error .missingFieldMapping
  | some mapping =>
    .ok ⟨mapping, options.forcedFilter, options.defaultFilter, options.defaultOrder,
      options.caseSensitive, options.grammar⟩

end Options

/-- The configuration that a document describes. -/
def Config.ofDocument : Json → Except ConfigError Config
  | .object members => do
    let options ← Options.ofMembers members
    let draft ← options.draft
    draft.build
  | _ => .error (.wrongShape .document)

end FilterQuery
