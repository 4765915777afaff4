import FilterQuery.Form
import FilterQuery.Text.Pieces

/-! # Arguments

The arguments of the command line: options with a value, each at most once, and two switches that
end the reading. An option is written in full after two dashes or as a letter after one; its value
follows as the next argument, after an equals sign, or directly after the letter. A value that is an
argument of its own begins with no dash, unless the option allows it.
-/

namespace FilterQuery.CommandLine

/-- What a query is printed as. -/
inductive OutputFormat where
  | json
  | yaml
  | text
  deriving DecidableEq

namespace OutputFormat

/-- The name of a format. -/
def name : OutputFormat → String
  | json => "json"
  | yaml => "yaml"
  | text => "text"

/-- The format with a name. -/
def ofName? (s : String) : Option OutputFormat :=
  [json, yaml, text].find? (·.name == s)

/-- A format is found by its name. -/
@[simp] theorem ofName?_name (f : OutputFormat) : ofName? f.name = some f := by
  cases f <;> decide

end OutputFormat

/-- What the command line says about a search. -/
structure Arguments where
  /-- The path of the configuration. -/
  config : String
  /-- A query string with the request. -/
  query : Option String
  /-- A filter string that stands in for the one of the query string. -/
  filter : Option String
  /-- A sort string that stands in for the one of the query string. -/
  sort : Option String
  format : OutputFormat
  /-- Which log messages are wanted. -/
  logLevel : String
  deriving DecidableEq

/-- What the command line asks for. -/
inductive Command where
  | help
  | version
  | search (arguments : Arguments)
  deriving DecidableEq

/-! ## Options -/

/-- An option with a value. -/
inductive ValueOption where
  | config
  | query
  | filter
  | sort
  | format
  | logLevel
  deriving DecidableEq

namespace ValueOption

/-- All options with a value. -/
def values : List ValueOption := [config, query, filter, sort, format, logLevel]

/-- The name of an option. -/
def name : ValueOption → String
  | config => "config"
  | query => "query"
  | filter => "filter"
  | sort => "sort"
  | format => "format"
  | logLevel => "log-level"

/-- The letter of an option that has one. -/
def letter? : ValueOption → Option Char
  | config => some 'c'
  | filter => some 'f'
  | sort => some 's'
  | query | format | logLevel => none

/-- The option takes the next argument as its value, whatever that begins with. -/
def takesDash : ValueOption → Bool
  | filter | sort => true
  | config | query | format | logLevel => false

/-- An argument that follows the option can be its value. A lone dash always can. -/
def accepts (o : ValueOption) (arg : String) : Bool :=
  o.takesDash || arg.toList.head? != some '-' || arg == "-"

end ValueOption

/-- What a name or a letter after dashes can stand for. -/
inductive Switch where
  | help
  | version
  | takes (option : ValueOption)
  deriving DecidableEq

namespace Switch

/-- The switch with a name. -/
def ofName? (name : List Char) : Option Switch :=
  if name = "help".toList then some help
  else if name = "version".toList then some version
  else (ValueOption.values.find? (·.name.toList == name)).map takes

/-- The switch with a letter. -/
def ofLetter? (letter : Char) : Option Switch :=
  if letter = 'h' then some help
  else if letter = 'V' then some version
  else (ValueOption.values.find? (·.letter? == some letter)).map takes

/-- Reads an argument after two dashes: the switch, and the value after an equals sign. The two
switches without a value must have none. -/
def ofLong? (s : List Char) : Option (Switch × Option String) :=
  let (name, value) := match Text.cut? '=' s with
    | some (name, value) => (name, some (String.ofList value))
    | none => (s, none)
  match ofName? name with
  | some (takes o) => some (takes o, value)
  | some switch => if value = none then some (switch, none) else none
  | none => none

/-- Reads an argument after one dash: the switch of the letter, and the value after it, with or
without an equals sign. -/
def ofShort? (letter : Char) (rest : List Char) : Option (Switch × Option String) :=
  (ofLetter? letter).map fun switch =>
    (switch, match rest with
      | [] => none
      | '=' :: value => some (String.ofList value)
      | value => some (String.ofList value))

/-- Reads an argument. -/
def ofArg? (arg : String) : Option (Switch × Option String) :=
  match arg.toList with
  | '-' :: '-' :: s => ofLong? s
  | '-' :: letter :: rest => ofShort? letter rest
  | _ => none

end Switch

/-! ## Reading -/

/-- The options that have been read. -/
structure Given where
  config : Option String
  query : Option String
  filter : Option String
  sort : Option String
  format : Option OutputFormat
  logLevel : Option String

namespace Given

/-- No option has been read. -/
def nothing : Given := ⟨none, none, none, none, none, none⟩

/-- Gives an option a value, unless it has one. A path must not be empty, and a format must be
known. -/
def set? (g : Given) (value : String) : ValueOption → Option Given
  | .config =>
    if g.config = none ∧ value ≠ "" then some { g with config := some value } else none
  | .query => if g.query = none then some { g with query := some value } else none
  | .filter => if g.filter = none then some { g with filter := some value } else none
  | .sort => if g.sort = none then some { g with sort := some value } else none
  | .format =>
    match g.format, OutputFormat.ofName? value with
    | none, some format => some { g with format := some format }
    | _, _ => none
  | .logLevel =>
    if g.logLevel = none then some { g with logLevel := some value } else none

/-- The arguments of a search; a configuration has to be given. -/
def arguments? (g : Given) : Option Arguments :=
  g.config.map fun config =>
    ⟨config, g.query, g.filter, g.sort, g.format.getD .json, g.logLevel.getD "warn"⟩

end Given

/-- Reads the rest of the arguments. Two dashes may stand alone at the end. -/
def Command.read? (given : Given) : List String → Option Command
  | [] => given.arguments?.map .search
  | arg :: rest =>
    if arg = "--" then if rest = [] then given.arguments?.map .search else none
    else
      match Switch.ofArg? arg, rest with
      -- Neither an option nor the value of one.
      | none, _ => none
      | some (.help, _), _ => some .help
      | some (.version, _), _ => some .version
      | some (.takes o, some value), rest =>
        match given.set? value o with
        | some given => read? given rest
        | none => none
      | some (.takes _, none), [] => none
      | some (.takes o, none), value :: rest =>
        if o.accepts value then
          match given.set? value o with
          | some given => read? given rest
          | none => none
        else none

/-- What the arguments ask for, if they are in order. -/
def Command.ofArgs? (args : List String) : Option Command :=
  read? .nothing args

/-- The request that the arguments of a search make: the one of the query string, with the filter
and sort strings that are given instead of its own. -/
def Arguments.request (a : Arguments) : Request :=
  let request := match a.query with
    | some query => Request.ofQueryString query
    | none => ⟨none, none⟩
  ⟨a.filter.or request.filter, a.sort.or request.sort⟩

end FilterQuery.CommandLine
