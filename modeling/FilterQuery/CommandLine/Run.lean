import FilterQuery.CommandLine.Arguments
import FilterQuery.CommandLine.LogFilter
import FilterQuery.CommandLine.Path
import FilterQuery.Json.Printer
import FilterQuery.Log
import FilterQuery.Query.Display
import FilterQuery.Query.Outline
import FilterQuery.Text.Space
import FilterQuery.Yaml.Printer

/-! # Runs of the program

What the program does with its arguments, as a function: the exit code and the two output streams. All
that it needs from outside is in an `Environment`: the files, the variable that may hold a log filter, and
the words of the libraries that it calls. How the lines of the log look is left to the library that writes
them; which events it is told of, and when, is said here.
-/

namespace FilterQuery.CommandLine

/-- Why a file has no text. -/
inductive ReadError where
  | notFound
  | permissionDenied
  | directory
  /-- Its bytes are not valid UTF-8. -/
  | notText
  | other (reason : String)
  deriving DecidableEq

/-- The wording of an error. -/
def ReadError.message : ReadError → String
  | notFound => "No such file or directory (os error 2)"
  | permissionDenied => "Permission denied (os error 13)"
  | directory => "Is a directory (os error 21)"
  | notText => "stream did not contain valid UTF-8"
  | other reason => reason

/-- Why a search has no answer. -/
inductive Failure where
  /-- The log filter is none, for these reasons. -/
  | logLevel (filter : String) (reasons : List String)
  /-- The configuration file cannot be read. -/
  | file (path : String) (error : ReadError)
  /-- The file describes no configuration. The complaint is that of the reader of documents. -/
  | config (path : String) (error : ConfigError) (complaint : String)
  /-- The request cannot be turned into a query. -/
  | request (error : SortError)
  /-- The query has a negation, which has no form in YAML. -/
  | nestedTags
  deriving DecidableEq

namespace Failure

/-- The wording of a failure. -/
def message : Failure → String
  | logLevel filter _ => "invalid log level filter: " ++ filter
  | file path _ => "failed to read config file " ++ path
  | config path _ _ => "invalid searcher config in " ++ path
  | request _ => "invalid search request"
  | nestedTags => "serializing nested enums in YAML is not supported yet"

/-- What lies behind a failure, in words: first its cause, then the cause of this, and so on. -/
def causes : Failure → List String
  | logLevel _ reasons => reasons
  | file _ e => [e.message]
  | config _ e complaint => [e.messageWith complaint]
  | request e => [e.message]
  | nestedTags => []

/-- A text behind a mark, with its further lines moved to the column in which it begins. -/
def setBehind (mark s : String) : String :=
  mark ++ String.ofList (s.toList.flatMap fun c =>
    if c = '\n' then c :: List.replicate mark.length ' ' else [c])

/-- A line of its own for each cause. Several causes are counted. -/
def causeLines : List String → List String
  | [cause] => [setBehind "    " cause]
  | causes => causes.zipIdx.map fun (cause, i) =>
    let number := toString i
    setBehind ("".pushn ' ' (5 - number.length) ++ number ++ ": ") cause

/-- A failure as it is reported. -/
def report (f : Failure) : String :=
  "Error: " ++ f.message ++
    match f.causes with
    | [] => ""
    | causes => "\n\nCaused by:\n" ++ "\n".intercalate (causeLines causes)

end Failure

/-- A query in a format. -/
def OutputFormat.render (format : OutputFormat) (q : Query) : Except Failure String :=
  match format with
  | json => .ok (Json.pretty q.toJson)
  | text => .ok q.display
  | yaml =>
    match Yaml.print? q.members with
    | some s => .ok s
    | none => .error .nestedTags

/-! ## What comes from outside -/

/-- A reader of files. -/
abbrev Files := String → Except ReadError String

/-- Says which events are to be written. -/
inductive LogFilter where
  /-- The text of the variable `RUST_LOG`. What is no directive in it is passed over. -/
  | ofVariable (text : String)
  /-- The value of the option `--log-level`. -/
  | ofOption (text : String)
  deriving DecidableEq

/-- What the program gets from outside. -/
structure Environment where
  files : Files
  /-- The variable `RUST_LOG`, if it is set to a text. -/
  logVariable : Option String := none
  /-- What the log library writes under a filter when it is told of these events. -/
  logText : LogFilter → List Log.Event → String := fun _ _ => ""
  /-- Why the log library takes a value of `--log-level` for no filter, in words. -/
  logComplaint : String → List String := fun _ => ["invalid filter directive"]
  /-- What the reader of a format says about a text that it cannot read. -/
  documentComplaint : DocumentFormat → String → String := fun _ _ => ""
  /-- What stands behind a report: nothing, unless backtraces are switched on. -/
  backtrace : String := ""

/-- Files alone: the variable is not set, nothing is written to the log, and readers have no words. -/
instance : Coe Files Environment := ⟨fun files => { files }⟩

namespace Environment

variable (env : Environment)

/-- The log filter of a search. Only the option can fail to be one, and the variable comes before it. -/
def logFilter? (a : Arguments) : Option LogFilter :=
  match env.logVariable with
  | some text => some (.ofVariable text)
  | none => if isLogFilter a.logLevel then some (.ofOption a.logLevel) else none

/-- The configuration in a file. -/
def loadConfig (path : String) : Except Failure Config :=
  match env.files path with
  | .error e => .error (.file path e)
  | .ok s =>
    let format := formatOfPath path
    (Config.ofText format s).mapError fun e => .config path e (env.documentComplaint format s)

/-- The answer to a search: its query, as it is printed. -/
def answer (a : Arguments) : Except Failure String := do
  let config ← env.loadConfig a.config
  let query ← (config.search a.request).mapError .request
  a.format.render query

end Environment

/-! ## Events -/

/-- A text that may be absent, as it is shown to developers. -/
def optionalText : Option String → String
  | some s => "Some(" ++ String.ofList (Text.quoted s.toList) ++ ")"
  | none => "None"

/-- A request, as it is shown to developers. -/
def requestText (r : Request) : String :=
  "SearchParams \x7b filter: " ++ optionalText r.filter ++ ", sort: " ++ optionalText r.sort ++ " \x7d"

/-- The event of a search whose configuration is loaded. -/
def requestEvent (a : Arguments) : Log.Event :=
  ⟨.debug, "djolar", "Parsing search request",
    [("config", .shown a.config), ("params", .shown (requestText a.request))]⟩

/-- The events of a search, as far as it gets. -/
def Environment.events (env : Environment) (a : Arguments) : List Log.Event :=
  match env.loadConfig a.config with
  | .ok config => config.builtEvent :: requestEvent a :: config.searchEvents a.request
  | .error _ => []

/-! ## Runs -/

/-- What a run of the program leaves behind. -/
structure Outcome where
  exitCode : UInt32
  stdout : String
  stderr : String
  deriving DecidableEq

/-- A text without the spaces at its end, and a line feed. -/
def asLine (s : String) : String :=
  String.ofList (Text.trimEnd s.toList ++ ['\n'])

/-- The name and the version of the program. -/
def versionText : String := "djolar 0.3.0\n"

/-- How the program is called. -/
def helpText : String :=
  "Parse djolar filter and sort strings\n\n" ++
  "Usage: djolar [OPTIONS] --config <CONFIG>\n\n" ++
  "Options:\n" ++
  "  -c, --config <CONFIG>        Searcher configuration file (YAML for .yaml/.yml, JSON otherwise)\n" ++
  "      --query <QUERY>          URL query string carrying the `q` and `s` parameters\n" ++
  "  -f, --filter <FILTER>        Filter string, overriding `q` from --query\n" ++
  "  -s, --sort <SORT>            Sort string, overriding `s` from --query\n" ++
  "      --format <FORMAT>        Output format [default: json] [possible values: json, yaml, text]\n" ++
  "      --log-level <LOG_LEVEL>  Log filter used when RUST_LOG is unset [default: warn]\n" ++
  "  -h, --help                   Print help\n" ++
  "  -V, --version                Print version\n"

/-- A search that ends with a failure. Its report comes after what is in the log. -/
def Environment.failed (env : Environment) (log : String) (failure : Failure) : Outcome :=
  ⟨1, "", log ++ failure.report ++ env.backtrace ++ "\n"⟩

/-- A run of the program. The log library is set up before any file is read, and writes to the stream of
the reports. -/
def run (env : Environment) (args : List String) : Outcome :=
  match Command.ofArgs? args with
  | none => ⟨2, "", "error: the arguments are not in order\n\nFor more information, try '--help'.\n"⟩
  | some .help => ⟨0, helpText, ""⟩
  | some .version => ⟨0, versionText, ""⟩
  | some (.search a) =>
    match env.logFilter? a with
    | none => env.failed "" (.logLevel a.logLevel (env.logComplaint a.logLevel))
    | some filter =>
      let log := env.logText filter (env.events a)
      match env.answer a with
      | .ok s => ⟨0, asLine s, log⟩
      | .error failure => env.failed log failure

end FilterQuery.CommandLine
