import FilterQuery.Proofs.ExitStatus
import FilterQuery.Proofs.QueryString
import FilterQuery.Proofs.SpelledArguments

/-!
# Flags and query strings

A filter string and a sort string can be given by flags or inside the query string. A flag is the same
as a parameter that is written behind the query string: it overrides what the query string says, since
of a parameter the last value counts, and it may be empty without being absent.

The two ways part in one place. A query string that is an argument of its own is refused when it begins
with a dash, but the dash alone is taken; with a parameter behind it the dash is no longer alone.

## Key results

- `Request.ofQueryString_behind`: parameters behind a query string override it
- `answer_congr`, `events_congr`: an answer and what is logged on the way to it depend on the request, not
  on where it comes from
- `ValueOption.reaches_append_iff`: a value with a text behind it is read as before
- `run_flags_eq_run_query`: runs with flags and runs with parameters behind the query string
-/

namespace FilterQuery

/-! ## Requests -/

/-- A parameter behind a query string. One that is not given is not written. -/
def Form.behind (name : Char) : Option String → String
  | some value => "&" ++ written name value
  | none => ""

namespace Request

variable (query : String)

/-- A parameter behind a query string is read first, and the query string where the parameter says
    nothing. -/
private theorem ofQueryString_behind_some {name : Char} (hname : name ≠ '?') (value : String) :
    ofQueryString (query ++ Form.behind name (some value)) =
      ⟨(ofQueryString (Form.written name value)).filter.or (ofQueryString query).filter,
        (ofQueryString (Form.written name value)).sort.or (ofQueryString query).sort⟩ := by
  rw [Form.behind, ← String.append_assoc, ofQueryString_append _ _ (head?_written hname value)]

/-- Parameters behind a query string override those inside, as flags do. -/
theorem ofQueryString_behind (filter sort : Option String) :
    ofQueryString (query ++ Form.behind 'q' filter ++ Form.behind 's' sort) =
      ⟨filter.or (ofQueryString query).filter, sort.or (ofQueryString query).sort⟩ := by
  -- The two parameters are taken one after the other, the sort string being the last.
  have hfilter : ofQueryString (query ++ Form.behind 'q' filter) =
      ⟨filter.or (ofQueryString query).filter, (ofQueryString query).sort⟩ := by
    cases filter with
    | none => simp [Form.behind]
    | some value =>
      rw [ofQueryString_behind_some query (by decide), (ofQueryString_written value).1]
      simp
  cases sort with
  | none => simpa [Form.behind] using hfilter
  | some value =>
    rw [ofQueryString_behind_some _ (by decide), (ofQueryString_written value).2, hfilter]
    simp

end Request

namespace CommandLine

section

variable (env : Environment) {a b : Arguments}

/-- An answer depends on the request, not on where it comes from. -/
theorem answer_congr (hrequest : a.request = b.request) (hconfig : a.config = b.config)
    (hformat : a.format = b.format) : env.answer a = env.answer b := by
  simp only [Environment.answer, hrequest, hconfig, hformat]

/-- The events on the way to an answer depend on the request and the configuration alone. -/
theorem events_congr (hrequest : a.request = b.request) (hconfig : a.config = b.config) :
    env.events a = env.events b := by
  simp only [Environment.events, requestEvent, hrequest, hconfig]

/-- Whether there is a log, and which events it is for, is a matter of the options for it. -/
theorem logFilter?_congr (hlevel : a.logLevel = b.logLevel) : env.logFilter? a = env.logFilter? b := by
  simp only [Environment.logFilter?, hlevel]

end

/-! ## Arguments -/

/-- A value begins alike with a text behind it and without, so it is read alike. The lone dash is the
    exception: it is a value only as long as nothing stands behind it. -/
theorem ValueOption.reaches_append_iff {o : ValueOption} {spelling : Spelling} {value tail : String}
    (hdash : spelling = .separate → value = "-" → tail = "") (hhead : tail.toList.head? ≠ some '-') :
    o.Reaches spelling (value ++ tail) ↔ o.Reaches spelling value := by
  cases spelling with
  | joined => exact iff_of_true (.inl rfl) (.inl rfl)
  | separate =>
    -- Behind nothing the text decides itself how the argument begins.
    by_cases hempty : value = ""
    · subst hempty
      have htail : o.accepts ("" ++ tail) = true := by simp [accepts, hhead]
      have hnothing : o.accepts "" = true := by simp [accepts]
      exact iff_of_true (.inr htail) (.inr hnothing)
    by_cases hlone : value = "-"
    · rw [hdash rfl hlone, String.append_empty]
    have hchars : value.toList ≠ [] := by simpa using hempty
    have hbegin : (value ++ tail).toList.head? = value.toList.head? := by
      rw [String.toList_append, List.head?_append_of_ne_nil _ hchars]
    have hjoined : value ++ tail ≠ "-" := by
      intro h
      have hlist : value.toList ++ tail.toList = ['-'] := by rw [← String.toList_append, h]; rfl
      rw [List.append_eq_singleton_iff] at hlist
      cases hlist with
      | inl hnone => exact hchars hnone.1
      | inr hself => exact hlone (String.toList_injective hself.1)
    simp only [Reaches, accepts, hbegin, beq_eq_false_iff_ne.2 hjoined, beq_eq_false_iff_ne.2 hlone]

/-! ## Runs -/

/-- Flags and parameters behind the query string are two spellings of the same request: for every query
    string that is taken as a value, the runs end alike, with the same code and the same output, whatever
    it says itself. What is logged is part of the output. A lone dash must be joined to the name of its
    option if anything is to stand behind it. -/
theorem run_flags_eq_run_query (env : Environment) (spelling : ValueOption → Spelling)
    (config query : String) (filter sort : Option String) (format : Option OutputFormat)
    (hquery : ValueOption.query.Reaches (spelling .query) query)
    (hdash : spelling .query = .separate → query = "-" → filter = none ∧ sort = none) :
    run env (searchArguments spelling config query filter sort format) =
      run env (searchArguments spelling config
        (query ++ Form.behind 'q' filter ++ Form.behind 's' sort) none none format) := by
  -- Nothing stands behind a lone dash that is an argument of its own.
  have htail : spelling .query = .separate → query = "-" →
      Form.behind 'q' filter ++ Form.behind 's' sort = "" := by
    intro hseparate hquery
    obtain ⟨rfl, rfl⟩ := hdash hseparate hquery
    rfl
  -- What is written behind begins with an ampersand, never with a dash.
  have hhead : (Form.behind 'q' filter ++ Form.behind 's' sort).toList.head? ≠ some '-' := by
    cases filter <;> cases sort <;> simp [Form.behind]
  have hquery' : ValueOption.query.Reaches (spelling .query)
      (query ++ Form.behind 'q' filter ++ Form.behind 's' sort) := by
    rw [String.append_assoc]
    exact (ValueOption.reaches_append_iff htail hhead).2 hquery
  -- The two runs differ in their arguments, but not in the request that these stand for.
  have hrequest : Arguments.request ⟨config, some query, filter, sort, format.getD .json, "warn"⟩ =
      Arguments.request ⟨config,
        some (query ++ Form.behind 'q' filter ++ Form.behind 's' sort), none, none,
        format.getD .json, "warn"⟩ := by
    simp only [Arguments.request, Request.ofQueryString_behind, Option.none_or]
  have hanswer := answer_congr env hrequest rfl rfl
  have hevents := events_congr env hrequest rfl
  have hfilter : env.logFilter? ⟨config, some query, filter, sort, format.getD .json, "warn"⟩ =
      env.logFilter? ⟨config, some (query ++ Form.behind 'q' filter ++ Form.behind 's' sort), none, none,
        format.getD .json, "warn"⟩ := logFilter?_congr env rfl
  -- Both runs take the path of the configuration, or neither does.
  by_cases hconfig : ValueOption.config.Reaches (spelling .config) config ∧ config ≠ ""
  · obtain ⟨hreaches, hpath⟩ := hconfig
    simp only [run, Command.ofArgs?_searchArguments, hreaches, hpath, hquery, hquery', ne_eq,
      not_false_eq_true, and_self, if_true, hanswer, hevents, hfilter]
  · rw [run, run, Command.ofArgs?_searchArguments, Command.ofArgs?_searchArguments,
      if_neg fun h => hconfig ⟨h.1, h.2.1⟩, if_neg fun h => hconfig ⟨h.1, h.2.1⟩]

/-- Empty flags are given all the same, and they override what the query string says twice. -/
theorem run_flags_eq_run_query_desk :
    (run deskFiles ["--config", "desk.json", "--query", "?q=a&%71=b&s=x", "--filter", "",
        "--sort", "-st"]).exitCode = 0 ∧
      run deskFiles ["--config", "desk.json", "--query", "?q=a&%71=b&s=x", "--filter", "",
        "--sort", "-st"] =
      run deskFiles ["--config", "desk.json", "--query", "?q=a&%71=b&s=x&q=&s=%2D%73%74"] := by
  have hquery : ValueOption.query.Reaches .separate "?q=a&%71=b&s=x" := .inr (by decide)
  have hlone : Spelling.separate = .separate → "?q=a&%71=b&s=x" = "-" →
      some "" = none ∧ some "-st" = none :=
    fun _ h => absurd h (by decide)
  have hrun := run_flags_eq_run_query deskFiles (fun _ => .separate) "desk.json" "?q=a&%71=b&s=x"
    (some "") (some "-st") none hquery hlone
  exact ⟨by decide, hrun⟩

/-- A lone dash is taken as an argument, but with a parameter behind it, it is refused. -/
theorem run_flags_ne_run_query_lone_dash :
    ValueOption.query.Reaches .separate "-" ∧
      "-" ++ Form.behind 'q' (some "x") ++ Form.behind 's' none = "-&q=%78" ∧
      (run deskFiles ["--config", "desk.json", "--query", "-", "--filter", "x"]).exitCode = 0 ∧
      (run deskFiles ["--config", "desk.json", "--query", "-&q=%78"]).exitCode = 2 := by
  decide

end CommandLine

end FilterQuery
