import GameLibrary.Text.Natural

/-!
# Arguments

The command line takes options of the form `--name value` or `--name=value`, and flags of the form
`--name`. Some of them can also be given in the environment, where a flag is `true` or `false`; the
command line takes precedence. Every option but the filters may be given once.
-/

namespace GameLibrary.CommandLine

/-- What an option takes. -/
inductive OptionKind where
  /-- No value. -/
  | flag
  | text
  /-- A text that is not empty. -/
  | path
  /-- A natural number of sixty-four bits. -/
  | number
deriving DecidableEq, Repr

/-- An option. -/
structure OptionSpec where
  name : String
  kind : OptionKind
  environment : Option String := none
  repeatable : Bool := false
deriving DecidableEq, Repr

/-- The options. -/
def options : List OptionSpec := [
  { name := "library", kind := .path, environment := some "SHELFWISE_LIBRARY" },
  { name := "filter", kind := .text, repeatable := true },
  { name := "store", kind := .text },
  { name := "genre", kind := .text },
  { name := "search", kind := .text },
  { name := "popularity-url", kind := .text, environment := some "POPULARITY_URL" },
  { name := "cache-dir", kind := .path, environment := some "SHELFWISE_CACHE_DIR" },
  { name := "tier1-ttl-secs", kind := .number, environment := some "TIER1_TTL_SECS" },
  { name := "tier2-ttl-secs", kind := .number, environment := some "TIER2_TTL_SECS" },
  { name := "workers", kind := .number, environment := some "POPULARITY_WORKERS" },
  { name := "call-timeout-secs", kind := .number, environment := some "CALL_TIMEOUT_SECS" },
  { name := "resolve-timeout-secs", kind := .number, environment := some "RESOLVE_TIMEOUT_SECS" },
  { name := "list-filters", kind := .flag },
  { name := "print-metrics", kind := .flag },
  { name := "log-level", kind := .text, environment := some "LOG_LEVEL" },
  { name := "log-json", kind := .flag, environment := some "LOG_JSON" }]

/-- Why the program does not run. -/
inductive Refusal where
  /-- The arguments are wrong. -/
  | wrongUsage
  /-- The user asked how to use the program. -/
  | help
  /-- The user asked for the version of the program. -/
  | version
deriving DecidableEq, Repr

/-- The options that are given, with their values. -/
abbrev Given := List (String × String)

/-- Whether an option of a kind takes the value. -/
def OptionKind.takes : OptionKind → String → Bool
  | flag, value => value = "true" || value = "false"
  | text, _ => true
  | path, value => !value.isEmpty
  | number, value => (Text.natural? 64 value).isSome

/-- The given options with one more. -/
def give (given : Given) (option : OptionSpec) (value : String) : Except Refusal Given :=
  if !option.kind.takes value then .error .wrongUsage
  else if !option.repeatable && given.any (·.1 = option.name) then .error .wrongUsage
  else .ok (given ++ [(option.name, value)])

/-- The given options with one more by its name, and the option that still wants its value. -/
def giveNamed (given : Given) (name : String) (value : Option String) :
    Except Refusal (Given × Option OptionSpec) :=
  match options.find? (·.name = name), value with
  | some option, value =>
      match option.kind, value with
      | .flag, none => (give given option "true").map (·, none)
      | .flag, some _ => .error .wrongUsage
      | _, some value => (give given option value).map (·, none)
      | _, none => .ok (given, some option)
  | none, none =>
      if name = "help" then .error .help
      else if name = "version" then .error .version
      else .error .wrongUsage
  | none, some _ => .error .wrongUsage

/-- The name of a long option and the value behind its equals sign. -/
def splitLong (chars : List Char) : String × Option String :=
  (String.ofList (chars.takeWhile (· ≠ '=')),
    match chars.dropWhile (· ≠ '=') with
    | [] => none
    | _ :: value => some (String.ofList value))

/-- Reads the arguments from left to right. An option that wants its value takes the next argument,
unless that begins with a hyphen and has more than one character; a value without an option and
everything behind `--` is refused. -/
def scan (given : Given) (pending : Option OptionSpec) : List String → Except Refusal Given
  | [] => if pending.isSome then .error .wrongUsage else .ok given
  | argument :: rest =>
      match argument.toList, pending with
      | ['-', '-'], none => if rest.isEmpty then .ok given else .error .wrongUsage
      | '-' :: '-' :: long, none =>
          let (name, value) := splitLong long
          match giveNamed given name value with
          | .error refusal => .error refusal
          | .ok (given, pending) => scan given pending rest
      | '-' :: 'h' :: _, none => .error .help
      | '-' :: 'V' :: _, none => .error .version
      | '-' :: _ :: _, _ => .error .wrongUsage
      | _, none => .error .wrongUsage
      | _, some option =>
          match give given option argument with
          | .error refusal => .error refusal
          | .ok given => scan given none rest

/-- The given options with those that only the environment gives. -/
def withEnvironment (environment : String → Option String) (given : Given) :
    Except Refusal Given :=
  options.foldlM
    (fun known option =>
      match option.environment.bind environment with
      | some value =>
          if given.any (·.1 = option.name) then .ok known else give known option value
      | none => .ok known)
    given

/-- What the program is asked to do. -/
structure Arguments where
  /-- The file of the library; it is not needed to list the filters. -/
  library : Option String
  filters : List String
  store : Option String
  genre : Option String
  search : Option String
  /-- The address of the popularity service; there is no popularity without it. -/
  popularityUrl : Option String
  /-- The directory of the durable tier, which is in memory without it. -/
  cacheDirectory : Option String
  tier1Seconds : Nat
  tier2Seconds : Nat
  workers : Nat
  callTimeoutSeconds : Nat
  resolveTimeoutSeconds : Nat
  listFilters : Bool
  printMetrics : Bool
deriving DecidableEq, Repr

namespace Arguments

/-- The value of an option that is given. -/
def value? (given : Given) (name : String) : Option String :=
  (given.find? (·.1 = name)).map (·.2)

/-- The number that is given, or another one. -/
def numberOr (default : Nat) (given : Given) (name : String) : Nat :=
  ((value? given name).bind (Text.natural? 64)).getD default

/-- What the given options ask for. -/
def ofGiven (given : Given) : Arguments where
  library := value? given "library"
  filters := (given.filter (·.1 = "filter")).map (·.2)
  store := value? given "store"
  genre := value? given "genre"
  search := value? given "search"
  popularityUrl := value? given "popularity-url"
  cacheDirectory := value? given "cache-dir"
  tier1Seconds := numberOr 300 given "tier1-ttl-secs"
  tier2Seconds := numberOr 86400 given "tier2-ttl-secs"
  workers := numberOr 4 given "workers"
  callTimeoutSeconds := numberOr 10 given "call-timeout-secs"
  resolveTimeoutSeconds := numberOr 30 given "resolve-timeout-secs"
  listFilters := value? given "list-filters" = some "true"
  printMetrics := value? given "print-metrics" = some "true"

/-- What a command line in an environment asks for. A library is needed for everything but the list
of filters. -/
def read (arguments : List String) (environment : String → Option String) :
    Except Refusal Arguments := do
  let read := ofGiven (← withEnvironment environment (← scan [] none arguments))
  if read.library.isNone && !read.listFilters then .error .wrongUsage else .ok read

end Arguments

end GameLibrary.CommandLine
