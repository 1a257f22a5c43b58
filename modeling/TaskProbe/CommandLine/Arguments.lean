import TaskProbe.CommandLine.Basic
import TaskProbe.Decimal.Bounds

/-!
# Arguments

Reading the command line from its arguments. Options may stand anywhere, a value may be attached to
its option or be the next argument, and short options may be written together; everything after `--`
is no option. Each option may be given once.

The value of an option that is the next argument is looked at when the option is settled: when another
option or the task id follows, or at the end. An unknown argument is reported before that.
-/

namespace TaskProbe.CommandLine

/-- Why arguments are not accepted, or not meant to start a run. -/
inductive UsageFault where
  | unknownArgument
  | missingValue
  | malformedValue
  | repeatedOption
  | unneededValue
  | helpAsked
  deriving DecidableEq, Repr

/-- The code that a run with these arguments ends with. -/
def UsageFault.exitCode : UsageFault → Nat
  | .helpAsked => 0
  | _ => 2

/-- An option without a value. -/
inductive Flag where
  | compact
  | noCompress
  | logJson
  | verbose
  | help
  deriving DecidableEq, Repr

/-- An option with a value. -/
inductive Setting where
  | submit
  | timeoutSecs
  | config
  deriving DecidableEq, Repr

/-- An option of either kind. -/
inductive Choice where
  | flag (f : Flag)
  | setting (s : Setting)
  deriving DecidableEq, Repr

/-- The option with a long name. -/
def ofLongName? (name : List Char) : Option Choice :=
  match String.ofList name with
  | "compact" => some (.flag .compact)
  | "no-compress" => some (.flag .noCompress)
  | "log-json" => some (.flag .logJson)
  | "verbose" => some (.flag .verbose)
  | "help" => some (.flag .help)
  | "submit" => some (.setting .submit)
  | "timeout-secs" => some (.setting .timeoutSecs)
  | "config" => some (.setting .config)
  | _ => none

/-- The option with a short name. -/
def ofShortName? : Char → Option Choice
  | 'v' => some (.flag .verbose)
  | 'h' => some (.flag .help)
  | 'c' => some (.setting .config)
  | _ => none

/-! ## Giving options -/

/-- An option that is not settled: its value may be the next argument, or has been given there. -/
inductive Pending where
  | nothing
  | awaited (s : Setting)
  | given (s : Setting) (value : String)
  deriving DecidableEq, Repr

/-- What the arguments so far give. -/
structure State where
  line : CommandLine := {}
  hasTaskId : Bool := false
  pending : Pending := .nothing
  deriving DecidableEq, Repr

/-- An unsigned integer of 64 bits, which may have a plus sign. -/
def readTimeout? (value : String) : Option Nat :=
  let digits :=
    match value.toList with
    | '+' :: ds => ds
    | ds => ds
  (Text.readDigits? 10 digits).filter (· ≤ maxUInt64)

/-- Gives an option its value. -/
def set (line : CommandLine) (s : Setting) (value : String) : Except UsageFault CommandLine :=
  match s with
  | .submit =>
    if line.submit.isSome then .error .repeatedOption else .ok { line with submit := some value }
  | .config =>
    if line.config.isSome then .error .repeatedOption else .ok { line with config := some value }
  | .timeoutSecs =>
    if line.timeoutSecs.isSome then .error .repeatedOption
    else
      match readTimeout? value with
      | some n => .ok { line with timeoutSecs := some n }
      | none => .error .malformedValue

/-- Sets a flag. -/
def raise (line : CommandLine) : Flag → Except UsageFault CommandLine
  | .compact => if line.compact then .error .repeatedOption else .ok { line with compact := true }
  | .noCompress =>
    if line.noCompress then .error .repeatedOption else .ok { line with noCompress := true }
  | .logJson => if line.logJson then .error .repeatedOption else .ok { line with logJson := true }
  | .verbose => if line.verbose then .error .repeatedOption else .ok { line with verbose := true }
  | .help => .error .helpAsked

namespace State

/-- Settles the option whose value was to come, or came, as an argument of its own. -/
def settle (st : State) : Except UsageFault State :=
  match st.pending with
  | .nothing => .ok st
  | .awaited _ => .error .missingValue
  | .given s value =>
    (set st.line s value).map fun line => { st with line := line, pending := .nothing }

/-- An option with a value attached to it. -/
def attach (st : State) (s : Setting) (value : List Char) : Except UsageFault State := do
  let st ← st.settle
  let line ← set st.line s (String.ofList value)
  .ok { st with line := line }

/-- An option whose value is the next argument. -/
def await (st : State) (s : Setting) : Except UsageFault State :=
  st.settle.map fun st => { st with pending := .awaited s }

/-- A flag. -/
def flag (st : State) (f : Flag) : Except UsageFault State := do
  let st ← st.settle
  let line ← raise st.line f
  .ok { st with line := line }

/-! ## Single arguments -/

/-- An argument after two hyphens: a name, and a value after an equals sign. -/
def long (st : State) (s : List Char) : Except UsageFault State :=
  match ofLongName? (s.takeWhile (· ≠ '=')), s.dropWhile (· ≠ '=') with
  | none, _ => .error .unknownArgument
  | some (.flag f), [] => st.flag f
  | some (.flag _), _ :: _ => .error .unneededValue
  | some (.setting o), [] => st.await o
  | some (.setting o), _ :: value => st.attach o value

/-- An argument after one hyphen: flags, and an option whose value may follow in the argument, also
after an equals sign. -/
def short (st : State) : List Char → Except UsageFault State
  | [] => .ok st
  | c :: r =>
    match ofShortName? c with
    | none => .error .unknownArgument
    | some (.flag f) => do
      let st ← st.flag f
      st.short r
    | some (.setting o) =>
      match r with
      | [] => st.await o
      | '=' :: value => st.attach o value
      | value => st.attach o value

/-- An argument that is no option. -/
def positional (st : State) (value : String) : Except UsageFault State :=
  if st.hasTaskId then .error .unknownArgument
  else st.settle.map fun st =>
    { st with line := { st.line with taskId := value }, hasTaskId := true }

/-- An argument that does not look like an option: an awaited value, or the task id. -/
def plain (st : State) (value : String) : Except UsageFault State :=
  match st.pending with
  | .awaited s => .ok { st with pending := .given s value }
  | _ => st.positional value

/-- An argument before `--`. -/
def argument (st : State) (value : String) : Except UsageFault State :=
  match value.toList with
  | '-' :: '-' :: s => st.long s
  | '-' :: c :: s => st.short (c :: s)
  | _ => st.plain value

/-- All arguments. -/
def run (st : State) : List String → Except UsageFault State
  | [] => st.settle
  | a :: rest =>
    if a = "--" then (rest.foldlM positional st).bind settle
    else (st.argument a).bind fun st => st.run rest

end State

/-- Reads the command line from its arguments, without the name of the program. -/
def parse (arguments : List String) : Except UsageFault CommandLine :=
  (State.run {} arguments).map (·.line)

end TaskProbe.CommandLine
