import TaskProbe.Log.Event
import TaskProbe.Text.Alphanumeric
import TaskProbe.Text.Blank
import TaskProbe.Text.Digits

/-!
# Filters

Which events a log shows. A filter is a list of directives such as `info` or `part=debug`, separated
by commas. For an event the directive with the longest target that its source starts with decides; of
two with one target the one that asks for a field, and else the later. Directives for spans and for
values of fields are read, but there are no spans, so they select nothing.
-/

namespace TaskProbe.Log

/-- The events of at least some level, or none at all. -/
abbrev Threshold := Option Level

/-- Whether a threshold lets a level through. -/
def admits (threshold : Threshold) (level : Level) : Bool :=
  threshold.any (·.rank ≤ level.rank)

/-- Which events a directive is about, and from which level on they are shown. -/
structure Directive where
  target : Option (List Char) := none
  threshold : Threshold := some .trace
  forSpans : Bool := false
  field : Option (List Char) := none
  deriving DecidableEq, Repr

/-- Why a directive cannot be read. -/
inductive DirectiveFault where
  | malformed
  | unknownLevel
  deriving DecidableEq, Repr

/-- The fault in words. -/
def DirectiveFault.message : DirectiveFault → String
  | .malformed => "invalid filter directive"
  | .unknownLevel =>
    "error parsing level filter: expected one of \"off\", \"error\", \"warn\", \"info\", "
      ++ "\"debug\", \"trace\", or a number 0-5"

/-! ## Reading directives -/

/-- The thresholds, each at its number. -/
def thresholds : List Threshold :=
  [none, some .error, some .warn, some .info, some .debug, some .trace]

/-- A threshold by its number. -/
def numberedThreshold? (s : List Char) : Option Threshold :=
  let digits :=
    match s with
    | '+' :: ds => ds
    | ds => ds
  (Text.readDigits? 10 digits).bind fun n => thresholds[n]?

/-- A threshold by its name in letters of any case. -/
def namedThreshold? (s : List Char) : Option Threshold :=
  match String.ofList (Text.lowerAscii s) with
  | "off" => some none
  | "error" => some (some .error)
  | "warn" => some (some .warn)
  | "info" => some (some .info)
  | "debug" => some (some .debug)
  | "trace" => some (some .trace)
  | _ => none

/-- A threshold by its number or its name. -/
def threshold? (s : List Char) : Option Threshold := numberedThreshold? s <|> namedThreshold? s

/-- A character that the name of a target starts with. -/
def isTargetStart (c : Char) : Bool :=
  c == '-' || c == ':' || c == '_' || Text.isAlphanumeric c

/-- The part of a directive after its target and spans. The text of its level is `textOf` of what
follows the sign. -/
def withLevel (textOf : List Char → List Char) (d : Directive) :
    List Char → Except DirectiveFault Directive
  | [] => .ok d
  | '=' :: s =>
    if (textOf s).isEmpty then .ok d
    else
      match threshold? (textOf s) with
      | some t => .ok { d with threshold := t }
      | none => .error .unknownLevel
  | _ => .error .malformed

/-- The part of a directive after the bracket that opens its spans: a name, and perhaps a field in
braces with its value. Without a name and a value it is about events that have the field. -/
def withSpans (textOf : List Char → List Char) (d : Directive) (s : List Char) :
    Except DirectiveFault Directive :=
  let isName (c : Char) := c ≠ ']' && c ≠ '\x7b'
  match s.dropWhile isName with
  | ']' :: rest => withLevel textOf { d with forSpans := true } rest
  | '\x7b' :: inBraces =>
    let field := (textOf inBraces).take (inBraces.takeWhile (· ≠ '\x7d')).length
    match inBraces.dropWhile (· ≠ '\x7d') with
    | '\x7d' :: ']' :: rest =>
      let forSpans := !(s.takeWhile isName).isEmpty || field.contains '='
      withLevel textOf { d with forSpans := forSpans, field := some field } rest
    | _ => .error .malformed
  | _ => .error .malformed

/-- A directive. A name alone is a level if it can be one, and a target otherwise. Blanks around a
directive are passed over when its parts are looked for, but the texts of the parts are counted off
from the blanks on; so a directive between blanks is well-formed and hardly ever selects anything. -/
def Directive.parse (s : List Char) : Except DirectiveFault Directive :=
  let inner := Text.trim s
  let textOf (rest : List Char) := s.drop (inner.length - rest.length)
  match inner with
  | [] => .error .malformed
  | '[' :: r => withSpans textOf {} r
  | c :: _ =>
    if !isTargetStart c then .error .malformed
    else
      let isName (c : Char) := c ≠ '=' && c ≠ '['
      let target := some (s.take (inner.takeWhile isName).length)
      match inner.dropWhile isName with
      | [] =>
        match threshold? s with
        | some t => .ok { threshold := t }
        | none => .ok { target := some s }
      | '[' :: r => withSpans textOf { target := target } r
      | rest => withLevel textOf { target := target } rest

/-- The parts of a text between commas that are not empty. -/
def parts (s : List Char) : List (List Char) := (splitCommas s).filter (· ≠ [])
where
  /-- The parts of a text between commas. -/
  splitCommas : List Char → List (List Char)
    | [] => [[]]
    | c :: s =>
      match splitCommas s with
      | [] => [[c]]
      | part :: more => if c = ',' then [] :: part :: more else (c :: part) :: more

/-! ## Filters -/

/-- Directives in the order they were given. -/
abbrev Filter := List Directive

namespace Filter

/-- The filter with some directives; without any, errors alone are shown. -/
def ofDirectives (ds : List Directive) : Filter :=
  if ds.isEmpty then [{ threshold := some .error }] else ds

/-- Reads a filter, all of whose directives must be well-formed. -/
def parse (s : List Char) : Except DirectiveFault Filter :=
  ((parts s).mapM Directive.parse).map ofDirectives

/-- Reads a filter without the directives that are not well-formed. -/
def parseLenient (s : List Char) : Filter :=
  ofDirectives ((parts s).filterMap fun part => (Directive.parse part).toOption)

/-- What is said about a directive that is left out. -/
def complaint? (part : List Char) : Option String :=
  match Directive.parse part with
  | .ok _ => none
  | .error fault => some ("ignoring `" ++ String.ofList part ++ "`: " ++ fault.message)

/-- What is said about the directives that are left out. -/
def complaints (s : List Char) : List String := (parts s).filterMap complaint?

/-- The name of the one field that events have. -/
def messageField : List Char := "message".toList

/-- Whether a directive is about the events of a source. -/
def concerns (name : List Char) (d : Directive) : Bool :=
  !d.forSpans && d.field.all (· == messageField) && d.target.all (·.isPrefixOf name)

/-- How closely a directive describes its events. -/
def rank (d : Directive) : Nat :=
  2 * (d.target.map (·.length + 1)).getD 0 + if d.field.isSome then 1 else 0

/-- The one of two directives that decides: the closer one, and of equally close ones the later. -/
def closer (best : Option Directive) (d : Directive) : Option Directive :=
  match best with
  | none => some d
  | some b => if rank d < rank b then best else some d

/-- The directive that decides about the events of a source. -/
def deciding (f : Filter) (source : Source) : Option Directive :=
  (f.filter (concerns source.name.toList)).foldl closer none

/-- Whether a filter lets an event through. -/
def shows (f : Filter) (e : Event) : Bool :=
  (f.deciding e.source).any fun d => admits d.threshold e.level

end Filter

/-! ## Choosing a filter -/

/-- The filter when nothing is said about the log. -/
def defaultFilter : String := "fc_task_client=info"

/-- The filter when much is to be logged. -/
def verboseFilter : String := "fc_task_client=debug,info"

/-- The filter that the command line and the configuration ask for. -/
def chosenFilter (verbose : Bool) (configured : Option String) : String :=
  if verbose then verboseFilter else configured.getD defaultFilter

/-- The variable of the environment that takes precedence over them. -/
def filterVariable : String := "RUST_LOG"

/-- The filter of a run: the one in the environment if it is well-formed, else the chosen one. Gives
what is to be said about directives that are left out, too. -/
def filterOf (fromEnvironment : Option String) (chosen : String) : Filter × List String :=
  match fromEnvironment.map fun s => Filter.parse s.toList with
  | some (.ok f) => (f, [])
  | _ => (Filter.parseLenient chosen.toList, Filter.complaints chosen.toList)

end TaskProbe.Log
