import TaskProbe.Config.File
import TaskProbe.Json.Printer

/-!
# Settings

What a run goes by: the flags of the command line where they are given, else the values of the
configuration file, else the defaults. Each setting is found on its own.
-/

namespace TaskProbe.Config

/-- The flags that take precedence over a configuration file. -/
structure Overrides where
  timeoutSeconds : Option Nat := none
  noCompress : Bool := false
  compact : Bool := false
  logJson : Bool := false
  deriving DecidableEq, Repr

/-- The settings of a run. -/
structure Settings where
  timeoutSeconds : Option Nat := none
  compressRequests : Bool := true
  layout : Json.Layout := .pretty
  logLevel : Option String := none
  logJson : Bool := false
  deriving DecidableEq, Repr

namespace Settings

/-- The settings when nothing is given. -/
def default : Settings := {}

/-- The layout that is asked for by `pretty`. -/
def layoutOf (pretty : Bool) : Json.Layout := if pretty then .pretty else .compact

/-- Finds each setting: flag, file, default. -/
def resolve (file : Option File) (flags : Overrides) : Settings where
  timeoutSeconds := flags.timeoutSeconds <|> file.bind (·.timeoutSeconds)
  compressRequests :=
    if flags.noCompress then false
    else (file.bind (·.compressRequests)).getD default.compressRequests
  layout :=
    if flags.compact then .compact
    else ((file.bind (·.pretty)).map layoutOf).getD default.layout
  logLevel := file.bind (·.logLevel)
  logJson := flags.logJson || (file.bind (·.logJson)).getD default.logJson

/-- The rule for settings. -/
def validate (s : Settings) : Except ProbeError Unit :=
  checkTimeout "timeout_seconds" s.timeoutSeconds

end Settings

end TaskProbe.Config
