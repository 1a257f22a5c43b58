import TaskProbe.Error
import TaskProbe.Text.Quoted
import TaskProbe.Url.Parser

/-!
# Rules for single values

What a value of the command line or of the configuration must be like. A rule that is broken says
how (`Breach`); `require` puts the name of the field and the value to it.
-/

namespace TaskProbe

/-- How a value breaks its rule. -/
inductive Breach where
  | emptyUrl
  | malformedUrl (fault : Url.Fault)
  | unsupportedScheme (scheme : List Char)
  | emptyPath
  | nulInPath
  | blank
  | badCharacter (c : Char)
  | relativeSegment
  | outOfRange (min max : Int)
  deriving DecidableEq, Repr

/-- The breach in words. -/
def Breach.message : Breach → String
  | .emptyUrl => "URL cannot be empty"
  | .malformedUrl fault => "Invalid URL format: " ++ fault.message
  | .unsupportedScheme scheme => "Unsupported URL scheme: " ++ String.ofList scheme
  | .emptyPath => "Path cannot be empty"
  | .nulInPath => "Path contains null bytes"
  | .blank => "Value cannot be empty or whitespace-only"
  | .badCharacter c =>
    "Character " ++ String.ofList (Text.quotedChar c) ++ " is not allowed in a path segment"
  | .relativeSegment => "Relative path segments are not allowed"
  | .outOfRange min max =>
    "Value must be between " ++ ProbeError.intText min ++ " and " ++ ProbeError.intText max

namespace Rule

/-- A URL that requests can go to. -/
def url [Url.Idna] (s : List Char) : Except Breach Url :=
  if s.isEmpty then .error .emptyUrl
  else
    match Url.parse s with
    | .error fault => .error (.malformedUrl fault)
    | .ok u => if u.isWeb then .ok u else .error (.unsupportedScheme u.scheme)

/-- The name of a file. -/
def path (s : List Char) : Except Breach Unit :=
  if s.isEmpty then .error .emptyPath
  else if s.contains '\x00' then .error .nulInPath
  else .ok ()

/-- A text with something to see in it. -/
def nonBlank (s : List Char) : Except Breach Unit :=
  if Text.isAllBlank s then .error .blank else .ok ()

/-- A character that one segment of a URL's path cannot be given with. -/
def isForbiddenInSegment (c : Char) : Bool :=
  c == '/' || c == '?' || c == '#' || c == '\\' || Text.isBlank c || Text.isControl c

/-- A text that stays one segment of a URL's path. -/
def segment (s : List Char) : Except Breach Unit :=
  if Text.isAllBlank s then .error .blank
  else
    match s.find? isForbiddenInSegment with
    | some c => .error (.badCharacter c)
    | none => if s = ['.'] ∨ s = ['.', '.'] then .error .relativeSegment else .ok ()

/-- A number between two others, which are allowed too. -/
def range (n min max : Int) : Except Breach Unit :=
  if n < min ∨ max < n then .error (.outOfRange min max) else .ok ()

end Rule

/-- The outcome of a rule for the value of a field. -/
def require {α : Type} (field value : String) (outcome : Except Breach α) : Except ProbeError α :=
  outcome.mapError fun breach => .invalidValue field value breach.message

end TaskProbe
