/-!
# Variables of the environment

A configuration text may name variables as `${NAME}`. Each such placeholder is replaced once by the
value of its variable; what the value holds is not looked at again, and a placeholder whose variable
is not set stays as it is.
-/

namespace TaskProbe.Config

/-- The value of each variable that is set. -/
abbrev Environment := String → Option String

/-- A character that the name of a variable starts with. -/
def isNameStart (c : Char) : Bool := c.isAlpha || c == '_'

/-- A character within the name of a variable. -/
def isNameChar (c : Char) : Bool := isNameStart c || c.isDigit

/-- The name in a placeholder, after the opening brace, and what follows the closing one. -/
def placeholderName? (s : List Char) : Option (List Char × List Char) :=
  match s.takeWhile isNameChar, s.dropWhile isNameChar with
  | c :: name, '\x7d' :: rest => if isNameStart c then some (c :: name, rest) else none
  | _, _ => none

theorem placeholderName?_length {s : List Char} {x : List Char × List Char}
    (h : placeholderName? s = some x) : x.2.length < s.length := by
  have hs := (List.dropWhile_sublist isNameChar (l := s)).length_le
  unfold placeholderName? at h
  split at h
  · next hr =>
    rw [hr] at hs
    split at h
    · cases h; exact hs
    · cases h
  · cases h

/-- A placeholder as it is written. -/
def writePlaceholder (name : List Char) : List Char := '$' :: '\x7b' :: name ++ ['\x7d']

/-- The text with the values of variables in place of their placeholders. -/
def expand (env : Environment) (s : List Char) : List Char :=
  match s with
  | [] => []
  | '$' :: '\x7b' :: r =>
    match _h : placeholderName? r with
    | some (name, rest) =>
      (match env (String.ofList name) with
        | some value => value.toList
        | none => writePlaceholder name) ++ expand env rest
    | none => '$' :: expand env ('\x7b' :: r)
  | c :: r => c :: expand env r
termination_by s.length
decreasing_by
  · have := placeholderName?_length _h
    simp only [List.length_cons] at *
    omega
  · exact Nat.lt_succ_self _
  · exact Nat.lt_succ_self _

end TaskProbe.Config
