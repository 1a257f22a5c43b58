import TaskProbe.Decimal.Bounds
import TaskProbe.Decimal.Numeral
import TaskProbe.Json.Printer
import TaskProbe.Log.Event
import TaskProbe.Text.Blank

/-!
# What the server reports

A reply of the server may say that the task failed: an object with a number `errno` other than zero
and a text `error`. The number may be written as an integer, as a number without fraction or as a
string; where the text is missing, the table of the server's codes has one.
-/

namespace TaskProbe

/-- The text for a code of the server. -/
def codeMessage? : Int → Option String
  | 0 => some "success"
  | 1 => some "function not implemented"
  | 2 => some "assert failed"
  | 3 => some "argument invalid"
  | 4 => some "os env structure not found"
  | 5 => some "os env memory error"
  | 6 => some "os env stat error"
  | 7 => some "os env open error"
  | 8 => some "os env read error"
  | 9 => some "os env write error"
  | 10 => some "os env unlink error"
  | 11 => some "dc api ctx not found"
  | 12 => some "dc api ctx no free"
  | 13 => some "dc compare connect error"
  | 14 => some "dc compare exe task failed"
  | 15 => some "dc db module need retry"
  | 16 => some "dc db msql init error"
  | 17 => some "dc db msql set charset error"
  | 18 => some "dc db msql set connect timeout error"
  | 19 => some "dc db msql connect error"
  | 20 => some "dc db mysql query error"
  | 21 => some "dc db mysql use result error"
  | 22 => some "dc db mysql no result error"
  | 23 => some "dc db mysql fetch row error"
  | 24 => some "dc db mysql free result error"
  | 25 => some "dc db mysql no more rows error"
  | 26 => some "dc task has been canceled"
  | 27 => some "dc db mysql fetch field error"
  | 28 => some "dc db mysql pk not found error"
  | 29 => some "dc task too many diff rows"
  | 41 => some "dc task operations not over"
  | _ => none

/-- A failure that the server reports. -/
structure ServerError where
  errno : Int
  message : String
  deriving DecidableEq, Repr

namespace ServerError

/-! ## Reading the code -/

/-- Whether a signed integer of 64 bits holds the number. -/
def isInt64 (n : Int) : Bool := minInt64 ≤ n && n ≤ maxInt64

/-- The nearest signed integer of 64 bits. -/
def clampInt64 (n : Int) : Int := max minInt64 (min maxInt64 n)

/-- A code given as a binary64 number: a whole number of at most `2 ^ 63`, in absolute value. -/
def codeOfFloat? (x : Binary64) : Option Int :=
  match x.toInt? with
  | some n => if minInt64 ≤ n ∧ n ≤ -minInt64 then some (clampInt64 n) else none
  | none => none

/-- A code given as a text: an integer of 64 bits, or else a whole binary64 number of any size. -/
def codeOfText? (s : List Char) : Option Int :=
  let s := Text.trim s
  match (readInt? s).filter isInt64 with
  | some n => some n
  | none => ((Numeral.read? s).bind (·.toBinary64?)).bind fun x => x.toInt?.map clampInt64

/-- A code. An integer that a signed one of 64 bits does not hold is taken as a binary64 number. -/
def code? : Json.Value → Option Int
  | .number (.int n) =>
    if isInt64 n then some n else (Binary64.ofRatio (n < 0) n.natAbs 1).bind codeOfFloat?
  | .number (.float x) => codeOfFloat? x
  | .string s => codeOfText? s.toList
  | _ => none

/-! ## Reading the report -/

/-- What a reply says about failure. -/
inductive Report where
  /-- The reply has no code. -/
  | none
  /-- The code of the reply cannot be read. -/
  | unreadable (code : Json.Value)
  /-- The code is zero. -/
  | success
  | failure (error : ServerError)

/-- The text for a code: the one of the reply, the one of the table, or an empty one. -/
def textFor (code : Int) (fields : List (String × Json.Value)) : String :=
  match Keyed.lookup "error" fields with
  | some (.string s) => s
  | _ => (codeMessage? code).getD ""

/-- Reads what a reply says about failure. -/
def report : Json.Value → Report
  | .object fields =>
    match Keyed.lookup "errno" fields with
    | none => .none
    | some raw =>
      match code? raw with
      | none => .unreadable raw
      | some code => if code = 0 then .success else .failure ⟨code, textFor code fields⟩
  | _ => .none

/-- The failure that a reply reports. -/
def ofBody (body : Json.Value) : Option ServerError :=
  match report body with
  | .failure e => some e
  | _ => none

/-- Notes a code that cannot be read. -/
def events (body : Json.Value) : List Log.Event :=
  match report body with
  | .unreadable code =>
    [⟨.warn, .reply, "⚠️ Response carries an unreadable errno: " ++ code.compact⟩]
  | _ => []

end ServerError

end TaskProbe
