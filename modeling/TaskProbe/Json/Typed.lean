import TaskProbe.Json.Parser
import TaskProbe.Json.Printer

/-!
# Reading JSON of a known shape

Readers for a string, a flag, a number or one of a few words. A value of another shape is named in
the error; numbers, words and strings are read to their end for that, arrays and objects are not
entered. A value that nobody asks for is skipped without being built.
-/

namespace TaskProbe.Json.Typed

/-- What stands at the front of the text, which is not what was expected. The failure is placed
after the value, or before it where it is an array or an object. -/
def mismatch (expected : String) (s : List UInt8) : Failure :=
  let fail (found : Found) (rest : List UInt8) : Failure :=
    .before (.mismatch (.type found expected)) rest
  match s with
  | [] => .atHead .expectedValue []
  | c :: r =>
    if c = Byte.openBracket then fail .sequence s
    else if c = Byte.openBrace then fail .map s
    else
      match valueFrom none c r with
      | .error failure => failure
      | .ok (.null, rest) => fail .null rest.1
      | .ok (.bool b, rest) => fail (.bool b) rest.1
      | .ok (.number (.int n), rest) => fail (.int n) rest.1
      | .ok (.number (.float x), rest) => fail (.float (String.ofList (writeFloat x))) rest.1
      | .ok (.string text, rest) => fail (.string text) rest.1
      | .ok (_, rest) => fail .map rest.1

/-- A value that starts with some byte; at the end of the text there is none. -/
def atValue {α : Type} (read : (c : UInt8) → (r : List UInt8) → Except Failure (α × Shorter (c :: r))) :
    Reader α := fun s =>
  match h : skipBlanks s with
  | [] => .error (.atHead .eofValue [])
  | c :: r =>
    match read c r with
    | .error e => .error e
    | .ok (x, rest) => .ok (x, rest.within (length_le_of_skipBlanks h))

/-- A string, where one is expected under the given name. -/
def stringNamed (expected : String) : Reader (List Char) := atValue fun c r =>
  if c = Byte.quote then
    match h : Json.string r with
    | .error e => .error e
    | .ok (cs, rest) => .ok (cs, ⟨rest, length_of_string h⟩)
  else .error (mismatch expected (c :: r))

/-- A string. -/
def string : Reader (List Char) := stringNamed "a string"

/-- A flag. -/
def bool : Reader Bool := atValue fun c r =>
  if c = 0x74 then
    match h : word trueTail r with
    | .error e => .error e
    | .ok rest => .ok (true, ⟨rest, length_of_word h⟩)
  else if c = 0x66 then
    match h : word falseTail r with
    | .error e => .error e
    | .ok rest => .ok (false, ⟨rest, length_of_word h⟩)
  else .error (mismatch "a boolean" (c :: r))

/-- `null`, where it is expected as the unit value. -/
def unit : Reader Unit := atValue fun c r =>
  if c = 0x6E then
    match h : word nullTail r with
    | .error e => .error e
    | .ok rest => .ok ((), ⟨rest, length_of_word h⟩)
  else .error (mismatch "unit" (c :: r))

/-- An unsigned integer of 64 bits. -/
def uint64 : Reader Nat := atValue fun c r =>
  if c = Byte.minus || Byte.isDigit c then
    match h : number c r with
    | .error e => .error e
    | .ok (.int n, rest) =>
      if 0 ≤ n then .ok (n.toNat, ⟨rest, Nat.lt_succ_of_le (number_length h)⟩)
      else .error (.before (.mismatch (.value (.int n) "u64")) rest)
    | .ok (.float x, rest) =>
      .error (.before (.mismatch (.type (.float (String.ofList (writeFloat x))) "u64")) rest)
  else .error (mismatch "u64" (c :: r))

/-- `null`, or else what `reader` reads. -/
def optional {α : Type} (reader : Reader α) : Reader (Option α) := atValue fun c r =>
  if c = 0x6E then
    match h : word nullTail r with
    | .error e => .error e
    | .ok rest => .ok (none, ⟨rest, length_of_word h⟩)
  else (reader (c :: r)).map fun (x, rest) => (some x, rest)

/-! ## One of a few words -/

/-- A name among the known ones, read as a string. -/
def variantName (known : List String) : Reader String := fun s =>
  match stringNamed "variant identifier" s with
  | .error e => .error e
  | .ok (cs, rest) =>
    if known.contains (String.ofList cs) then .ok (String.ofList cs, rest)
    else .error (.before (.mismatch (.unknownVariant (String.ofList cs) known)) rest.1)

/-- A name among the known ones, read as the key of the first field of an object. -/
def variantKey (known : List String) : Reader String := fun s =>
  match skipBlanks s with
  | [] => .error (.atHead .eofObject [])
  | c :: r =>
    if c = Byte.quote then variantName known s
    else if c = Byte.closeBrace then .error (.atHead .expectedValue (c :: r))
    else .error (.atHead .keyMustBeString (c :: r))

/-- One of the known names: as a string, or as an object whose only field has that name and holds
nothing. -/
def variant (known : List String) : Reader String := atValue fun c r =>
  if c = Byte.quote then variantName known (c :: r)
  else if c = Byte.openBrace then
    match variantKey known r with
    | .error e => .error e
    | .ok (name, ⟨s, hs⟩) =>
      match h : skipBlanks s with
      | [] => .error (.atHead .eofObject [])
      | d :: t =>
        have ht := length_of_skipBlanks h
        if d ≠ Byte.colon then .error (.atHead .expectedColon (d :: t))
        else
          match unit t with
          | .error e => .error e
          | .ok ((), ⟨u, hu⟩) =>
            match h' : skipBlanks u with
            | [] => .error (.before .eofObject [])
            | e :: v =>
              have hv := length_of_skipBlanks h'
              if e = Byte.closeBrace then
                .ok (name, ⟨v, by simp only [List.length_cons]; omega⟩)
              else .error (.before .expectedValue (e :: v))
  else .error (.atHead .expectedValue (c :: r))

end TaskProbe.Json.Typed
