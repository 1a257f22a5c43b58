import TaskProbe.Json.Skip
import TaskProbe.Json.Typed

/-!
# Reading JSON objects of a known shape

An object whose fields are known by name; fields that are not known are skipped. A field may be given
once. The values of the fields may also be given as an array, in their order. The object is built
while it is read, so a fault is found where the reading stands.
-/

namespace TaskProbe.Json

/-- What an object looks like: its name in messages, the names of its fields in their order, those
that must be given, and how the value of a field with one of these names is read into it. -/
structure Shape (α : Type) where
  name : String
  fields : List String
  required : List String
  empty : α
  put : α → String → Reader α

namespace Shape

variable {α : Type}

/-- The rest of a text after an end that is looked for behind a fault. -/
def afterClose (close : UInt8) (s : List UInt8) : List UInt8 :=
  match skipBlanks s with
  | [] => []
  | c :: r => if c = close then r else c :: r

/-- The object with the value of a field, which is read if the field is known. -/
def field (shape : Shape α) (content : α) (key : String) (s : List UInt8) :
    Except Failure (α × Shorter s) :=
  if shape.fields.contains key then shape.put content key s
  else
    match Skip.value s with
    | .error e => .error e
    | .ok rest => .ok (content, rest)

/-- The fields of an object from the key of one of them on, which is read after its opening quote.
`given` holds the known fields so far. -/
def fieldsFrom (shape : Shape α) (given : List String) (content : α) (s : List UInt8) :
    Except Failure (α × Shorter s) :=
  match hk : string s with
  | .error e => .error e
  | .ok (cs, r) =>
    have hr : r.length < s.length := stringBody_length hk
    let key := String.ofList cs
    if given.contains key then
      .error (.before (.mismatch (.duplicateField key)) (afterClose Byte.closeBrace r))
    else
      let given := if shape.fields.contains key then key :: given else given
      match h : skipBlanks r with
      | [] => .error (.atHead .eofObject [])
      | c :: t =>
        if c ≠ Byte.colon then .error (.atHead .expectedColon (c :: t))
        else
          match shape.field content key t with
          | .error e => .error e
          | .ok (content, ⟨u, hu⟩) =>
            match h' : skipBlanks u with
            | [] => .error (.atHead .eofObject [])
            | d :: v =>
              have hv : v.length < s.length :=
                Nat.lt_trans (Nat.lt_trans (length_of_skipBlanks h') hu)
                  (Nat.lt_trans (length_of_skipBlanks h) hr)
              if d = Byte.closeBrace then
                match shape.required.find? (!given.contains ·) with
                | some name => .error (.before (.mismatch (.missingField name)) v)
                | none => .ok (content, ⟨v, hv⟩)
              else if d = Byte.comma then
                match h'' : skipBlanks v with
                | [] => .error (.atHead .eofValue [])
                | e :: w =>
                  have hw : w.length < s.length := Nat.lt_trans (length_of_skipBlanks h'') hv
                  if e = Byte.quote then
                    match fieldsFrom shape given content w with
                    | .error e => .error e
                    | .ok (content, rest) => .ok (content, rest.within (Nat.le_of_lt hw))
                  else if e = Byte.closeBrace then .error (.atHead .trailingComma (e :: w))
                  else .error (.atHead .keyMustBeString (e :: w))
              else .error (.atHead .expectedObjectCommaOrEnd (d :: v))
termination_by s.length

/-- The fields of an object after its opening brace. -/
def object (shape : Shape α) (s : List UInt8) : Except Failure (α × Shorter s) :=
  match h : skipBlanks s with
  | [] => .error (.atHead .eofObject [])
  | c :: t =>
    have ht := length_of_skipBlanks h
    if c = Byte.closeBrace then
      match shape.required with
      | name :: _ => .error (.before (.mismatch (.missingField name)) t)
      | [] => .ok (shape.empty, ⟨t, ht⟩)
    else if c = Byte.quote then
      match shape.fieldsFrom [] shape.empty t with
      | .error e => .error e
      | .ok (content, rest) => .ok (content, rest.within (Nat.le_of_lt ht))
    else .error (.atHead .keyMustBeString (c :: t))

/-- The fault of an array with too few values. -/
def tooFew (shape : Shape α) (found : Nat) : Fault :=
  .mismatch (.length found
    (shape.name ++ " with " ++ String.ofList (Text.decimal shape.fields.length) ++ " elements"))

/-- The closing bracket of an array whose values have all been read. -/
def closeArray (s : List UInt8) : Except Failure (Shorter s) :=
  match h : skipBlanks s with
  | [] => .error (.atHead .eofList [])
  | c :: t =>
    if c = Byte.closeBracket then .ok ⟨t, length_of_skipBlanks h⟩
    else if c = Byte.comma then
      match skipBlanks t with
      | [] => .error (.atHead .trailingCharacters [])
      | d :: u =>
        .error (.atHead
          (if d = Byte.closeBracket then .trailingComma else .trailingCharacters) (d :: u))
    else .error (.atHead .trailingCharacters (c :: t))

/-- The values of the fields `names` and the closing bracket, after `found` values. -/
def values (shape : Shape α) (found : Nat) (content : α) :
    List String → (s : List UInt8) → Except Failure (α × Shorter s)
  | [], s => (closeArray s).map fun rest => (content, rest)
  | name :: names, s =>
    match h : skipBlanks s with
    | [] => .error (.atHead .eofList [])
    | c :: t =>
      let next (u : List UInt8) (hu : u.length ≤ s.length) : Except Failure (α × Shorter s) :=
        match shape.put content name u with
        | .error e => .error e
        | .ok (content, ⟨v, hv⟩) =>
          match values shape (found + 1) content names v with
          | .error e => .error e
          | .ok (content, rest) =>
            .ok (content, rest.within (Nat.le_of_lt (Nat.lt_of_lt_of_le hv hu)))
      if c = Byte.closeBracket then .error (.before (shape.tooFew found) t)
      else if found = 0 then next (c :: t) (length_le_of_skipBlanks h)
      else if c = Byte.comma then
        match h' : skipBlanks t with
        | [] => .error (.atHead .eofValue [])
        | d :: u =>
          if d = Byte.closeBracket then .error (.atHead .trailingComma (d :: u))
          else
            next (d :: u) (h' ▸ Nat.le_trans (skipBlanks_length t)
              (Nat.le_of_lt (length_of_skipBlanks h)))
      else .error (.atHead .expectedListCommaOrEnd (c :: t))

/-- Reads an object, or an array in place of it. -/
def reader (shape : Shape α) : Reader α := Typed.atValue fun c r =>
  if c = Byte.openBracket then
    match shape.values 0 shape.empty shape.fields r with
    | .error e => .error e
    | .ok (content, rest) => .ok (content, rest.cons c)
  else if c = Byte.openBrace then
    match shape.object r with
    | .error e => .error e
    | .ok (content, rest) => .ok (content, rest.cons c)
  else .error (Typed.mismatch shape.name (c :: r))

end Shape

end TaskProbe.Json
