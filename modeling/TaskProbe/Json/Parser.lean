import TaskProbe.Json.Scan

/-!
# Reading JSON values

A value is read by recursion on the depth that is left for arrays and objects; items and fields are
read in a loop over the unread bytes, which ends because every reader of a value takes at least one
byte (its type says so). The whole text must hold one value and nothing after it but blanks.
-/

namespace TaskProbe.Json

/-- Takes something off the front of the unread bytes, at least one of them. -/
abbrev Reader (α : Type) := (s : List UInt8) → Except Failure (α × Shorter s)

/-- A rest that is shorter than a part of `s` is shorter than `s`. -/
def Shorter.within {s t : List UInt8} (r : Shorter t) (h : t.length ≤ s.length) : Shorter s :=
  ⟨r.1, Nat.lt_of_lt_of_le r.2 h⟩

/-- The same with one more byte in front of the text. -/
def Shorter.cons {t : List UInt8} (c : UInt8) (r : Shorter t) : Shorter (c :: t) :=
  ⟨r.1, Nat.lt_succ_of_lt r.2⟩

/-- How deep arrays and objects may nest. -/
def maxDepth : Nat := 127

theorem length_of_skipBlanks {s r : List UInt8} {c : UInt8} (h : skipBlanks s = c :: r) :
    r.length < s.length := by
  have := skipBlanks_length s
  rw [h] at this
  exact this

theorem length_le_of_skipBlanks {s r : List UInt8} {c : UInt8} (h : skipBlanks s = c :: r) :
    (c :: r).length ≤ s.length :=
  h ▸ skipBlanks_length s

theorem length_of_word {w r t : List UInt8} {c : UInt8} (h : word w r = .ok t) :
    t.length < (c :: r).length :=
  Nat.lt_succ_of_le (word_length h)

theorem length_of_string {r t : List UInt8} {c : UInt8} {cs : List Char}
    (h : string r = .ok (cs, t)) : t.length < (c :: r).length :=
  Nat.lt_succ_of_lt (stringBody_length h)

/-! ## Items and fields -/

/-- The items of an array from one of them on, and its closing bracket. -/
def items {α : Type} (item : Reader α) (s : List UInt8) :
    Except Failure (List α × Shorter s) :=
  match item s with
  | .error e => .error e
  | .ok (x, ⟨r, hr⟩) =>
    match h : skipBlanks r with
    | [] => .error (.atHead .eofList [])
    | c :: t =>
      have ht := Nat.lt_trans (length_of_skipBlanks h) hr
      if c = Byte.closeBracket then .ok ([x], ⟨t, ht⟩)
      else if c = Byte.comma then
        match _h' : skipBlanks t with
        | [] => .error (.atHead .eofValue [])
        | d :: u =>
          have hu : (d :: u).length < s.length :=
            _h' ▸ Nat.lt_of_le_of_lt (skipBlanks_length t) ht
          if d = Byte.closeBracket then .error (.atHead .trailingComma (d :: u))
          else
            match items item (d :: u) with
            | .error e => .error e
            | .ok (xs, rest) => .ok (x :: xs, rest.within (Nat.le_of_lt hu))
      else .error (.atHead .expectedListCommaOrEnd (c :: t))
termination_by s.length
decreasing_by exact hu

/-- The fields of an object from the key of one of them on, which is read after its opening quote,
and the closing brace. -/
def fields {α : Type} (item : Reader α) (s : List UInt8) :
    Except Failure (List (String × α) × Shorter s) :=
  match hk : string s with
  | .error e => .error e
  | .ok (key, r) =>
    have hr : r.length < s.length := stringBody_length hk
    match h : skipBlanks r with
    | [] => .error (.atHead .eofObject [])
    | c :: t =>
      if c ≠ Byte.colon then .error (.atHead .expectedColon (c :: t))
      else
        match item t with
        | .error e => .error e
        | .ok (x, ⟨u, hu⟩) =>
          match h' : skipBlanks u with
          | [] => .error (.atHead .eofObject [])
          | d :: v =>
            have hv : v.length < s.length :=
              Nat.lt_trans (Nat.lt_trans (length_of_skipBlanks h') hu)
                (Nat.lt_trans (length_of_skipBlanks h) hr)
            if d = Byte.closeBrace then .ok ([(String.ofList key, x)], ⟨v, hv⟩)
            else if d = Byte.comma then
              match _h'' : skipBlanks v with
              | [] => .error (.atHead .eofValue [])
              | e :: w =>
                have hw : w.length < s.length := Nat.lt_trans (length_of_skipBlanks _h'') hv
                if e = Byte.quote then
                  match fields item w with
                  | .error e => .error e
                  | .ok (xs, rest) =>
                    .ok ((String.ofList key, x) :: xs, rest.within (Nat.le_of_lt hw))
                else if e = Byte.closeBrace then .error (.atHead .trailingComma (e :: w))
                else .error (.atHead .keyMustBeString (e :: w))
            else .error (.atHead .expectedObjectCommaOrEnd (d :: v))
termination_by s.length
decreasing_by exact hw

/-- The items of an array after its opening bracket. -/
def listBody {α : Type} (item : Reader α) (s : List UInt8) :
    Except Failure (List α × Shorter s) :=
  match h : skipBlanks s with
  | [] => .error (.atHead .eofList [])
  | c :: t =>
    if c = Byte.closeBracket then .ok ([], ⟨t, length_of_skipBlanks h⟩)
    else
      match items item (c :: t) with
      | .error e => .error e
      | .ok (xs, rest) => .ok (xs, rest.within (length_le_of_skipBlanks h))

/-- The fields of an object after its opening brace. -/
def objectBody {α : Type} (item : Reader α) (s : List UInt8) :
    Except Failure (List (String × α) × Shorter s) :=
  match h : skipBlanks s with
  | [] => .error (.atHead .eofObject [])
  | c :: t =>
    if c = Byte.closeBrace then .ok ([], ⟨t, length_of_skipBlanks h⟩)
    else if c = Byte.quote then
      match fields item t with
      | .error e => .error e
      | .ok (xs, rest) => .ok (xs, rest.within (Nat.le_of_lt (length_of_skipBlanks h)))
    else .error (.atHead .keyMustBeString (c :: t))

/-! ## Values -/

/-- The value that starts with the byte `c` and goes on in `r`, with `depth` levels left. -/
def valueFrom (nested : Option (Reader Value)) (c : UInt8) (r : List UInt8) :
    Except Failure (Value × Shorter (c :: r)) :=
  if c = 0x6E then
    match h : word nullTail r with
    | .error e => .error e
    | .ok t => .ok (.null, ⟨t, length_of_word h⟩)
  else if c = 0x74 then
    match h : word trueTail r with
    | .error e => .error e
    | .ok t => .ok (.bool true, ⟨t, length_of_word h⟩)
  else if c = 0x66 then
    match h : word falseTail r with
    | .error e => .error e
    | .ok t => .ok (.bool false, ⟨t, length_of_word h⟩)
  else if c = Byte.minus || Byte.isDigit c then
    match h : number c r with
    | .error e => .error e
    | .ok (n, t) => .ok (.number n, ⟨t, Nat.lt_succ_of_le (number_length h)⟩)
  else if c = Byte.quote then
    match h : string r with
    | .error e => .error e
    | .ok (cs, t) =>
      .ok (.string (String.ofList cs), ⟨t, length_of_string h⟩)
  else if c = Byte.openBracket then
    match nested with
    | none => .error (.atHead .tooDeep (c :: r))
    | some item =>
      match listBody item r with
      | .error e => .error e
      | .ok (xs, rest) => .ok (.array xs, rest.cons c)
  else if c = Byte.openBrace then
    match nested with
    | none => .error (.atHead .tooDeep (c :: r))
    | some item =>
      match objectBody item r with
      | .error e => .error e
      | .ok (xs, rest) => .ok (.ofFields xs, rest.cons c)
  else .error (.atHead .expectedValue (c :: r))

/-- A value after blanks. -/
def valueAt (nested : Option (Reader Value)) : Reader Value := fun s =>
  match h : skipBlanks s with
  | [] => .error (.atHead .eofValue [])
  | c :: r =>
    match valueFrom nested c r with
    | .error e => .error e
    | .ok (v, rest) => .ok (v, rest.within (length_le_of_skipBlanks h))

/-- A value in which arrays and objects nest at most `depth` deep. -/
def value : Nat → Reader Value
  | 0 => valueAt none
  | depth + 1 => valueAt (some (value depth))

/-- Nothing but blanks. -/
def atEnd (s : List UInt8) : Except Failure Unit :=
  match skipBlanks s with
  | [] => .ok ()
  | c :: r => .error (.atHead .trailingCharacters (c :: r))

/-- The whole text read by `reader`. -/
def readAll {α : Type} (reader : Reader α) (text : List UInt8) : Except Error α :=
  let result := do
    let (x, rest) ← reader text
    atEnd rest.1
    return x
  result.mapError (·.locate text)

/-- The value that a text of bytes holds. -/
def parse (text : List UInt8) : Except Error Value := readAll (value maxDepth) text

end TaskProbe.Json
