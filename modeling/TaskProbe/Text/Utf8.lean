/-!
# UTF-8

Encoding of characters, and two decoders that share one step: `decode?` refuses malformed bytes,
`lossy` puts U+FFFD for each of them. The step (`next`) takes the longest start of a character that
the bytes allow, so one U+FFFD stands for one broken character.

## Termination

Both decoders end because a step never gives back more bytes than it was given
(`next_length_le`).
-/

namespace TaskProbe.Text.Utf8

/-! ## Encoding -/

/-- The bytes of one character. -/
def encodeChar (c : Char) : List UInt8 :=
  let n := c.toNat
  if n < 0x80 then [n.toUInt8]
  else if n < 0x800 then [(0xC0 + n / 0x40).toUInt8, (0x80 + n % 0x40).toUInt8]
  else if n < 0x10000 then
    [(0xE0 + n / 0x1000).toUInt8, (0x80 + n / 0x40 % 0x40).toUInt8, (0x80 + n % 0x40).toUInt8]
  else
    [(0xF0 + n / 0x40000).toUInt8, (0x80 + n / 0x1000 % 0x40).toUInt8,
      (0x80 + n / 0x40 % 0x40).toUInt8, (0x80 + n % 0x40).toUInt8]

/-- The bytes of a text. -/
def encode (s : List Char) : List UInt8 := s.flatMap encodeChar

/-! ## One character -/

/-- A byte that continues a character. -/
def isTail (b : UInt8) : Bool := 0x80 ≤ b && b ≤ 0xBF

/-- How many bytes the character has that starts with `a`; zero where none starts. -/
def width (a : UInt8) : Nat :=
  if a < 0x80 then 1 else if a < 0xC2 then 0 else if a < 0xE0 then 2
  else if a < 0xF0 then 3 else if a < 0xF5 then 4 else 0

/-- Whether `b` may follow the first byte `a`: this rules out long forms, surrogates and values
above U+10FFFF. -/
def isSecond (a b : UInt8) : Bool :=
  if a == 0xE0 then 0xA0 ≤ b && b ≤ 0xBF
  else if a == 0xED then 0x80 ≤ b && b ≤ 0x9F
  else if a == 0xF0 then 0x90 ≤ b && b ≤ 0xBF
  else if a == 0xF4 then 0x80 ≤ b && b ≤ 0x8F
  else isTail b

/-- The payload bits of a continuation byte. -/
def tailBits (b : UInt8) : Nat := b.toNat % 0x40

/-- The character that starts with `a`, with the bytes after it; or none, with the bytes after the
part that could have started one. -/
def next (a : UInt8) (rest : List UInt8) : Option Char × List UInt8 :=
  match width a with
  | 1 => (some (Char.ofNat a.toNat), rest)
  | 2 =>
    match rest with
    | b :: r =>
      if isTail b then (some (Char.ofNat (a.toNat % 0x20 * 0x40 + tailBits b)), r)
      else (none, rest)
    | [] => (none, [])
  | 3 =>
    match rest with
    | b :: r =>
      if isSecond a b then
        match r with
        | c :: r' =>
          if isTail c then
            (some (Char.ofNat (a.toNat % 0x10 * 0x1000 + tailBits b * 0x40 + tailBits c)), r')
          else (none, r)
        | [] => (none, [])
      else (none, rest)
    | [] => (none, [])
  | 4 =>
    match rest with
    | b :: r =>
      if isSecond a b then
        match r with
        | c :: r' =>
          if isTail c then
            match r' with
            | d :: r'' =>
              if isTail d then
                (some (Char.ofNat (a.toNat % 0x08 * 0x40000 + tailBits b * 0x1000
                  + tailBits c * 0x40 + tailBits d)), r'')
              else (none, r')
            | [] => (none, [])
          else (none, r)
        | [] => (none, [])
      else (none, rest)
    | [] => (none, [])
  | _ => (none, rest)

theorem next_length_le (a : UInt8) (rest : List UInt8) :
    (next a rest).2.length ≤ rest.length := by
  unfold next
  repeat' split
  all_goals
    simp only [List.length_cons, List.length_nil]
    omega

/-- How many bytes a step takes. -/
def taken (a : UInt8) (rest : List UInt8) : Nat := rest.length + 1 - (next a rest).2.length

/-! ## Decoding -/

/-- The text that the bytes encode, if they are well formed. -/
def decode? : List UInt8 → Option (List Char)
  | [] => some []
  | a :: rest =>
    match (next a rest).1 with
    | some c => (decode? (next a rest).2).map (c :: ·)
    | none => none
termination_by bs => bs.length
decreasing_by
  have := next_length_le a rest
  simp only [List.length_cons]
  omega

/-- The text of the bytes, with U+FFFD for each part that is no character. -/
def lossy : List UInt8 → List Char
  | [] => []
  | a :: rest => (next a rest).1.getD '\uFFFD' :: lossy (next a rest).2
termination_by bs => bs.length
decreasing_by
  have := next_length_le a rest
  simp only [List.length_cons]
  omega

end TaskProbe.Text.Utf8
