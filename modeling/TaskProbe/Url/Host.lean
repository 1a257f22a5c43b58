import TaskProbe.Text.Blank
import TaskProbe.Url.Percent

/-!
# Hosts

A host is a domain, an IPv4 address or an IPv6 address. A domain is put into ASCII before anything else
is made of it; if its last label is a number then, it is an IPv4 address or nothing. For names that are
in ASCII already this means small letters; what it means for all others is left to an `Idna`.
-/

namespace TaskProbe.Url

/-- Why a text is no URL. -/
inductive Fault where
  | emptyHost
  | domain
  | port
  | ipv4
  | ipv6
  | domainCharacter
  | relativeWithoutBase
  | relativeWithOpaqueBase
  deriving DecidableEq, Repr

/-- The fault in words. -/
def Fault.message : Fault → String
  | .emptyHost => "empty host"
  | .domain => "invalid international domain name"
  | .port => "invalid port number"
  | .ipv4 => "invalid IPv4 address"
  | .ipv6 => "invalid IPv6 address"
  | .domainCharacter => "invalid domain character"
  | .relativeWithoutBase => "relative URL without a base"
  | .relativeWithOpaqueBase => "relative URL with a cannot-be-a-base base"

/-- A host. An IPv4 address is one number of 32 bits, an IPv6 address eight of 16 bits. -/
inductive Host where
  | domain (name : List Char)
  | ipv4 (address : Nat)
  | ipv6 (pieces : List Nat)
  deriving DecidableEq, Repr

/-! ## IPv4 -/

/-- The parts of a text between the separators that `sep` accepts. -/
def splitOn (sep : Char → Bool) : List Char → List (List Char)
  | [] => [[]]
  | c :: rest =>
    if sep c then [] :: splitOn sep rest
    else
      match splitOn sep rest with
      | part :: parts => (c :: part) :: parts
      | [] => [[c]]

/-- A number with the prefix of its base: `0x` for 16, `0` for 8. -/
def ipv4Number? (s : List Char) : Option Nat :=
  match s with
  | [] => none
  | ['0'] => some 0
  | '0' :: 'x' :: ds | '0' :: 'X' :: ds => if ds.isEmpty then some 0 else Text.readDigits? 16 ds
  | '0' :: ds => Text.readDigits? 8 ds
  | ds => Text.readDigits? 10 ds

/-- Without the empty last label of a name that ends with a dot. -/
def labels (name : List Char) : List (List Char) :=
  let parts := splitOn (· == '.') name
  if 1 < parts.length && parts.getLast? == some [] then parts.dropLast else parts

/-- Whether the last label of a name is a number. -/
def endsInNumber (name : List Char) : Bool :=
  match (labels name).getLast? with
  | none => false
  | some last =>
    (!last.isEmpty && last.all Char.isDigit) || (ipv4Number? last).isSome

/-- The numbers of the labels as one address: every label but the last is one byte, the last one
fills the rest. -/
def ipv4Address (numbers : List Nat) : Option Nat :=
  match numbers.reverse with
  | [] => none
  | last :: more =>
    if last < 1 <<< (8 * (4 - more.length)) ∧ more.all (· < 256) then
      some (numbers.dropLast.zipIdx.foldl (fun total (n, i) => total + n <<< (8 * (3 - i))) last)
    else none

/-- The address that a name ending in a number stands for. -/
def parseIpv4 (name : List Char) : Except Fault Nat :=
  let parts := labels name
  if 4 < parts.length then .error .ipv4
  else
    match parts.mapM ipv4Number? with
    | none => .error .ipv4
    | some numbers =>
      match ipv4Address numbers with
      | some address => .ok address
      | none => .error .ipv4

/-- Four decimal numbers between dots. -/
def writeIpv4 (address : Nat) : List Char :=
  Text.decimal (address / 0x1000000) ++ '.' :: Text.decimal (address / 0x10000 % 0x100)
    ++ '.' :: Text.decimal (address / 0x100 % 0x100) ++ '.' :: Text.decimal (address % 0x100)

/-! ## IPv6 -/

/-- At most `n` hexadecimal digits: their value and number, and what follows. -/
def takeHex : Nat → Nat → Nat → List Char → Nat × Nat × List Char
  | 0, value, count, s => (value, count, s)
  | n + 1, value, count, c :: r =>
    match Text.hexValue? c with
    | some d => takeHex n (value * 16 + d) (count + 1) r
    | none => (value, count, c :: r)
  | _ + 1, value, count, [] => (value, count, [])

theorem takeHex_length (n value count : Nat) (s : List Char) :
    (takeHex n value count s).2.2.length ≤ s.length := by
  fun_induction takeHex n value count s with
  | case1 | case3 | case4 => exact Nat.le_refl _
  | case2 _ _ _ _ _ _ _ ih => exact Nat.le_succ_of_le ih

/-- A decimal number below 256 without needless zeros. -/
def byteNumber? (s : List Char) : Option Nat :=
  match s with
  | '0' :: _ :: _ => none
  | _ => (Text.readDigits? 10 s).filter (· < 256)

/-- The two pieces that a dotted IPv4 address stands for. -/
def dottedPieces (s : List Char) : Option (List Nat) :=
  match (splitOn (· == '.') s).mapM byteNumber? with
  | some [a, b, c, d] => some [a * 256 + b, c * 256 + d]
  | _ => none

/-- Reads the pieces of an address: those before `::`, and those after it if it has been seen. The
mark counts as one piece. -/
def ipv6Pieces (before : List Nat) (after : Option (List Nat)) (s : List Char) :
    Option (List Nat × Option (List Nat)) :=
  match s with
  | [] => some (before, after)
  | c :: r =>
    let count := before.length + (after.map (·.length + 1)).getD 0
    if count = 8 then none
    else if c = ':' then
      if after.isSome then none else ipv6Pieces before (some []) r
    else
      let push (pieces : List Nat) : List Nat × Option (List Nat) :=
        match after with
        | none => (before ++ pieces, none)
        | some more => (before, some (more ++ pieces))
      match _h : takeHex 3 ((Text.hexValue? c).getD 0) 1 r with
      | (value, _, rest) =>
        if (Text.hexValue? c).isNone then none
        else
          match rest with
          | [] => some (push [value])
          | d :: t =>
            if d = '.' then
              if 6 < count then none else (dottedPieces s).map push
            else if d = ':' ∧ t ≠ [] then ipv6Pieces (push [value]).1 (push [value]).2 t
            else none
termination_by s.length
decreasing_by
  · simp only [List.length_cons]; omega
  · have := takeHex_length 3 ((Text.hexValue? c).getD 0) 1 r
    rw [_h] at this
    simp only [List.length_cons] at this ⊢
    omega

/-- The address between the brackets. -/
def parseIpv6 (s : List Char) : Except Fault (List Nat) :=
  let pieces :=
    match s with
    | ':' :: ':' :: r => ipv6Pieces [] (some []) r
    | ':' :: _ => none
    | _ => ipv6Pieces [] none s
  match pieces with
  | some (before, some after) =>
    if before.length + after.length ≤ 7 then
      .ok (before ++ List.replicate (8 - before.length - after.length) 0 ++ after)
    else .error .ipv6
  | some (before, none) => if before.length = 8 then .ok before else .error .ipv6
  | none => .error .ipv6

/-- The length of the run of zeros at the front. -/
def zeroRun (pieces : List Nat) : Nat := (pieces.takeWhile (· == 0)).length

/-- The first of the longest runs of zeros, as its start and its length. -/
def longestZeros (start : Nat) : List Nat → Nat × Nat
  | [] => (start, 0)
  | p :: ps =>
    let here := zeroRun (p :: ps)
    let later := longestZeros (start + 1) ps
    if later.2 ≤ here then (start, here) else later

/-- Pieces between colons. -/
def writePieces (pieces : List Nat) : List Char :=
  List.intercalate [':'] (pieces.map (Text.digits 16))

/-- An address in brackets. The first longest run of two or more zeros is left out. -/
def writeIpv6 (pieces : List Nat) : List Char :=
  let (start, length) := longestZeros 0 pieces
  let body :=
    if length < 2 then writePieces pieces
    else
      writePieces (pieces.take start) ++ [':', ':'] ++ writePieces (pieces.drop (start + length))
  '[' :: body ++ [']']

/-! ## Names in ASCII -/

/-- How a name is put into ASCII where that takes more than small letters: it has characters outside
ASCII, or labels that were encoded before. A name that is no domain has no ASCII form. -/
class Idna where
  toAscii? : List Char → Option (List Char)

/-- What an encoded label starts with. -/
def encodedMark : List Char := ['x', 'n', '-', '-']

/-- Whether a name has nothing but ASCII characters in it and no encoded labels. -/
def isPlainName (name : List Char) : Bool :=
  name.all (·.toNat ≤ 0x7F) && (splitOn (· == '.') name).all (!encodedMark.isPrefixOf ·)

/-- A name in ASCII and in small letters. -/
def asciiName? [Idna] (name : List Char) : Option (List Char) :=
  let small := Text.lowerAscii name
  if isPlainName small then some small else Idna.toAscii? name

/-! ## Hosts -/

/-- Characters that no domain has. -/
def isForbiddenInDomain (c : Char) : Bool :=
  c.toNat ≤ 0x20 || c.toNat == 0x7F
    || ['%', '#', '/', ':', '<', '>', '?', '@', '[', '\\', ']', '^', '|'].contains c

/-- Characters that no opaque host has. -/
def isForbiddenInHost (c : Char) : Bool :=
  ['\x00', '\t', '\n', '\r', ' ', '#', '/', ':', '<', '>', '?', '@', '[', '\\', ']', '^', '|'].contains c

/-- An address in brackets, if the text starts with one. -/
def bracketed? (s : List Char) : Option (Except Fault Host) :=
  match s with
  | '[' :: rest =>
    some (if rest.getLast? = some ']' then (parseIpv6 rest.dropLast).map .ipv6 else .error .ipv6)
  | _ => none

/-- The host of a special URL. -/
def parseHost [Idna] (s : List Char) : Except Fault Host :=
  match bracketed? s with
  | some result => result
  | none =>
    match (Text.Utf8.decode? (percentDecode s)).bind asciiName? with
    | none => .error .domain
    | some name =>
      if name.any fun c => isForbiddenInDomain c || 0x7F < c.toNat then .error .domain
      else if name.isEmpty then .error .emptyHost
      else if endsInNumber name then (parseIpv4 name).map .ipv4
      else .ok (.domain name)

/-- The host of a URL that is not special. -/
def parseOpaqueHost (s : List Char) : Except Fault Host :=
  match bracketed? s with
  | some result => result
  | none =>
    if s.any isForbiddenInHost then .error .domainCharacter
    else .ok (.domain (percentEncode controlSet s))

/-- The written form of a host. -/
def Host.write : Host → List Char
  | .domain name => name
  | .ipv4 address => writeIpv4 address
  | .ipv6 pieces => writeIpv6 pieces

end TaskProbe.Url
