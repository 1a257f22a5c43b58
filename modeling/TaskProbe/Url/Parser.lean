import TaskProbe.Url.Basic

/-!
# Reading URLs

A text becomes a URL, alone or relative to another URL. Control characters and spaces around the
text are dropped, and so are tabs and line ends inside it. The reader follows the text from left to
right: scheme, user name and password, host, port, path, query, fragment. A segment that is added to a
path later is read like one that was there from the start, but for the marks that end a segment.
-/

namespace TaskProbe.Url

/-! ## Pieces of the text -/

/-- A character that a URL skips wherever it stands. -/
def isSkipped (c : Char) : Bool := c == '\t' || c == '\n' || c == '\r'

/-- The text without the characters that a URL skips. -/
def clean (s : List Char) : List Char :=
  let trimmed := ((s.dropWhile (·.toNat ≤ 0x20)).reverse.dropWhile (·.toNat ≤ 0x20)).reverse
  trimmed.filter (!isSkipped ·)

/-- A letter of ASCII. -/
def isLetter (c : Char) : Bool := c.isAlpha

/-- A character of a scheme after its first one. -/
def isSchemeChar (c : Char) : Bool := c.isAlphanum || c == '+' || c == '-' || c == '.'

/-- The scheme in lower case and what follows its colon. -/
def scheme? (s : List Char) : Option (List Char × List Char) :=
  match s with
  | c :: _ =>
    if isLetter c then
      match s.dropWhile isSchemeChar with
      | ':' :: rest => some (Text.lowerAscii (s.takeWhile isSchemeChar), rest)
      | _ => none
    else none
  | [] => none

/-- A slash, or in a special URL a backslash. -/
def isSlash (special : Bool) (c : Char) : Bool := c == '/' || (special && c == '\\')

/-- A character that ends the part between the slashes and the path. -/
def endsAuthority (special : Bool) (c : Char) : Bool := isSlash special c || c == '?' || c == '#'

/-! ## User name and password -/

/-- What stands before and after the last `@`, if there is one. -/
def splitLastAt : List Char → Option (List Char × List Char)
  | [] => none
  | c :: rest =>
    match splitLastAt rest with
    | some (before, after) => some (c :: before, after)
    | none => if c = '@' then some ([], rest) else none

/-- User name, password and what follows them. -/
def userInfo (special : Bool) (s : List Char) :
    Except Fault (List Char × List Char × List Char) :=
  let authority := s.takeWhile (!endsAuthority special ·)
  let rest := s.dropWhile (!endsAuthority special ·)
  match splitLastAt authority with
  | none => .ok ([], [], s)
  | some ([], after) =>
    if after.isEmpty && !rest.isEmpty then .error .emptyHost else .ok ([], [], after ++ rest)
  | some (before, after) =>
    .ok (percentEncode userInfoSet (before.takeWhile (· != ':')),
      percentEncode userInfoSet ((before.dropWhile (· != ':')).drop 1), after ++ rest)

/-! ## Host and port -/

/-- The text of a host and what follows it. A colon between brackets does not end it. -/
def hostText (special : Bool) (bracket : Bool) : List Char → List Char × List Char
  | [] => ([], [])
  | c :: rest =>
    if (c = ':' && !bracket) || endsAuthority special c then ([], c :: rest)
    else
      let bracket := if c = '[' then true else if c = ']' then false else bracket
      let (host, after) := hostText special bracket rest
      (c :: host, after)

/-- A port after its colon: the number, if digits are there, and what follows them. -/
def portNumber (s : List Char) : Except Fault (Option Nat × List Char) :=
  let ds := s.takeWhile Char.isDigit
  let rest := s.dropWhile Char.isDigit
  let ends :=
    match rest with
    | [] => true
    | c :: _ => c = '/' || c = '\\' || c = '?' || c = '#'
  if !ends then .error .port
  else
    match Text.readDigits? 10 ds with
    | none => .ok (none, rest)
    | some port => if 65535 < port then .error .port else .ok (some port, rest)

/-- Host, port and what follows them. -/
def hostAndPort [Idna] (scheme : List Char) (s : List Char) :
    Except Fault (Host × Option Nat × List Char) := do
  let special := isSpecialScheme scheme
  let (text, rest) := hostText special false s
  if special && text.isEmpty then .error .emptyHost
  let host ← if special then parseHost text else parseOpaqueHost text
  match rest with
  | ':' :: after =>
    if text.isEmpty then .error .emptyHost
    let (port, rest) ← portNumber after
    .ok (host, if port = defaultPort? scheme then none else port, rest)
  | _ => .ok (host, none, rest)

/-! ## Path -/

/-- Whether a segment stands for the directory itself. -/
def isSingleDot (segment : List Char) : Bool :=
  [['.'], ['%', '2', 'e']].contains (Text.lowerAscii segment)

/-- Whether a segment stands for the directory above. -/
def isDoubleDot (segment : List Char) : Bool :=
  [['.', '.'], ['.', '%', '2', 'e'], ['%', '2', 'e', '.'], ['%', '2', 'e', '%', '2', 'e']].contains
    (Text.lowerAscii segment)

/-- Follows the segments from the directory `path`; the last one may leave a directory. -/
def follow (path : List (List Char)) : List (List Char) → List (List Char)
  | [] => path
  | [segment] =>
    if isDoubleDot segment then path.dropLast ++ [[]]
    else if isSingleDot segment then path ++ [[]]
    else path ++ [segment]
  | segment :: more =>
    if isDoubleDot segment then follow path.dropLast more
    else if isSingleDot segment then follow path more
    else follow (path ++ [segment]) more

/-- The segments of a path, read from the directory `path`, and what follows the path. -/
def pathFrom (special : Bool) (path : List (List Char)) (s : List Char) :
    List (List Char) × List Char :=
  let text := s.takeWhile fun c => !(c == '?' || c == '#')
  let segments := (splitOn (isSlash special) text).map (percentEncode pathSet)
  (follow path segments, s.dropWhile fun c => !(c == '?' || c == '#'))

/-- The path after a host. A special URL always has one. -/
def pathStart (special : Bool) (s : List Char) : List (List Char) × List Char :=
  match s with
  | c :: rest =>
    if isSlash special c then pathFrom special [] rest
    else if !special && (c = '?' || c = '#') then ([], s)
    else pathFrom special [] s
  | [] => if special then ([[]], []) else ([], [])

/-! ## Adding segments -/

/-- Without an empty last segment, unless it is the only one. -/
def Path.dropEmptyLast : Path → Path
  | .segments list =>
    .segments (if 1 < list.length ∧ list.getLast? = some [] then list.dropLast else list)
  | path => path

/-- With one more segment, encoded so that it stays one segment. The path `/` has no segment yet. A text
of one dot or two adds nothing. Otherwise the text is read as the last segment of a path is, so
characters that a URL skips are left out, and what is a dot segment without them is followed. -/
def Path.push (segment : List Char) : Path → Path
  | .segments list =>
    if segment = ['.'] ∨ segment = ['.', '.'] then .segments list
    else
      let encoded := percentEncode segmentSet (segment.filter (!isSkipped ·))
      .segments (follow (if list = [[]] then [] else list) [encoded])
  | path => path

/-! ## Query and fragment -/

/-- The fragment, behind its hash. -/
def fragmentOf (s : List Char) : Option (List Char) :=
  match s with
  | '#' :: rest => some (percentEncode fragmentSet rest)
  | _ => none

/-- The URL with the query and the fragment that follow its path. -/
def withTail (u : Url) (s : List Char) : Url :=
  match s with
  | '?' :: rest =>
    let set := if isSpecialScheme u.scheme then specialQuerySet else querySet
    { u with
      query := some (percentEncode set (rest.takeWhile (· != '#')))
      fragment := fragmentOf (rest.dropWhile (· != '#')) }
  | _ => { u with query := none, fragment := fragmentOf s }

/-! ## Whole URLs -/

/-- The URL from the part after the two slashes on. -/
def afterSlashes [Idna] (scheme : List Char) (s : List Char) : Except Fault Url := do
  let special := isSpecialScheme scheme
  let (username, password, rest) ← userInfo special s
  let (host, port, rest) ← hostAndPort scheme rest
  let (path, rest) := pathStart special rest
  .ok (withTail { scheme, username, password, host := some host, port, path := .segments path } rest)

/-- A letter with a colon or a bar: the name of a drive, which is no host. -/
def isDrive (s : List Char) : Bool :=
  match s with
  | [c, d] => isLetter c && (d == ':' || d == '|')
  | _ => false

/-- A URL of a file, from the part after the colon on. -/
def fileUrl [Idna] (s : List Char) : Except Fault Url := do
  match s with
  | a :: b :: rest =>
    if isSlash true a && isSlash true b then
      let text := rest.takeWhile (!endsAuthority true ·)
      let after := rest.dropWhile (!endsAuthority true ·)
      if text.isEmpty || isDrive text then
        let (path, tail) := pathStart true (text ++ after)
        return withTail { scheme := file, path := .segments path } tail
      let host ← parseHost text
      let (path, tail) := pathStart true after
      let host := if host = .domain "localhost".toList then none else some host
      return withTail { scheme := file, host, path := .segments path } tail
  | _ => pure ()
  let (path, tail) := pathStart true s
  return withTail { scheme := file, path := .segments path } tail

/-- A URL that is neither special nor relative, from the part after the colon on. -/
def plainUrl [Idna] (scheme : List Char) (s : List Char) : Except Fault Url :=
  match s with
  | '/' :: '/' :: rest => afterSlashes scheme rest
  | '/' :: rest =>
    let (path, tail) := pathFrom false [] rest
    .ok (withTail { scheme, path := .segments path } tail)
  | _ =>
    let text := s.takeWhile fun c => !(c == '?' || c == '#')
    .ok (withTail { scheme, path := .opaqueText (percentEncode controlSet text) }
      (s.dropWhile fun c => !(c == '?' || c == '#')))

/-- The directory of a path: its segments but the last. -/
def Path.directory : Path → List (List Char)
  | .segments list => list.dropLast
  | .opaqueText _ => []

/-- A text without scheme, read from the place of `base`. -/
def relativeTo [Idna] (base : Url) (s : List Char) : Except Fault Url :=
  let special := isSpecialScheme base.scheme
  match s with
  | [] => .ok { base with fragment := none }
  | '#' :: _ => .ok { base with fragment := fragmentOf s }
  | '?' :: _ => .ok (withTail base s)
  | c :: rest =>
    if isSlash special c then
      match s with
      | '/' :: '/' :: after => afterSlashes base.scheme after
      | _ =>
        if (rest.head?.map (isSlash special)).getD false then
          afterSlashes base.scheme (s.dropWhile (isSlash special))
        else
          let (path, tail) := pathFrom special [] rest
          .ok (withTail { base with path := .segments path } tail)
    else
      let (path, tail) := pathFrom special base.path.directory s
      .ok (withTail { base with path := .segments path } tail)

/-- The URL that a text stands for, relative to `base` if there is one. -/
def parseWith [Idna] (base : Option Url) (text : List Char) : Except Fault Url :=
  let s := clean text
  match scheme? s with
  | some (scheme, rest) =>
    if scheme = file then fileUrl rest
    else if isSpecialScheme scheme then
      let slashes := (rest.takeWhile (isSlash true)).length
      match base with
      | some base =>
        if slashes < 2 ∧ base.scheme = scheme then relativeTo base rest
        else afterSlashes scheme (rest.dropWhile (isSlash true))
      | none => afterSlashes scheme (rest.dropWhile (isSlash true))
    else plainUrl scheme rest
  | none =>
    match base with
    | none => .error .relativeWithoutBase
    | some base =>
      match base.path, s with
      | .opaqueText _, '#' :: _ => relativeTo base s
      | .opaqueText _, _ => .error .relativeWithOpaqueBase
      | .segments _, _ => relativeTo base s

/-- The URL that a text stands for. -/
def parse [Idna] (text : List Char) : Except Fault Url := parseWith none text

/-- The URL that a text stands for when it is found in the document of `base`. -/
def join [Idna] (base : Url) (text : List Char) : Except Fault Url := parseWith (some base) text

end TaskProbe.Url
