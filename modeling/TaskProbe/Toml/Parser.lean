import TaskProbe.Toml.Scalar
import TaskProbe.Toml.Text

/-!
# Reading TOML documents

A document is read in two steps: the text is cut into statements, and the statements are carried out
on an empty table (`parse?`). A value is read by recursion on the depth that is left for arrays and
tables in braces; the loops end because every reader takes at least one character, as its type says.
-/

namespace TaskProbe.Toml

/-- The rest of a text after a reader took at least one character off `s`. -/
abbrev Shorter (s : List Char) := { r : List Char // r.length < s.length }

/-- Takes something off the front of a text, at least one character of it. -/
abbrev Reader (α : Type) := (s : List Char) → Option (α × Shorter s)

/-- A rest that is shorter than a part of `s` is shorter than `s`. -/
def Shorter.within {s t : List Char} (r : Shorter t) (h : t.length ≤ s.length) : Shorter s :=
  ⟨r.1, Nat.lt_of_lt_of_le r.2 h⟩

/-- The same with one more character in front of the text. -/
def Shorter.cons {t : List Char} (c : Char) (r : Shorter t) : Shorter (c :: t) :=
  ⟨r.1, Nat.lt_succ_of_lt r.2⟩

theorem length_of_read? {s : List Char} {x : Scalar} (h : Scalar.read? (splitRun s).1 = some x) :
    (splitRun s).2.length < s.length := by
  have hne : (splitRun s).1 ≠ [] := fun he => by
    rw [he, Scalar.read?_nil] at h
    cases h
  have := congrArg List.length (splitRun_append s)
  have := List.length_pos_iff.mpr hne
  rw [List.length_append] at *
  omega

theorem length_of_skipSpaces {s r t : List Char} (hr : r.length < s.length)
    (h : skipSpaces r = t) : t.length < s.length :=
  h ▸ Nat.lt_of_le_of_lt (skipSpaces_length r) hr

theorem length_of_dot {s r t : List Char} {c : Char} (hr : r.length < s.length)
    (h : skipSpaces r = c :: t) : (skipSpaces t).length < s.length := by
  have := skipSpaces_length t
  have := length_of_skipSpaces hr h
  rw [List.length_cons] at this
  omega

theorem length_of_skipLines {s r : List Char} {c : Char} (h : skipLines s = c :: r) :
    r.length < s.length := by
  have := skipLines_length s
  rw [h] at this
  exact this

/-! ## Keys -/

/-- A character that keys hold without quotes. -/
def isBareKeyChar (c : Char) : Bool := c.isAlphanum || c == '_' || c == '-'

/-- One part of a key. -/
def keyPart? (s : List Char) : Option (String × List Char) :=
  match string? false s with
  | some (cs, rest) => some (String.ofList cs, rest)
  | none =>
    let bare := s.takeWhile isBareKeyChar
    if bare.isEmpty then none else some (String.ofList bare, s.dropWhile isBareKeyChar)

theorem keyPart?_length {s : List Char} {x : String × List Char} (h : keyPart? s = some x) :
    x.2.length < s.length := by
  unfold keyPart? at h
  split at h
  · next hs => cases h; exact string?_length hs
  · dsimp only at h
    split at h
    · cases h
    · next hne =>
      cases h
      have := congrArg List.length (List.takeWhile_append_dropWhile (p := isBareKeyChar) (l := s))
      rw [List.length_append] at this
      have : (s.takeWhile isBareKeyChar).length ≠ 0 := by
        simpa [List.isEmpty_iff] using hne
      dsimp only
      omega

/-- A key, and the text after it and the blanks there. -/
def keyPath (s : List Char) : Option (KeyPath × Shorter s) :=
  match h : keyPart? s with
  | none => none
  | some (key, r) =>
    have hr : r.length < s.length := keyPart?_length h
    match h' : skipSpaces r with
    | '.' :: t =>
      have ht : (skipSpaces t).length < s.length := length_of_dot hr h'
      match keyPath (skipSpaces t) with
      | none => none
      | some (path, rest) =>
        some (⟨key :: path.parents, path.last⟩, rest.within (Nat.le_of_lt ht))
    | t => some (⟨[], key⟩, ⟨t, length_of_skipSpaces hr h'⟩)
termination_by s.length

/-- Where an assignment stands: on a line, or between braces, where it may take several lines. -/
inductive Frame where
  | line
  | braces

/-- The text without what may stand around the sign of an assignment. -/
def Frame.skip : Frame → List Char → List Char
  | .line => skipSpaces
  | .braces => skipLines

theorem Frame.skip_length (frame : Frame) (s : List Char) : (frame.skip s).length ≤ s.length := by
  cases frame with
  | line => exact skipSpaces_length s
  | braces => exact skipLines_length s

theorem Frame.length_of_skip {frame : Frame} {s t u : List Char} {c : Char}
    (ht : t.length < s.length) (h : frame.skip t = c :: u) :
    (frame.skip u).length ≤ s.length := by
  have := frame.skip_length t
  have := frame.skip_length u
  rw [h] at *
  simp only [List.length_cons] at *
  omega

/-- A key, the sign after it, and its value. -/
def assignment (frame : Frame) (value : Reader Node) : Reader (KeyPath × Node) := fun s =>
  match keyPath s with
  | none => none
  | some (key, ⟨t, ht⟩) =>
    match h : frame.skip t with
    | '=' :: u =>
      match value (frame.skip u) with
      | none => none
      | some (x, rest) => some ((key, x), rest.within (Frame.length_of_skip ht h))
    | _ => none

/-! ## Values -/

/-- The entries up to a closing bracket, with commas between them and perhaps one behind them. They
may stand on several lines, with comments. -/
def entries {α : Type} (close : Char) (entry : Reader α) (s : List Char) :
    Option (List α × Shorter s) :=
  match h : skipLines s with
  | [] => none
  | c :: r =>
    if c = close then some ([], ⟨r, length_of_skipLines h⟩)
    else
      match entry (c :: r) with
      | none => none
      | some (x, ⟨t, ht⟩) =>
        have ht : t.length < s.length := Nat.lt_of_lt_of_le ht (h ▸ skipLines_length s)
        match h' : skipLines t with
        | [] => none
        | d :: u =>
          have hu : u.length < s.length := Nat.lt_trans (length_of_skipLines h') ht
          if d = close then some ([x], ⟨u, hu⟩)
          else if d = ',' then
            match entries close entry u with
            | none => none
            | some (xs, rest) => some (x :: xs, rest.within (Nat.le_of_lt hu))
          else none
termination_by s.length

/-- A string or another value without parts. -/
def scalar : Reader Scalar := fun s =>
  match h : string? true s with
  | some (cs, rest) => some (.string cs, ⟨rest, string?_length h⟩)
  | none =>
    match h : Scalar.read? (splitRun s).1 with
    | none => none
    | some x => some (x, ⟨(splitRun s).2, length_of_read? h⟩)

/-- A value; the values in arrays and in braces are read by `nested`. -/
def valueWith (nested : Option (Reader Node)) : Reader Node := fun s =>
  match s with
  | '[' :: r =>
    nested.bind fun item =>
      (entries ']' item r).map fun (items, rest) => (.array items, rest.cons _)
  | '\x7b' :: r =>
    nested.bind fun item =>
      match entries '\x7d' (assignment .braces item) r with
      | none => none
      | some (assignments, rest) =>
        (ofAssignments assignments).map fun fields =>
          (.table .closed fields, rest.cons _)
  | s => (scalar s).map fun (x, rest) => (.scalar x, rest)

/-- A value in which arrays and tables in braces nest at most `depth` deep. -/
def value : Nat → Reader Node
  | 0 => valueWith none
  | depth + 1 => valueWith (some (value depth))

/-- How deep arrays and tables in braces may nest. -/
def maxDepth : Nat := 80

/-! ## Statements -/

/-- The key of a header, after its opening brackets. -/
def headerKey (s : List Char) : Option (KeyPath × Shorter s) :=
  (keyPath (skipSpaces s)).map fun (key, rest) => (key, rest.within (skipSpaces_length s))

/-- A statement, up to the rest of its line. -/
def statement : Reader Statement := fun s =>
  match s with
  | '[' :: '[' :: r =>
    match headerKey r with
    | some (key, ⟨']' :: ']' :: t, ht⟩) =>
      some (.itemHeader key, ⟨t, by simp only [List.length_cons] at *; omega⟩)
    | _ => none
  | '[' :: r =>
    match headerKey r with
    | some (key, ⟨']' :: t, ht⟩) =>
      some (.header key, ⟨t, by simp only [List.length_cons] at *; omega⟩)
    | _ => none
  | s => (assignment .line (value maxDepth) s).map fun ((key, x), rest) => (.assignment key x, rest)

/-- All statements of a text; nothing but a comment stands behind a statement on its last line. -/
def statements (s : List Char) : Option (List Statement) :=
  match h : skipLines s with
  | [] => some []
  | c :: r =>
    match statement (c :: r) with
    | none => none
    | some (x, ⟨t, ht⟩) =>
      match h' : lineEnd? t with
      | none => none
      | some u =>
        have _hu : u.length < s.length :=
          Nat.lt_of_le_of_lt (lineEnd?_length h') (Nat.lt_of_lt_of_le ht (h ▸ skipLines_length s))
        (statements u).map (x :: ·)
termination_by s.length
decreasing_by exact _hu

/-- Without the mark that some editors put at the start of a file. -/
def dropMark : List Char → List Char
  | '\ufeff' :: s => s
  | s => s

/-- The table that a text describes. -/
def parse? (s : List Char) : Option Fields := (statements (dropMark s)).bind ofStatements

end TaskProbe.Toml
