import Mathlib.Data.Nat.Init
import TaskProbe.Proofs.Decimal.Digits
import TaskProbe.Proofs.Toml.Spelling
import TaskProbe.Toml.Parser

/-!
# Reading documents line by line

What the readers of TOML take off a text that is written in the plainest way: a header with a bare
key (`statements_header`), and an assignment to a bare key (`statements_assignment`) of a string in
double quotes (`reads_string`), of a natural number (`reads_decimal`) or of a flag (`reads_boolean`),
each on a line of its own. Each lemma is stated with any text behind the part that is read.
-/

namespace TaskProbe.Toml

open Text

/-- The reader takes `x` off the text and leaves `rest`. -/
def Reads {α : Type} (reader : Reader α) (s : List Char) (x : α) (rest : List Char) : Prop :=
  ∃ r : Shorter s, reader s = some (x, r) ∧ r.1 = rest

theorem skipSpaces_of_startsOutside {s : List Char} (h : StartsOutside isSpace s) :
    skipSpaces s = s := by
  have := @dropWhile_run _ isSpace [] s (by simp) h
  rwa [List.nil_append] at this

/-! ## Keys -/

/-- A key that needs no quotes. -/
def IsBareKey (key : List Char) : Prop := key ≠ [] ∧ ∀ c ∈ key, isBareKeyChar c = true

instance (key : List Char) : Decidable (IsBareKey key) :=
  decidable_of_decidable_of_iff (p := key ≠ [] ∧ key.all isBareKeyChar = true)
    (by rw [IsBareKey, List.all_eq_true])

/-- Characters of bare keys stand neither for blanks and ends of lines nor for signs. -/
theorem isBareKeyChar_spec {c : Char} (h : isBareKeyChar c = true) :
    isSpace c = false ∧ c ≠ '"' ∧ c ≠ '\'' ∧ c ≠ '#' ∧ c ≠ '[' ∧ c ≠ '\n' ∧ c ≠ '\r' := by
  have hne {d : Char} (hd : isBareKeyChar d = false) : c ≠ d := by
    rintro rfl
    rw [h] at hd
    cases hd
  refine ⟨?_, hne (by decide), hne (by decide), hne (by decide), hne (by decide), hne (by decide),
    hne (by decide)⟩
  simp [isSpace, hne (d := ' ') (by decide), hne (d := '\t') (by decide)]

theorem string?_of_ne {long : Bool} {c : Char} {r : List Char} (h : c ≠ '"') (h' : c ≠ '\'') :
    string? long (c :: r) = none := by
  unfold string?
  split <;> simp_all

theorem keyPart?_bare {key rest : List Char} (hkey : IsBareKey key)
    (hrest : StartsOutside isBareKeyChar rest) :
    keyPart? (key ++ rest) = some (String.ofList key, rest) := by
  obtain ⟨hne, hchars⟩ := hkey
  unfold keyPart?
  have hstring : string? false (key ++ rest) = none := by
    obtain ⟨c, cs, rfl⟩ := List.exists_cons_of_ne_nil hne
    obtain ⟨-, hquote, hapostrophe, -⟩ := isBareKeyChar_spec (hchars c List.mem_cons_self)
    exact string?_of_ne hquote hapostrophe
  rw [hstring, takeWhile_run hchars hrest, dropWhile_run hchars hrest]
  simp [hne]

/-- A bare key without dots, up to the sign after it. -/
theorem reads_keyPath {key s rest : List Char} {c : Char} (hkey : IsBareKey key)
    (hs : StartsOutside isBareKeyChar s) (hrest : skipSpaces s = c :: rest) (hc : c ≠ '.') :
    Reads keyPath (key ++ s) ⟨[], String.ofList key⟩ (c :: rest) := by
  unfold Reads
  rw [keyPath]
  split
  · next h => rw [keyPart?_bare hkey hs] at h; cases h
  · next h =>
    rw [keyPart?_bare hkey hs] at h
    cases h
    split
    · next h' => rw [hrest] at h'; exact absurd (List.cons.inj h').1 hc
    · next h' => exact ⟨_, rfl, hrest⟩

/-! ## Statements -/

theorem head_bareKey {key : List Char} (hkey : IsBareKey key) (rest : List Char) :
    ∃ c r, key ++ rest = c :: r ∧ isBareKeyChar c = true := by
  obtain ⟨c, cs, rfl⟩ := List.exists_cons_of_ne_nil hkey.1
  exact ⟨c, cs ++ rest, rfl, hkey.2 c List.mem_cons_self⟩

theorem reads_headerKey {s rest : List Char} {key : KeyPath}
    (h : Reads keyPath (skipSpaces s) key rest) : Reads headerKey s key rest := by
  obtain ⟨⟨_, hlen⟩, h, rfl⟩ := h
  unfold Reads headerKey
  rw [h]
  exact ⟨_, rfl, rfl⟩

theorem reads_statement_header {r rest : List Char} {key : KeyPath}
    (hr : ∀ t, r = '[' :: t → False) (h : Reads headerKey r key (']' :: rest)) :
    Reads statement ('[' :: r) (.header key) rest := by
  obtain ⟨⟨_, hlen⟩, h, rfl⟩ := h
  unfold Reads
  rw [statement.eq_2 r hr, h]
  exact ⟨_, rfl, rfl⟩

theorem reads_statement_assignment {s rest : List Char} {key : KeyPath} {node : Node}
    (hs : ∀ t, s = '[' :: t → False)
    (h : Reads (assignment .line (value maxDepth)) s (key, node) rest) :
    Reads statement s (.assignment key node) rest := by
  obtain ⟨⟨_, hlen⟩, h, rfl⟩ := h
  unfold Reads
  rw [statement.eq_3 s (fun t => hs ('[' :: t)) hs, h]
  exact ⟨_, rfl, rfl⟩

theorem reads_assignmentWith {frame : Frame} {item : Reader Node} {s t u rest : List Char}
    {key : KeyPath} {node : Node} (hkey : Reads keyPath s key t) (ht : frame.skip t = '=' :: u)
    (hitem : Reads item (frame.skip u) node rest) :
    Reads (assignment frame item) s (key, node) rest := by
  obtain ⟨⟨_, hlen⟩, hkey, rfl⟩ := hkey
  obtain ⟨⟨_, hlen'⟩, hitem, rfl⟩ := hitem
  unfold Reads assignment
  rw [hkey]
  dsimp only
  split
  · next h =>
    rw [ht] at h
    cases h
    rw [hitem]
    exact ⟨_, rfl, rfl⟩
  · next h => exact (h u ht).elim

/-- The header of a table. -/
theorem reads_header {key : List Char} (hkey : IsBareKey key) (rest : List Char) :
    Reads statement ('[' :: (key ++ ']' :: rest)) (.header ⟨[], String.ofList key⟩) rest := by
  obtain ⟨c, r, hr, hc⟩ := head_bareKey hkey (']' :: rest)
  obtain ⟨hspace, -, -, -, hbracket, -⟩ := isBareKeyChar_spec hc
  have hread : Reads keyPath (key ++ ']' :: rest) ⟨[], String.ofList key⟩ (']' :: rest) :=
    reads_keyPath hkey (startsOutside_cons (by decide)) rfl (by decide)
  have hskip : skipSpaces (key ++ ']' :: rest) = key ++ ']' :: rest := by
    rw [hr]
    exact skipSpaces_of_startsOutside (startsOutside_cons hspace)
  refine reads_statement_header (fun t ht => ?_) (reads_headerKey (hskip.symm ▸ hread))
  rw [hr] at ht
  exact hbracket (List.cons.inj ht).1

/-- An assignment to a key of the table at hand. -/
theorem reads_assignment {key text rest : List Char} {node : Node} (hkey : IsBareKey key)
    (htext : StartsOutside isSpace text) (h : Reads (value maxDepth) text node rest) :
    Reads statement (key ++ (" = ".toList ++ text))
      (.assignment ⟨[], String.ofList key⟩ node) rest := by
  obtain ⟨c, r, hr, hc⟩ := head_bareKey hkey (" = ".toList ++ text)
  obtain ⟨-, -, -, -, hbracket, -⟩ := isBareKeyChar_spec hc
  have hread : Reads keyPath (key ++ (" = ".toList ++ text)) ⟨[], String.ofList key⟩
      ('=' :: ' ' :: text) :=
    reads_keyPath hkey (startsOutside_cons (by decide)) rfl (by decide)
  have hskip : Frame.line.skip (' ' :: text) = text := skipSpaces_of_startsOutside htext
  refine reads_statement_assignment (fun t ht => ?_)
    (reads_assignmentWith hread rfl (hskip.symm ▸ h))
  rw [hr] at ht
  exact hbracket (List.cons.inj ht).1

/-! ## Values without parts -/

section Scalars

variable {s rest : List Char}

theorem reads_valueWith_scalar {x : Scalar} {nested : Option (Reader Node)}
    (hbracket : ∀ t, s = '[' :: t → False) (hbrace : ∀ t, s = '\x7b' :: t → False)
    (h : Reads scalar s x rest) : Reads (valueWith nested) s (.scalar x) rest := by
  obtain ⟨⟨_, hlen⟩, h, rfl⟩ := h
  unfold Reads
  rw [valueWith.eq_3 nested s hbracket hbrace, h]
  exact ⟨_, rfl, rfl⟩

theorem reads_value_scalar {x : Scalar} (hbracket : ∀ t, s = '[' :: t → False)
    (hbrace : ∀ t, s = '\x7b' :: t → False) (h : Reads scalar s x rest) (depth : Nat) :
    Reads (value depth) s (.scalar x) rest := by
  cases depth with
  | zero => exact reads_valueWith_scalar hbracket hbrace h
  | succ depth => exact reads_valueWith_scalar hbracket hbrace h

theorem reads_scalar_string {cs : List Char} (h : string? true s = some (cs, rest)) :
    Reads scalar s (.string cs) rest := by
  unfold Reads scalar
  split
  · next h' =>
    rw [h] at h'
    cases h'
    exact ⟨_, rfl, rfl⟩
  · next h' => rw [h] at h'; cases h'

theorem reads_scalar_run {run : List Char} {x : Scalar} (hs : string? true s = none)
    (hrun : splitRun s = (run, rest)) (h : Scalar.read? run = some x) :
    Reads scalar s x rest := by
  unfold Reads scalar
  split
  · next h' => rw [hs] at h'; cases h'
  · split
    · next h' => rw [hrun, h] at h'; cases h'
    · next h' =>
      rw [hrun, h] at h'
      cases h'
      exact ⟨_, rfl, congrArg Prod.snd hrun⟩

/-! ### Strings -/

theorem escape?_of_short {e c : Char} (h : (e, c) ∈ shortForms) (rest : List Char) :
    escape? (e :: rest) = some (c, rest) := by
  simp only [shortForms, List.mem_cons, Prod.mk.injEq, List.not_mem_nil, or_false] at h
  rcases h with ⟨rfl, rfl⟩ | ⟨rfl, rfl⟩ | ⟨rfl, rfl⟩ | ⟨rfl, rfl⟩ | ⟨rfl, rfl⟩ | ⟨rfl, rfl⟩ |
    ⟨rfl, rfl⟩ | ⟨rfl, rfl⟩ <;> rfl

theorem charOfDigits?_of_readDigits? {ds : List Char} {c : Char}
    (h : readDigits? 16 ds = some c.toNat) : charOfDigits? ds = some c := by
  have hvalid : c.toNat.isValidChar := c.valid
  have hc := Char.ofNat_toNat c
  rw [Char.ofNat, dif_pos hvalid] at hc
  rw [charOfDigits?, h, Option.bind_some, dif_pos hvalid, hc]

theorem escape?_of_code {mark c : Char} {ds : List Char} (hmark : (mark, ds.length) ∈ codeForms)
    (h : readDigits? 16 ds = some c.toNat) (rest : List Char) :
    escape? (mark :: (ds ++ rest)) = some (c, rest) := by
  have hread := charOfDigits?_of_readDigits? h
  simp only [codeForms, List.mem_cons, Prod.mk.injEq, List.not_mem_nil, or_false] at hmark
  -- the digits are as many as the mark announces
  rcases hmark with ⟨rfl, hlen⟩ | ⟨rfl, hlen⟩ | ⟨rfl, hlen⟩
  · match ds, hlen with
    | [a, b], _ => exact congrArg (Option.map (·, rest)) hread
  · match ds, hlen with
    | [a, b, c, d], _ => exact congrArg (Option.map (·, rest)) hread
  · match ds, hlen with
    | [a, b, c, d, e, f, g, i], _ => exact congrArg (Option.map (·, rest)) hread

/-- A spelling of a character is the character itself, or a backslash and what is read as an escape
of the character. -/
theorem CharSpelling.plain_or_escape {c : Char} {t : List Char} (h : CharSpelling c t) :
    (t = [c] ∧ IsPlain c) ∨ ∃ u, t = '\\' :: u ∧ ∀ rest, escape? (u ++ rest) = some (c, rest) := by
  cases h with
  | plain h => exact .inl ⟨rfl, h⟩
  | short h => exact .inr ⟨_, rfl, escape?_of_short h⟩
  | code hmark h => exact .inr ⟨_, rfl, escape?_of_code hmark h⟩

theorem basicBody_of_charSpelling {c : Char} {t : List Char} (h : CharSpelling c t)
    (rest : List Char) :
    basicBody (t ++ rest) = (basicBody rest).map fun (cs, r) => (c :: cs, r) := by
  rcases h.plain_or_escape with ⟨rfl, hquote, hbackslash, htext⟩ | ⟨u, rfl, hu⟩
  · rw [List.singleton_append, basicBody, if_neg hquote, if_neg hbackslash, if_pos htext]
  · rw [List.cons_append, basicBody, if_neg (by decide), if_pos rfl]
    split
    · next h => cases (hu rest).symm.trans h
    · next h =>
      cases (hu rest).symm.trans h
      rfl

/-- Every spelling of a string is read as the string. -/
theorem basicBody_of_spelling {cs t : List Char} (h : StringSpelling cs t) (rest : List Char) :
    basicBody (t ++ '"' :: rest) = some (cs, rest) := by
  induction h with
  | nil => rw [List.nil_append, basicBody, if_pos rfl]
  | cons h hs ih =>
    rw [List.append_assoc, basicBody_of_charSpelling h, ih]
    rfl

theorem StringSpelling.ne_quote {cs t : List Char} (h : StringSpelling cs t) {c : Char}
    {r : List Char} (ht : t = c :: r) : c ≠ '"' := by
  cases h with
  | nil => cases ht
  | cons h hs =>
    rcases h.plain_or_escape with ⟨rfl, hquote, -⟩ | ⟨u, rfl, -⟩
    · cases ht
      exact hquote
    · cases ht
      decide

/-- A string in double quotes, in any of its spellings. -/
theorem reads_string {cs t : List Char} (h : StringSpelling cs t)
    (hrest : StartsOutside (· == '"') rest) (depth : Nat) :
    Reads (value depth) ('"' :: (t ++ '"' :: rest)) (.scalar (.string cs)) rest := by
  -- two more quotes would open a string of several lines
  have hlong : ∀ u, t ++ '"' :: rest = '"' :: '"' :: u → False := by
    intro u hu
    cases t with
    | nil => simpa using hrest '"' u (List.cons.inj hu).2
    | cons c t => exact h.ne_quote rfl (List.cons.inj hu).1
  refine reads_value_scalar (by simp) (by simp) (reads_scalar_string ?_) depth
  rw [string?.eq_3 _ _ hlong]
  exact basicBody_of_spelling h rest

/-! ### Integers -/

theorem splitRun_of_run {run : List Char} (hrun : ∀ c ∈ run, isScalarChar c = true)
    (hrest : StartsOutside isScalarChar rest) (hspace : StartsOutside isSpace rest) :
    splitRun (run ++ rest) = (run, rest) := by
  rw [splitRun, dropWhile_run hrun hrest, takeWhile_run hrun hrest]
  have hskip := skipSpaces_of_startsOutside hspace
  split
  · next c t h =>
    rw [hskip] at h
    -- no blanks stand between the run and what follows it
    rw [dif_neg (by rw [h]; simp)]
  · rfl

/-- A character that tells a value apart from a decimal number, as its first one or as a mark. -/
def valueMarks : List Char := ['"', '\'', '[', '\x7b', 'x', 'o', 'b', 't', 'f']

/-- What digits are to the readers of values. -/
theorem digitChar_scalar {d : Nat} (h : d < 10) : isScalarChar (digitChar d) = true ∧
    isBeyondInteger (digitChar d) = false ∧ isSpace (digitChar d) = false ∧
    digitChar d ∉ valueMarks := by
  have hall : ∀ e ∈ List.range 10, isScalarChar (digitChar e) = true ∧
      isBeyondInteger (digitChar e) = false ∧ isSpace (digitChar e) = false ∧
      digitChar e ∉ valueMarks := by decide
  exact hall d (List.mem_range.mpr h)

theorem not_mem_decimal (n : Nat) {c : Char} (hc : c ∈ valueMarks) : c ∉ decimal n := by
  intro h
  obtain ⟨d, hd, rfl⟩ := mem_decimal h
  exact (digitChar_scalar hd).2.2.2 hc

theorem decimalInteger?_decimal (n : Nat) : decimalInteger? (decimal n) = some (.integer n) := by
  have hdigit : ∀ c ∈ decimal n, c.isDigit = true := fun c => isDigit_of_mem_decimal
  have hbeyond : (decimal n).any isBeyondInteger = false := by
    rw [List.any_eq_false]
    intro c hc
    obtain ⟨d, hd, rfl⟩ := mem_decimal hc
    simp [(digitChar_scalar hd).2.1]
  have htake := takeWhile_run hdigit startsOutside_nil
  have hdrop := dropWhile_run hdigit startsOutside_nil
  rw [List.append_nil] at htake hdrop
  obtain ⟨c, r, hcons, hzero⟩ := exists_cons_decimal n
  unfold decimalInteger?
  rw [splitSign_digits hdigit]
  simp only [hbeyond, htake, hdrop, readDigits?_decimal]
  have hhead : r.isEmpty = true ∨ c ≠ '0' := by
    by_cases hc : c = '0'
    · -- only zero starts with this digit, and it has no other
      rw [hzero hc, decimal_of_lt (by decide)] at hcons
      rw [← (List.cons.inj hcons).2]
      exact .inl rfl
    · exact .inr hc
  rw [hcons, if_neg Bool.false_ne_true]
  exact if_pos hhead

theorem integer?_decimal (n : Nat) : integer? (decimal n) = some (.integer n) := by
  have hmark {c : Char} (hc : c ∈ valueMarks) (r : List Char) : decimal n = '0' :: c :: r → False :=
    fun h => not_mem_decimal n hc (h ▸ List.mem_cons_of_mem _ List.mem_cons_self)
  rw [integer?.eq_4 _ (hmark (by decide)) (hmark (by decide)) (hmark (by decide)),
    decimalInteger?_decimal]

theorem read?_decimal (n : Nat) : Scalar.read? (decimal n) = some (.integer n) := by
  have htrue : decimal n ≠ "true".toList := fun h =>
    not_mem_decimal n (c := 't') (by decide) (h ▸ by decide)
  have hfalse : decimal n ≠ "false".toList := fun h =>
    not_mem_decimal n (c := 'f') (by decide) (h ▸ by decide)
  rw [Scalar.read?, if_neg htrue, if_neg hfalse, integer?_decimal]

/-- A natural number in decimal. -/
theorem reads_decimal (n : Nat) (hrest : StartsOutside isScalarChar rest)
    (hspace : StartsOutside isSpace rest) (depth : Nat) :
    Reads (value depth) (decimal n ++ rest) (.scalar (.integer n)) rest := by
  have hscalar : ∀ c ∈ decimal n, isScalarChar c = true := by
    intro c hc
    obtain ⟨d, hd, rfl⟩ := mem_decimal hc
    exact (digitChar_scalar hd).1
  obtain ⟨c, r, hr, -⟩ := exists_cons_decimal n
  have hne {e : Char} (he : e ∈ valueMarks) : c ≠ e := by
    rintro rfl
    exact not_mem_decimal n he (hr ▸ List.mem_cons_self)
  have hstart {e : Char} (he : e ∈ valueMarks) : ∀ t, decimal n ++ rest = e :: t → False := by
    intro t ht
    rw [hr] at ht
    exact hne he (List.cons.inj ht).1
  refine reads_value_scalar (hstart (by decide)) (hstart (by decide))
    (reads_scalar_run ?_ (splitRun_of_run hscalar hrest hspace) (read?_decimal n)) depth
  rw [hr, List.cons_append]
  exact string?_of_ne (hne (by decide)) (hne (by decide))

/-! ### Flags -/

/-- A flag. -/
theorem reads_boolean (b : Bool) (hrest : StartsOutside isScalarChar rest)
    (hspace : StartsOutside isSpace rest) (depth : Nat) :
    Reads (value depth) ((if b then "true" else "false").toList ++ rest) (.scalar (.boolean b))
      rest := by
  cases b with
  | true =>
    have hrun : ∀ c ∈ "true".toList, isScalarChar c = true := List.all_eq_true.mp (by rfl)
    have hread : Scalar.read? "true".toList = some (.boolean true) := if_pos rfl
    exact reads_value_scalar (by simp) (by simp)
      (reads_scalar_run (by rfl) (splitRun_of_run hrun hrest hspace) hread) depth
  | false =>
    have hrun : ∀ c ∈ "false".toList, isScalarChar c = true := List.all_eq_true.mp (by rfl)
    have hread : Scalar.read? "false".toList = some (.boolean false) := by
      rw [Scalar.read?, if_neg (by decide), if_pos rfl]
    exact reads_value_scalar (by simp) (by simp)
      (reads_scalar_run (by rfl) (splitRun_of_run hrun hrest hspace) hread) depth

/-! ### Fields -/

/-- A value of a field, in any of its spellings, at the end of its line. -/
theorem reads_scalarSpelling {x : Scalar} {t : List Char} (h : ScalarSpelling x t)
    (rest : List Char) (depth : Nat) :
    Reads (value depth) (t ++ '\n' :: rest) (.scalar x) ('\n' :: rest) := by
  have hscalar : StartsOutside isScalarChar ('\n' :: rest) := startsOutside_cons (by decide)
  have hspace : StartsOutside isSpace ('\n' :: rest) := startsOutside_cons (by decide)
  cases h with
  | integer n => exact reads_decimal n hscalar hspace depth
  | boolean b => exact reads_boolean b hscalar hspace depth
  | string h =>
    rw [List.cons_append, List.append_assoc, List.singleton_append]
    exact reads_string h (startsOutside_cons (by decide)) depth

theorem startsOutside_scalarSpelling {x : Scalar} {t : List Char} (h : ScalarSpelling x t)
    (rest : List Char) : StartsOutside isSpace (t ++ rest) := by
  cases h with
  | integer n =>
    obtain ⟨c, r, hr, -⟩ := exists_cons_decimal n
    obtain ⟨d, hd, rfl⟩ := mem_decimal (hr ▸ List.mem_cons_self : c ∈ decimal n)
    rw [hr]
    exact startsOutside_cons (digitChar_scalar hd).2.2.1
  | boolean b => cases b <;> exact startsOutside_cons (by decide)
  | string h => exact startsOutside_cons (by decide)

end Scalars

/-! ## Lines -/

theorem skipLines_of_ne {c : Char} {r : List Char} (hspace : isSpace c = false) (hc : c ≠ '#')
    (hn : c ≠ '\n') (hr : c ≠ '\r') : skipLines (c :: r) = c :: r := by
  have hspaces : skipSpaces (c :: r) = c :: r :=
    skipSpaces_of_startsOutside (startsOutside_cons hspace)
  have hcomment : skipComment (c :: r) = c :: r :=
    skipComment.eq_2 _ fun s h => hc (List.cons.inj h).1
  have hnewline : newline? (c :: r) = none :=
    newline?.eq_3 _ (fun s h => hn (List.cons.inj h).1) fun s h => hr (List.cons.inj h).1
  rw [skipLines]
  split
  · rw [hspaces, hcomment]
  · next h =>
    rw [hspaces, hcomment, hnewline] at h
    cases h

/-- A statement up to the end of its line. -/
theorem statements_line {c : Char} {r t : List Char} {x : Statement}
    (hs : skipLines (c :: r) = c :: r) (h : Reads statement (c :: r) x ('\n' :: t)) :
    statements (c :: r) = (statements t).map (x :: ·) := by
  obtain ⟨⟨_, hlen⟩, h, rfl⟩ := h
  rw [statements]
  split
  · next h' => rw [hs] at h'; cases h'
  · next h' =>
    rw [hs] at h'
    cases h'
    rw [h]
    rfl

theorem statements_nil : statements [] = some [] := by
  have hs : skipLines [] = [] := by
    rw [skipLines]
    rfl
  rw [statements]
  split
  · rfl
  · next h => rw [hs] at h; cases h

/-- A line with the header of a table. -/
theorem statements_header {key : String} (hkey : IsBareKey key.toList) (rest : List Char) :
    statements ('[' :: (key.toList ++ ']' :: '\n' :: rest))
      = (statements rest).map (.header ⟨[], key⟩ :: ·) := by
  have hread := reads_header hkey ('\n' :: rest)
  rw [String.ofList_toList] at hread
  exact statements_line (skipLines_of_ne (by decide) (by decide) (by decide) (by decide)) hread

/-- A line with an assignment to a key of the table at hand. -/
theorem statements_assignment {key : String} {text rest : List Char} {node : Node}
    (hkey : IsBareKey key.toList) (htext : StartsOutside isSpace text)
    (h : Reads (value maxDepth) text node ('\n' :: rest)) :
    statements (key.toList ++ (" = ".toList ++ text))
      = (statements rest).map (.assignment ⟨[], key⟩ node :: ·) := by
  have hread := reads_assignment hkey htext h
  rw [String.ofList_toList] at hread
  obtain ⟨c, r, hr, hc⟩ := head_bareKey hkey (" = ".toList ++ text)
  obtain ⟨hspace, -, -, hsharp, -, hn, hcr⟩ := isBareKeyChar_spec hc
  rw [hr] at hread ⊢
  exact statements_line (skipLines_of_ne hspace hsharp hn hcr) hread

end TaskProbe.Toml
