import TaskProbe.Toml.Basic
import TaskProbe.Toml.Text

/-!
# Ways to write a document of sections

The texts that a document of sections can be written as (`SectionsSpelling`): a header for each
section, and a line for each of its fields. Numbers are decimal, and a string stands in double quotes,
where a character stands for itself or is written as any of its escapes.

The relation does not mention the reader. Every spelling is read as the document that it spells
(`Toml/Tables`).
-/

namespace TaskProbe.Toml

open Text

/-! ## Strings -/

/-- A character that stands for itself in a string in double quotes. -/
def IsPlain (c : Char) : Prop := c ≠ '"' ∧ c ≠ '\\' ∧ isTextChar c = true

/-- The characters after a backslash that stand for one character, and that character. -/
def shortForms : List (Char × Char) :=
  [('b', '\x08'), ('t', '\t'), ('n', '\n'), ('f', '\x0c'), ('r', '\r'), ('e', '\x1b'), ('"', '"'),
    ('\\', '\\')]

/-- The characters after a backslash that announce a code point, and how many hexadecimal digits it
has then. -/
def codeForms : List (Char × Nat) := [('x', 2), ('u', 4), ('U', 8)]

/-- The text that one character of a string can be written as. -/
inductive CharSpelling (c : Char) : List Char → Prop where
  | plain (h : IsPlain c) : CharSpelling c [c]
  | short {e : Char} (h : (e, c) ∈ shortForms) : CharSpelling c ['\\', e]
  | code {mark : Char} {ds : List Char} (hmark : (mark, ds.length) ∈ codeForms)
      (h : readDigits? 16 ds = some c.toNat) : CharSpelling c ('\\' :: mark :: ds)

/-- The text that a string can be written as, without its quotes. -/
inductive StringSpelling : List Char → List Char → Prop where
  | nil : StringSpelling [] []
  | cons {c : Char} {cs t ts : List Char} (h : CharSpelling c t) (hs : StringSpelling cs ts) :
      StringSpelling (c :: cs) (t ++ ts)

/-! ## Sections -/

/-- A natural number, a flag or a string as it is written. -/
inductive ScalarSpelling : Scalar → List Char → Prop where
  | integer (n : Nat) : ScalarSpelling (.integer n) (decimal n)
  | boolean (b : Bool) : ScalarSpelling (.boolean b) (if b then "true" else "false").toList
  | string {cs t : List Char} (h : StringSpelling cs t) :
      ScalarSpelling (.string cs) ('"' :: (t ++ ['"']))

/-- Fields, each on a line of its own. -/
inductive LinesSpelling : List (String × Scalar) → List Char → Prop where
  | nil : LinesSpelling [] []
  | cons {key : String} {x : Scalar} {fields : List (String × Scalar)} {t ts : List Char}
      (h : ScalarSpelling x t) (hs : LinesSpelling fields ts) :
      LinesSpelling ((key, x) :: fields) (key.toList ++ (" = ".toList ++ (t ++ '\n' :: ts)))

/-- A section: its name, and its fields with their values. -/
abbrev Section := String × List (String × Scalar)

/-- Sections, each with its header on a line of its own and its fields after it. -/
inductive SectionsSpelling : List Section → List Char → Prop where
  | nil : SectionsSpelling [] []
  | cons {name : String} {fields : List (String × Scalar)}
      {more : List Section} {t ts : List Char}
      (h : LinesSpelling fields t) (hs : SectionsSpelling more ts) :
      SectionsSpelling ((name, fields) :: more) ('[' :: (name.toList ++ ']' :: '\n' :: (t ++ ts)))

/-! ## Spellings there are -/

/-- A text of characters that stand for themselves is spelled as it is. -/
theorem stringSpelling_plain : ∀ {cs : List Char}, (∀ c ∈ cs, IsPlain c) → StringSpelling cs cs
  | [], _ => .nil
  | _ :: _, h =>
    .cons (.plain (h _ List.mem_cons_self))
      (stringSpelling_plain fun d hd => h d (List.mem_cons_of_mem _ hd))

theorem digitValue?_digitChar {d : Nat} (h : d < 16) : digitValue? 16 (digitChar d) = some d := by
  simp [digitValue?, hexValue?_digitChar h, h]

/-- A byte is read back from its two digits. -/
theorem readDigits?_hexPair {n : Nat} (h : n < 256) :
    readDigits? 16 [digitChar (n / 16), digitChar (n % 16)] = some n := by
  have hhigh : n / 16 < 16 := by omega
  have hlow : n % 16 < 16 := by omega
  simp [readDigits?, digitValue?_digitChar hhigh, digitValue?_digitChar hlow, valueOf]
  omega

/-- A control character is written as its code, and a quote or backslash has a form of its own. -/
theorem exists_charSpelling (c : Char) : ∃ t, CharSpelling c t := by
  by_cases hquote : c = '"'
  · subst hquote
    exact ⟨_, .short (by decide : ('"', '"') ∈ shortForms)⟩
  by_cases hbackslash : c = '\\'
  · subst hbackslash
    exact ⟨_, .short (by decide : ('\\', '\\') ∈ shortForms)⟩
  by_cases htext : isTextChar c = true
  · exact ⟨_, .plain ⟨hquote, hbackslash, htext⟩⟩
  have hcode : c.toNat < 256 := by
    simp only [isTextChar, Bool.or_eq_true, Bool.and_eq_true, decide_eq_true_eq, not_or] at htext
    omega
  exact ⟨_, .code (by decide : ('x', 2) ∈ codeForms) (readDigits?_hexPair hcode)⟩

theorem exists_stringSpelling : ∀ cs : List Char, ∃ t, StringSpelling cs t
  | [] => ⟨[], .nil⟩
  | c :: cs => by
    obtain ⟨t, h⟩ := exists_charSpelling c
    obtain ⟨ts, hs⟩ := exists_stringSpelling cs
    exact ⟨_, .cons h hs⟩

theorem exists_linesSpelling : ∀ {fields : List (String × Scalar)},
    (∀ f ∈ fields, ∃ t, ScalarSpelling f.2 t) → ∃ t, LinesSpelling fields t
  | [], _ => ⟨[], .nil⟩
  | f :: _, h => by
    obtain ⟨t, ht⟩ := h f List.mem_cons_self
    obtain ⟨ts, hts⟩ := exists_linesSpelling fun f' hf' => h f' (List.mem_cons_of_mem _ hf')
    exact ⟨_, .cons ht hts⟩

/-- Sections can be written if each of their values can. -/
theorem exists_sectionsSpelling : ∀ {given : List Section},
    (∀ s ∈ given, ∀ f ∈ s.2, ∃ t, ScalarSpelling f.2 t) → ∃ t, SectionsSpelling given t
  | [], _ => ⟨[], .nil⟩
  | s :: _, h => by
    obtain ⟨t, ht⟩ := exists_linesSpelling (h s List.mem_cons_self)
    obtain ⟨ts, hts⟩ := exists_sectionsSpelling fun s' hs' => h s' (List.mem_cons_of_mem _ hs')
    exact ⟨_, .cons ht hts⟩

end TaskProbe.Toml
