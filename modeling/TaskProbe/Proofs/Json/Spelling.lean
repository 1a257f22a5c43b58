import TaskProbe.Json.Parser
import TaskProbe.Json.Printer
import TaskProbe.Proofs.Keyed

/-!
# Ways to write a JSON value

The bytes that a value can be written as: with any blanks between its parts, with the fields of an
object in any order, and with any of the forms that a character of a string has (`Spelling`). The only
numbers are integers of 64 bits, and these have one form.

The relation does not mention the reader or the printer. Every spelling is read as its value
(`Json/Reading`), and both layouts are spellings (`Json/Writing`).
-/

namespace TaskProbe.Json

open Text

/-! ## Strings -/

/-- Blanks, or nothing. -/
def IsGap (g : List UInt8) : Prop := ∀ b ∈ g, Byte.isBlank b = true

theorem isGap_nil : IsGap [] := fun _ h => absurd h List.not_mem_nil

theorem isGap_of_all {g : List UInt8} (h : g.all Byte.isBlank = true) : IsGap g :=
  List.all_eq_true.mp h

/-- The bytes after a backslash that stand for one character, and that character. -/
def shortForms : List (UInt8 × Char) :=
  [(Byte.quote, '"'), (Byte.backslash, '\\'), (0x2F, '/'), (0x62, '\x08'), (0x66, '\x0c'),
    (0x6E, '\n'), (0x72, '\r'), (0x74, '\t')]

/-- Four hexadecimal digits that stand for `n`, each in either case. -/
inductive FourDigits : List UInt8 → Nat → Prop where
  | mk {a b c d : UInt8} {w x y z : Nat} (ha : Byte.hexValue? a = some w)
      (hb : Byte.hexValue? b = some x) (hc : Byte.hexValue? c = some y)
      (hd : Byte.hexValue? d = some z) :
      FourDigits [a, b, c, d] (((w * 16 + x) * 16 + y) * 16 + z)

/-- The bytes that one character of a string can be written as. -/
inductive CharSpelling (c : Char) : List UInt8 → Prop where
  | plain (hc : 0x20 ≤ c.toNat) (hquote : c ≠ '"') (hbackslash : c ≠ '\\') :
      CharSpelling c (Utf8.encodeChar c)
  | short {b : UInt8} (h : (b, c) ∈ shortForms) : CharSpelling c [Byte.backslash, b]
  | code {ds : List UInt8} (h : FourDigits ds c.toNat) :
      CharSpelling c (Byte.backslash :: 0x75 :: ds)
  | pair {ds ds' : List UInt8} {high low : Nat} (h : FourDigits ds high)
      (h' : FourDigits ds' low) (hhigh : 0xD800 ≤ high ∧ high ≤ 0xDBFF)
      (hlow : 0xDC00 ≤ low ∧ low ≤ 0xDFFF)
      (hc : c.toNat = 0x10000 + (high - 0xD800) * 0x400 + (low - 0xDC00)) :
      CharSpelling c (Byte.backslash :: 0x75 :: (ds ++ Byte.backslash :: 0x75 :: ds'))

/-- The bytes that a string can be written as, without its quotes. -/
inductive StringSpelling : List Char → List UInt8 → Prop where
  | nil : StringSpelling [] []
  | cons {c : Char} {cs : List Char} {t ts : List UInt8} (h : CharSpelling c t)
      (hs : StringSpelling cs ts) : StringSpelling (c :: cs) (t ++ ts)

/-! ## Values -/

/-- Entries with commas between them and the closing byte after them, from the first entry on. -/
inductive Listed {α : Type} (entry : α → List UInt8 → Prop) (close : UInt8) :
    List α → List UInt8 → Prop where
  | last {x : α} {t g : List UInt8} (h : entry x t) (hg : IsGap g) :
      Listed entry close [x] (t ++ (g ++ [close]))
  | cons {x : α} {xs : List α} {t g g' ts : List UInt8} (h : entry x t) (hg : IsGap g)
      (hg' : IsGap g') (hs : Listed entry close xs ts) :
      Listed entry close (x :: xs) (t ++ (g ++ Byte.comma :: (g' ++ ts)))

/-- A field: the key in quotes, a colon and the value. -/
inductive FieldSpelling (value : Value → List UInt8 → Prop) :
    String × Value → List UInt8 → Prop where
  | mk {key : String} {v : Value} {ks g g' t : List UInt8} (hk : StringSpelling key.toList ks)
      (hg : IsGap g) (hg' : IsGap g') (hv : value v t) :
      FieldSpelling value (key, v)
        (Byte.quote :: (ks ++ Byte.quote :: (g ++ Byte.colon :: (g' ++ t))))

/-- The bytes that a value can be written as. -/
inductive Spelling : Value → List UInt8 → Prop where
  | null : Spelling .null (Utf8.encode "null".toList)
  | bool (b : Bool) : Spelling (.bool b) (Utf8.encode (if b then "true" else "false").toList)
  | int {n : Int} (hmin : minInt64 ≤ n) (hmax : n ≤ maxUInt64) :
      Spelling (.number (.int n)) (Utf8.encode (decimalInt n))
  | string {s : String} {t : List UInt8} (h : StringSpelling s.toList t) :
      Spelling (.string s) (Byte.quote :: (t ++ [Byte.quote]))
  | noItems {g : List UInt8} (hg : IsGap g) :
      Spelling (.array []) (Byte.openBracket :: (g ++ [Byte.closeBracket]))
  | items {xs : List Value} {g t : List UInt8} (hg : IsGap g)
      (h : Listed Spelling Byte.closeBracket xs t) :
      Spelling (.array xs) (Byte.openBracket :: (g ++ t))
  | noFields {g : List UInt8} (hg : IsGap g) :
      Spelling (.object []) (Byte.openBrace :: (g ++ [Byte.closeBrace]))
  | fields {fields given : List (String × Value)} {g t : List UInt8}
      (ha : Keyed.Ascending fields) (hp : given.Perm fields) (hg : IsGap g)
      (h : Listed (FieldSpelling Spelling) Byte.closeBrace given t) :
      Spelling (.object fields) (Byte.openBrace :: (g ++ t))

end TaskProbe.Json
