import TaskProbe.Proofs.Task.Errno

/-!
# Codes in range

A code that a signed integer of 64 bits holds is read exactly, in whichever form a reply gives it
(`errno_is_read_exactly`): as a number, or as a text with white space, a sign and zeros around its
digits. Nothing is rounded on the way, because an integer that fits is never taken as a binary64 number.
-/

namespace TaskProbe

namespace ServerError

open Text

/-! ## Forms of a code -/

/-- The forms in which a reply may give a code. -/
inductive CodeSpelling (n : Int) : Json.Value → Prop where
  | integer : CodeSpelling n (.number (.int n))
  /-- A number with a point or an exponent may be whole, too. -/
  | float {x : Binary64} (h : x.toInt? = some n) : CodeSpelling n (.number (.float x))
  | text {before word after : List Char} (hword : IntegerSpelling n word)
    (hbefore : isAllBlank before = true) (hafter : isAllBlank after = true) :
    CodeSpelling n (.string (String.ofList (before ++ (word ++ after))))

/-- Each form of a code is read as the code itself. -/
theorem CodeSpelling.code? {n : Int} {raw : Json.Value} (h : CodeSpelling n raw)
    (hn : isInt64 n = true) : code? raw = some n := by
  cases h with
  | integer => exact if_pos hn
  | float h =>
    obtain ⟨hmin, hmax⟩ := isInt64_iff.mp hn
    have hrange : minInt64 ≤ n ∧ n ≤ -minInt64 := ⟨hmin, hmax.trans (by decide)⟩
    have hclamp : clampInt64 n = n := by
      rw [clampInt64, min_eq_right hmax, max_eq_right hmin]
    show codeOfFloat? _ = some n
    rw [codeOfFloat?, h]
    dsimp only
    rw [if_pos hrange, hclamp]
  | text hword hbefore hafter =>
    show codeOfText? (String.ofList _).toList = some n
    rw [String.toList_ofList]
    exact codeOfText?_of_spelling hn hword hbefore hafter

/-! ## The text for a code -/

/-- Where the text for a code comes from: the reply, or else the table, or else there is none. -/
inductive MessageFor (code : Int) (fields : List (String × Json.Value)) : String → Prop where
  | reply {s : String} (h : Keyed.lookup "error" fields = some (.string s)) :
    MessageFor code fields s
  | table {s : String} (h : ∀ s, Keyed.lookup "error" fields ≠ some (.string s))
    (hs : codeMessage? code = some s) : MessageFor code fields s
  | missing (h : ∀ s, Keyed.lookup "error" fields ≠ some (.string s))
    (hs : codeMessage? code = none) : MessageFor code fields ""

theorem messageFor_textFor (code : Int) (fields : List (String × Json.Value)) :
    MessageFor code fields (textFor code fields) := by
  unfold textFor
  split
  · next s h => exact .reply h
  · next h =>
    cases hs : codeMessage? code with
    | some s => exact .table h hs
    | none => exact .missing h hs

/-- **A code in range is read exactly.** Take an integer that a signed one of 64 bits holds, in any of
its forms. A reply with this code reports nothing if it is zero, and else exactly this code with its
text, whatever other members the reply has. -/
theorem errno_is_read_exactly {n : Int} (hmin : minInt64 ≤ n) (hmax : n ≤ maxInt64)
    {raw : Json.Value} (hraw : CodeSpelling n raw) {fields : List (String × Json.Value)}
    (h : Keyed.lookup "errno" fields = some raw) :
    (n = 0 → ofBody (.object fields) = none) ∧
      (n ≠ 0 → ∃ message, ofBody (.object fields) = some ⟨n, message⟩ ∧
        MessageFor n fields message) := by
  rw [ofBody_of_lookup h, hraw.code? (isInt64_iff.mpr ⟨hmin, hmax⟩), Option.bind_some]
  constructor
  · intro hzero
    rw [if_pos hzero]
  · intro hnonzero
    rw [if_neg hnonzero]
    exact ⟨_, rfl, messageFor_textFor n fields⟩

/-- The least code that fits, as a text with all that may stand around it. The table has no text for
it, and neither has the reply. -/
theorem errno_is_read_exactly_least :
    ofBody (.object [("errno", .string "\t -009223372036854775808\n"), ("error", .null)])
      = some ⟨-2 ^ 63, ""⟩ := by
  have hsign : SignOf (-2 ^ 63) ['-'] := .minus (by decide)
  have hbefore : isAllBlank ['\t', ' '] = true := by decide
  have hafter : isAllBlank ['\n'] = true := by decide
  have hraw := CodeSpelling.text (.mk hsign 2) hbefore hafter
  have htext : String.ofList (['\t', ' '] ++
      (['-'] ++ (List.replicate 2 '0' ++ decimal (-2 ^ 63 : Int).natAbs) ++ ['\n']))
      = "\t -009223372036854775808\n" := by decide +kernel
  rw [htext] at hraw
  have hlookup (v : Json.Value) : Keyed.lookup "errno" [("errno", v), ("error", .null)] = some v := rfl
  obtain ⟨message, hbody, hmessage⟩ :=
    (errno_is_read_exactly (by decide) (by decide) hraw (hlookup _)).2 (by decide)
  cases hmessage with
  | reply h => cases h
  | table h hs => cases hs
  | missing h hs => exact hbody

end ServerError

end TaskProbe
