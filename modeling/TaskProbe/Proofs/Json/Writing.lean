import TaskProbe.Proofs.Json.Strings
import TaskProbe.Proofs.Json.Values

/-!
# Written values are spelled

Both layouts write a value in one of its spellings (`spelling_write`), if its numbers are integers of
64 bits and its objects are in order. What a layout puts between entries is a gap, so one lemma on
arrays and one on objects serve both.
-/

namespace TaskProbe.Json

open Text Text.Utf8

/-! ## Gaps and strings -/

theorem isGap_encode_nil : IsGap (encode []) := isGap_nil

theorem isGap_encode_cons {c : Char} {gap : List Char} (hc : c = ' ' ∨ c = '\n')
    (h : IsGap (encode gap)) : IsGap (encode (c :: gap)) := by
  intro b hb
  rw [encode_cons] at hb
  rcases List.mem_append.mp hb with hb | hb
  · rcases hc with rfl | rfl <;> rw [List.mem_singleton.mp hb] <;> decide
  · exact h b hb

theorem isGap_newLine (level : Nat) : IsGap (encode (newLine level)) := by
  refine isGap_encode_cons (.inr rfl) ?_
  induction 2 * level with
  | zero => exact isGap_encode_nil
  | succ n ih => exact isGap_encode_cons (.inl rfl) ih

theorem encode_writeString (cs : List Char) : encode (writeString cs)
    = Byte.quote :: (encode (cs.flatMap escapeChar) ++ [Byte.quote]) := by
  rw [writeString, List.cons_append, encode_cons_ascii (by decide), encode_append]
  rfl

theorem spelling_writeString (s : String) :
    Spelling (.string s) (encode (writeString s.toList)) := by
  rw [encode_writeString]
  exact .string (stringSpelling_flatMap_escapeChar s.toList)

/-! ## Lists -/

/-- Entries are listed if a comma and a gap stand before each of them but the first, and a gap before
the end. -/
theorem listed_of_tail {α : Type} {entry : α → List UInt8 → Prop} {last : Char}
    {write : α → List Char} {tail : List α → List Char} {gap gap' : List Char}
    (hlast : last.toNat < 0x80) (hg : IsGap (encode gap)) (hg' : IsGap (encode gap'))
    (hnil : tail [] = gap ++ [last])
    (hcons : ∀ x xs, tail (x :: xs) = ',' :: (gap' ++ (write x ++ tail xs))) :
    ∀ {xs : List α} {x : α}, (∀ y ∈ x :: xs, entry y (encode (write y))) →
      Listed entry last.toNat.toUInt8 (x :: xs) (encode (write x ++ tail xs))
  | [], x, h => by
    rw [hnil, encode_append, encode_append, encode_cons_ascii hlast]
    exact .last (h x List.mem_cons_self) hg
  | y :: ys, x, h => by
    -- there is no gap before a comma
    have hrest := listed_of_tail hlast hg hg' hnil hcons fun z hz =>
      h z (List.mem_cons_of_mem _ hz)
    rw [hcons, encode_append, encode_cons_ascii (by decide), encode_append]
    exact .cons (h x List.mem_cons_self) isGap_nil hg' hrest

section Gaps

variable {write : Value → List Char} {gap gap' colonGap : List Char}

/-- An array, whose items are written by `write` with gaps before them. -/
theorem spelling_items (tail : List Value → List Char) (hg : IsGap (encode gap))
    (hg' : IsGap (encode gap')) (hnil : tail [] = gap ++ [']'])
    (hcons : ∀ x xs, tail (x :: xs) = ',' :: (gap' ++ (write x ++ tail xs)))
    {x : Value} {xs : List Value} (h : ∀ y ∈ x :: xs, Spelling y (encode (write y))) :
    Spelling (.array (x :: xs)) (encode ('[' :: (gap' ++ (write x ++ tail xs)))) := by
  have hitems := listed_of_tail (by decide) hg hg' hnil hcons h
  rw [encode_cons_ascii (by decide), encode_append]
  exact .items hg' hitems

/-- A field whose value is written by `write`, with a gap after the colon. -/
def writeField (write : Value → List Char) (colonGap : List Char) (f : String × Value) :
    List Char :=
  writeString f.1.toList ++ ':' :: (colonGap ++ write f.2)

theorem fieldSpelling_writeField (hg : IsGap (encode colonGap)) {f : String × Value}
    (h : Spelling f.2 (encode (write f.2))) :
    FieldSpelling Spelling f (encode (writeField write colonGap f)) := by
  rw [writeField, encode_append, encode_writeString, encode_cons_ascii (by decide), encode_append,
    List.cons_append, List.append_assoc, List.singleton_append]
  exact .mk (stringSpelling_flatMap_escapeChar _) isGap_nil hg h

/-- An object whose fields are written in any order, their values by `write` with gaps around them. -/
theorem spelling_fields (tail : List (String × Value) → List Char) (hg : IsGap (encode gap))
    (hg' : IsGap (encode gap')) (hcolon : IsGap (encode colonGap))
    (hnil : tail [] = gap ++ ['\x7d'])
    (hcons : ∀ f fs, tail (f :: fs) = ',' :: (gap' ++ (writeField write colonGap f ++ tail fs)))
    {f : String × Value} {fs fields : List (String × Value)} (ha : Keyed.Ascending fields)
    (hp : (f :: fs).Perm fields) (h : ∀ e ∈ f :: fs, Spelling e.2 (encode (write e.2))) :
    Spelling (.object fields)
      (encode ('\x7b' :: (gap' ++ (writeField write colonGap f ++ tail fs)))) := by
  have hfields := listed_of_tail (by decide) hg hg' hnil hcons fun e he =>
    fieldSpelling_writeField hcolon (h e he)
  rw [encode_cons_ascii (by decide), encode_append]
  exact .fields ha hp hg' hfields

end Gaps

/-! ## Values -/

/-- An object in the compact layout, with its fields in any order. -/
theorem spelling_compactObject {members fields : List (String × Value)} (ha : Keyed.Ascending fields)
    (hp : members.Perm fields) (h : ∀ e ∈ members, Spelling e.2 (encode (writeCompact e.2))) :
    Spelling (.object fields) (encode (writeCompact (.object members))) := by
  cases members with
  | nil =>
    rw [List.nil_perm.mp hp]
    exact .noFields isGap_nil
  | cons f fs =>
    exact spelling_fields compactFields isGap_encode_nil isGap_encode_nil isGap_encode_nil rfl
      (fun _ _ => rfl) ha hp h

theorem spelling_writeCompact {v : Value} (hi : v.Integral) (ho : v.Ordered) :
    Spelling v (encode (writeCompact v)) := by
  induction hi with
  | null => exact .null
  | bool b => cases b <;> exact .bool _
  | int hmin hmax => exact .int hmin hmax
  | string s => exact spelling_writeString s
  | @array xs h ih =>
    cases ho with
    | array ho =>
      cases xs with
      | nil => exact .noItems isGap_nil
      | cons x xs =>
        exact spelling_items compactItems isGap_encode_nil isGap_encode_nil rfl (fun _ _ => rfl)
          fun y hy => ih y hy (ho y hy)
  | @object fields h ih =>
    cases ho with
    | object ha ho => exact spelling_compactObject ha (.refl _) fun e he => ih e he (ho e he)

section Pretty

variable (level : Nat)

theorem prettyItems_cons (x : Value) (xs : List Value) : prettyItems level (x :: xs)
    = ',' :: (newLine (level + 1) ++ (writePretty (level + 1) x ++ prettyItems level xs)) := by
  simp only [prettyItems, List.cons_append, List.append_assoc]

theorem prettyFields_cons (f : String × Value) (fs : List (String × Value)) :
    prettyFields level (f :: fs) = ',' :: (newLine (level + 1)
      ++ (writeField (writePretty (level + 1)) [' '] f ++ prettyFields level fs)) := by
  simp only [prettyFields, writeField, List.cons_append, List.append_assoc, List.nil_append]

theorem writePretty_items (x : Value) (xs : List Value) : writePretty level (.array (x :: xs))
    = '[' :: (newLine (level + 1) ++ (writePretty (level + 1) x ++ prettyItems level xs)) := by
  simp only [writePretty, List.cons_append, List.append_assoc]

theorem writePretty_fields (f : String × Value) (fs : List (String × Value)) :
    writePretty level (.object (f :: fs)) = '\x7b' :: (newLine (level + 1)
      ++ (writeField (writePretty (level + 1)) [' '] f ++ prettyFields level fs)) := by
  simp only [writePretty, writeField, List.cons_append, List.append_assoc, List.nil_append]

/-- An object in the pretty layout, with its fields in any order. -/
theorem spelling_prettyObject {members fields : List (String × Value)} (ha : Keyed.Ascending fields)
    (hp : members.Perm fields)
    (h : ∀ e ∈ members, Spelling e.2 (encode (writePretty (level + 1) e.2))) :
    Spelling (.object fields) (encode (writePretty level (.object members))) := by
  cases members with
  | nil =>
    rw [List.nil_perm.mp hp]
    exact .noFields isGap_nil
  | cons f fs =>
    have hcolon : IsGap (encode [' ']) := isGap_encode_cons (.inl rfl) isGap_encode_nil
    rw [writePretty_fields]
    exact spelling_fields (prettyFields level) (isGap_newLine level) (isGap_newLine (level + 1))
      hcolon rfl (prettyFields_cons level) ha hp h

end Pretty

theorem spelling_writePretty {v : Value} (hi : v.Integral) (ho : v.Ordered) (level : Nat) :
    Spelling v (encode (writePretty level v)) := by
  induction hi generalizing level with
  | null => exact .null
  | bool b => cases b <;> exact .bool _
  | int hmin hmax => exact .int hmin hmax
  | string s => exact spelling_writeString s
  | @array xs h ih =>
    cases ho with
    | array ho =>
      cases xs with
      | nil => exact .noItems isGap_nil
      | cons x xs =>
        rw [writePretty_items]
        exact spelling_items (prettyItems level) (isGap_newLine level) (isGap_newLine (level + 1))
          rfl (prettyItems_cons level) fun y hy => ih y hy (ho y hy) (level + 1)
  | @object fields h ih =>
    cases ho with
    | object ha ho =>
      exact spelling_prettyObject level ha (.refl _) fun e he => ih e he (ho e he) (level + 1)

/-- **Both layouts write a value in one of its spellings.** -/
theorem spelling_write {v : Value} (hi : v.Integral) (ho : v.Ordered) (layout : Layout) :
    Spelling v (encode (v.write layout)) := by
  cases layout with
  | pretty => exact spelling_writePretty hi ho 0
  | compact => exact spelling_writeCompact hi ho

/-- Both layouts write an object in one of its spellings, in whatever order its fields are. -/
theorem spelling_write_of_perm {members fields : List (String × Value)}
    (ha : Keyed.Ascending fields) (hp : members.Perm fields)
    (hi : ∀ f ∈ members, f.2.Integral) (ho : ∀ f ∈ members, f.2.Ordered) (layout : Layout) :
    Spelling (.object fields) (encode ((Value.object members).write layout)) := by
  cases layout with
  | pretty =>
    exact spelling_prettyObject 0 ha hp fun f hf => spelling_writePretty (hi f hf) (ho f hf) 1
  | compact =>
    exact spelling_compactObject ha hp fun f hf => spelling_writeCompact (hi f hf) (ho f hf)

end TaskProbe.Json
