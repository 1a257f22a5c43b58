import Mathlib.Data.List.Forall2
import TaskProbe.Proofs.Keyed
import TaskProbe.Proofs.Toml.Reading

/-!
# Sections become tables

A document that is written section by section is read as one table with a table for each section
(`parse?_of_spelling`). A header makes an empty table (`apply_header`), and an assignment adds a field
to the table of the last header (`apply_assignment`), so the order in which sections and fields stand
does not matter (`parse?_of_arranges`).
-/

namespace TaskProbe.Toml

open Keyed

/-! ## Statements -/

/-- The statement that assigns a field. -/
def assignField (field : String × Scalar) : Statement := .assignment ⟨[], field.1⟩ (.scalar field.2)

/-- The statements of a section: its header, and its fields in their order. -/
def sectionStatements (given : Section) : List Statement :=
  .header ⟨[], given.1⟩ :: given.2.map assignField

theorem statements_of_lines {fields : List (String × Scalar)} {t : List Char}
    (h : LinesSpelling fields t) (hkeys : ∀ f ∈ fields, IsBareKey f.1.toList) (rest : List Char) :
    statements (t ++ rest) = (statements rest).map (fields.map assignField ++ ·) := by
  induction h with
  | nil => simp
  | @cons key x fields t ts h hs ih =>
    have hread := reads_scalarSpelling h (ts ++ rest) maxDepth
    have hline := statements_assignment (hkeys (key, x) List.mem_cons_self)
      (startsOutside_scalarSpelling h _) hread
    have hrest := ih fun f hf => hkeys f (List.mem_cons_of_mem _ hf)
    simp only [List.append_assoc, List.cons_append]
    rw [hline, hrest, Option.map_map]
    rfl

/-- The text of sections is read as their statements. -/
theorem statements_of_sections {given : List Section} {t : List Char}
    (h : SectionsSpelling given t) (hnames : ∀ s ∈ given, IsBareKey s.1.toList)
    (hkeys : ∀ s ∈ given, ∀ f ∈ s.2, IsBareKey f.1.toList) :
    statements t = some (given.flatMap sectionStatements) := by
  induction h with
  | nil => exact statements_nil
  | @cons name fields more t ts h hs ih =>
    have hlines := statements_of_lines h (hkeys _ List.mem_cons_self) ts
    have hmore := ih (fun s hs => hnames s (List.mem_cons_of_mem _ hs))
      fun s hs => hkeys s (List.mem_cons_of_mem _ hs)
    rw [statements_header (hnames _ List.mem_cons_self), hlines, hmore]
    rfl

/-! ## Tables -/

theorem apply_header {name : String} {fields : Fields} {here : List String}
    (h : lookup name fields = none) :
    Document.apply ⟨fields, here⟩ (.header ⟨[], name⟩)
      = some ⟨insert name (.table .headed []) fields, [name]⟩ := by
  simp [Document.apply, addTable, changeAt, h]

theorem addValue_of_new {key : String} {fields : Fields} (node : Node)
    (h : lookup key fields = none) :
    addValue ⟨[], key⟩ node .headed fields = some (insert key node fields) := by
  simp [addValue, changeAt, h]

theorem apply_assignment {name key : String} {fields base : Fields} (node : Node)
    (h : lookup key fields = none) :
    Document.apply ⟨insert name (.table .headed fields) base, [name]⟩ (.assignment ⟨[], key⟩ node)
      = some ⟨insert name (.table .headed (insert key node fields)) base, [name]⟩ := by
  simp [Document.apply, changeAt, lookup_insert_self, addValue_of_new node h, insert_insert]

/-- A field as it stands in a table. -/
def nodeField (field : String × Scalar) : String × Node := (field.1, .scalar field.2)

/-- The table of a section. -/
def sectionTable (given : Section) : String × Node :=
  (given.1, .table .headed (insertAll [] (given.2.map nodeField)))

/-- Fields of different keys are added one after the other to the table of the last header. -/
theorem apply_fields {name : String} {base : Fields} :
    ∀ {given : List (String × Scalar)} {fields : Fields},
      (fields ++ given.map nodeField).Pairwise (·.1 ≠ ·.1) →
      (given.map assignField).foldlM Document.apply
          ⟨insert name (.table .headed fields) base, [name]⟩
        = some ⟨insert name (.table .headed (insertAll fields (given.map nodeField))) base, [name]⟩
  | [], _, _ => rfl
  | (key, x) :: given, fields, h => by
    have hnew : ∀ f ∈ fields, f.1 ≠ key := fun f hf =>
      (List.pairwise_append.mp h).2.2 f hf (key, .scalar x) List.mem_cons_self
    -- the keys stay distinct when the field moves from those given into the table
    have hmoved : (insert key (.scalar x) fields ++ given.map nodeField).Perm
        (fields ++ nodeField (key, x) :: given.map nodeField) :=
      ((insert_perm hnew).append_right _).trans List.perm_middle.symm
    have hpairwise := hmoved.symm.pairwise h Ne.symm
    rw [List.map_cons, List.foldlM_cons, assignField,
      apply_assignment (.scalar x) (lookup_eq_none_iff.mpr hnew)]
    exact apply_fields hpairwise

theorem apply_section {given : Section} {fields : Fields}
    {here : List String} (hname : lookup given.1 fields = none)
    (hkeys : given.2.Pairwise (·.1 ≠ ·.1)) :
    (sectionStatements given).foldlM Document.apply ⟨fields, here⟩
      = some ⟨insert given.1 (sectionTable given).2 fields, [given.1]⟩ := by
  have hpairwise : (([] : Fields) ++ given.2.map nodeField).Pairwise (·.1 ≠ ·.1) :=
    List.pairwise_map.mpr hkeys
  rw [sectionStatements, List.foldlM_cons, apply_header hname]
  exact apply_fields hpairwise

/-- Sections of different names, each with fields of different keys, become the fields of one
table. -/
theorem apply_sections : ∀ {given : List Section} {fields : Fields}
    {here : List String}, (fields ++ given.map sectionTable).Pairwise (·.1 ≠ ·.1) →
    (∀ s ∈ given, s.2.Pairwise (·.1 ≠ ·.1)) → ∃ here',
    (given.flatMap sectionStatements).foldlM Document.apply ⟨fields, here⟩
      = some ⟨insertAll fields (given.map sectionTable), here'⟩
  | [], _, here, _, _ => ⟨here, rfl⟩
  | s :: given, fields, here, h, hkeys => by
    have hnew : ∀ f ∈ fields, f.1 ≠ s.1 := fun f hf =>
      (List.pairwise_append.mp h).2.2 f hf (sectionTable s) List.mem_cons_self
    have hmoved : (insert s.1 (sectionTable s).2 fields ++ given.map sectionTable).Perm
        (fields ++ sectionTable s :: given.map sectionTable) :=
      ((insert_perm hnew).append_right _).trans List.perm_middle.symm
    have hpairwise := hmoved.symm.pairwise h Ne.symm
    obtain ⟨here', hrest⟩ := @apply_sections given _ [s.1] hpairwise
      fun s' hs' => hkeys s' (List.mem_cons_of_mem _ hs')
    refine ⟨here', ?_⟩
    rw [List.flatMap_cons, List.foldlM_append,
      apply_section (lookup_eq_none_iff.mpr hnew) (hkeys s List.mem_cons_self)]
    exact hrest

/-- **A document that is written section by section is read as the table of its sections.** -/
theorem parse?_of_spelling {given : List Section} {t : List Char}
    (h : SectionsSpelling given t) (hnames : ∀ s ∈ given, IsBareKey s.1.toList)
    (hkeys : ∀ s ∈ given, ∀ f ∈ s.2, IsBareKey f.1.toList)
    (hdistinct : (given.map sectionTable).Pairwise (·.1 ≠ ·.1))
    (hfields : ∀ s ∈ given, s.2.Pairwise (·.1 ≠ ·.1)) :
    parse? t = some (insertAll [] (given.map sectionTable)) := by
  have hmark : dropMark t = t := by
    cases h with
    | nil => rfl
    | cons h hs => rfl
  obtain ⟨here, hfold⟩ := @apply_sections given [] [] hdistinct hfields
  rw [parse?, hmark, statements_of_sections h hnames hkeys, Option.bind_some, ofStatements, hfold]
  rfl

/-! ## Any order -/

/-- The same section, with its fields in any order. -/
def SameSection (given s : Section) : Prop :=
  given.1 = s.1 ∧ given.2.Perm s.2

/-- The same sections in any order, each with its fields in any order. -/
def Arranges (given sections : List Section) : Prop :=
  ∃ order, List.Forall₂ SameSection given order ∧ order.Perm sections

/-- The names of sections and the keys of their fields are in ascending order and need no quotes. -/
structure InOrder (sections : List Section) : Prop where
  names : Ascending sections
  keys : ∀ s ∈ sections, Ascending s.2
  bareNames : ∀ s ∈ sections, IsBareKey s.1.toList
  bareKeys : ∀ s ∈ sections, ∀ f ∈ s.2, IsBareKey f.1.toList

/-- The table of a section whose fields are in order. -/
def orderedTable (s : Section) : String × Node :=
  (s.1, .table .headed (s.2.map nodeField))

theorem SameSection.sectionTable_eq {given s : Section} (h : SameSection given s)
    (hkeys : Ascending s.2) : sectionTable given = orderedTable s := by
  have hascending : Ascending (s.2.map nodeField) := List.pairwise_map.mpr hkeys
  rw [sectionTable, orderedTable, h.1, insertAll_of_perm hascending (h.2.map nodeField)]

variable {given sections : List Section}

theorem map_sectionTable {order : List Section}
    (h : List.Forall₂ SameSection given order) (hkeys : ∀ s ∈ order, Ascending s.2) :
    given.map sectionTable = order.map orderedTable := by
  induction h with
  | nil => rfl
  | cons hhead _ ih =>
    rw [List.map_cons, List.map_cons, hhead.sectionTable_eq (hkeys _ List.mem_cons_self),
      ih fun s hs => hkeys s (List.mem_cons_of_mem _ hs)]

theorem arranges_refl (sections : List Section) : Arranges sections sections :=
  ⟨sections, List.forall₂_same.mpr fun _ _ => ⟨rfl, .refl _⟩, .refl _⟩

/-- Each section that is given is one of the sections, with its fields in some order. -/
theorem Arranges.exists_mem (h : Arranges given sections) {g : Section} (hg : g ∈ given) :
    ∃ s ∈ sections, SameSection g s := by
  obtain ⟨order, hsame, hperm⟩ := h
  suffices ∃ s ∈ order, SameSection g s by
    obtain ⟨s, hs, hg⟩ := this
    exact ⟨s, hperm.subset hs, hg⟩
  clear hperm
  induction hsame with
  | nil => cases hg
  | cons hhead _ ih =>
    rcases List.mem_cons.mp hg with rfl | hg
    · exact ⟨_, List.mem_cons_self, hhead⟩
    · obtain ⟨s, hs, hsame⟩ := ih hg
      exact ⟨s, List.mem_cons_of_mem _ hs, hsame⟩

theorem Arranges.bareNames (h : Arranges given sections) (hsections : InOrder sections) :
    ∀ g ∈ given, IsBareKey g.1.toList := by
  intro g hg
  obtain ⟨s, hs, hname, -⟩ := h.exists_mem hg
  exact hname ▸ hsections.bareNames s hs

theorem Arranges.bareKeys (h : Arranges given sections) (hsections : InOrder sections) :
    ∀ g ∈ given, ∀ f ∈ g.2, IsBareKey f.1.toList := by
  intro g hg f hf
  obtain ⟨s, hs, -, hperm⟩ := h.exists_mem hg
  exact hsections.bareKeys s hs f (hperm.subset hf)

/-- **The order in which sections and their fields are written does not matter.** -/
theorem parse?_of_arranges (h : Arranges given sections) (hsections : InOrder sections)
    {t : List Char} (ht : SectionsSpelling given t) :
    parse? t = some (sections.map orderedTable) := by
  have hnames := h.bareNames hsections
  have hkeys := h.bareKeys hsections
  have hfields : ∀ g ∈ given, g.2.Pairwise (·.1 ≠ ·.1) := by
    intro g hg
    obtain ⟨s, hs, -, hperm⟩ := h.exists_mem hg
    exact hperm.symm.pairwise (hsections.keys s hs).distinct Ne.symm
  obtain ⟨order, hsame, hperm⟩ := h
  have htables : (given.map sectionTable).Perm (sections.map orderedTable) := by
    rw [map_sectionTable hsame fun s hs => hsections.keys s (hperm.subset hs)]
    exact hperm.map orderedTable
  have hascending : Ascending (sections.map orderedTable) :=
    List.pairwise_map.mpr hsections.names
  have hdistinct : (given.map sectionTable).Pairwise (·.1 ≠ ·.1) :=
    htables.symm.pairwise hascending.distinct Ne.symm
  rw [parse?_of_spelling ht hnames hkeys hdistinct hfields,
    insertAll_of_perm hascending htables]

end TaskProbe.Toml
