import TaskProbe.Proofs.Config.Variables
import TaskProbe.Proofs.Toml.Documents
import TaskProbe.Proofs.Toml.Sections
import TaskProbe.Proofs.Toml.Tables

/-!
# No key is ignored

A configuration that is read from a document holds exactly what the document says: all keys of the
document are known, a section is missing exactly if its key is, and a section that is a table has
exactly the values of the table. One key that is not known or one value that does not fit, and nothing
is read (`File.ofText_exact`).
-/

namespace TaskProbe.Config

open Text Toml

/-! ## Values of sections -/

/-- A value that fits the field of a section. -/
def Fits (name key : String) (x : Scalar) : Prop :=
  (name = "client" ∧ key = "timeout_seconds" ∧ ∃ n : Nat, n ≤ maxUInt64 ∧ x = .integer n) ∨
    (name = "client" ∧ key = "compress_requests" ∧ ∃ b, x = .boolean b) ∨
    (name = "output" ∧ key = "pretty" ∧ ∃ b, x = .boolean b) ∨
    (name = "logging" ∧ key = "level" ∧ ∃ cs, x = .string cs) ∨
    (name = "logging" ∧ key = "json" ∧ ∃ b, x = .boolean b)

/-- The value of a field of the section on requests, as a document has it. -/
def ClientSection.value (s : ClientSection) (key : String) : Option Scalar :=
  if key = "timeout_seconds" then s.timeoutSeconds.map fun n => .integer n
  else s.compressRequests.map .boolean

/-- The value of a field of the section on output, as a document has it. -/
def OutputSection.value (s : OutputSection) (_ : String) : Option Scalar := s.pretty.map .boolean

/-- The value of a field of the section on logging, as a document has it. -/
def LoggingSection.value (s : LoggingSection) (key : String) : Option Scalar :=
  if key = "level" then s.level.map fun text => .string text.toList else s.json.map .boolean

theorem lawful_clientShape :
    clientShape.Lawful (fun key node x => node = .scalar x ∧ Fits "client" key x)
      ClientSection.value where
  empty := by
    intro key _
    simp [ClientSection.value, clientShape]
  put := by
    intro content key node content' hkey h
    simp only [clientShape, List.mem_cons, List.not_mem_nil, or_false] at hkey h
    rcases hkey with rfl | rfl
    · rw [if_pos rfl] at h
      obtain ⟨n, hn, rfl⟩ := map_eq_ok_iff.mp h
      obtain ⟨hbound, rfl⟩ := uint64_eq_ok_iff.mp hn
      refine ⟨_, ⟨rfl, .inl ⟨rfl, rfl, n, hbound, rfl⟩⟩, rfl, ?_⟩
      simp [ClientSection.value, clientShape]
    · rw [if_neg (by decide)] at h
      obtain ⟨b, hb, rfl⟩ := map_eq_ok_iff.mp h
      refine ⟨_, ⟨boolean_eq_ok_iff.mp hb, by simp [Fits]⟩, rfl, ?_⟩
      simp [ClientSection.value, clientShape]
  accepts := by
    rintro key node x content ⟨rfl, hfits⟩
    simp only [Fits, true_and, String.reduceEq, false_and, or_false] at hfits
    rcases hfits with ⟨rfl, n, hbound, rfl⟩ | ⟨rfl, b, rfl⟩
    · exact ⟨by decide, _, map_eq_ok_iff.mpr ⟨n, uint64_eq_ok_iff.mpr ⟨hbound, rfl⟩, rfl⟩⟩
    · exact ⟨by decide, _, rfl⟩

theorem lawful_outputShape :
    outputShape.Lawful (fun key node x => node = .scalar x ∧ Fits "output" key x)
      OutputSection.value where
  empty := by
    intro key _
    simp [OutputSection.value, outputShape]
  put := by
    intro content key node content' hkey h
    simp only [outputShape, List.mem_singleton] at hkey h
    subst hkey
    obtain ⟨b, hb, rfl⟩ := map_eq_ok_iff.mp h
    refine ⟨_, ⟨boolean_eq_ok_iff.mp hb, by simp [Fits]⟩, rfl, ?_⟩
    simp [outputShape]
  accepts := by
    rintro key node x content ⟨rfl, hfits⟩
    simp only [Fits, true_and, String.reduceEq, false_and, false_or, or_false] at hfits
    obtain ⟨rfl, b, rfl⟩ := hfits
    exact ⟨by decide, _, rfl⟩

theorem lawful_loggingShape :
    loggingShape.Lawful (fun key node x => node = .scalar x ∧ Fits "logging" key x)
      LoggingSection.value where
  empty := by
    intro key _
    simp [LoggingSection.value, loggingShape]
  put := by
    intro content key node content' hkey h
    simp only [loggingShape, List.mem_cons, List.not_mem_nil, or_false] at hkey h
    rcases hkey with rfl | rfl
    · rw [if_pos rfl] at h
      obtain ⟨text, htext, rfl⟩ := map_eq_ok_iff.mp h
      refine ⟨_, ⟨text_eq_ok_iff.mp htext, by simp [Fits]⟩, rfl, ?_⟩
      simp [LoggingSection.value, loggingShape]
    · rw [if_neg (by decide)] at h
      obtain ⟨b, hb, rfl⟩ := map_eq_ok_iff.mp h
      refine ⟨_, ⟨boolean_eq_ok_iff.mp hb, by simp [Fits]⟩, rfl, ?_⟩
      simp [LoggingSection.value, loggingShape]
  accepts := by
    rintro key node x content ⟨rfl, hfits⟩
    simp only [Fits, true_and, String.reduceEq, false_and, false_or] at hfits
    rcases hfits with ⟨rfl, cs, rfl⟩ | ⟨rfl, b, rfl⟩
    · exact ⟨by decide, _, rfl⟩
    · exact ⟨by decide, _, rfl⟩

/-! ## Sections of a configuration -/

/-- A section of a configuration. -/
inductive Part where
  | client (s : ClientSection)
  | output (s : OutputSection)
  | logging (s : LoggingSection)

/-- The section is read from the value of a key. -/
def Part.ReadFrom (name : String) (node : Node) : Part → Prop
  | client s => name = "client" ∧ clientShape.read node = .ok s
  | output s => name = "output" ∧ outputShape.read node = .ok s
  | logging s => name = "logging" ∧ loggingShape.read node = .ok s

/-- The section of a name. -/
def File.part (c : File) (name : String) : Option Part :=
  if name = "client" then c.client.map .client
  else if name = "output" then c.output.map .output
  else c.logging.map .logging

theorem lawful_fileShape : fileShape.Lawful Part.ReadFrom File.part where
  empty := by
    intro name _
    simp [File.part, fileShape]
  put := by
    intro content name node content' hname h
    simp only [fileShape, List.mem_cons, List.not_mem_nil, or_false] at hname h
    rcases hname with rfl | rfl | rfl
    · rw [if_pos rfl] at h
      obtain ⟨s, hs, rfl⟩ := map_eq_ok_iff.mp h
      refine ⟨.client s, ⟨rfl, hs⟩, rfl, ?_⟩
      simp [File.part, fileShape]
    · rw [if_neg (by decide), if_pos rfl] at h
      obtain ⟨s, hs, rfl⟩ := map_eq_ok_iff.mp h
      refine ⟨.output s, ⟨rfl, hs⟩, rfl, ?_⟩
      simp [File.part, fileShape]
    · rw [if_neg (by decide), if_neg (by decide)] at h
      obtain ⟨s, hs, rfl⟩ := map_eq_ok_iff.mp h
      refine ⟨.logging s, ⟨rfl, hs⟩, rfl, ?_⟩
      simp [File.part, fileShape]
  accepts := by
    intro name node part content h
    cases part with
    | client s =>
      obtain ⟨rfl, hs⟩ := h
      exact ⟨by decide, _, map_eq_ok_iff.mpr ⟨s, hs, rfl⟩⟩
    | output s =>
      obtain ⟨rfl, hs⟩ := h
      exact ⟨by decide, _, map_eq_ok_iff.mpr ⟨s, hs, rfl⟩⟩
    | logging s =>
      obtain ⟨rfl, hs⟩ := h
      exact ⟨by decide, _, map_eq_ok_iff.mpr ⟨s, hs, rfl⟩⟩

/-! ## Documents -/

/-- The table has no fields but those of a section, and each of them exactly if it has a value. -/
structure TableExact (fields : Fields) (keys : List String) (value : String → Option Scalar) :
    Prop where
  known : ∀ f ∈ fields, f.1 ∈ keys
  carries : ∀ key ∈ keys, Carries fields key (value key)

/-- A section is there exactly if the document has its key, and has exactly the values of its table,
if it is given as one. -/
structure SectionExact {α : Type} (doc : Fields) (name : String) (x : Option α)
    (keys : List String) (value : α → String → Option Scalar) : Prop where
  absent : x = none ↔ ∀ f ∈ doc, f.1 ≠ name
  table : ∀ kind fields, (name, .table kind fields) ∈ doc →
    ∃ s, x = some s ∧ TableExact fields keys (value s)

/-- The configuration holds what the document says, and the document says nothing else. -/
structure File.Exact (c : File) (doc : Fields) : Prop where
  known : ∀ f ∈ doc, f.1 ∈ ["client", "output", "logging"]
  client : SectionExact doc "client" c.client ["timeout_seconds", "compress_requests"]
    ClientSection.value
  output : SectionExact doc "output" c.output ["pretty"] OutputSection.value
  logging : SectionExact doc "logging" c.logging ["level", "json"] LoggingSection.value

theorem tableExact_of_ofFields {α : Type} {shape : Shape α} {name : String}
    {value : α → String → Option Scalar}
    (h : shape.Lawful (fun key node x => node = .scalar x ∧ Fits name key x) value)
    {fields : Fields} (hfields : Keyed.Ascending fields) {s : α}
    (hs : shape.ofFields fields = .ok s) : TableExact fields shape.fields (value s) where
  known := fun _ hf => (h.view_of_mem hfields.distinct hs hf).1
  carries := fun _ hkey => h.carries hfields.distinct hs hkey

variable {doc : Fields} {c : File}

theorem sectionExact {α : Type} {shape : Shape α} {name : String} {x : Option α}
    {value : α → String → Option Scalar} {part : α → Part} (hdoc : OrderedFields doc)
    (hc : fileShape.ofFields doc = .ok c) (hname : name ∈ fileShape.fields)
    (h : shape.Lawful (fun key node x => node = .scalar x ∧ Fits name key x) value)
    (hpart : c.part name = x.map part)
    (hread : ∀ node s, Part.ReadFrom name node (part s) → shape.read node = .ok s) :
    SectionExact doc name x shape.fields value where
  absent := by
    have hnone := lawful_fileShape.view_eq_none_iff hdoc.keys.distinct hc hname
    rw [hpart, Option.map_eq_none_iff] at hnone
    exact hnone
  table := by
    intro kind fields hfields
    obtain ⟨-, y, hy, hview⟩ := lawful_fileShape.view_of_mem hdoc.keys.distinct hc hfields
    obtain ⟨s, rfl, rfl⟩ := Option.map_eq_some_iff.mp (hpart.symm.trans hview)
    have hordered := ordered_table_iff.mp (hdoc.values _ hfields)
    exact ⟨s, rfl, tableExact_of_ofFields h hordered.keys (hread _ s hy)⟩

theorem exact_of_ofFields (hdoc : OrderedFields doc) (hc : fileShape.ofFields doc = .ok c) :
    c.Exact doc where
  known := fun _ hf => (lawful_fileShape.view_of_mem hdoc.keys.distinct hc hf).1
  client := sectionExact hdoc hc (by decide) lawful_clientShape rfl fun _ _ h => h.2
  output := sectionExact hdoc hc (by decide) lawful_outputShape rfl fun _ _ h => h.2
  logging := sectionExact hdoc hc (by decide) lawful_loggingShape rfl fun _ _ h => h.2

/-! ## Faults -/

/-- Something in the document is not known or does not fit. -/
inductive Faulty (doc : Fields) : Prop where
  /-- A key is no section. -/
  | key {f : String × Node} (hf : f ∈ doc) (h : f.1 ∉ ["client", "output", "logging"])
  /-- A section is neither a table nor an array. -/
  | scalar {name : String} {x : Scalar} (hf : (name, .scalar x) ∈ doc)
  /-- A section has a field that it does not know, or a value that does not fit its field. -/
  | field {name : String} {kind : TableKind} {fields : Fields} {f : String × Node}
      (hf : (name, .table kind fields) ∈ doc) (hfield : f ∈ fields)
      (h : ∀ x, f.2 = .scalar x → ¬ Fits name f.1 x)

theorem fits_of_ofFields {α : Type} {shape : Shape α} {name : String}
    {value : α → String → Option Scalar}
    (h : shape.Lawful (fun key node x => node = .scalar x ∧ Fits name key x) value)
    {fields : Fields} (hfields : Keyed.Ascending fields) {s : α}
    (hs : shape.ofFields fields = .ok s) {f : String × Node} (hf : f ∈ fields) :
    ∃ x, f.2 = .scalar x ∧ Fits name f.1 x := by
  obtain ⟨-, x, hx, -⟩ := h.view_of_mem hfields.distinct hs hf
  exact ⟨x, hx⟩

theorem Part.ReadFrom.fits {name : String} {kind : TableKind} {fields : Fields} {part : Part}
    (h : part.ReadFrom name (.table kind fields)) (hfields : Keyed.Ascending fields)
    {f : String × Node} (hf : f ∈ fields) : ∃ x, f.2 = .scalar x ∧ Fits name f.1 x := by
  cases part with
  | client s =>
    obtain ⟨rfl, hs⟩ := h
    exact fits_of_ofFields lawful_clientShape hfields hs hf
  | output s =>
    obtain ⟨rfl, hs⟩ := h
    exact fits_of_ofFields lawful_outputShape hfields hs hf
  | logging s =>
    obtain ⟨rfl, hs⟩ := h
    exact fits_of_ofFields lawful_loggingShape hfields hs hf

theorem Part.ReadFrom.not_scalar {name : String} {x : Scalar} {part : Part} :
    ¬ part.ReadFrom name (.scalar x) := by
  intro h
  cases part with
  | client s => exact Shape.read_scalar h.2
  | output s => exact Shape.read_scalar h.2
  | logging s => exact Shape.read_scalar h.2

/-- A table is accepted as a section if all of its values fit. -/
theorem exists_readFrom {name : String} (hname : name ∈ ["client", "output", "logging"])
    (kind : TableKind) {fields : Fields}
    (h : ∀ f ∈ fields, ∃ x, f.2 = .scalar x ∧ Fits name f.1 x) :
    ∃ part, Part.ReadFrom name (.table kind fields) part := by
  simp only [List.mem_cons, List.not_mem_nil, or_false] at hname
  rcases hname with rfl | rfl | rfl
  · obtain ⟨s, hs⟩ := lawful_clientShape.exists_ofFields h
    exact ⟨.client s, rfl, hs⟩
  · obtain ⟨s, hs⟩ := lawful_outputShape.exists_ofFields h
    exact ⟨.output s, rfl, hs⟩
  · obtain ⟨s, hs⟩ := lawful_loggingShape.exists_ofFields h
    exact ⟨.logging s, rfl, hs⟩

/-- What is accepted has no faults. -/
theorem not_faulty_of_ofFields (hdoc : OrderedFields doc) (hc : fileShape.ofFields doc = .ok c) :
    ¬ Faulty doc := by
  intro hfaulty
  cases hfaulty with
  | key hf h =>
    have hknown := (lawful_fileShape.view_of_mem hdoc.keys.distinct hc hf).1
    exact h hknown
  | scalar hf =>
    obtain ⟨-, part, hpart, -⟩ := lawful_fileShape.view_of_mem hdoc.keys.distinct hc hf
    exact hpart.not_scalar
  | field hf hfield h =>
    obtain ⟨-, part, hpart, -⟩ := lawful_fileShape.view_of_mem hdoc.keys.distinct hc hf
    have hordered := ordered_table_iff.mp (hdoc.values _ hf)
    obtain ⟨x, hx, hfits⟩ := hpart.fits hordered.keys hfield
    exact h x hx hfits

/-- A document of tables without faults is accepted. -/
theorem exists_ofFields_of_not_faulty (htables : ∀ f ∈ doc, ∃ kind fields, f.2 = .table kind fields)
    (h : ¬ Faulty doc) : ∃ c, fileShape.ofFields doc = .ok c := by
  refine lawful_fileShape.exists_ofFields fun f hf => ?_
  obtain ⟨name, node⟩ := f
  obtain ⟨kind, fields, rfl⟩ := htables _ hf
  have hname : name ∈ ["client", "output", "logging"] := by
    by_cases hname : name ∈ ["client", "output", "logging"]
    · exact hname
    · exact absurd (.key hf hname) h
  refine exists_readFrom hname kind fun field hfield => ?_
  by_cases hfits : ∀ x, field.2 = .scalar x → ¬ Fits name field.1 x
  · exact absurd (.field hf hfield hfits) h
  · simpa using hfits

/-! ## Texts -/

theorem File.ofText_eq_ok_iff {env : Environment} {s : List Char} :
    ofText env s = .ok c ↔
      ∃ doc, parse? (expand env s) = some doc ∧ fileShape.ofFields doc = .ok c := by
  rw [ofText, mapError_eq_ok_iff, Shape.parse]
  cases parse? (expand env s) with
  | none => simp
  | some doc => simp

/-- Whatever is wrong with a text, the error names the step that reads it. -/
theorem File.ofText_eq_error {env : Environment} {s : List Char} (h : ∀ c, ofText env s ≠ .ok c) :
    ∃ message, ofText env s = .error (.invalidConfig "toml_parsing" message) := by
  cases hparse : fileShape.parse (expand env s) with
  | error e => exact ⟨_, by rw [ofText, hparse]; rfl⟩
  | ok c =>
    refine absurd ?_ (h c)
    rw [ofText, hparse]
    rfl

/-- **No key of a configuration is ignored.** What is accepted holds exactly what the document says.
A document with a key that is not known, or a value that does not fit, is refused; and a document of
tables is refused for nothing else. -/
theorem File.ofText_exact (env : Environment) (s : List Char) :
    (∀ c, ofText env s = .ok c → ∃ doc, parse? (expand env s) = some doc ∧ c.Exact doc) ∧
      (∀ doc, parse? (expand env s) = some doc → Faulty doc →
        ∃ message, ofText env s = .error (.invalidConfig "toml_parsing" message)) ∧
      ∀ doc, parse? (expand env s) = some doc →
        (∀ f ∈ doc, ∃ kind fields, f.2 = .table kind fields) → ¬ Faulty doc →
        ∃ c, ofText env s = .ok c := by
  refine ⟨fun c hc => ?_, fun doc hdoc hfaulty => ?_, fun doc hdoc htables h => ?_⟩
  · obtain ⟨doc, hdoc, hfields⟩ := ofText_eq_ok_iff.mp hc
    exact ⟨doc, hdoc, exact_of_ofFields (ordered_parse? hdoc) hfields⟩
  · refine ofText_eq_error fun c hc => ?_
    obtain ⟨doc', hdoc', hfields⟩ := ofText_eq_ok_iff.mp hc
    cases hdoc.symm.trans hdoc'
    exact not_faulty_of_ofFields (ordered_parse? hdoc) hfields hfaulty
  · obtain ⟨c, hc⟩ := exists_ofFields_of_not_faulty htables h
    exact ⟨c, ofText_eq_ok_iff.mpr ⟨doc, hdoc, hc⟩⟩

/-- A time allowed is accounted for; without the last letter of its key it is refused. -/
theorem File.ofText_exact_misspelled :
    let env : Environment := fun _ => none
    (∃ doc, parse? (expand env "[client]\ntimeout_seconds = 9\n".toList) = some doc ∧
        Exact { client := some { timeoutSeconds := some 9 } } doc) ∧
      ∃ message, ofText env "[client]\ntimeout_second = 9\n".toList
        = .error (.invalidConfig "toml_parsing" message) := by
  intro env
  constructor
  · have hexpand : expand env "[client]\ntimeout_seconds = 9\n".toList
        = "[client]\ntimeout_seconds = 9\n".toList := expand_of_not_mem (.inl rfl) (by decide)
    have hparse := parse_timeoutText (n := 9) (by decide)
    rw [decimal_of_lt (by decide)] at hparse
    refine (ofText_exact env _).1 _ ?_
    rw [ofText, hexpand]
    exact congrArg (Except.mapError _) hparse
  · have hexpand : expand env "[client]\ntimeout_second = 9\n".toList
        = "[client]\ntimeout_second = 9\n".toList := expand_of_not_mem (.inl rfl) (by decide)
    have hspelling : SectionsSpelling [("client", [("timeout_second", .integer (9 : Nat))])] _ :=
      .cons (.cons (.integer 9) .nil) .nil
    rw [decimal_of_lt (by decide)] at hspelling
    have hparse := parse?_of_spelling hspelling (by decide) (by decide) (by simp) (by simp)
    refine (ofText_exact env _).2.1 _ ((congrArg parse? hexpand).trans hparse) ?_
    refine .field (List.mem_singleton.mpr rfl) (List.mem_singleton.mpr rfl) ?_
    simp [Fits, nodeField]
end TaskProbe.Config
