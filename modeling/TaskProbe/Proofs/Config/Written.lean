import TaskProbe.Proofs.Config.Expansion
import TaskProbe.Proofs.Toml.Sections
import TaskProbe.Proofs.Toml.Tables

/-!
# Configurations that are written down

Every configuration can be written as a text, and is read back from it
(`File.ofText_of_arranges`), whatever order its sections and their fields stand in and however the
characters of its level are escaped. The environment does not matter, because such a text opens no
placeholder where the level opens none (`inert_sections`).
-/

namespace TaskProbe.Config

open Keyed Text Toml

/-! ## Sections of a configuration -/

/-- The fields of the section on requests that are there, in order. -/
def ClientSection.fields (s : ClientSection) : List (String × Scalar) :=
  (s.compressRequests.map fun b => ("compress_requests", .boolean b)).toList
    ++ (s.timeoutSeconds.map fun n => ("timeout_seconds", .integer n)).toList

/-- The fields of the section on output that are there. -/
def OutputSection.fields (s : OutputSection) : List (String × Scalar) :=
  (s.pretty.map fun b => ("pretty", .boolean b)).toList

/-- The fields of the section on logging that are there, in order. -/
def LoggingSection.fields (s : LoggingSection) : List (String × Scalar) :=
  (s.json.map fun b => ("json", .boolean b)).toList
    ++ (s.level.map fun text => ("level", .string text.toList)).toList

/-- The sections of a configuration that are there, in order. -/
def File.sections (c : File) : List Section :=
  (c.client.map fun s => ("client", s.fields)).toList
    ++ (c.logging.map fun s => ("logging", s.fields)).toList
    ++ (c.output.map fun s => ("output", s.fields)).toList

theorem foldlM_putKnown {α : Type} {shape : Shape α} {content content' : α}
    {field : String × Node} (h : shape.putKnown content field = .ok content') :
    [field].foldlM shape.putKnown content = .ok content' := by
  rw [List.foldlM_cons, h]
  rfl

theorem clientShape_ofFields {s : ClientSection}
    (h : ∀ n, s.timeoutSeconds = some n → n ≤ maxUInt64) :
    clientShape.ofFields (s.fields.map nodeField) = .ok s := by
  obtain ⟨timeout, compress⟩ := s
  have hcompress : ((compress.map fun b => ("compress_requests", Scalar.boolean b)).toList.map
      nodeField).foldlM clientShape.putKnown {} = .ok { compressRequests := compress } := by
    cases compress <;> rfl
  rw [Shape.ofFields, ClientSection.fields, List.map_append, List.foldlM_append,
    show clientShape.empty = {} from rfl, hcompress]
  cases timeout with
  | none => rfl
  | some n =>
    refine foldlM_putKnown ?_
    show (uint64 (.scalar (.integer n))).map _ = _
    rw [uint64_eq_ok_iff.mpr ⟨h n rfl, rfl⟩]
    rfl

theorem outputShape_ofFields (s : OutputSection) :
    outputShape.ofFields (s.fields.map nodeField) = .ok s := by
  obtain ⟨pretty⟩ := s
  cases pretty <;> rfl

theorem loggingShape_ofFields (s : LoggingSection) :
    loggingShape.ofFields (s.fields.map nodeField) = .ok s := by
  obtain ⟨level, json⟩ := s
  have hjson : ((json.map fun b => ("json", Scalar.boolean b)).toList.map
      nodeField).foldlM loggingShape.putKnown {} = .ok { json := json } := by
    cases json <;> rfl
  rw [Shape.ofFields, LoggingSection.fields, List.map_append, List.foldlM_append,
    show loggingShape.empty = {} from rfl, hjson]
  cases level with
  | none => rfl
  | some level =>
    have hput : loggingShape.putKnown { json := json } ("level", .scalar (.string level.toList))
        = .ok { level := some (String.ofList level.toList), json := json } := rfl
    rw [String.ofList_toList] at hput
    exact foldlM_putKnown hput

/-- The tables of the sections of a configuration are read as the configuration. -/
theorem fileShape_ofFields {c : File} (h : ∀ n, c.timeoutSeconds = some n → n ≤ maxUInt64) :
    fileShape.ofFields (c.sections.map orderedTable) = .ok c := by
  obtain ⟨client, output, logging⟩ := c
  have hclient : ((client.map fun s => ("client", s.fields)).toList.map orderedTable).foldlM
      fileShape.putKnown {} = .ok { client := client } := by
    cases client with
    | none => rfl
    | some s =>
      refine foldlM_putKnown ?_
      show (clientShape.ofFields (s.fields.map nodeField)).map _ = _
      rw [clientShape_ofFields h]
      rfl
  have hlogging : ((logging.map fun s => ("logging", s.fields)).toList.map orderedTable).foldlM
      fileShape.putKnown { client := client } = .ok { client := client, logging := logging } := by
    cases logging with
    | none => rfl
    | some s =>
      refine foldlM_putKnown ?_
      show (loggingShape.ofFields (s.fields.map nodeField)).map _ = _
      rw [loggingShape_ofFields]
      rfl
  rw [Shape.ofFields, File.sections, List.map_append, List.map_append, List.foldlM_append,
    List.foldlM_append, show fileShape.empty = {} from rfl, hclient]
  show List.foldlM fileShape.putKnown { client := client } _ >>= _ = _
  rw [hlogging]
  cases output with
  | none => rfl
  | some s =>
    refine foldlM_putKnown ?_
    show (outputShape.ofFields (s.fields.map nodeField)).map _ = _
    rw [outputShape_ofFields]
    rfl

/-- The values that fields of a configuration can have. -/
inductive IsValue (c : File) : Scalar → Prop where
  | integer (n : Nat) : IsValue c (.integer n)
  | boolean (b : Bool) : IsValue c (.boolean b)
  | level {level : String} (h : c.logLevel = some level) : IsValue c (.string level.toList)

theorem ascending_clientFields (s : ClientSection) : Ascending s.fields := by
  obtain ⟨timeout, compress⟩ := s
  have hkeys : ["compress_requests", "timeout_seconds"].Pairwise (· < ·) := by decide
  refine ascending_of_sublist hkeys ?_
  cases compress <;> cases timeout <;> simp [ClientSection.fields]

theorem ascending_outputFields (s : OutputSection) : Ascending s.fields := by
  obtain ⟨pretty⟩ := s
  have hkeys : ["pretty"].Pairwise (· < ·) := by decide
  refine ascending_of_sublist hkeys ?_
  cases pretty <;> simp [OutputSection.fields]

theorem ascending_loggingFields (s : LoggingSection) : Ascending s.fields := by
  obtain ⟨level, json⟩ := s
  have hkeys : ["json", "level"].Pairwise (· < ·) := by decide
  refine ascending_of_sublist hkeys ?_
  cases json <;> cases level <;> simp [LoggingSection.fields]

theorem ascending_sections (c : File) : Ascending c.sections := by
  obtain ⟨client, output, logging⟩ := c
  have hnames : ["client", "logging", "output"].Pairwise (· < ·) := by decide
  refine ascending_of_sublist hnames ?_
  cases client <;> cases logging <;> cases output <;> simp [File.sections]

/-- A section of a configuration has known keys in ascending order, with values of the
configuration. -/
theorem mem_sections {c : File} {s : Section} (h : s ∈ c.sections) :
    s.1 ∈ ["client", "logging", "output"] ∧ Ascending s.2 ∧ ∀ f ∈ s.2,
      f.1 ∈ ["compress_requests", "timeout_seconds", "json", "level", "pretty"] ∧
        IsValue c f.2 := by
  obtain ⟨client, output, logging⟩ := c
  simp only [File.sections, List.mem_append, Option.mem_toList, Option.map_eq_some_iff] at h
  rcases h with (⟨x, rfl, rfl⟩ | ⟨x, rfl, rfl⟩) | ⟨x, rfl, rfl⟩
  · refine ⟨by simp, ascending_clientFields x, fun f hf => ?_⟩
    simp only [ClientSection.fields, List.mem_append, Option.mem_toList,
      Option.map_eq_some_iff] at hf
    rcases hf with ⟨b, -, rfl⟩ | ⟨n, -, rfl⟩
    · exact ⟨by simp, .boolean b⟩
    · exact ⟨by simp, .integer n⟩
  · refine ⟨by simp, ascending_loggingFields x, fun f hf => ?_⟩
    simp only [LoggingSection.fields, List.mem_append, Option.mem_toList,
      Option.map_eq_some_iff] at hf
    rcases hf with ⟨b, -, rfl⟩ | ⟨level, hlevel, rfl⟩
    · exact ⟨by simp, .boolean b⟩
    · exact ⟨by simp, .level hlevel⟩
  · refine ⟨by simp, ascending_outputFields x, fun f hf => ?_⟩
    simp only [OutputSection.fields, Option.mem_toList, Option.map_eq_some_iff] at hf
    obtain ⟨b, -, rfl⟩ := hf
    exact ⟨by simp, .boolean b⟩

theorem inOrder_sections (c : File) : InOrder c.sections where
  names := ascending_sections c
  keys := fun _ hs => (mem_sections hs).2.1
  bareNames := fun _ hs => by
    have hall : ∀ name ∈ ["client", "logging", "output"], IsBareKey name.toList := by decide
    exact hall _ (mem_sections hs).1
  bareKeys := fun _ hs _ hf => by
    have hall : ∀ key ∈ ["compress_requests", "timeout_seconds", "json", "level", "pretty"],
        IsBareKey key.toList := by decide
    exact hall _ ((mem_sections hs).2.2 _ hf).1

theorem IsValue.exists_spelling {c : File} {x : Scalar} (h : IsValue c x) :
    ∃ t, ScalarSpelling x t := by
  cases h with
  | integer n => exact ⟨_, .integer n⟩
  | boolean b => exact ⟨_, .boolean b⟩
  | @level level h =>
    obtain ⟨t, ht⟩ := exists_stringSpelling level.toList
    exact ⟨_, .string ht⟩

/-- A configuration is read from its sections in any order. -/
theorem parse_of_arranges {c : File} (htimeout : ∀ n, c.timeoutSeconds = some n → n ≤ maxUInt64)
    {given : List Section} (horder : Arranges given c.sections)
    {t : List Char} (ht : SectionsSpelling given t) : fileShape.parse t = .ok c := by
  rw [Shape.parse, parse?_of_arranges horder (inOrder_sections c) ht]
  exact fileShape_ofFields htimeout

theorem parse_of_sections {c : File} (htimeout : ∀ n, c.timeoutSeconds = some n → n ≤ maxUInt64)
    {t : List Char} (ht : SectionsSpelling c.sections t) : fileShape.parse t = .ok c :=
  parse_of_arranges htimeout (arranges_refl _) ht

/-! ## Texts without placeholders -/

/-- No placeholder is opened in the text. -/
def Inert (s : List Char) : Prop := ¬ ['$', '\x7b'] <:+: s

theorem expand_inert {env : Environment} {s : List Char} (h : Inert s) : expand env s = s := by
  refine expand_of_unset fun name _ hm => absurd ?_ h
  have hopening : ['$', '\x7b'] <:+: writePlaceholder name.toList :=
    (List.prefix_append ['$', '\x7b'] (name.toList ++ ['\x7d'])).isInfix
  exact hopening.trans hm

theorem inert_cons {c : Char} {s : List Char} :
    Inert (c :: s) ↔ (c = '$' → s.head? ≠ some '\x7b') ∧ Inert s := by
  rw [Inert, Inert, List.infix_cons_iff, not_or, List.cons_prefix_cons]
  refine and_congr_left fun _ => ?_
  cases s with
  | nil => simp
  | cons d s => simp [eq_comm]

theorem inert_nil : Inert [] := by simp [Inert]

/-- Without a sign nothing is opened. -/
theorem inert_append {p s : List Char} (hp : '$' ∉ p) (hs : Inert s) : Inert (p ++ s) := by
  induction p with
  | nil => exact hs
  | cons c p ih =>
    rw [List.mem_cons, not_or] at hp
    exact inert_cons.mpr ⟨fun hc => absurd hc.symm hp.1, ih hp.2⟩

/-! ## Spellings open no placeholders -/

theorem not_mem_of_readDigits? {base n : Nat} {c : Char} {ds : List Char}
    (h : readDigits? base ds = some n) (hc : digitValue? base c = none) : c ∉ ds := by
  intro hmem
  obtain ⟨p, s, rfl⟩ := List.append_of_mem hmem
  simp [readDigits?, List.mapM_append, hc] at h

/-- An escape begins with a backslash and has no sign in it. -/
theorem plain_or_escape {c : Char} {t : List Char} (h : CharSpelling c t) :
    t = [c] ∨ t.head? = some '\\' ∧ '$' ∉ t := by
  cases h with
  | plain h => exact .inl rfl
  | @short e h =>
    have hforms : ∀ form ∈ shortForms, '$' ≠ form.1 := by decide
    exact .inr ⟨rfl, by simp [hforms _ h]⟩
  | @code mark ds hmark h =>
    have hforms : ∀ form ∈ codeForms, '$' ≠ form.1 := by decide
    have hdigits : '$' ∉ ds := not_mem_of_readDigits? h rfl
    exact .inr ⟨rfl, by simp [hforms _ hmark, hdigits]⟩

/-- A string in quotes opens no placeholder if what it stands for opens none. -/
theorem inert_string {cs t : List Char} (h : StringSpelling cs t) (hcs : Inert cs)
    {rest : List Char} (hrest : Inert rest) (hhead : rest.head? ≠ some '\x7b') :
    Inert (t ++ rest) ∧ ((t ++ rest).head? = some '\x7b' → cs.head? = some '\x7b') := by
  induction h with
  | nil => exact ⟨hrest, fun h => absurd h hhead⟩
  | @cons c cs t ts h hs ih =>
    obtain ⟨hopen, hcs⟩ := inert_cons.mp hcs
    obtain ⟨hts, hhead'⟩ := ih hcs
    rw [List.append_assoc]
    rcases plain_or_escape h with rfl | ⟨hbackslash, hdollar⟩
    · -- the sign could only open a placeholder together with the next character of the string
      exact ⟨inert_cons.mpr ⟨fun hc hbrace => hopen hc (hhead' hbrace), hts⟩, id⟩
    · refine ⟨inert_append hdollar hts, fun hbrace => ?_⟩
      rw [List.head?_append, hbackslash] at hbrace
      cases hbrace

/-- The value opens no placeholder, if it is a text. -/
def InertScalar (x : Scalar) : Prop := ∀ cs, x = .string cs → Inert cs

theorem inert_scalar {x : Scalar} {t : List Char} (h : ScalarSpelling x t) (hx : InertScalar x)
    {rest : List Char} (hrest : Inert rest) : Inert (t ++ rest) := by
  cases h with
  | integer n =>
    refine inert_append (fun hmem => ?_) hrest
    obtain ⟨d, hd, hdollar⟩ := mem_decimal hmem
    have hdigit := (digitChar_spec hd).1
    rw [← hdollar] at hdigit
    cases hdigit
  | boolean b =>
    have hword : '$' ∉ (if b then "true" else "false").toList := by cases b <;> decide
    exact inert_append hword hrest
  | @string cs t h =>
    have hquote : Inert ('"' :: rest) := inert_cons.mpr ⟨by simp, hrest⟩
    have hbody := (inert_string h (hx cs rfl) hquote (by simp)).1
    have hopening : Inert ('"' :: (t ++ '"' :: rest)) := inert_cons.mpr ⟨by simp, hbody⟩
    simpa using hopening

theorem not_mem_of_isBareKey {key : List Char} (h : IsBareKey key) : '$' ∉ key :=
  fun hmem => absurd (h.2 _ hmem) (by decide)

theorem inert_lines {fields : List (String × Scalar)} {t : List Char}
    (h : LinesSpelling fields t) (hkeys : ∀ f ∈ fields, IsBareKey f.1.toList)
    (hvalues : ∀ f ∈ fields, InertScalar f.2) {rest : List Char} (hrest : Inert rest) :
    Inert (t ++ rest) := by
  induction h with
  | nil => exact hrest
  | @cons key x fields t ts h hs ih =>
    have hmore : Inert (ts ++ rest) := ih (fun f hf => hkeys f (List.mem_cons_of_mem _ hf))
      fun f hf => hvalues f (List.mem_cons_of_mem _ hf)
    have hline : Inert ('\n' :: (ts ++ rest)) := inert_cons.mpr ⟨by simp, hmore⟩
    have hvalue := inert_scalar h (hvalues _ List.mem_cons_self) hline
    have hsign : Inert (" = ".toList ++ (t ++ '\n' :: (ts ++ rest))) :=
      inert_append (by decide) hvalue
    have hkey := inert_append (not_mem_of_isBareKey (hkeys _ List.mem_cons_self)) hsign
    simpa using hkey

/-- A text of sections opens no placeholder if none of its strings does. -/
theorem inert_sections {given : List Section} {t : List Char}
    (h : SectionsSpelling given t) (hnames : ∀ s ∈ given, IsBareKey s.1.toList)
    (hkeys : ∀ s ∈ given, ∀ f ∈ s.2, IsBareKey f.1.toList)
    (hvalues : ∀ s ∈ given, ∀ f ∈ s.2, InertScalar f.2) : Inert t := by
  induction h with
  | nil => exact inert_nil
  | @cons name fields more t ts h hs ih =>
    have hmore : Inert ts := ih (fun s hs => hnames s (List.mem_cons_of_mem _ hs))
      (fun s hs => hkeys s (List.mem_cons_of_mem _ hs))
      fun s hs => hvalues s (List.mem_cons_of_mem _ hs)
    have hlines : Inert (t ++ ts) := inert_lines h (hkeys _ List.mem_cons_self)
      (hvalues _ List.mem_cons_self) hmore
    have hend : Inert ("]\n".toList ++ (t ++ ts)) := inert_append (by decide) hlines
    have hname := inert_append (not_mem_of_isBareKey (hnames _ List.mem_cons_self)) hend
    exact inert_cons.mpr ⟨by simp, hname⟩

theorem IsValue.inert {c : File} (hlevel : ∀ level, c.logLevel = some level → Inert level.toList)
    {x : Scalar} (h : IsValue c x) : InertScalar x := by
  rintro cs rfl
  cases h with
  | level h => exact hlevel _ h

/-! ## Writing and reading -/

/-- **Every configuration can be written, and is read back from every text that it is written as**,
in any order of its sections and their fields, and whatever the environment holds. -/
theorem File.ofText_of_arranges {c : File}
    (htimeout : ∀ n, c.timeoutSeconds = some n → n ≤ maxUInt64)
    (hlevel : ∀ level, c.logLevel = some level → Inert level.toList)
    {given : List Section} (horder : Arranges given c.sections) :
    (∃ t, SectionsSpelling given t) ∧
      ∀ t, SectionsSpelling given t → ∀ env, ofText env t = .ok c := by
  have hsections := inOrder_sections c
  have hvalues : ∀ g ∈ given, ∀ f ∈ g.2, IsValue c f.2 := by
    intro g hg f hf
    obtain ⟨s, hs, -, hperm⟩ := horder.exists_mem hg
    exact ((mem_sections hs).2.2 f (hperm.subset hf)).2
  constructor
  · exact exists_sectionsSpelling fun g hg f hf => (hvalues g hg f hf).exists_spelling
  · intro t ht env
    have hinert : Inert t :=
      inert_sections ht (horder.bareNames hsections) (horder.bareKeys hsections)
        fun g hg f hf => (hvalues g hg f hf).inert hlevel
    rw [ofText, expand_inert hinert, parse_of_arranges htimeout horder ht]
    rfl

/-- A section without fields, a level that needs escapes, and the greatest time, with sections and
fields against their order. -/
theorem File.ofText_of_arranges_escaped :
    let level := ['"', '\\', '\x7f', '$']
    let c : File :=
      { client := some { timeoutSeconds := some maxUInt64, compressRequests := some false }
        output := some {}
        logging := some { level := some (String.ofList level) } }
    let given : List Section := [("output", []),
      ("logging", [("level", .string level)]),
      ("client", [("timeout_seconds", .integer maxUInt64), ("compress_requests", .boolean false)])]
    (∀ n, c.timeoutSeconds = some n → n ≤ maxUInt64) ∧
      (∀ text, c.logLevel = some text → Inert text.toList) ∧ Arranges given c.sections ∧
      ∀ env, ofText env ("[output]\n[logging]\nlevel = \"\\\"\\\\\\u007F$\"\n".toList
        ++ "[client]\ntimeout_seconds = 18446744073709551615\ncompress_requests = false\n".toList)
        = .ok c := by
  intro level c given
  have htimeout : ∀ n, c.timeoutSeconds = some n → n ≤ maxUInt64 := by
    rintro n ⟨⟩
    exact Nat.le_refl _
  have hlevel : ∀ text, c.logLevel = some text → Inert text.toList := by
    rintro text ⟨⟩
    simp [level, inert_cons, inert_nil]
  have hsections : c.sections = [("client", [("compress_requests", .boolean false),
      ("timeout_seconds", .integer maxUInt64)]), ("logging", [("level", .string level)]),
      ("output", [])] := by
    simp [c, File.sections, ClientSection.fields, LoggingSection.fields, OutputSection.fields]
  have hclient : SameSection
      ("client", [("timeout_seconds", .integer maxUInt64), ("compress_requests", .boolean false)])
      ("client", [("compress_requests", .boolean false), ("timeout_seconds", .integer maxUInt64)]) :=
    ⟨rfl, .swap _ _ _⟩
  have horder : Arranges given c.sections := by
    rw [hsections]
    exact ⟨_, .cons ⟨rfl, .refl _⟩ (.cons ⟨rfl, .refl _⟩ (.cons hclient .nil)),
      List.reverse_perm [_, _, _]⟩
  have hspelled : StringSpelling level "\\\"\\\\\\u007F$".toList := by
    refine .cons (.short (by decide : ('"', '"') ∈ shortForms)) ?_
    refine .cons (.short (by decide : ('\\', '\\') ∈ shortForms)) ?_
    refine .cons (@CharSpelling.code _ 'u' ['0', '0', '7', 'F'] (by decide) (by decide)) ?_
    exact .cons (.plain ⟨by decide, by decide, by decide⟩) .nil
  have htext : SectionsSpelling given _ :=
    .cons .nil (.cons (.cons (.string hspelled) .nil)
      (.cons (.cons (.integer maxUInt64) (.cons (.boolean false) .nil)) .nil))
  have hdecimal : decimal maxUInt64 = "18446744073709551615".toList := by
    simp [decimal, digits, digitChar, maxUInt64]
  rw [hdecimal] at htext
  exact ⟨htimeout, hlevel, horder, (ofText_of_arranges htimeout hlevel horder).2 _ htext⟩

end TaskProbe.Config
