import Mathlib.Data.Nat.Init
import TaskProbe.Proofs.Keyed
import TaskProbe.Toml.Parser

/-!
# Keys of documents

In a document that is read, however it is written, every table has its keys in ascending order, so each
of them is there once (`ordered_parse?`). A change somewhere in a table keeps that if it does at the
place that is changed (`Preserves.changeAt`), so every statement does (`OrderedFields.apply`), and
values are ordered by induction on the depth that they nest (`ordered_value`).
-/

namespace TaskProbe.Toml

open Keyed

/-! ## Ordered values -/

/-- Every table in the value has its keys in ascending order. -/
inductive Node.Ordered : Node → Prop where
  | scalar (x : Scalar) : Ordered (.scalar x)
  | array {items : List Node} (h : ∀ item ∈ items, Ordered item) : Ordered (.array items)
  | tables {items : List (List (String × Node))} (hkeys : ∀ fields ∈ items, Ascending fields)
      (h : ∀ fields ∈ items, ∀ f ∈ fields, Ordered f.2) : Ordered (.tables items)
  | table {kind : TableKind} {fields : List (String × Node)} (hkeys : Ascending fields)
      (h : ∀ f ∈ fields, Ordered f.2) : Ordered (.table kind fields)

/-- Keys in ascending order, with ordered values. -/
structure OrderedFields (fields : Fields) : Prop where
  keys : Ascending fields
  values : ∀ f ∈ fields, f.2.Ordered

theorem OrderedFields.nil : OrderedFields [] where
  keys := List.Pairwise.nil
  values := by simp

theorem ordered_table_iff {kind : TableKind} {fields : Fields} :
    (Node.table kind fields).Ordered ↔ OrderedFields fields := by
  constructor
  · rintro (_ | _ | _ | ⟨hkeys, h⟩)
    exact ⟨hkeys, h⟩
  · rintro ⟨hkeys, h⟩
    exact .table hkeys h

theorem ordered_tables_iff {items : List Fields} :
    (Node.tables items).Ordered ↔ ∀ fields ∈ items, OrderedFields fields := by
  constructor
  · rintro (_ | _ | ⟨hkeys, h⟩ | _) fields hfields
    exact ⟨hkeys fields hfields, h fields hfields⟩
  · intro h
    exact .tables (fun fields hfields => (h fields hfields).keys)
      fun fields hfields => (h fields hfields).values

namespace OrderedFields

variable {fields : Fields}

theorem insert (h : OrderedFields fields) (key : String) {node : Node} (hnode : node.Ordered) :
    OrderedFields (insert key node fields) where
  keys := ascending_insert key node h.keys
  values := by
    intro f hf
    rcases mem_of_mem_insert hf with rfl | hf
    · exact hnode
    · exact h.values f hf

theorem lookup (h : OrderedFields fields) {key : String} {node : Node}
    (hnode : Keyed.lookup key fields = some node) : node.Ordered :=
  h.values _ (mem_of_lookup hnode)

end OrderedFields

/-! ## Changes -/

/-- The change leaves the keys of ordered tables in order. -/
def Preserves (change : Change) : Prop :=
  ∀ kind fields fields', OrderedFields fields → change kind fields = some fields' →
    OrderedFields fields'

theorem ordered_changeLast {change : Fields → Option Fields}
    (hchange : ∀ fields fields', OrderedFields fields → change fields = some fields' →
      OrderedFields fields') :
    ∀ {items items' : List Fields}, (∀ fields ∈ items, OrderedFields fields) →
      changeLast change items = some items' → ∀ fields ∈ items', OrderedFields fields
  | [], _, _, h => by cases h
  | [fields], _, hitems, h => by
    obtain ⟨fields', hfields', rfl⟩ := Option.map_eq_some_iff.mp h
    simpa using hchange fields fields' (hitems fields (by simp)) hfields'
  | first :: second :: more, _, hitems, h => by
    obtain ⟨more', hmore', rfl⟩ := Option.map_eq_some_iff.mp h
    have hrest := ordered_changeLast hchange
      (fun fields hfields => hitems fields (List.mem_cons_of_mem _ hfields)) hmore'
    simpa using ⟨hitems first (by simp), hrest⟩

/-- A change at the end of a path leaves keys in order if the change there does. -/
theorem Preserves.changeAt {byDots : Bool} {change : Change} (h : Preserves change)
    (made : TableKind) : ∀ path, Preserves (changeAt byDots change made path)
  | [], kind, fields, fields', hfields, hchange => h kind fields fields' hfields hchange
  | key :: path, kind, fields, fields', hfields, hchange => by
    have ih : Preserves (Toml.changeAt byDots change made path) := Preserves.changeAt h made path
    unfold Toml.changeAt at hchange
    split at hchange
    · -- a table that is made
      obtain ⟨inner, hinner, rfl⟩ := Option.map_eq_some_iff.mp hchange
      exact hfields.insert key (ordered_table_iff.mpr (ih _ _ _ .nil hinner))
    · next kind' inner hlookup =>
      split at hchange
      · cases hchange
      · obtain ⟨inner', hinner', rfl⟩ := Option.map_eq_some_iff.mp hchange
        have hinner := ordered_table_iff.mp (hfields.lookup hlookup)
        exact hfields.insert key (ordered_table_iff.mpr (ih _ _ _ hinner hinner'))
    · next items hlookup =>
      obtain ⟨items', hitems', rfl⟩ := Option.map_eq_some_iff.mp hchange
      have hitems := ordered_tables_iff.mp (hfields.lookup hlookup)
      have hchanged := ordered_changeLast (fun fields fields' => ih _ fields fields') hitems hitems'
      exact hfields.insert key (ordered_tables_iff.mpr hchanged)
    · cases hchange

theorem Preserves.addValue {value : Node} (hvalue : value.Ordered) (key : KeyPath) :
    Preserves (addValue key value) := by
  refine Preserves.changeAt (fun kind fields fields' hfields h => ?_) _ _
  split at h
  · cases h
  split at h
  · cases h
  · cases h
    exact hfields.insert _ hvalue

theorem Preserves.addTable (key : KeyPath) : Preserves (addTable key) := by
  refine Preserves.changeAt (fun kind fields fields' hfields h => ?_) _ _
  split at h
  · cases h
    exact hfields.insert _ (ordered_table_iff.mpr .nil)
  · next inner hlookup =>
    cases h
    exact hfields.insert _ (ordered_table_iff.mpr (ordered_table_iff.mp (hfields.lookup hlookup)))
  · cases h

theorem Preserves.addItem (key : KeyPath) : Preserves (addItem key) := by
  refine Preserves.changeAt (fun kind fields fields' hfields h => ?_) _ _
  split at h
  · cases h
    exact hfields.insert _ (ordered_tables_iff.mpr (by simpa using OrderedFields.nil))
  · next items hlookup =>
    cases h
    have hitems := ordered_tables_iff.mp (hfields.lookup hlookup)
    refine hfields.insert _ (ordered_tables_iff.mpr fun fields hfields => ?_)
    rcases List.mem_append.mp hfields with hfields | hfields
    · exact hitems fields hfields
    · exact List.mem_singleton.mp hfields ▸ .nil
  · cases h

/-! ## Statements -/

/-- The value that is assigned, if any, is ordered. -/
def Statement.Ordered : Statement → Prop
  | .header _ => True
  | .itemHeader _ => True
  | .assignment _ value => value.Ordered

theorem OrderedFields.apply {d d' : Document} (hd : OrderedFields d.fields) {x : Statement}
    (hx : x.Ordered) (h : d.apply x = some d') : OrderedFields d'.fields := by
  cases x with
  | header key =>
    obtain ⟨fields, hfields, rfl⟩ := Option.map_eq_some_iff.mp h
    exact Preserves.addTable key _ _ _ hd hfields
  | itemHeader key =>
    obtain ⟨fields, hfields, rfl⟩ := Option.map_eq_some_iff.mp h
    exact Preserves.addItem key _ _ _ hd hfields
  | assignment key value =>
    obtain ⟨fields, hfields, rfl⟩ := Option.map_eq_some_iff.mp h
    exact (Preserves.addValue hx key).changeAt _ _ _ _ _ hd hfields

/-- A fold of steps that may fail keeps what each step keeps. -/
theorem foldlM_preserves {α β : Type} {step : β → α → Option β} {p : β → Prop} {q : α → Prop}
    (hstep : ∀ b a b', p b → q a → step b a = some b' → p b') :
    ∀ {xs : List α} {b b' : β}, p b → (∀ a ∈ xs, q a) → xs.foldlM step b = some b' → p b'
  | [], _, _, hb, _, h => by
    cases h
    exact hb
  | a :: xs, b, b', hb, hxs, h => by
    rw [List.foldlM_cons] at h
    obtain ⟨b₁, hb₁, hrest⟩ := Option.bind_eq_some_iff.mp h
    exact foldlM_preserves hstep (hstep b a b₁ hb (hxs a List.mem_cons_self) hb₁)
      (fun a' ha' => hxs a' (List.mem_cons_of_mem _ ha')) hrest

theorem ordered_ofStatements {xs : List Statement} (hxs : ∀ x ∈ xs, x.Ordered) {fields : Fields}
    (h : ofStatements xs = some fields) : OrderedFields fields := by
  obtain ⟨d, hd, rfl⟩ := Option.map_eq_some_iff.mp h
  exact foldlM_preserves (p := fun d => OrderedFields d.fields)
    (fun d x d' hd hx hd' => hd.apply hx hd') .nil hxs hd

theorem ordered_ofAssignments {assignments : List (KeyPath × Node)}
    (hvalues : ∀ a ∈ assignments, a.2.Ordered) {fields : Fields}
    (h : ofAssignments assignments = some fields) : OrderedFields fields :=
  foldlM_preserves (q := fun a : KeyPath × Node => a.2.Ordered)
    (fun fields a fields' hfields ha hfields' =>
      Preserves.addValue ha a.1 .headed fields fields' hfields hfields') .nil hvalues h

/-! ## Values -/

/-- Whatever the reader takes off a text has the property. -/
def Yields {α : Type} (reader : Reader α) (p : α → Prop) : Prop :=
  ∀ s x rest, reader s = some (x, rest) → p x

theorem yields_entries {α : Type} {close : Char} {entry : Reader α} {p : α → Prop}
    (h : Yields entry p) (s : List Char) :
    ∀ xs rest, entries close entry s = some (xs, rest) → ∀ x ∈ xs, p x := by
  fun_induction entries close entry s with
  | case1 => intro xs rest hxs; cases hxs
  | case2 =>
    intro xs rest hxs
    cases hxs
    simp
  | case3 => intro xs rest hxs; cases hxs
  | case4 => intro xs rest hxs; cases hxs
  | case5 s c r hs hc x t ht hx =>
    -- the last entry
    intro xs rest hxs
    cases hxs
    simpa using h _ _ _ hx
  | case6 => intro xs rest hxs; cases hxs
  | case7 s c r hs hc x t ht hx ht' u more rest hmore hcomma hu hend ih =>
    intro xs rest' hxs
    cases hxs
    simpa using ⟨h _ _ _ hx, ih _ _ hmore⟩
  | case8 => intro xs rest hxs; cases hxs

theorem yields_assignment {frame : Frame} {value : Reader Node} {p : Node → Prop}
    (h : Yields value p) : Yields (assignment frame value) (p ·.2) := by
  intro s x rest hx
  unfold assignment at hx
  split at hx
  · cases hx
  split at hx
  · split at hx
    · cases hx
    · next hvalue =>
      cases hx
      exact h _ _ _ hvalue
  · cases hx

theorem ordered_valueWith {nested : Option (Reader Node)}
    (h : ∀ item, nested = some item → Yields item Node.Ordered) :
    Yields (valueWith nested) Node.Ordered := by
  intro s x rest hx
  unfold valueWith at hx
  split at hx
  · obtain ⟨item, hitem, hx⟩ := Option.bind_eq_some_iff.mp hx
    obtain ⟨⟨items, rest'⟩, hitems, hx⟩ := Option.map_eq_some_iff.mp hx
    cases hx
    exact .array (yields_entries (h item hitem) _ _ _ hitems)
  · obtain ⟨item, hitem, hx⟩ := Option.bind_eq_some_iff.mp hx
    split at hx
    · cases hx
    · next hassignments =>
      obtain ⟨fields, hfields, hx⟩ := Option.map_eq_some_iff.mp hx
      cases hx
      have hvalues := yields_entries (yields_assignment (h item hitem)) _ _ _ hassignments
      exact ordered_table_iff.mpr (ordered_ofAssignments hvalues hfields)
  · obtain ⟨⟨x, rest'⟩, -, hx⟩ := Option.map_eq_some_iff.mp hx
    cases hx
    exact .scalar x

theorem ordered_value : ∀ depth, Yields (value depth) Node.Ordered
  | 0 => ordered_valueWith (by simp)
  | depth + 1 => ordered_valueWith (by simpa using ordered_value depth)

/-! ## Documents -/

theorem ordered_statement : Yields statement Statement.Ordered := by
  intro s x rest hx
  unfold statement at hx
  split at hx
  · split at hx
    · cases hx
      trivial
    · cases hx
  · split at hx
    · cases hx
      trivial
    · cases hx
  · obtain ⟨⟨⟨key, x⟩, rest'⟩, hassignment, hx⟩ := Option.map_eq_some_iff.mp hx
    cases hx
    exact yields_assignment (ordered_value maxDepth) _ _ _ hassignment

theorem ordered_statements (s : List Char) :
    ∀ xs, statements s = some xs → ∀ x ∈ xs, x.Ordered := by
  fun_induction statements s with
  | case1 =>
    intro xs hxs
    cases hxs
    simp
  | case2 => intro xs hxs; cases hxs
  | case3 => intro xs hxs; cases hxs
  | case4 s c r hs x t ht hx u hu hlength ih =>
    intro xs hxs
    obtain ⟨more, hmore, rfl⟩ := Option.map_eq_some_iff.mp hxs
    simpa using ⟨ordered_statement _ _ _ hx, ih more hmore⟩

/-- **In a document, every table has its keys in ascending order.** -/
theorem ordered_parse? {s : List Char} {doc : Fields} (h : parse? s = some doc) :
    OrderedFields doc := by
  obtain ⟨xs, hxs, hdoc⟩ := Option.bind_eq_some_iff.mp h
  exact ordered_ofStatements (ordered_statements _ xs hxs) hdoc

end TaskProbe.Toml
