import TaskProbe.CommandLine.Document
import TaskProbe.Proofs.Json.Objects

/-!
# Command lines part by part

A command line has eight parts, and each has a place of its own. So parts of different keys may be put
in in either order (`Part.put_comm`), and the parts of a command line give it back in whatever order
they are put in (`foldl_put_of_perm`). Arguments and JSON objects are two ways to write the parts down;
here are the objects (`ofJson_of_spelling`).
-/

namespace TaskProbe.CommandLine

/-- One part of a command line, and what is given for it. -/
inductive Part where
  | taskId (text : String)
  | submit (path : Option String)
  | compact (on : Bool)
  | noCompress (on : Bool)
  | timeoutSecs (n : Option Nat)
  | config (path : Option String)
  | logJson (on : Bool)
  | verbose (on : Bool)
  deriving DecidableEq, Repr

namespace Part

/-- The name of the part in a JSON object. -/
def key : Part → String
  | .taskId _ => "task_id"
  | .submit _ => "submit"
  | .compact _ => "compact"
  | .noCompress _ => "no_compress"
  | .timeoutSecs _ => "timeout_secs"
  | .config _ => "config"
  | .logJson _ => "log_json"
  | .verbose _ => "verbose"

/-- The value of the part in a JSON object, `null` where nothing is given. -/
def value : Part → Json.Value
  | .taskId text => .string text
  | .submit path | .config path => path.elim .null .string
  | .timeoutSecs n => n.elim .null fun n => .number (.int n)
  | .compact on | .noCompress on | .logJson on | .verbose on => .bool on

/-- The part as a member of a JSON object. -/
def member (p : Part) : String × Json.Value := (p.key, p.value)

/-- The command line with this part in place of the one it has. -/
def put (c : CommandLine) : Part → CommandLine
  | .taskId text => { c with taskId := text }
  | .submit path => { c with submit := path }
  | .compact on => { c with compact := on }
  | .noCompress on => { c with noCompress := on }
  | .timeoutSecs n => { c with timeoutSecs := n }
  | .config path => { c with config := path }
  | .logJson on => { c with logJson := on }
  | .verbose on => { c with verbose := on }

theorem put_comm {p q : Part} (h : p.key ≠ q.key) (c : CommandLine) :
    put (put c p) q = put (put c q) p := by
  cases p <;> cases q <;> first | rfl | exact absurd rfl h

end Part

/-! ## All parts -/

/-- The parts that options are for. -/
def optionParts (c : CommandLine) : List Part :=
  [.submit c.submit, .compact c.compact, .noCompress c.noCompress, .timeoutSecs c.timeoutSecs,
    .config c.config, .logJson c.logJson, .verbose c.verbose]

/-- The parts of a command line. -/
def parts (c : CommandLine) : List Part := .taskId c.taskId :: c.optionParts

theorem keys_parts (c : CommandLine) : c.parts.map Part.key = shape.fields := rfl

theorem distinct_parts (c : CommandLine) : c.parts.Pairwise (·.key ≠ ·.key) := by
  have hkeys : (c.parts.map Part.key).Pairwise (· ≠ ·) := by
    rw [keys_parts]
    decide
  exact List.pairwise_map.mp hkeys

/-- Parts of distinct keys come to the same in every order. -/
theorem foldl_put_of_perm {ps qs : List Part} (hp : ps.Perm qs)
    (hdistinct : ps.Pairwise (·.key ≠ ·.key)) (c : CommandLine) :
    ps.foldl Part.put c = qs.foldl Part.put c := by
  have hcomm : ps.Pairwise fun p q => ∀ c, Part.put (Part.put c p) q = Part.put (Part.put c q) p :=
    hdistinct.imp Part.put_comm
  have hall := hcomm.forall_of_forall_of_flip (fun _ _ _ => rfl) (hcomm.imp fun h c => (h c).symm)
  exact hp.foldl_eq' (fun p hpmem q hqmem => hall hpmem hqmem) c

/-- All parts give the command line, whatever they are put into. -/
theorem foldl_put_parts (c d : CommandLine) : c.parts.foldl Part.put d = c := by
  simp only [parts, optionParts, List.foldl_cons, List.foldl_nil, Part.put]

/-! ## Objects -/

open Json

/-- The members of the JSON object of a command line. -/
def members (c : CommandLine) : List (String × Value) := c.parts.map Part.member

/-- The JSON object of a command line. -/
def toJson (c : CommandLine) : Value := .ofFields c.members

theorem distinct_members (c : CommandLine) : c.members.Pairwise (·.1 ≠ ·.1) :=
  List.pairwise_map.mpr c.distinct_parts

theorem readsAs_optional_elim {α β : Type} {reader : Reader α} {value : β → Value} {read : β → α}
    (hvalue : ∀ x, value x ≠ .null) (h : ∀ x, ReadsAs reader (value x) (read x)) (given : Option β) :
    ReadsAs (Typed.optional reader) (given.elim .null value) (given.map read) := by
  cases given with
  | none => exact Typed.readsAs_optional_null
  | some x => exact Typed.readsAs_optional (hvalue x) (h x)

/-- A path that may be missing, put where `f` puts it. -/
theorem readsAs_path (path : Option String) (f : Option String → CommandLine) :
    ReadsAs (fun s => (Typed.optional Typed.string s).map fun (x, rest) =>
      (f (x.map String.ofList), rest)) (path.elim .null .string) (f path) := by
  have hread : ReadsAs (Typed.optional Typed.string) (path.elim .null .string)
      (path.map String.toList) := readsAs_optional_elim (by simp) Typed.readsAs_string path
  have hback : (path.map String.toList).map String.ofList = path := by
    cases path <;> simp
  have hput := hread.map fun x => f (x.map String.ofList)
  rwa [hback] at hput

/-- Each member of an object is read into its place. -/
theorem fills_shape : shape.Fills Part.member Part.put where
  known p := by cases p <;> simp [Part.member, Part.key, shape]
  put c p := by
    cases p with
    | taskId text =>
      have hput := (Typed.readsAs_string text).map fun x => { c with taskId := String.ofList x }
      rw [String.ofList_toList] at hput
      exact hput
    | submit path => exact readsAs_path path fun x => { c with submit := x }
    | compact on => exact (Typed.readsAs_bool on).map fun x => { c with compact := x }
    | noCompress on => exact (Typed.readsAs_bool on).map fun x => { c with noCompress := x }
    | timeoutSecs n =>
      have hread := readsAs_optional_elim (by simp) Typed.readsAs_uint64 n
      have hput := hread.map fun x => { c with timeoutSecs := x }
      rw [Option.map_id'] at hput
      exact hput
    | config path => exact readsAs_path path fun x => { c with config := x }
    | logJson on => exact (Typed.readsAs_bool on).map fun x => { c with logJson := x }
    | verbose on => exact (Typed.readsAs_bool on).map fun x => { c with verbose := x }

/-- A command line is read from every spelling of its JSON object, with the members in any order. -/
theorem ofJson_of_spelling {c : CommandLine} {t g g' : List UInt8} (h : Spelling c.toJson t)
    (hg : IsGap g) (hg' : IsGap g') : ofJson (g ++ (t ++ g')) = .ok c := by
  have hall : ∀ name ∈ shape.required, ∃ f ∈ c.members, f.1 = name := by
    intro name hname
    have hkey : name ∈ c.parts.map Part.key := by
      rw [keys_parts]
      revert name
      decide
    obtain ⟨p, hp, rfl⟩ := List.mem_map.mp hkey
    exact ⟨p.member, List.mem_map_of_mem hp, rfl⟩
  obtain ⟨order, horder, hread⟩ := fills_shape.readAll_object c.distinct_members hall h hg hg'
  rw [ofJson, hread, foldl_put_of_perm horder (horder.symm.pairwise c.distinct_parts Ne.symm),
    foldl_put_parts]

end TaskProbe.CommandLine
