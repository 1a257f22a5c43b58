import TaskProbe.CommandLine.Basic
import TaskProbe.Json.Shape

/-!
# Command lines as JSON

A command line may also be given as a JSON object, or as an array of the values of its fields.
-/

namespace TaskProbe.CommandLine

/-- Reads the value of a field into a command line. -/
def putField (c : CommandLine) (key : String) : Json.Reader CommandLine := fun s =>
  let read {α : Type} (reader : Json.Reader α) (put : α → CommandLine) :=
    (reader s).map fun (x, rest) => (put x, rest)
  let text := Json.Typed.string
  match key with
  | "task_id" => read text fun x => { c with taskId := String.ofList x }
  | "submit" => read (Json.Typed.optional text) fun x => { c with submit := x.map String.ofList }
  | "compact" => read Json.Typed.bool fun x => { c with compact := x }
  | "no_compress" => read Json.Typed.bool fun x => { c with noCompress := x }
  | "timeout_secs" =>
    read (Json.Typed.optional Json.Typed.uint64) fun x => { c with timeoutSecs := x }
  | "config" => read (Json.Typed.optional text) fun x => { c with config := x.map String.ofList }
  | "log_json" => read Json.Typed.bool fun x => { c with logJson := x }
  | _ => read Json.Typed.bool fun x => { c with verbose := x }

/-- The shape of a command line. -/
def shape : Json.Shape CommandLine where
  name := "struct CliConfig"
  fields := ["task_id", "submit", "compact", "no_compress", "timeout_secs", "config", "log_json",
    "verbose"]
  required := ["task_id", "compact", "no_compress", "log_json", "verbose"]
  empty := {}
  put := putField

/-- Reads a command line from a JSON text. -/
def ofJson (text : List UInt8) : Except Json.Error CommandLine := Json.readAll shape.reader text

end TaskProbe.CommandLine
