import FormLogic.Context.Decode
import FormLogic.Json.Reader
import FormLogic.Yaml.Reader

/-!
# Context snapshots

A context can be stored in a file of JSON or YAML text; the extension of the file's name says
which.  The file is read, and has to be UTF-8, before its extension is judged.
-/

namespace FormLogic

/-- **Why a snapshot has no context.** -/
inductive SnapshotError where
  /-- The file cannot be read as text. -/
  | unreadable
  | json
  | yaml
  | unsupported (file extension : String)
deriving DecidableEq, Repr

/-- The text of an error; the two formats do not say more than that they failed. -/
def SnapshotError.message : SnapshotError → String
  | unreadable => "Unreadable context file"
  | json => "Invalid JSON context"
  | yaml => "Invalid YAML context"
  | unsupported file extension =>
    "Unsupported context format: " ++ file ++ " (extension '" ++ extension ++ "')"

namespace Context

/-- The context of a JSON text. -/
def ofJson (text : String) : Except SnapshotError Context :=
  match (Json.read? text.toList).bind ofDocument? with
  | some c => .ok c
  | none => .error .json

/-- The context of a YAML text. -/
def ofYaml (text : String) : Except SnapshotError Context :=
  match (Yaml.read? text.toList).bind ofDocument? with
  | some c => .ok c
  | none => .error .yaml

/-- The extension of a path: what follows the last point of its last component, in lower case.
A point at the front of a name begins no extension. -/
def extension (path : String) : String :=
  let name := (path.toList.reverse.takeWhile (· != '/')).reverse
  let after := (name.reverse.takeWhile (· != '.')).reverse
  if name.length ≤ after.length + 1 || name == ['.', '.'] then ""
  else String.ofList (after.map Char.toLower)

/-- **The context of a snapshot file**, given its path and its bytes if it can be read. -/
def ofFile (path : String) (bytes? : Option ByteArray) : Except SnapshotError Context :=
  match bytes?.bind String.fromUTF8? with
  | none => .error .unreadable
  | some text =>
    match extension path with
    | "json" => ofJson text
    | "yaml" | "yml" => ofYaml text
    | other => .error (.unsupported path other)

end Context

end FormLogic
