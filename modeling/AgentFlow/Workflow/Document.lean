import AgentFlow.Error
import AgentFlow.Files.Directory
import AgentFlow.Json.Reader
import AgentFlow.Workflow.Decode

/-!
# Workflow documents

A workflow is given as a JSON value, as JSON text or as the bytes of one.  Reading reports a node of
an unknown kind first, then all numbers that are not finite, then all other issues.
-/

namespace AgentFlow.Workflow

inductive Payload where
  | value (json : Json)
  | text (source : Text)
  | bytes (encoded : Bytes)

def jsonOf (text : Text) : Except Json.ReadFailure Json → Except Error Json
  | .ok value => .ok value
  | .error (.fault fault left) =>
    .error (.problem (.unreadableJson (Json.describeFault text fault left)))
  | .error (.tooManyDigits count) => .error (.breakdown (.numeral (.tooManyDigits count)))

def Payload.json : Payload → Except Error Json
  | .value (.obj entries) => .ok (.obj entries)
  | .value json => .error (.problem (.unsupportedPayload json.typeName))
  | .text source => jsonOf source (Json.read source)
  | .bytes encoded =>
    match encoded.document with
    | .ok source => jsonOf source (Json.readDecoded source)
    | .error fault => .error (.breakdown (.encoding fault))

def unknownKind? (nodes : List Json) : Option (Text × Option Text) :=
  nodes.findSome? fun node =>
    match node.get? "kind" with
    | some (.str kind) =>
      if (Kind.ofText? kind).isSome then none
      else some (kind, match node.get? "id" with
        | some (.str id) => some id
        | _ => none)
    | _ => none

def checkKinds (entries : Entries) : Except Error Unit :=
  match entries.get? "nodes" with
  | some (.arr nodes) =>
    match unknownKind? nodes with
    | some (kind, id) => .error (.unknownKind kind id)
    | none => .ok ()
  | _ => .ok ()

mutual

/-- The numbers in a value that are not finite, with their paths, in the order of the document. -/
def nonFinite : Json → List (List Decode.Step × Binary64)
  | .float value => if value.isFinite then [] else [([], value)]
  | .arr items => nonFiniteItems 0 items
  | .obj entries => nonFiniteEntries entries
  | _ => []

def nonFiniteItems (index : Nat) : List Json → List (List Decode.Step × Binary64)
  | [] => []
  | item :: rest =>
    (nonFinite item).map (fun (path, value) => (.index index :: path, value)) ++
      nonFiniteItems (index + 1) rest

def nonFiniteEntries : List (Text × Json) → List (List Decode.Step × Binary64)
  | [] => []
  | (key, item) :: rest =>
    (nonFinite item).map (fun (path, value) => (.key key :: path, value)) ++ nonFiniteEntries rest

end

def ofJson (value : Json) : Except Error Workflow :=
  match value with
  | .obj entries => do
    checkKinds entries
    match nonFinite (.obj entries) with
    | [] =>
      match decode (.obj entries) with
      | .valid workflow => .ok workflow
      | .invalid issues => .error (.malformed (issues.map .issue) none)
    | found => .error (.malformed (found.map fun (path, number) => .nonFinite path number) none)
  | _ => .error (.problem .notAnObject)

def Payload.workflow (payload : Payload) : Except Error Workflow := do ofJson (← payload.json)

/-! ## Workflow files

A workflow file holds a document as UTF-8 text.  Line breaks of all conventions are read as one, and
a file that cannot be opened is a problem of the workflow.
-/

def fileText (path : Text) (entry : Files.Entry) : Except Error Text :=
  match entry.content with
  | .error fault => .error (.problem (.unreadableFile path (fault.message path)))
  | .ok bytes =>
    match bytes.utf8 with
    | .ok text => .ok text.unifyBreaks
    | .error fault => .error (.breakdown (.encoding fault))

def ofFile (look : Text → Files.Entry) (path : Text) : Except Error Workflow := do
  let text ← fileText (Files.normal path) (look (Files.normal path))
  (Payload.text text).workflow

end AgentFlow.Workflow
