import AgentFlow.Error
import AgentFlow.Schema.Check
import AgentFlow.Text.Uppercase

/-!
# Record classes of schemas

A schema of an object becomes a class with a field for every property.  A property that is an object
with properties of its own gets a class of its own, named after the class and the property, and that
class comes first.
-/

namespace AgentFlow.Schema

/-! ## Type names

The type that generated code gives for values of a schema: a built-in type where the schema
names one type, apart from null, and the type of all values otherwise.
-/

def anyType : Text := "Any"

def builtinTypes : List (Text × Text) :=
  [("string", "str"), ("number", "float"), ("integer", "int"), ("boolean", "bool"),
    ("array", "list"), ("object", "dict")]

/-- The one type that a schema names, apart from null. -/
def singleType? : Json → Option Json
  | .arr items =>
    match items.filter (· ≠ .str "null") with
    | [only] => some only
    | _ => none
  | value => some value

def typeName (schema : Json) : Text :=
  match (schema.get? "type").bind singleType? with
  | some (.str name) => (builtinTypes.lookup name).getD anyType
  | _ => anyType

/-! ## Classes -/

/-- A text as a name in which every word starts with a capital letter. -/
def pascal (t : Text) : Text :=
  let words := Text.words (t.map fun c => if c.isAlphanumeric then c else ' ')
  let name : Text := words.flatMap fun word =>
    match word with
    | [] => []
    | c :: rest => c.toUpper ++ rest
  match name with
  | c :: _ => if c.isLetter then name else "Agent" ++ name
  | [] => "Agent"

structure Field where
  name : Text
  type : Text
  required : Bool
deriving DecidableEq, Repr

structure RecordClass where
  name : Text
  fields : List Field
deriving DecidableEq, Repr

/-- The line of a field; a field that is not required may be missing. -/
def Field.line (unit : Text) (field : Field) : Text :=
  let absent : Text := if field.required then [] else " | None = None"
  unit ++ field.name ++ ": " ++ field.type ++ absent

def RecordClass.header (unit : Text) (cls : RecordClass) : List Text :=
  ("class " ++ cls.name ++ "(BaseModel):" : Text) ::
    (if cls.fields.isEmpty then [unit ++ ("pass" : Text)] else cls.fields.map (Field.line unit))

def RecordClass.lines (unit : Text) (cls : RecordClass) : List Text :=
  cls.header unit ++ [[], []]

/-- The type of a schema with the classes it needs, and whether it needs the type of all
values. -/
structure Typed where
  type : Text
  classes : List RecordClass := []
  needsAny : Bool := false

/-- The fields of a class with the classes they need. -/
structure TypedFields where
  fields : List Field := []
  classes : List RecordClass := []
  needsAny : Bool := false

def requiredNames (schema : Entries) : Except ShapeFault (List Json) := do
  Json.keySet (← (schema.getOr "required" (.arr [])).items)

def isFieldName (name : Text) : Bool := name.isIdentifier && !name.startsWith "_"

/-- The properties of an object schema, where it has some. -/
def ownProperties? (schema : Entries) : Option Json :=
  match schema.get? "properties" with
  | some properties => if properties.isVoid then none else some properties
  | none => none

theorem ownProperties?_lt {schema : Entries} {properties : Json}
    (found : ownProperties? schema = some properties) : sizeOf properties < sizeOf schema := by
  unfold ownProperties? at found
  split at found
  · rename_i found'
    split at found
    · simp at found
    · simp at found
      subst found
      exact lookup_lt found'
  · simp at found

mutual

/-- The type of a schema; classes that it needs get the given name or names made from it. -/
def typed (context : Text) (name : Text) (schema : Json) : Except Error Typed :=
  match schema with
  | .obj entries =>
    if Entries.get? entries "type" = some (.str "object") && (ownProperties? entries).isSome then
      recordClass context name entries
    else if Entries.get? entries "type" = some (.str "array") then
      match found : Entries.get? entries "items" with
      | some (.obj items) => do
        have : 1 + sizeOf items < sizeOf entries := by simpa using lookup_lt found
        let item ← typed context name (.obj items)
        return { item with type := "list[" ++ item.type ++ "]" }
      | _ => .ok { type := "list" }
    else
      let plain := typeName (.obj entries)
      .ok { type := plain, needsAny := plain = anyType }
  | schema =>
    let plain := typeName schema
    .ok { type := plain, needsAny := plain = anyType }
termination_by (sizeOf schema, 0)

def recordClass (context : Text) (name : Text) (schema : Entries) : Except Error Typed := do
  let required ← liftShape (requiredNames schema)
  match found : ownProperties? schema with
  | none => return { type := name, classes := [⟨name, []⟩] }
  | some (.obj properties) =>
    have : 1 + sizeOf properties < sizeOf schema := by simpa using ownProperties?_lt found
    let typedFields ← fieldsOf context name required properties
    return { type := name, classes := typedFields.classes ++ [⟨name, typedFields.fields⟩],
             needsAny := typedFields.needsAny }
  | some properties =>
    .error (.breakdown (.shape (.noAttribute properties.typeName "items")))
termination_by (sizeOf schema, 1)

def fieldsOf (context : Text) (className : Text) (required : List Json) (properties : Entries) :
    Except Error TypedFields :=
  match properties with
  | [] => .ok {}
  | (name, schema) :: rest =>
    if isFieldName name then do
      let field ← typed context (className ++ "__" ++ pascal name) schema
      let others ← fieldsOf context className required rest
      return { fields := ⟨name, field.type, Json.str name ∈ required⟩ :: others.fields
               classes := field.classes ++ others.classes
               needsAny := field.needsAny || others.needsAny }
    else .error (.schema context (.unusableField name))
termination_by (sizeOf properties, 0)

end

end AgentFlow.Schema
