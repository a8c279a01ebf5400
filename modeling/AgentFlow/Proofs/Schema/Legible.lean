import AgentFlow.Proofs.Schema.Mirrored
import AgentFlow.Proofs.Unbroken

/-!
# What is read from a schema

Two keywords of a schema are read after it has been checked: the required names, which may be any
sequence of keys, and the properties, which have to be an object.  If both can be read from every
object of a schema, a record class can be made, or a name in it cannot be a field.  That says
nothing about which schemas the check accepts.
-/

namespace AgentFlow.Schema

open List
open AgentFlow.Except (bind_eq_ok pure_eq_ok)

/-! ## Shapes -/

/-- A value that is a sequence of keys: a text, an object, or a list in which there is no list and
no object. -/
def IsKeyList : Json → Prop
  | .arr items => ∀ item ∈ items, item.isKey = true
  | .str _ | .obj _ => True
  | .null | .bool _ | .int _ | .float _ => False

/-- What stands under `required` is void or a sequence of keys. -/
def ListsRequired (record : Entries) : Prop :=
  ∀ value, record.get? "required" = some value → value.isVoid = false → IsKeyList value

/-- What stands under `properties` is void or an object. -/
def ListsProperties (record : Entries) : Prop :=
  ∀ value, record.get? "properties" = some value → value.isVoid = false →
    ∃ properties, value = .obj properties

/-- The keywords of a schema that are read after the check have a shape in which they can be
read. -/
structure Legible (record : Entries) : Prop where
  required : ListsRequired record
  properties : ListsProperties record

/-- A value under a key, where the value that counts for nothing has a property as well. -/
theorem getOr_of_lookup (holds : Json → Prop) {entries : Entries} {key : Text} {fallback : Json}
    (otherwise : holds fallback)
    (found : ∀ value, entries.get? key = some value → value.isVoid = false → holds value) :
    holds (entries.getOr key fallback) := by
  unfold Entries.getOr Json.orElse
  split
  · next value there =>
      split
      · exact otherwise
      · next given => exact found value there (by simpa using given)
  · exact otherwise

theorem getOr_eq {entries : Entries} {key : Text} {value fallback : Json}
    (found : entries.get? key = some value) (given : value.isVoid = false) :
    entries.getOr key fallback = value := by
  rw [Entries.getOr, found, Json.orElse, given]
  rfl

theorem exists_keySet_iff {values : List Json} :
    (∃ keys, Json.keySet values = .ok keys) ↔ ∀ value ∈ values, value.isKey = true := by
  unfold Json.keySet
  generalize ([] : List Json) = known
  induction values generalizing known with
  | nil => exact iff_of_true ⟨known, rfl⟩ (forall_mem_nil _)
  | cons value rest ih =>
    rw [foldlM_cons, Except.exists_bind_eq_ok, forall_mem_cons]
    simp only [ih]
    refine ⟨fun ⟨later, added, others⟩ => ⟨?_, others⟩, fun ⟨key, others⟩ => ?_⟩
    · unfold Json.addKey at added
      split at added
      · cases added
      · next key => simpa using key
    · unfold Json.addKey
      simp only [key, Bool.not_true, Bool.false_eq_true, if_false]
      split
      · exact ⟨_, rfl, others⟩
      · exact ⟨_, rfl, others⟩

theorem isKeyList_iff {value : Json} :
    IsKeyList value ↔ ∃ keys, (value.items >>= Json.keySet) = .ok keys := by
  unfold Json.items
  rw [Except.exists_bind_eq_ok]
  cases value with
  | arr items =>
    refine ⟨fun keys => ⟨items, rfl, exists_keySet_iff.2 keys⟩, ?_⟩
    rintro ⟨_, ⟨⟩, keys⟩
    exact exists_keySet_iff.1 keys
  | str _ | obj _ =>
    refine iff_of_true trivial ⟨_, rfl, exists_keySet_iff.2 fun value listed => ?_⟩
    obtain ⟨_, _, rfl⟩ := mem_map.1 listed
    rfl
  | null | bool _ | int _ | float _ => exact iff_of_false id nofun

theorem exists_requiredNames_iff {record : Entries} :
    (∃ names, requiredNames record = .ok names) ↔ ListsRequired record := by
  show (∃ names, ((record.getOr "required" (.arr [])).items >>= Json.keySet) = .ok names) ↔ _
  rw [← isKeyList_iff]
  constructor
  · intro keys value found given
    rwa [getOr_eq found given] at keys
  · exact fun lists => getOr_of_lookup IsKeyList (forall_mem_nil _) lists

theorem exists_entries_iff {record : Entries} :
    (∃ entries, (record.getOr "properties" (.obj [])).entries = .ok entries) ↔
      ListsProperties record := by
  have object {value : Json} : (∃ entries, value.entries = .ok entries) ↔
      ∃ entries, value = .obj entries := by
    cases value <;> simp [Json.entries]
  rw [object]
  constructor
  · intro keys value found given
    rwa [getOr_eq found given] at keys
  · exact fun lists => getOr_of_lookup (fun value => ∃ entries, value = .obj entries)
      ⟨[], rfl⟩ lists

/-! ## Reading within limits -/

/-- The two keywords of a schema are read within limits. -/
structure Reads (limits : Limits) (record : Entries) : Prop where
  required : AgentFlow.Within limits (liftShape (requiredNames record))
  properties : AgentFlow.Within limits (liftShape (record.getOr "properties" (.obj [])).entries)

variable {limits : Limits} {record : Entries} {context name : Text}

theorem Legible.reads (legible : Legible record) : Reads limits record where
  required := .liftShape (exists_requiredNames_iff.2 legible.required)
  properties := .liftShape (exists_entries_iff.2 legible.properties)

theorem mem_zipIdx_of_mem {property : Text × Json} {properties : Entries}
    (listed : property ∈ properties) : ∃ index, (property, index) ∈ properties.zipIdx := by
  obtain ⟨index, here⟩ := getElem?_of_mem listed
  exact ⟨index, mem_zipIdx_iff_getElem?.2 here⟩

mutual

theorem typed_within (context name : Text) (schema : Json)
    (reads : ∀ inner, Describes schema inner → ∀ place record, Reached inner place record →
      Reads limits record) : AgentFlow.Within limits (typed context name schema) := by
  rw [typed.eq_def]
  match schema with
  | .obj entries =>
    dsimp only
    split
    · next isObject =>
        simp only [Bool.and_eq_true, decide_eq_true_eq, ← hasProperties_iff] at isObject
        exact recordClass_within context name entries
          (reads entries (.object isObject.1 isObject.2))
    · split
      · next isArray =>
          split
          · rename_i items found
            have smaller : 1 + sizeOf items < sizeOf entries := by simpa using lookup_lt found
            have deeper := typed_within context name (.obj items) fun inner described =>
              reads inner (.items isArray found described)
            exact deeper.bind fun _ _ => .ok _
          · exact .ok _
      · exact .ok _
  | .null | .bool _ | .int _ | .float _ | .str _ | .arr _ => exact .ok _
termination_by (sizeOf schema, 0)

/-- **A record class is made within limits if every object of the schema is read within them.** -/
theorem recordClass_within (context name : Text) (schema : Entries)
    (reads : ∀ place record, Reached schema place record → Reads limits record) :
    AgentFlow.Within limits (recordClass context name schema) := by
  have root := reads [] schema (.root schema)
  rw [recordClass]
  refine root.required.bind fun required _ => ?_
  split
  · exact .ok _
  · rename_i properties found
    have smaller : 1 + sizeOf properties < sizeOf schema := by simpa using ownProperties?_lt found
    refine (fieldsOf_within context name required properties ?_).bind fun _ _ => .ok _
    intro property listed inner described place record reached
    obtain ⟨index, here⟩ := mem_zipIdx_of_mem listed
    rw [← propertiesOf_of_some found] at here
    exact reads _ record (.inside here described reached)
  · rename_i properties notObject found
    obtain ⟨there, given⟩ := ownProperties?_eq_some_iff.1 found
    have stopped := root.properties
    rw [getOr_eq there given, Json.entries] at stopped
    · exact .stop (stopped _ rfl)
    · exact notObject
termination_by (sizeOf schema, 1)

theorem fieldsOf_within (context className : Text) (required : List Json) (properties : Entries)
    (reads : ∀ property ∈ properties, ∀ inner, Describes property.2 inner → ∀ place record,
      Reached inner place record → Reads limits record) :
    AgentFlow.Within limits (fieldsOf context className required properties) := by
  rw [fieldsOf.eq_def]
  match properties with
  | [] => exact .ok _
  | (name, schema) :: rest =>
    obtain ⟨first, others⟩ := forall_mem_cons.1 reads
    dsimp only
    split
    · exact (typed_within context _ schema first).bind fun _ _ =>
        (fieldsOf_within context className required rest others).bind fun _ _ => .ok _
    · exact .error rfl
termination_by (sizeOf properties, 0)

end

end AgentFlow.Schema
