import AgentFlow.Proofs.Alongside
import AgentFlow.Schema.RecordClass

/-!
# The classes of a schema mirror the schema

The classes that are made for a schema stand for its objects one by one: a class has a field for
every property of its object, in order, and comes after the classes of the objects inside it.  One
induction along the recursion carries the objects in the order of their classes.
-/

namespace AgentFlow.Schema

open List
open AgentFlow.Except (bind_eq_ok pure_eq_ok)
open Json (str keySet addKey)

/-! ## Objects of a schema -/

/-- Something that is not void stands under `properties`. -/
def HasProperties (entries : Entries) : Prop :=
  ∃ properties, entries.get? "properties" = some properties ∧ properties.isVoid = false

theorem ownProperties?_eq_some_iff {entries : Entries} {properties : Json} :
    ownProperties? entries = some properties ↔
      entries.get? "properties" = some properties ∧ properties.isVoid = false := by
  unfold ownProperties?
  split
  · next value found =>
      rw [found, Option.some.injEq]
      split
      · next void =>
          refine iff_of_false nofun ?_
          rintro ⟨rfl, given⟩
          rw [void] at given
          cases given
      · next given =>
          rw [Option.some.injEq]
          exact ⟨fun same => ⟨same, same ▸ by simpa using given⟩, And.left⟩
  · next absent => simp [absent]

theorem hasProperties_iff {entries : Entries} :
    HasProperties entries ↔ (ownProperties? entries).isSome = true := by
  simp only [HasProperties, ← ownProperties?_eq_some_iff, Option.isSome_iff_exists]

/-- The object whose properties become the fields of a class where a schema is met: the schema
itself if it is an object with properties, and the one for the items if it is an array. -/
inductive Describes : Json → Entries → Prop
  | object {entries : Entries} (isObject : entries.get? "type" = some (.str "object"))
      (some : HasProperties entries) : Describes (.obj entries) entries
  | items {entries items inner : Entries} (isArray : entries.get? "type" = some (.str "array"))
      (found : entries.get? "items" = some (.obj items)) (deeper : Describes (.obj items) inner) :
      Describes (.obj entries) inner

/-- The properties of a record; a record may have none. -/
def propertiesOf (record : Entries) : Entries :=
  match record.get? "properties" with
  | some (.obj properties) => properties
  | _ => []

theorem propertiesOf_of_none {record : Entries} (none : ownProperties? record = none) :
    propertiesOf record = [] := by
  unfold propertiesOf
  split
  · next properties found =>
      cases properties with
      | nil => rfl
      | cons property rest => cases (ownProperties?_eq_some_iff.2 ⟨found, rfl⟩).symm.trans none
  · rfl

theorem propertiesOf_of_some {record properties : Entries}
    (found : ownProperties? record = some (.obj properties)) :
    propertiesOf record = properties := by
  rw [propertiesOf, (ownProperties?_eq_some_iff.1 found).1]

/-- Where an object is in a schema: the properties that lead to it, with their positions. -/
abbrev Place := List (Nat × Text)

/-- The objects of a schema and where they are: the schema itself, and the objects that its
properties describe. -/
inductive Reached : Entries → Place → Entries → Prop
  | root (schema : Entries) : Reached schema [] schema
  | inside {schema inner record property value index place}
      (listed : ((property, value), index) ∈ (propertiesOf schema).zipIdx)
      (described : Describes value inner) (deeper : Reached inner place record) :
      Reached schema ((index, property) :: place) record

variable {schema record entries : Entries} {place : Place} {property context name : Text}
  {result : Typed}

theorem Reached.step {inner : Entries} {value : Json} {index : Nat}
    (reached : Reached schema place record)
    (listed : ((property, value), index) ∈ (propertiesOf record).zipIdx)
    (described : Describes value inner) : Reached schema (place ++ [(index, property)]) inner := by
  induction reached with
  | root => exact .inside listed described (.root inner)
  | inside before through _ ih => exact .inside before through (ih listed)

/-- The name of the class for the object at a place. -/
def classAt (name : Text) (place : Place) : Text :=
  name ++ place.flatMap fun step => ("__" : Text) ++ pascal step.2

@[simp] theorem classAt_nil (name : Text) : classAt name [] = name := append_nil name

theorem classAt_cons (name : Text) (step : Nat × Text) (place : Place) :
    classAt name (step :: place) = classAt (name ++ "__" ++ pascal step.2) place := by
  simp [classAt]

/-- What a schema is if it describes no object and is no array of schemas. -/
def Bare (schema : Json) : Prop :=
  ∀ entries : Entries, schema = .obj entries →
    ¬ (entries.get? "type" = some (.str "object") ∧ HasProperties entries) ∧
      ∀ items, entries.get? "type" = some (.str "array") → entries.get? "items" ≠ some (.obj items)

/-- The type of a schema whose object, if it describes one, has a class of the given name.  Every
array whose items have a schema adds a layer. -/
inductive Annotates (cls : Text) : Json → Text → Prop
  | plain {schema : Json} (bare : Bare schema) : Annotates cls schema (typeName schema)
  | object {entries : Entries} (isObject : entries.get? "type" = some (.str "object"))
      (some : HasProperties entries) : Annotates cls (.obj entries) cls
  | items {entries items : Entries} {type : Text}
      (isArray : entries.get? "type" = some (.str "array"))
      (found : entries.get? "items" = some (.obj items))
      (deeper : Annotates cls (.obj items) type) :
      Annotates cls (.obj entries) ("list[" ++ type ++ "]")

/-- The type of a schema is that of all values, or an array of it. -/
inductive Loose : Json → Prop
  | plain {schema : Json} (bare : Bare schema) (any : typeName schema = anyType) : Loose schema
  | items {entries items : Entries} (isArray : entries.get? "type" = some (.str "array"))
      (found : entries.get? "items" = some (.obj items)) (deeper : Loose (.obj items)) :
      Loose (.obj entries)

theorem not_loose_of_object (isObject : entries.get? "type" = some (.str "object"))
    (some : HasProperties entries) : ¬ Loose (.obj entries) := by
  rintro (⟨bare, _⟩ | isArray)
  · exact (bare _ rfl).1 ⟨isObject, some⟩
  · exact absurd (isObject.symm.trans isArray) (by decide)

theorem loose_items_iff {items : Entries} (isArray : entries.get? "type" = some (.str "array"))
    (found : entries.get? "items" = some (.obj items)) :
    Loose (.obj entries) ↔ Loose (.obj items) := by
  refine ⟨?_, .items isArray found⟩
  rintro (⟨bare, _⟩ | ⟨_, found', deeper⟩)
  · exact absurd found ((bare _ rfl).2 _ isArray)
  · cases found.symm.trans found'
    exact deeper

theorem loose_iff_of_bare {schema : Json} (bare : Bare schema) :
    Loose schema ↔ typeName schema = anyType := by
  refine ⟨?_, .plain bare⟩
  rintro (⟨_, any⟩ | ⟨isArray, found⟩)
  · exact any
  · exact absurd found ((bare _ rfl).2 _ isArray)

/-- A property is among those that a record requires. -/
def Requires (record : Entries) (property : Text) : Prop :=
  ∃ names, (record.getOr "required" (.arr [])).items = .ok names ∧ str property ∈ names

/-! ## What the recursion does -/

/-- How the type of a schema comes about. -/
inductive TypedBy (context name : Text) : Json → Typed → Prop
  | plain {schema : Json} (bare : Bare schema) :
      TypedBy context name schema
        { type := typeName schema, needsAny := typeName schema = anyType }
  | object {entries : Entries} {result : Typed}
      (isObject : entries.get? "type" = some (.str "object"))
      (some : HasProperties entries)
      (done : recordClass context name entries = .ok result) :
      TypedBy context name (.obj entries) result
  | items {entries items : Entries} {item : Typed}
      (isArray : entries.get? "type" = some (.str "array"))
      (found : entries.get? "items" = some (.obj items))
      (done : typed context name (.obj items) = .ok item) :
      TypedBy context name (.obj entries) { item with type := "list[" ++ item.type ++ "]" }

theorem typedBy_of_typed {schema : Json} (done : typed context name schema = .ok result) :
    TypedBy context name schema result := by
  rw [typed.eq_def] at done
  split at done
  · next entries =>
      split at done
      · next isObject =>
          simp only [Bool.and_eq_true, decide_eq_true_eq, ← hasProperties_iff] at isObject
          exact .object isObject.1 isObject.2 done
      · next noObject =>
          simp only [Bool.and_eq_true, decide_eq_true_eq, ← hasProperties_iff] at noObject
          split at done
          · next isArray =>
              split at done
              · next items found =>
                  obtain ⟨item, inner, same⟩ := bind_eq_ok.1 done
                  rw [← pure_eq_ok.1 same]
                  exact .items isArray found inner
              · next noItems =>
                  have list : typeName (.obj entries) = ("list" : Text) := by
                    have found : Json.get? "type" (.obj entries) = some (.str "array") := isArray
                    rw [typeName, found]
                    rfl
                  have bare : Bare (.obj entries) := by
                    rintro _ ⟨⟩
                    exact ⟨noObject, fun items _ => noItems items⟩
                  have plain : TypedBy context name (.obj entries) _ := .plain bare
                  rw [list] at plain
                  cases done
                  exact plain
          · next noArray =>
              cases done
              refine .plain ?_
              rintro _ ⟨⟩
              exact ⟨noObject, fun _ isArray => absurd isArray noArray⟩
  · next other =>
      cases done
      exact .plain fun entries same => absurd same (other entries)

theorem mem_keySet {values keys : List Json} (done : keySet values = .ok keys) :
    str property ∈ keys ↔ str property ∈ values := by
  have added : ∀ (values before keys : List Json), values.foldlM addKey before = .ok keys →
      (str property ∈ keys ↔ str property ∈ before ∨ str property ∈ values) := by
    intro values
    induction values with
    | nil =>
      intro before keys done
      cases done
      simp
    | cons value rest ih =>
      intro before keys done
      rw [foldlM_cons] at done
      obtain ⟨middle, first, done⟩ := bind_eq_ok.1 done
      rw [ih middle keys done, mem_cons, ← or_assoc]
      refine or_congr_left ?_
      unfold addKey at first
      split at first
      · cases first
      · split at first
        · next known =>
            cases first
            refine (or_iff_left_of_imp ?_).symm
            rintro rfl
            obtain ⟨key, among, same⟩ := any_eq_true.1 known
            unfold Json.sameKey at same
            split at same
            · next number _ => cases number
            · exact of_decide_eq_true same ▸ among
            · cases same
        · cases first
          simp
  simpa using added values [] keys done

theorem requires_iff {required : List Json}
    (done : liftShape (requiredNames record) = .ok required) :
    Requires record property ↔ str property ∈ required := by
  obtain ⟨values, items, keys⟩ : ∃ values, (record.getOr "required" (.arr [])).items = .ok values ∧
      keySet values = .ok required := by
    cases names : requiredNames record with
    | error fault => rw [names] at done; cases done
    | ok keys =>
      rw [names] at done
      cases done
      exact bind_eq_ok.1 names
  rw [mem_keySet keys]
  refine ⟨fun ⟨names, same, member⟩ => ?_, fun member => ⟨values, items, member⟩⟩
  cases items.symm.trans same
  exact member

/-! ## Fields and classes -/

/-- A field stands for a property of an object whose class has the given name. -/
structure Field.Mirrors (cls : Text) (needed : Text → Prop) (field : Field)
    (property : Text × Json) : Prop where
  named : field.name = property.1
  usable : isFieldName property.1 = true
  type : Annotates (cls ++ "__" ++ pascal property.1) property.2 field.type
  required : field.required = true ↔ needed property.1

/-- A class stands for an object: its fields stand for the properties, one by one. -/
structure RecordClass.Mirrors (name : Text) (record : Entries) (cls : RecordClass) : Prop where
  named : cls.name = name
  fields : List.Forall₂ (Field.Mirrors name (Requires record)) cls.fields (propertiesOf record)

/-- Classes stand for objects at places, and none of them comes before one for an object inside
its own. -/
structure Mirror (name : Text) (classes : List RecordClass) (objects : List (Place × Entries)) :
    Prop where
  each : List.Forall₂ (fun cls object => cls.Mirrors (classAt name object.1) object.2) classes
    objects
  order : objects.Pairwise fun earlier later => ¬ earlier.1 <+: later.1

/-- One of the properties of some objects has the type of all values. -/
def LooseAmong (objects : List (Place × Entries)) : Prop :=
  ∃ object ∈ objects, ∃ property ∈ propertiesOf object.2, Loose property.2

/-- The objects that properties lead to, the properties being given with their positions. -/
def Within (properties : List ((Text × Json) × Nat)) (place : Place) (record : Entries) : Prop :=
  ∃ entry ∈ properties, ∃ inner rest, place = (entry.2, entry.1.1) :: rest ∧
    Describes entry.1.2 inner ∧ Reached inner rest record

theorem reached_iff :
    Reached schema place record ↔
      Within (propertiesOf schema).zipIdx place record ∨ (place, record) = ([], schema) := by
  constructor
  · rintro (_ | ⟨listed, described, deeper⟩)
    · exact .inr rfl
    · exact .inl ⟨_, listed, _, _, rfl, described, deeper⟩
  · rintro (⟨⟨⟨property, value⟩, index⟩, listed, inner, rest, rfl, described, deeper⟩ | same)
    · exact .inside listed described deeper
    · cases same
      exact .root schema

mutual

theorem typed_mirrors {context name : Text} (schema : Json) {result : Typed}
    (done : typed context name schema = .ok result) :
    Annotates name schema result.type ∧ ∃ objects, Mirror name result.classes objects ∧
      (∀ place record, (place, record) ∈ objects ↔
        ∃ inner, Describes schema inner ∧ Reached inner place record) ∧
      (result.needsAny = true ↔ Loose schema ∨ LooseAmong objects) := by
  match schema, result, typedBy_of_typed done with
  | _, _, .plain bare =>
    refine ⟨.plain bare, [], ⟨.nil, .nil⟩, fun place record => ?_, ?_⟩
    · refine iff_of_false not_mem_nil ?_
      rintro ⟨inner, described, _⟩
      cases described with
      | object isObject some => exact (bare _ rfl).1 ⟨isObject, some⟩
      | items isArray found => exact (bare _ rfl).2 _ isArray found
    · simp [loose_iff_of_bare bare, LooseAmong]
  | .obj entries, result, .object isObject isSome made =>
    obtain ⟨type, objects, mirror, members, loose⟩ := recordClass_mirrors entries made
    refine ⟨type ▸ .object isObject isSome, objects, mirror, fun place record => ?_, ?_⟩
    · rw [members]
      refine ⟨fun reached => ⟨entries, .object isObject isSome, reached⟩, ?_⟩
      rintro ⟨inner, described, reached⟩
      cases described with
      | object => exact reached
      | items isArray => exact absurd (isObject.symm.trans isArray) (by decide)
    · exact loose.trans (or_iff_right (not_loose_of_object isObject isSome)).symm
  | .obj entries, _, @TypedBy.items _ _ _ items item isArray found inner =>
    have smaller : 1 + sizeOf items < sizeOf entries := by simpa using lookup_lt found
    obtain ⟨type, objects, mirror, members, loose⟩ := typed_mirrors (.obj items) inner
    refine ⟨.items isArray found type, objects, mirror, fun place record => ?_, ?_⟩
    · rw [members]
      refine exists_congr fun described => and_congr_left fun _ => ?_
      refine ⟨.items isArray found, fun whole => ?_⟩
      cases whole with
      | object isObject => exact absurd (isObject.symm.trans isArray) (by decide)
      | items _ found' described =>
        cases found.symm.trans found'
        exact described
    · exact loose.trans (or_congr_left (loose_items_iff isArray found).symm)
termination_by (sizeOf schema, 0)

/-- **The classes of a record stand for its objects at all depths.** -/
theorem recordClass_mirrors {context name : Text} (schema : Entries) {result : Typed}
    (done : recordClass context name schema = .ok result) :
    result.type = name ∧ ∃ objects, Mirror name result.classes objects ∧
      (∀ place record, (place, record) ∈ objects ↔ Reached schema place record) ∧
      (result.needsAny = true ↔ LooseAmong objects) := by
  rw [recordClass] at done
  obtain ⟨required, names, done⟩ := bind_eq_ok.1 done
  split at done
  · next none =>
      rw [← pure_eq_ok.1 done]
      have empty : propertiesOf schema = [] := propertiesOf_of_none none
      refine ⟨rfl, [([], schema)], ⟨.cons ⟨(classAt_nil name).symm, empty ▸ .nil⟩ .nil, by simp⟩,
        fun place record => ?_, ?_⟩
      · rw [reached_iff, empty]
        simp [Within]
      · simp [LooseAmong, empty]
  · next properties found =>
      have smaller : 1 + sizeOf properties < sizeOf schema := by simpa using ownProperties?_lt found
      obtain ⟨typedFields, inner, same⟩ := bind_eq_ok.1 done
      have own : propertiesOf schema = properties := propertiesOf_of_some found
      obtain ⟨fields, objects, mirror, members, loose⟩ :=
        fieldsOf_mirrors required properties 0 inner
      rw [← pure_eq_ok.1 same]
      refine ⟨rfl, objects ++ [([], schema)], ⟨?_, ?_⟩, fun place record => ?_, ?_⟩
      · refine rel_append mirror.each (.cons ⟨(classAt_nil name).symm, ?_⟩ .nil)
        rw [own, classAt_nil]
        exact fields.imp fun field property mirrors =>
          { mirrors with required := mirrors.required.trans (requires_iff names).symm }
      · refine pairwise_append.2 ⟨mirror.order, pairwise_singleton _ _, ?_⟩
        rintro ⟨place, record⟩ member ⟨_, _⟩ last starts
        cases mem_singleton.1 last
        obtain ⟨_, _, _, _, rfl, _⟩ := (members place record).1 member
        cases prefix_nil.1 starts
      · rw [mem_append, members, mem_singleton, reached_iff, own]
      · rw [loose]
        simp [LooseAmong, own, or_and_right, exists_or, or_comm]
  · cases done
termination_by (sizeOf schema, 1)

theorem fieldsOf_mirrors {context name : Text} (required : List Json) (properties : Entries)
    (start : Nat) {result : TypedFields}
    (done : fieldsOf context name required properties = .ok result) :
    List.Forall₂ (Field.Mirrors name (str · ∈ required)) result.fields properties ∧
      ∃ objects, Mirror name result.classes objects ∧
        (∀ place record, (place, record) ∈ objects ↔
          Within (properties.zipIdx start) place record) ∧
        (result.needsAny = true ↔
          (∃ property ∈ properties, Loose property.2) ∨ LooseAmong objects) := by
  match properties, done with
  | [], done =>
    rw [fieldsOf.eq_def] at done
    cases done
    exact ⟨.nil, [], ⟨.nil, .nil⟩, by simp [Within], by simp [LooseAmong]⟩
  | (property, schema) :: rest, done =>
    rw [fieldsOf.eq_def] at done
    dsimp only at done
    split at done
    · next usable =>
        obtain ⟨field, inner, done⟩ := bind_eq_ok.1 done
        obtain ⟨others, more, same⟩ := bind_eq_ok.1 done
        obtain ⟨type, first, mirror, members, loose⟩ := typed_mirrors schema inner
        obtain ⟨fields, later, mirror', members', loose'⟩ :=
          fieldsOf_mirrors required rest (start + 1) more
        rw [← pure_eq_ok.1 same]
        refine ⟨.cons ⟨rfl, usable, type, by simp⟩ fields,
          first.map (fun object => ((start, property) :: object.1, object.2)) ++ later,
          ⟨?_, ?_⟩, ?_, ?_⟩
        · refine rel_append ?_ mirror'.each
          rw [forall₂_map_right_iff]
          refine mirror.each.imp fun cls object mirrors => ?_
          exact (classAt_cons name (start, property) object.1).symm ▸ mirrors
        · refine pairwise_append.2 ⟨pairwise_map.2 ?_, mirror'.order, ?_⟩
          · exact mirror.order.imp fun apart starts => apart (cons_prefix_cons.1 starts).2
          · rintro _ moved ⟨place, record⟩ listed starts
            obtain ⟨object, _, rfl⟩ := mem_map.1 moved
            obtain ⟨entry, member, _, _, rfl, _⟩ := (members' place record).1 listed
            have same : start = entry.2 := congrArg Prod.fst (cons_prefix_cons.1 starts).1
            have := le_snd_of_mem_zipIdx member
            omega
        · intro place record
          rw [mem_append, members', zipIdx_cons, Within, Within]
          simp only [mem_cons, exists_eq_or_imp]
          refine or_congr_left ⟨fun moved => ?_, ?_⟩
          · obtain ⟨object, member, same⟩ := mem_map.1 moved
            cases same
            obtain ⟨inner, described, reached⟩ := (members _ _).1 member
            exact ⟨inner, _, rfl, described, reached⟩
          · rintro ⟨inner, place, rfl, described, reached⟩
            exact mem_map_of_mem (f := fun object => ((start, property) :: object.1, object.2))
              ((members place record).2 ⟨inner, described, reached⟩)
        · rw [Bool.or_eq_true, loose, loose', exists_mem_cons_iff, or_or_or_comm]
          simp [LooseAmong, or_and_right, exists_or]
    · cases done
termination_by (sizeOf properties, 0)

end

/-- One of the objects of a schema has a property of the type of all values. -/
def HasLoose (schema : Entries) : Prop :=
  ∃ place record, Reached schema place record ∧ ∃ property ∈ propertiesOf record, Loose property.2

theorem needsAny_iff (done : recordClass context name schema = .ok result) :
    result.needsAny = true ↔ HasLoose schema := by
  obtain ⟨_, objects, _, members, loose⟩ := recordClass_mirrors schema done
  simp only [loose, LooseAmong, HasLoose, Prod.exists, members]

/-! ## Classes in order -/

namespace Mirror

variable {name : Text} {classes : List RecordClass} {objects : List (Place × Entries)}

theorem names (mirror : Mirror name classes objects) :
    classes.map RecordClass.name = objects.map fun object => classAt name object.1 := by
  rw [← forall₂_eq_eq_eq, forall₂_map_left_iff, forall₂_map_right_iff]
  exact mirror.each.imp fun _ _ mirrors => mirrors.named

theorem nodup (mirror : Mirror name classes objects) : (objects.map Prod.fst).Nodup :=
  pairwise_map.2 (mirror.order.imp fun apart same => apart ⟨[], by simpa using same⟩)

theorem getLast? (mirror : Mirror name classes objects) {schema : Entries}
    (listed : ([], schema) ∈ objects) : objects.getLast? = some ([], schema) := by
  obtain ⟨before, after, rfl⟩ := append_of_mem listed
  cases after with
  | nil => simp
  | cons object rest =>
    have later := (pairwise_append.1 mirror.order).2.1
    exact absurd nil_prefix ((pairwise_cons.1 later).1 object mem_cons_self)

theorem earlier (mirror : Mirror name classes objects) {later : Nat} {place : Place}
    {record inner : Entries} {step : Nat × Text} (found : objects[later]? = some (place, record))
    (listed : (place ++ [step], inner) ∈ objects) :
    ∃ earlier < later, objects[earlier]? = some (place ++ [step], inner) := by
  obtain ⟨index, here⟩ := getElem?_of_mem listed
  refine ⟨index, ?_, here⟩
  rcases Nat.lt_trichotomy index later with before | rfl | after
  · exact before
  · simp [here] at found
  · obtain ⟨short, outer⟩ := List.getElem?_eq_some_iff.1 found
    obtain ⟨long, inside⟩ := List.getElem?_eq_some_iff.1 here
    have apart := pairwise_iff_getElem.1 mirror.order later index short long after
    rw [outer, inside] at apart
    exact absurd (prefix_append place [step]) apart

end Mirror

/-! ## Declarations -/

/-- The line of a property in the class of its record. -/
def FieldLine (unit cls : Text) (record : Entries) (line : Text) (property : Text × Json) : Prop :=
  ∃ type, Annotates (cls ++ "__" ++ pascal property.1) property.2 type ∧
    (Requires record property.1 ∧ line = unit ++ property.1 ++ ": " ++ type ∨
      ¬ Requires record property.1 ∧
        line = unit ++ property.1 ++ ": " ++ type ++ " | None = None")

/-- Lines declare a class for a record: they have one line for each property, or only one that says
that there is none. -/
def Declares (unit cls : Text) (record : Entries) (lines : List Text) : Prop :=
  ∃ body : List Text, lines = ("class " ++ cls ++ "(BaseModel):" : Text) :: body ++ [[], []] ∧
    (propertiesOf record = [] ∧ body = [unit ++ ("pass" : Text)] ∨
      propertiesOf record ≠ [] ∧ List.Forall₂ (FieldLine unit cls record)
        body (propertiesOf record))

theorem Field.Mirrors.fieldLine {cls : Text} {field : Field} {property : Text × Json}
    (mirrors : field.Mirrors cls (Requires record) property) (unit : Text) :
    FieldLine unit cls record (field.line unit) property := by
  refine ⟨field.type, mirrors.type, ?_⟩
  rw [Field.line, ← mirrors.required, ← mirrors.named]
  cases field.required <;> simp

theorem RecordClass.Mirrors.declares {cls : RecordClass} (mirrors : cls.Mirrors name record)
    (unit : Text) : Declares unit name record (cls.lines unit) := by
  obtain ⟨rfl, fields⟩ := mirrors
  refine ⟨_, rfl, ?_⟩
  rcases cls with ⟨name, _ | ⟨field, rest⟩⟩
  · exact .inl ⟨forall₂_nil_left_iff.1 fields, rfl⟩
  · refine .inr ⟨fun none => by simp [none] at fields, ?_⟩
    exact forall₂_map_left_iff.2 (fields.imp fun _ _ mirrors => mirrors.fieldLine unit)

/-- **Classes mirror their schema and come in the order of their dependencies.**  Where the classes
of a schema can be made, they stand one by one for the schema and the objects in it at all depths.
Each is declared by lines that follow the properties of its object.  The class of the schema itself
is the last one, and a class that an annotation mentions comes before the class with the
annotation. -/
theorem classes_mirror_schema {context name : Text} {schema : Entries} {made : Typed}
    (done : recordClass context name schema = .ok made) (unit : Text) :
    ∃ objects : List (Place × Entries),
      (objects.map Prod.fst).Nodup ∧
      (∀ place record, (place, record) ∈ objects ↔ Reached schema place record) ∧
      objects.getLast? = some ([], schema) ∧
      List.Forall₂ (fun cls object =>
        Declares unit (classAt name object.1) object.2 (RecordClass.lines unit cls)) made.classes
          objects ∧
      ∀ (later : Nat) place record, objects[later]? = some (place, record) →
        ∀ property value index, ((property, value), index) ∈ (propertiesOf record).zipIdx →
          ∀ inner, Describes value inner →
            ∃ earlier < later, objects[earlier]? = some (place ++ [(index, property)], inner) ∧
              (made.classes.map RecordClass.name)[earlier]? =
                some (classAt name place ++ "__" ++ pascal property) := by
  obtain ⟨_, objects, mirror, members, _⟩ := recordClass_mirrors schema done
  refine ⟨objects, mirror.nodup, members, mirror.getLast? ((members _ _).2 (.root schema)),
    mirror.each.imp fun _ _ mirrors => mirrors.declares unit, ?_⟩
  intro later place record found property value index listed inner described
  have reached := (members place record).1 (mem_of_getElem? found)
  obtain ⟨earlier, before, here⟩ :=
    mirror.earlier found ((members _ _).2 (reached.step listed described))
  refine ⟨earlier, before, here, ?_⟩
  rw [mirror.names, getElem?_map, here]
  simp [classAt]

/-- An object with one property of any type. -/
def box : Entries :=
  [("type", .str "object"), ("properties", .obj [("x", .obj [])])]

/-- A schema whose two properties differ in a capital. -/
def twins : Entries := [("properties", .obj [("a", .obj box), ("A", .obj box)])]

theorem typed_box (name : Text) : typed [] name (.obj box) = .ok
    { type := name, classes := [⟨name, [⟨"x", anyType, false⟩]⟩], needsAny := true } := by
  have field : fieldsOf [] name [] [("x", .obj [])] =
      .ok { fields := [⟨"x", anyType, false⟩], needsAny := true } := by
    rw [fieldsOf, if_pos (by decide +kernel), typed, fieldsOf]
    rfl
  rw [box, typed]
  change recordClass _ _ _ = _
  rw [recordClass]
  change (fieldsOf _ _ [] _ >>= _) = _
  rw [field]
  rfl

theorem recordClass_twins : recordClass [] "T" twins = .ok
    { type := "T", classes := [⟨"T__A", [⟨"x", anyType, false⟩]⟩, ⟨"T__A", [⟨"x", anyType, false⟩]⟩,
        ⟨"T", [⟨"a", "T__A", false⟩, ⟨"A", "T__A", false⟩]⟩], needsAny := true } := by
  have capitals : pascal "a" = ("A" : Text) ∧ pascal "A" = ("A" : Text) := by decide +kernel
  rw [twins, recordClass]
  change (fieldsOf _ _ [] _ >>= _) = _
  rw [fieldsOf, if_pos (by decide +kernel), capitals.1, typed_box, fieldsOf,
    if_pos (by decide +kernel), capitals.2, typed_box, fieldsOf]
  rfl

/-- The class of the schema comes after those of its two properties. -/
theorem twins_mirrored : ∃ made objects,
    recordClass [] "T" twins = .ok made ∧ (objects.map Prod.fst).Nodup ∧
      (∀ place record, (place, record) ∈ objects ↔ Reached twins place record) ∧
      List.Forall₂ (fun cls object =>
        Declares [] (classAt "T" object.1) object.2 (RecordClass.lines [] cls)) made.classes
          objects := by
  obtain ⟨objects, distinct, members, _, lines, _⟩ := classes_mirror_schema recordClass_twins []
  exact ⟨_, objects, recordClass_twins, distinct, members, lines⟩

end AgentFlow.Schema
