import AgentFlow.Proofs.Schema.Mirrored
import AgentFlow.Proofs.Text.Lines

/-!
# The fields of a schema's classes

The classes of a schema have a field for every property of the schema and of the objects inside it.
Their names all start with the first one, and their fields are identifiers that start with no
underscore.  No name and no type among them is broken over lines.
-/

namespace AgentFlow

open List

/-! ## Capitals -/

/-- A character that no capitalised name holds: it is no letter and no digit, and none is
capitalised to it. -/
def Uncapital (mark : Char) : Prop :=
  (mark.toNat ≠ 0 ∧ mark ≠ ' ' ∧ CodePoint.isAlphanumeric mark = false) ∧
    (∀ entry ∈ Text.upperExpansions, mark.toNat ∉ entry.2) ∧
    ∀ row ∈ Text.upperShifts, (mark.toNat : Int) < row.1 + row.2.2.2 ∨
      row.2.1 + row.2.2.2 < (mark.toNat : Int)

instance (mark : Char) : Decidable (Uncapital mark) := inferInstanceAs (Decidable (_ ∧ _ ∧ _))

namespace CodePoint

variable {mark : Char}

theorem eq_toNat_of_ofNat {n : Nat} (some : mark.toNat ≠ 0) (same : ofNat n = (mark : CodePoint)) :
    n = mark.toNat := by
  have scalar : Char.ofNat n = mark → n = mark.toNat := by
    rintro rfl
    by_cases valid : n.isValidChar
    · rw [Char.ofNat, dif_pos valid]
      rfl
    · exact absurd (by rw [Char.ofNat, dif_neg valid]; rfl) some
  unfold ofNat at same
  split at same
  · exact scalar (by injection same)
  · split at same
    · cases same
    · exact scalar (by injection same)

/-- Only itself is capitalised to such a character. -/
theorem eq_of_mem_toUpper {c : CodePoint} (other : Uncapital mark)
    (member : (mark : CodePoint) ∈ c.toUpper) : c = mark := by
  obtain ⟨⟨some, -, -⟩, expansions, shifts⟩ := other
  unfold toUpper at member
  dsimp only at member
  split at member
  · next codes found =>
      obtain ⟨code, listed, same⟩ := mem_map.1 member
      obtain ⟨before, after, split, _⟩ := lookup_eq_some_iff.1 found
      have absent := expansions (c.toNat, codes) (by rw [split]; simp)
      exact absurd (eq_toNat_of_ofNat some same ▸ listed) absent
  · split at member
    · next first last step distance found =>
        have apart := shifts _ (mem_of_find?_eq_some found)
        have inside := find?_some found
        simp only [Bool.and_eq_true, decide_eq_true_eq] at inside
        have same := eq_toNat_of_ofNat some (mem_singleton.1 member).symm
        dsimp only at apart
        omega
    · exact (mem_singleton.1 member).symm

end CodePoint

theorem Text.mem_of_mem_pieces (t : Text) : ∀ piece ∈ t.foldr (fun c pieces =>
    if c.isBlank then [] :: pieces
    else match pieces with
      | [] => [[c]]
      | piece :: rest => (c :: piece) :: rest) [[]], ∀ c ∈ piece, c ∈ t := by
  induction t with
  | nil => simp
  | cons first rest ih =>
    rw [foldr_cons]
    split
    · refine forall_mem_cons.2 ⟨by simp, fun piece member c there => ?_⟩
      exact mem_cons_of_mem _ (ih piece member c there)
    · split
      · simp
      · next piece others shape =>
          rw [shape] at ih
          obtain ⟨head, tail⟩ := forall_mem_cons.1 ih
          refine forall_mem_cons.2 ⟨forall_mem_cons.2 ⟨by simp, ?_⟩, ?_⟩
          · exact fun c there => mem_cons_of_mem _ (head c there)
          · exact fun piece member c there => mem_cons_of_mem _ (tail piece member c there)

theorem Text.mem_of_mem_words {t word : Text} (listed : word ∈ t.words) {c : CodePoint}
    (inside : c ∈ word) : c ∈ t :=
  mem_of_mem_pieces t word (mem_filter.1 listed).1 c inside

namespace Schema

variable {mark : Char} {schema : Entries} {name place : Text} {result : Typed}

theorem notMem_capitalised {t : Text} (other : Uncapital mark) (masked : (mark : CodePoint) ∉ t) :
    (mark : CodePoint) ∉ t.words.flatMap fun word =>
      match word with
      | [] => []
      | c :: rest => c.toUpper ++ rest := by
  intro member
  obtain ⟨word, listed, inside⟩ := mem_flatMap.1 member
  have outside := fun there => masked (Text.mem_of_mem_words listed (c := mark) there)
  cases word with
  | nil => cases inside
  | cons c rest =>
    rcases mem_append.1 inside with upper | later
    · exact outside (CodePoint.eq_of_mem_toUpper other upper ▸ mem_cons_self)
    · exact outside (mem_cons_of_mem _ later)

theorem notMem_pascal (other : Uncapital mark) (t : Text) : (mark : CodePoint) ∉ pascal t := by
  have apart : (mark : CodePoint) ∉ Text.ofString "Agent" := fun member => by
    have letters : ∀ c ∈ Text.ofString "Agent", c.isAlphanumeric = true := by decide
    exact absurd (letters _ member) (by simp [other.1.2.2])
  have masked : (mark : CodePoint) ∉ t.map fun c => if c.isAlphanumeric then c else ' ' := by
    intro member
    obtain ⟨c, _, same⟩ := mem_map.1 member
    split at same
    · next alphanumeric =>
        rw [same, other.1.2.2] at alphanumeric
        cases alphanumeric
    · exact other.1.2.1 (by injection same with same; exact same.symm)
  have capitalised := notMem_capitalised other masked
  unfold pascal
  dsimp only
  split
  · split
    · exact capitalised
    · exact fun member => (mem_append.1 member).elim apart capitalised
  · exact apart

theorem uncapital_break : Uncapital '\n' := by decide +kernel

theorem oneLine_pascal (t : Text) : (pascal t).OneLine := notMem_pascal uncapital_break t

theorem typeName_mem (schema : Json) : typeName schema ∈ anyType :: builtinTypes.map Prod.snd := by
  unfold typeName
  split
  · next name _ =>
      cases found : builtinTypes.lookup name with
      | none => exact mem_cons_self
      | some type =>
        obtain ⟨before, after, split, _⟩ := lookup_eq_some_iff.1 found
        refine mem_cons_of_mem _ (mem_map.2 ⟨(name, type), ?_, rfl⟩)
        rw [split]
        simp
  · exact mem_cons_self

theorem oneLine_typeName (schema : Json) : (typeName schema).OneLine :=
  (show ∀ type ∈ anyType :: builtinTypes.map Prod.snd, type.OneLine by decide)
    _ (typeName_mem schema)

/-! ## Classes -/

/-- What is sure of a field. -/
structure Field.Fits (field : Field) : Prop where
  usable : isFieldName field.name = true
  one : field.type.OneLine

/-- What is sure of a class that is made for a name. -/
structure RecordClass.Fits (name : Text) (cls : RecordClass) : Prop where
  named : name <+: cls.name
  one : cls.name.OneLine
  fields : ∀ field ∈ cls.fields, field.Fits

theorem Annotates.oneLine {cls type : Text} {schema : Json} (one : cls.OneLine)
    (annotates : Annotates cls schema type) : type.OneLine := by
  induction annotates with
  | plain => exact oneLine_typeName _
  | object => exact one
  | items _ _ _ ih => exact (Text.OneLine.append (by decide) ih).append (by decide)

theorem notMem_classAt (other : Uncapital mark) (apart : (mark : CodePoint) ∉ ("__" : Text))
    (absent : (mark : CodePoint) ∉ name) (place : Place) :
    (mark : CodePoint) ∉ classAt name place := by
  intro member
  obtain ⟨step, _, inside⟩ := mem_flatMap.1 ((mem_append.1 member).resolve_left absent)
  exact (mem_append.1 inside).elim apart (notMem_pascal other step.2)

theorem oneLine_classAt (one : name.OneLine) (place : Place) :
    (classAt name place).OneLine := notMem_classAt uncapital_break (by decide) one place

/-- **The classes of a record are named after it, and their fields are identifiers.** -/
theorem recordClass_fits (one : name.OneLine) (schema : Entries)
    (done : recordClass place name schema = .ok result) :
    ∀ cls ∈ result.classes, cls.Fits name := by
  obtain ⟨_, objects, mirror, _⟩ := recordClass_mirrors schema done
  intro cls among
  obtain ⟨object, _, named, fields⟩ := exists_of_mem_left mirror.each among
  refine ⟨named ▸ prefix_append _ _, named ▸ oneLine_classAt one _, fun field inside => ?_⟩
  obtain ⟨property, _, mirrors⟩ := exists_of_mem_left fields inside
  refine ⟨mirrors.named ▸ mirrors.usable, mirrors.type.oneLine ?_⟩
  exact ((oneLine_classAt one _).append (by decide)).append (oneLine_pascal _)

/-! ## Fields at all depths -/

/-- A name is one of the properties of an object, or of an object inside it. -/
inductive HasField : Entries → Text → Prop
  | own {schema properties : Entries} {name : Text} {value : Json}
      (found : schema.get? "properties" = some (.obj properties))
      (listed : (name, value) ∈ properties) :
      HasField schema name
  | nested {schema properties inner : Entries} {name field : Text} {value : Json}
      (found : schema.get? "properties" = some (.obj properties))
      (listed : (name, value) ∈ properties)
      (described : Describes value inner) (deeper : HasField inner field) : HasField schema field

theorem exists_properties_of_mem {record : Entries} {property : Text × Json}
    (listed : property ∈ propertiesOf record) :
    ∃ properties, record.get? "properties" = some (.obj properties) ∧ property ∈ properties := by
  unfold propertiesOf at listed
  split at listed
  · next properties found => exact ⟨properties, found, listed⟩
  · cases listed

theorem hasField_iff :
    HasField schema name ↔
      ∃ place record, Reached schema place record ∧ name ∈ (propertiesOf record).map Prod.fst := by
  constructor
  · intro has
    induction has with
    | @own schema properties name value found listed =>
      refine ⟨[], schema, .root schema, ?_⟩
      rw [propertiesOf, found]
      exact mem_map_of_mem (f := Prod.fst) listed
    | @nested schema properties _ name _ _ found listed described _ ih =>
      obtain ⟨place, record, reached, own⟩ := ih
      obtain ⟨index, here⟩ := getElem?_of_mem listed
      have given : propertiesOf schema = properties := by rw [propertiesOf, found]
      refine ⟨(index, name) :: place, record, .inside ?_ described reached, own⟩
      exact mem_zipIdx_iff_getElem?.2 (given ▸ here)
  · rintro ⟨place, record, reached, own⟩
    obtain ⟨⟨_, value⟩, listed, rfl⟩ := mem_map.1 own
    induction reached with
    | root =>
      obtain ⟨properties, found, among⟩ := exists_properties_of_mem listed
      exact .own found among
    | inside through described _ ih =>
      obtain ⟨properties, found, among⟩ :=
        exists_properties_of_mem (fst_mem_of_mem_zipIdx through)
      exact .nested found among described (ih listed own)

/-- **The fields of the classes of a record are its properties at all depths.** -/
theorem recordClass_fields (schema : Entries) (done : recordClass place name schema = .ok result)
    (field : Text) :
    (∃ cls ∈ result.classes, ∃ member ∈ cls.fields, member.name = field) ↔
      HasField schema field := by
  obtain ⟨_, objects, mirror, members, _⟩ := recordClass_mirrors schema done
  rw [hasField_iff]
  constructor
  · rintro ⟨cls, among, member, inside, rfl⟩
    obtain ⟨⟨place, record⟩, listed, mirrors⟩ := exists_of_mem_left mirror.each among
    obtain ⟨property, own, mirrored⟩ := exists_of_mem_left mirrors.fields inside
    exact ⟨place, record, (members _ _).1 listed, mem_map.2 ⟨property, own, mirrored.named.symm⟩⟩
  · rintro ⟨place, record, reached, own⟩
    obtain ⟨property, listed, rfl⟩ := mem_map.1 own
    obtain ⟨cls, among, mirrors⟩ := exists_of_mem_right mirror.each ((members _ _).2 reached)
    obtain ⟨member, inside, mirrored⟩ := exists_of_mem_right mirrors.fields listed
    exact ⟨cls, among, member, inside, mirrored.named⟩

/-- Where classes can be made, the properties at all depths can be fields. -/
theorem isFieldName_of_recordClass {field : Text}
    (done : recordClass place name schema = .ok result) (has : HasField schema field) :
    isFieldName field = true := by
  obtain ⟨_, objects, mirror, members, _⟩ := recordClass_mirrors schema done
  obtain ⟨place, record, reached, own⟩ := hasField_iff.1 has
  obtain ⟨property, listed, rfl⟩ := mem_map.1 own
  obtain ⟨cls, _, mirrors⟩ := exists_of_mem_right mirror.each ((members _ _).2 reached)
  obtain ⟨field, _, mirrored⟩ := exists_of_mem_right mirrors.fields listed
  exact mirrored.usable

end Schema

end AgentFlow
