import AgentFlow.Proofs.Schema.Fields
import Mathlib.Data.List.Nodup

/-!
# When classes of a schema have different names

The class of a nested object is named after the properties that lead to it, each with its words
capitalised.  A capitalised name holds no underscore, so a class name tells the capitalised
properties apart, but not the properties themselves.
-/

namespace AgentFlow.Schema

open List

theorem Describes.unique {schema : Json} {first second : Entries} (one : Describes schema first)
    (other : Describes schema second) : first = second := by
  induction one with
  | object isObject =>
    cases other with
    | object => rfl
    | items isArray => exact absurd (isObject.symm.trans isArray) (by decide)
  | items isArray found _ ih =>
    cases other with
    | object isObject => exact absurd (isObject.symm.trans isArray) (by decide)
    | items _ found' deeper =>
      cases found.symm.trans found'
      exact ih deeper

/-! ## Reading a class name -/

/-- The part of a class name that comes from the names of the properties. -/
def suffixOf (names : List Text) : Text := names.flatMap (("__" : Text) ++ ·)

theorem eq_nil_of_append_eq_suffixOf {names : List Text} {part rest : Text}
    (plain : ('_' : CodePoint) ∉ part) (same : suffixOf names = part ++ rest) : part = [] := by
  cases part with
  | nil => rfl
  | cons c part =>
    cases names with
    | nil => cases same
    | cons name names =>
      have first : ('_' : CodePoint) = c := (List.cons.inj same).1
      exact absurd (first ▸ mem_cons_self) plain

/-- The underscores of a class name divide it where one property ends and the next begins. -/
theorem suffixOf_injective {names others : List Text}
    (plain : ∀ name ∈ names ++ others, ('_' : CodePoint) ∉ name)
    (same : suffixOf names = suffixOf others) : names = others := by
  induction names generalizing others with
  | nil =>
    cases others with
    | nil => rfl
    | cons => cases same
  | cons name names ih =>
    cases others with
    | nil => cases same
    | cons other others =>
      have joined : name ++ suffixOf names = other ++ suffixOf others := by
        simpa [suffixOf] using same
      have equal : name = other := by
        rcases append_eq_append_iff.1 joined with ⟨more, longer, rest⟩ | ⟨more, longer, rest⟩
        · have none : more = [] := eq_nil_of_append_eq_suffixOf
            (fun inside => plain other (by simp) (by simp [longer, inside])) rest
          rw [longer, none, append_nil]
        · have none : more = [] := eq_nil_of_append_eq_suffixOf
            (fun inside => plain name (by simp) (by simp [longer, inside])) rest
          rw [longer, none, append_nil]
      subst equal
      rw [ih (fun other member => plain other ?_) (append_cancel_left joined)]
      simp only [cons_append, mem_cons, mem_append] at member ⊢
      tauto

theorem pascals_eq_of_classAt_eq {name : Text} {place other : Place}
    (same : classAt name place = classAt name other) :
    place.map (pascal ·.2) = other.map (pascal ·.2) := by
  refine suffixOf_injective (fun capitalised member => ?_) ?_
  · rw [← map_append] at member
    obtain ⟨step, _, rfl⟩ := mem_map.1 member
    exact notMem_pascal (by decide +kernel) step.2
  · simpa [suffixOf, flatMap_map] using append_cancel_left same

/-! ## Clashes -/

/-- Two properties of a record, both of which describe objects, capitalise to the same name. -/
def Clash (record : Entries) : Prop :=
  ∃ first ∈ (propertiesOf record).zipIdx, ∃ second ∈ (propertiesOf record).zipIdx,
    first.2 ≠ second.2 ∧ pascal first.1.1 = pascal second.1.1 ∧
      (∃ inner, Describes first.1.2 inner) ∧ ∃ inner, Describes second.1.2 inner

/-- Without clashes, the capitalised properties that lead to an object say where it is. -/
theorem Reached.place_unique {schema record record' : Entries} {place place' : Place}
    (reached : Reached schema place record) (reached' : Reached schema place' record')
    (clear : ∀ place record, Reached schema place record → ¬ Clash record)
    (same : place.map (pascal ·.2) = place'.map (pascal ·.2)) : place = place' := by
  induction reached generalizing place' record' with
  | root => exact (map_eq_nil_iff.1 same.symm).symm
  | @inside schema inner _ property value index _ listed described _ ih =>
    cases reached' with
    | root => cases same
    | @inside _ inner' _ property' value' index' _ listed' described' deeper' =>
      obtain ⟨capitals, rest⟩ := List.cons.inj same
      have position : index = index' := by
        by_contra apart
        exact clear [] schema (.root schema) ⟨_, listed, _, listed', apart, capitals,
          ⟨inner, described⟩, ⟨inner', described'⟩⟩
      subst position
      have found := mem_zipIdx_iff_getElem?.1 listed
      have found' := mem_zipIdx_iff_getElem?.1 listed'
      cases found.symm.trans found'
      cases described.unique described'
      rw [ih deeper' (fun place record deep => clear _ record (.inside listed described deep)) rest]

/-- **Classes have different names exactly if no object has properties that clash.**  The names of
the classes that are made for a schema are pairwise distinct if and only if in each object of the
schema, at any depth, the properties that get classes capitalise to different names. -/
theorem class_names_nodup_iff {context name : Text} {schema : Entries} {made : Typed}
    (done : recordClass context name schema = .ok made) :
    (made.classes.map RecordClass.name).Nodup ↔
      ∀ place record, Reached schema place record → ¬ Clash record := by
  obtain ⟨_, objects, mirror, members, _⟩ := recordClass_mirrors schema done
  rw [mirror.names, nodup_map_iff_inj_on mirror.nodup.of_map]
  constructor
  · rintro injective place record reached ⟨first, listed, second, listed', apart, capitals,
      ⟨inner, described⟩, ⟨inner', described'⟩⟩
    have same := injective _ ((members _ _).2 (reached.step listed described)) _
      ((members _ _).2 (reached.step listed' described')) (by simp [classAt, capitals])
    simp only [Prod.mk.injEq, append_cancel_left_eq, List.cons.injEq] at same
    exact apart same.1.1.1
  · rintro clear ⟨place, record⟩ member ⟨place', record'⟩ member' same
    have equal := ((members _ _).1 member).place_unique ((members _ _).1 member') clear
      (pascals_eq_of_classAt_eq same)
    exact inj_on_of_nodup_map mirror.nodup member member' equal

/-- Two properties that differ in a capital clash. -/
theorem twins_clash : ¬ ∀ place record, Reached twins place record → ¬ Clash record := by
  rw [← class_names_nodup_iff recordClass_twins]
  decide

/-- Two classes for different objects have the same name. -/
theorem twins_share_class : ∃ made, recordClass [] "T" twins = .ok made ∧
    ¬ (made.classes.map RecordClass.name).Nodup :=
  ⟨_, recordClass_twins, by decide⟩

end AgentFlow.Schema
