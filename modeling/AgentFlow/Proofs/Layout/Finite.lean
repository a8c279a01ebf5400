import AgentFlow.Proofs.Alongside
import AgentFlow.Proofs.Json.Documents

/-!
# Literals that can be laid out

A number that is not finite is the only thing that cannot be written.  A literal can be laid out if
all its parts can, so one that is made from a value whose numbers are finite always can.
-/

namespace AgentFlow

open List
open AgentFlow.Except (bind_eq_ok pure_eq_ok)

/-- A value is not itself a number that is not finite. -/
def Json.IsFinite : Json → Prop
  | .float x => x.isFinite = true
  | _ => True

namespace Literal

/-- A literal can be laid out. -/
def HasLayout (unit : Text) (literal : Literal) : Prop :=
  ∃ source, literal.layout unit = .ok source

variable {unit : Text} {items : List Literal} {entries : List (Text × Literal)}

theorem hasLayout_code (source : Text) : HasLayout unit (.code source) := ⟨source, rfl⟩

theorem hasLayout_str (value : Text) : HasLayout unit (.scalar (.str value)) := ⟨_, rfl⟩

theorem hasLayout_null : HasLayout unit (.scalar .null) := ⟨_, rfl⟩

theorem layoutItems_eq_ok {sources : List Text} :
    layoutItems unit items = .ok sources ↔ List.Forall₂ (fun item source =>
      ∃ inner, item.layout unit = .ok inner ∧ unit ++ indentTail unit inner = source)
      items sources := by
  induction items generalizing sources with
  | nil => simp [layoutItems, eq_comm]
  | cons item rest ih =>
    simp only [layoutItems, bind_eq_ok, pure_eq_ok, ih, forall₂_cons_left_iff]
    grind

theorem layoutEntries_eq_ok {sources : List Text} :
    layoutEntries unit entries = .ok sources ↔ List.Forall₂ (fun entry source =>
      ∃ inner, entry.2.layout unit = .ok inner ∧
        unit ++ entry.1.doubleQuoted ++ ": " ++ indentTail unit inner = source)
      entries sources := by
  induction entries generalizing sources with
  | nil => simp [layoutEntries, eq_comm]
  | cons entry rest ih =>
    simp only [layoutEntries, bind_eq_ok, pure_eq_ok, ih, forall₂_cons_left_iff]
    grind

theorem hasLayout_list (each : ∀ item ∈ items, HasLayout unit item) :
    HasLayout unit (.list items) := by
  cases items with
  | nil => exact ⟨_, rfl⟩
  | cons item rest =>
    have written : ∃ sources, layoutItems unit (item :: rest) = .ok sources := by
      simp only [layoutItems_eq_ok, exists_forall₂_iff]
      intro item among
      obtain ⟨inner, done⟩ := each item among
      exact ⟨_, inner, done, rfl⟩
    obtain ⟨sources, written⟩ := written
    refine ⟨enclosed "[" "]" sources, ?_⟩
    rw [layout, written]
    · rfl
    · nofun

theorem hasLayout_dict (each : ∀ entry ∈ entries, HasLayout unit entry.2) :
    HasLayout unit (.dict entries) := by
  cases entries with
  | nil => exact ⟨_, rfl⟩
  | cons entry rest =>
    have written : ∃ sources, layoutEntries unit (entry :: rest) = .ok sources := by
      simp only [layoutEntries_eq_ok, exists_forall₂_iff]
      intro entry among
      obtain ⟨inner, done⟩ := each entry among
      exact ⟨_, inner, done, rfl⟩
    obtain ⟨sources, written⟩ := written
    refine ⟨enclosed "\x7b" "\x7d" sources, ?_⟩
    rw [layout, written]
    · rfl
    · nofun

theorem ofItems_eq (items : List Json) : ofItems items = items.map ofJson := by
  induction items with
  | nil => rfl
  | cons item rest ih => rw [ofItems, ih, map_cons]

theorem ofEntries_eq (entries : Entries) :
    ofEntries entries = entries.map fun entry => (entry.1, ofJson entry.2) := by
  induction entries with
  | nil => rfl
  | cons entry rest ih => rw [ofEntries, ih, map_cons]

/-- **A value whose numbers are finite can be laid out.** -/
theorem hasLayout_ofJson (value : Json) (finite : value.Everywhere Json.IsFinite) :
    HasLayout unit (ofJson value) := by
  induction value using Json.induction with
  | null => exact hasLayout_null
  | bool value => exact ⟨_, rfl⟩
  | int value => exact ⟨_, rfl⟩
  | float x => exact ⟨_, if_pos (Json.everywhere_self finite)⟩
  | str value => exact hasLayout_str value
  | arr items ih =>
    obtain ⟨-, inside⟩ := Json.everywhere_arr.1 finite
    rw [ofJson, ofItems_eq]
    refine hasLayout_list fun literal member => ?_
    obtain ⟨item, among, rfl⟩ := mem_map.1 member
    exact ih item among (inside item among)
  | obj entries ih =>
    obtain ⟨-, inside⟩ := Json.everywhere_obj.1 finite
    rw [ofJson, ofEntries_eq]
    refine hasLayout_dict fun literal member => ?_
    obtain ⟨entry, among, rfl⟩ := mem_map.1 member
    exact ih entry among (inside entry among)

end Literal

end AgentFlow
