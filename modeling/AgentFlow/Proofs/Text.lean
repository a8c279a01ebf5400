import AgentFlow.Text.Quoted
import Mathlib.Data.List.TakeWhile

/-!
# What texts hold

Where the code points of a text come from, for the ways in which generated code puts texts together:
joining them with separators and writing them between quotation marks.  A surrogate is written as it
is, so it is found again in the quoted text.
-/

namespace AgentFlow.Text

open List

variable {texts : List Text} {t : Text} {point : CodePoint}

theorem mem_dedup_of_mem (member : t ∈ texts) : t ∈ dedup texts := by
  have kept : ∀ (texts kept : List Text), t ∈ kept ∨ t ∈ texts →
      t ∈ texts.foldl (fun kept t => if t ∈ kept then kept else kept ++ [t]) kept := by
    intro texts
    induction texts with
    | nil =>
      intro kept found
      simpa using found
    | cons next rest ih =>
      intro kept found
      rw [mem_cons] at found
      rw [foldl_cons]
      refine ih _ ?_
      split
      · next before =>
          rcases found with found | rfl | found
          · exact .inl found
          · exact .inl before
          · exact .inr found
      · rcases found with found | rfl | found
        · exact .inl (mem_append_left _ found)
        · exact .inl (by simp)
        · exact .inr found
  exact kept texts [] (.inr member)

theorem mem_join {separator : Text} (piece : t ∈ texts) (member : point ∈ t) :
    point ∈ join separator texts := by
  fun_induction join separator texts with
  | case1 => cases piece
  | case2 only =>
    cases mem_singleton.1 piece
    exact member
  | case3 first next rest ih =>
    rcases mem_cons.1 piece with rfl | later
    · exact mem_append_left _ (mem_append_left _ member)
    · exact mem_append_right _ (ih later)

theorem mem_doubleQuoted (surrogate : point.isSurrogate = true) (member : point ∈ t) :
    point ∈ t.doubleQuoted := by
  have encoded : point ∈ point.encoded := by
    cases point with
    | scalar => cases surrogate
    | surrogate offset =>
      have large : ¬(CodePoint.surrogate offset).toNat < 0x20 := by
        simp only [CodePoint.toNat]
        omega
      simp [CodePoint.encoded, CodePoint.quotation, CodePoint.backslash, large]
  have inside : point ∈ t.flatMap CodePoint.encoded := mem_flatMap.2 ⟨point, member, encoded⟩
  simp [doubleQuoted, inside]

theorem surrogateRun?_eq_none_iff :
    t.surrogateRun? = none ↔ ∀ point ∈ t, point.isSurrogate = false := by
  have dropped : t.dropWhile (!·.isSurrogate) = [] ↔ ∀ point ∈ t, point.isSurrogate = false := by
    simp [dropWhile_eq_nil_iff]
  rw [← dropped, surrogateRun?]
  split <;> simp_all

end AgentFlow.Text
