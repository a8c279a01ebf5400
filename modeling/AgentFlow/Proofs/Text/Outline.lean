import AgentFlow.Statement.Basic
import Mathlib.Data.List.TakeWhile

/-!
# Reading lines by their indentation

The outline of lines is the forest that their indentation spells: a line stands inside the last line
before it that is indented less.  Two stretches of lines can be read apart when the second one
starts with an indentation that no line of the first goes below.
-/

namespace AgentFlow

open List

/-- The width of the white space at the start of a text. -/
def Text.margin (t : Text) : Nat := (t.takeWhile CodePoint.isBlank).length

namespace Text

variable {indent : Text} (blank : indent.isBlank = true) (t : Text)

include blank

theorem margin_indented : (indent ++ t).margin = indent.length + t.margin := by
  rw [margin, takeWhile_append_of_pos (all_eq_true.1 blank), length_append]
  rfl

theorem trimStart_indented : trimStart (indent ++ t) = t.trimStart :=
  dropWhile_append_of_pos (all_eq_true.1 blank)

theorem isBlank_indented : isBlank (indent ++ t) = t.isBlank := by
  rw [isBlank, all_append, show indent.all CodePoint.isBlank = true from blank]
  rfl

theorem isCode_indented : isCode (indent ++ t) = t.isCode := by
  rw [isCode, isBlank_indented blank, trimStart_indented blank]
  rfl

end Text

/-- A line, and what stands inside it. -/
inductive Outline where
  | line (text : Text) (inner : List Outline)

namespace Outline

/-- Puts a line with its margin before a forest: the trees that are indented more stand inside it.
-/
def grow (line : Nat × Text) (forest : List (Nat × Outline)) : List (Nat × Outline) :=
  (line.1, .line line.2 ((forest.takeWhile (line.1 < ·.1)).map Prod.snd)) ::
    forest.dropWhile (line.1 < ·.1)

/-- The forest of lines with their margins. -/
def gather (lines : List (Nat × Text)) : List (Nat × Outline) := lines.foldr grow []

/-- A line without its indentation, and the width of that. -/
def measure (line : Text) : Nat × Text := (line.margin, line.trimStart)

/-- The outline of those lines that are to be read. -/
def read (keep : Text → Bool) (lines : List Text) : List Outline :=
  (gather ((lines.filter keep).map measure)).map Prod.snd

example : (read Text.isCode ["if a:", "", "  # none", "  b", "c"]).length = 2 := by decide

/-! ## Forests -/

variable {first second lines inner : List (Nat × Text)} {forest : List (Nat × Outline)}

theorem exists_line_of_mem_gather {root : Nat × Outline} (member : root ∈ gather lines) :
    ∃ line ∈ lines, line.1 = root.1 := by
  induction lines with
  | nil => cases member
  | cons line rest ih =>
    rcases mem_cons.1 member with rfl | later
    · exact ⟨line, mem_cons_self, rfl⟩
    · obtain ⟨found, listed, same⟩ := ih (dropWhile_subset _ later)
      exact ⟨found, mem_cons_of_mem _ listed, same⟩

theorem head?_gather (lines : List (Nat × Text)) :
    (gather lines).head?.map Prod.fst = lines.head?.map Prod.fst := by
  cases lines with
  | nil => rfl
  | cons line rest => rfl

/-- A line takes in nothing of a forest that starts at its own margin or less. -/
theorem grow_append {line : Nat × Text} {rest : List (Nat × Outline)}
    (stops : ∀ root ∈ rest.head?, root.1 ≤ line.1) :
    grow line (forest ++ rest) = grow line forest ++ rest := by
  have none : rest.takeWhile (line.1 < ·.1) = [] ∧ rest.dropWhile (line.1 < ·.1) = rest := by
    cases rest with
    | nil => exact ⟨rfl, rfl⟩
    | cons root others => simp [stops root rfl]
  have taken : (forest ++ rest).takeWhile (line.1 < ·.1) = forest.takeWhile (line.1 < ·.1) := by
    rw [takeWhile_append, none.1, append_nil]
    split
    · rename_i all
      exact (takeWhile_sublist _).eq_of_length all |>.symm
    · rfl
  have dropped : (forest ++ rest).dropWhile (line.1 < ·.1) =
      forest.dropWhile (line.1 < ·.1) ++ rest := by
    rw [dropWhile_append, none.2]
    split
    · rename_i all
      rw [List.isEmpty_iff.1 all, nil_append]
    · rfl
  rw [grow, taken, dropped]
  rfl

/-- **Lines are read apart** where the second stretch starts with an indentation that no line of the
first goes below. -/
theorem gather_append
    (stops : ∀ line ∈ first, ∀ next ∈ second.head?, next.1 ≤ line.1) :
    gather (first ++ second) = gather first ++ gather second := by
  induction first with
  | nil => rfl
  | cons line rest ih =>
    have later := ih fun other listed => stops other (mem_cons_of_mem _ listed)
    have here : ∀ root ∈ (gather second).head?, root.1 ≤ line.1 := by
      intro root listed
      have margins := head?_gather second
      rw [Option.mem_def.1 listed] at margins
      obtain ⟨next, found, same⟩ := Option.map_eq_some_iff.1 margins.symm
      exact same ▸ stops line mem_cons_self next found
    calc gather (line :: rest ++ second)
        = grow line (gather (rest ++ second)) := rfl
      _ = grow line (gather rest ++ gather second) := by rw [later]
      _ = gather (line :: rest) ++ gather second := grow_append here

theorem gather_nested {margin : Nat} (text : Text) (deeper : ∀ line ∈ inner, margin < line.1) :
    gather ((margin, text) :: inner) =
      [(margin, .line text ((gather inner).map Prod.snd))] := by
  have all : ∀ root ∈ gather inner, (margin < root.1 : Bool) = true := by
    intro root member
    obtain ⟨line, listed, same⟩ := exists_line_of_mem_gather member
    simpa [← same] using deeper line listed
  show grow (margin, text) (gather inner) = _
  simp only [grow, takeWhile_eq_self_iff.2 all, dropWhile_eq_nil_iff.2 all]

/-- Indenting all lines alike changes no outline. -/
theorem gather_shifted (margin : Nat) (lines : List (Nat × Text)) :
    gather (lines.map fun line => (margin + line.1, line.2)) =
      (gather lines).map fun root => (margin + root.1, root.2) := by
  induction lines with
  | nil => rfl
  | cons line rest ih =>
    show grow _ (gather (rest.map _)) = (grow line (gather rest)).map _
    rw [ih]
    simp [grow, takeWhile_map, dropWhile_map, Function.comp_def]

/-! ## Lines from a margin on -/

/-- Lines that start at a margin and nowhere go below it, with their outline. -/
structure Reads (margin : Nat) (lines : List (Nat × Text)) (outlines : List Outline) : Prop where
  deep : ∀ line ∈ lines, margin ≤ line.1
  starts : ∀ line ∈ lines.head?, line.1 = margin
  read : (gather lines).map Prod.snd = outlines

namespace Reads

variable {margin : Nat} {outlines others : List Outline}

theorem nil (margin : Nat) : Reads margin [] [] := ⟨nofun, nofun, rfl⟩

theorem append (one : Reads margin first outlines) (two : Reads margin second others) :
    Reads margin (first ++ second) (outlines ++ others) where
  deep := forall_mem_append.2 ⟨one.deep, two.deep⟩
  starts line found := by
    cases first with
    | nil => exact two.starts line found
    | cons head rest => exact one.starts line found
  read := by
    have stops : ∀ line ∈ first, ∀ next ∈ second.head?, next.1 ≤ line.1 :=
      fun line listed next found => two.starts next found ▸ one.deep line listed
    rw [gather_append stops, map_append, one.read, two.read]

theorem nested {inside : Nat} (text : Text) (more : margin < inside)
    (reads : Reads inside inner outlines) :
    Reads margin ((margin, text) :: inner) [.line text outlines] where
  deep := forall_mem_cons.2
    ⟨le_rfl, fun line listed => (more.trans_le (reads.deep line listed)).le⟩
  starts line found := by
    cases found
    rfl
  read := by
    rw [gather_nested text fun line listed => more.trans_le (reads.deep line listed),
      map_singleton, reads.read]

theorem shifted (margin : Nat) (starts : ∀ line ∈ lines.head?, line.1 = 0) :
    Reads margin (lines.map fun line => (margin + line.1, line.2))
      ((gather lines).map Prod.snd) where
  deep line listed := by
    obtain ⟨own, -, rfl⟩ := mem_map.1 listed
    exact Nat.le_add_right _ _
  starts := by
    cases lines with
    | nil => nofun
    | cons line rest => simp [starts line rfl]
  read := by simp [gather_shifted]

end Reads

end Outline

end AgentFlow
