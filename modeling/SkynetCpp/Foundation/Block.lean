import Mathlib.Data.List.Basic

namespace Foundation

/-!
# Writes to a block of memory

A block has a size and the cells that were written, also those behind its end.
Text is built in a block by writes that follow each other, so that the content
of the block is a list, and whether all writes were inside is its length.
-/

/-- A block of memory: its size, and what was written to which cell. -/
structure Block (α : Type) where
  size : Nat
  cell : Nat → Option α

namespace Block

variable {α : Type}

/-- A new block, with nothing written. -/
def allocate (size : Nat) : Block α where
  size := size
  cell := fun _ => none

/-- Write items from a place on. -/
def write
    (block : Block α)
    (place : Nat)
    (items : List α) : Block α :=
  { block with
    cell := fun i =>
      if place ≤ i ∧ i < place + items.length then
        items[i - place]?
      else
        block.cell i }

/-- Write one list of items behind the other, from a place on. -/
def writeAll
    (block : Block α)
    (place : Nat) : List (List α) → Block α
  | [] => block
  | items :: rest =>
      (block.write place items).writeAll (place + items.length) rest

/-- The first items of a block that were written. -/
def read
    (block : Block α)
    (count : Nat) : List α :=
  (List.range count).filterMap block.cell

/-- Exactly these items are written, from the start of the block on. -/
def Holds
    (block : Block α)
    (items : List α) : Prop :=
  ∀ i, block.cell i = items[i]?

/-- Every cell that was written is a cell of the block. -/
def Inside (block : Block α) : Prop :=
  ∀ i, block.cell i ≠ none → i < block.size

variable
    {block : Block α}
    {items more : List α}
    {place : Nat}

@[simp] theorem write_size
    (block : Block α)
    (place : Nat)
    (items : List α) :
    (block.write place items).size = block.size :=
  rfl

@[simp] theorem writeAll_size
    (block : Block α)
    (place : Nat)
    (pieces : List (List α)) :
    (block.writeAll place pieces).size = block.size := by
  induction pieces generalizing block place with
  | nil =>
      rfl
  | cons items rest inductionHypothesis =>
      rw [writeAll, inductionHypothesis, write_size]

/-- A new block holds nothing. -/
theorem allocate_holds
    (size : Nat) :
    (allocate size : Block α).Holds [] :=
  fun _ => rfl

/-- A write that reaches the end of what is held replaces its end. -/
theorem Holds.write
    (holds : block.Holds items)
    (starts : place ≤ items.length)
    (reaches : items.length ≤ place + more.length) :
    (block.write place more).Holds (items.take place ++ more) := by
  intro i
  have isTaken : (items.take place).length = place :=
    List.length_take_of_le starts
  simp only [Block.write]
  by_cases inFront : i < place
  · rw [if_neg (by omega), holds i,
      List.getElem?_append_left (by omega), List.getElem?_take_of_lt inFront]
  · rw [List.getElem?_append_right (by omega), isTaken]
    by_cases behind : i < place + more.length
    · rw [if_pos (by omega)]
    · rw [if_neg (by omega), holds i, List.getElem?_eq_none (by omega),
        List.getElem?_eq_none (by omega)]

/-- Pieces that are written one behind the other are written as a whole. -/
theorem writeAll_cell
    (block : Block α)
    (place : Nat)
    (pieces : List (List α))
    (i : Nat) :
    (block.writeAll place pieces).cell i =
      (block.write place pieces.flatten).cell i := by
  induction pieces generalizing block place with
  | nil =>
      have nothing : ¬ (place ≤ i ∧ i < place + ([] : List α).length) := by
        simp only [List.length_nil]
        omega
      simp only [writeAll, Block.write, List.flatten_nil, if_neg nothing]
  | cons items rest inductionHypothesis =>
      rw [writeAll, inductionHypothesis]
      simp only [Block.write, List.flatten_cons, List.length_append]
      by_cases inFront : i < place
      · rw [if_neg (by omega), if_neg (by omega), if_neg (by omega)]
      · by_cases first : i < place + items.length
        · rw [if_neg (by omega), if_pos (by omega), if_pos (by omega),
            List.getElem?_append_left (by omega)]
        · by_cases inRest : i < place + items.length + rest.flatten.length
          · rw [if_pos (by omega), if_pos (by omega),
              List.getElem?_append_right (by omega), Nat.sub_sub]
          · rw [if_neg (by omega), if_neg (by omega), if_neg (by omega)]

/-- Pieces behind a part of what is held, up to its end and beyond. -/
theorem Holds.writeAll
    {pieces : List (List α)}
    (holds : block.Holds items)
    (starts : place ≤ items.length)
    (reaches : items.length ≤ place + pieces.flatten.length) :
    (block.writeAll place pieces).Holds
      (items.take place ++ pieces.flatten) := by
  intro i
  rw [writeAll_cell]
  exact holds.write starts reaches i

/-- A block that holds items is read item by item. -/
theorem Holds.read_take
    (holds : block.Holds items)
    (count : Nat) :
    block.read count = items.take count := by
  induction count with
  | zero =>
      simp [Block.read]
  | succ count inductionHypothesis =>
      rw [Block.read] at inductionHypothesis
      rw [Block.read, List.range_succ, List.filterMap_append,
        inductionHypothesis, List.take_add_one]
      cases isCell : block.cell count <;> simp [isCell, ← holds count]

/-- What is held is what is read. -/
theorem Holds.read
    (holds : block.Holds items) :
    block.read items.length = items := by
  rw [holds.read_take, List.take_length]

/-- All writes were inside exactly when what is held fits the block. -/
theorem Holds.inside_iff
    (holds : block.Holds items) :
    block.Inside ↔ items.length ≤ block.size := by
  constructor
  · intro inside
    by_contra tooLong
    have written : block.cell block.size ≠ none := by
      rw [holds, List.getElem?_eq_getElem (by omega)]
      exact Option.some_ne_none _
    exact Nat.lt_irrefl _ (inside _ written)
  · intro fits i written
    rw [holds] at written
    have isItem : i < items.length := by
      by_contra behind
      exact written (List.getElem?_eq_none (Nat.le_of_not_lt behind))
    omega

end Block

end Foundation
