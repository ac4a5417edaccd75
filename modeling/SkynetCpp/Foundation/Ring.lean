import Mathlib.Data.List.Basic
import Mathlib.Data.Nat.ModEq
import Mathlib.Tactic.Common

namespace Foundation.Ring

/-!
# Circular buffers

The items of a circular buffer lie in an array from `head` on, around its end,
up to the slot before `tail`; one slot stays free, so that equal indices mean
an empty buffer.
-/

/-- The index behind one, around the end of the array. -/
def advance (size index : Nat) : Nat :=
  (index + 1) % size

/-- The number of items from `head` up to `tail`. -/
def count (size head tail : Nat) : Nat :=
  if head ≤ tail then tail - head else tail + size - head

variable {α : Type} (blank : α)

/-- The items in a number of slots from an index on. -/
def window
    (data : List α)
    (size : Nat) : Nat → Nat → List α
  | _, 0 => []
  | start, count + 1 =>
      data.getD start blank :: window data size (advance size start) count

/-- The items of a buffer, the oldest first. -/
def contents
    (data : List α)
    (size head tail : Nat) : List α :=
  window blank data size head (count size head tail)

section Index

variable {size head tail index : Nat}

theorem advance_lt
    (positive : 0 < size) :
    advance size index < size :=
  Nat.mod_lt _ positive

/-- Advancing an index either stays below the end or starts again. -/
theorem advance_eq
    (bound : index < size) :
    advance size index = if index + 1 = size then 0 else index + 1 := by
  unfold advance
  split
  · next atEnd =>
      rw [atEnd, Nat.mod_self]
  · next inside =>
      exact Nat.mod_eq_of_lt (by omega)

/-- A buffer without a free slot holds all slots but one. -/
theorem count_of_full
    (tailBound : tail < size)
    (full : advance size tail = head) :
    count size head tail = size - 1 := by
  rw [advance_eq tailBound] at full
  unfold count
  split at full <;> split <;> omega

theorem count_advance_tail
    (headBound : head < size)
    (tailBound : tail < size)
    (free : advance size tail ≠ head) :
    count size head (advance size tail) = count size head tail + 1 := by
  rw [advance_eq tailBound] at free ⊢
  unfold count
  by_cases atEnd : tail + 1 = size
  · simp only [atEnd, ↓reduceIte] at free ⊢
    split <;> split <;> omega
  · simp only [atEnd, ↓reduceIte] at free ⊢
    split <;> split <;> omega

theorem count_advance_head
    (headBound : head < size)
    (tailBound : tail < size)
    (different : head ≠ tail) :
    count size head tail = count size (advance size head) tail + 1 := by
  rw [advance_eq headBound]
  unfold count
  by_cases atEnd : head + 1 = size
  · simp only [atEnd, ↓reduceIte]
    split <;> split <;> omega
  · simp only [atEnd, ↓reduceIte]
    split <;> split <;> omega

theorem count_lt
    (headBound : head < size)
    (tailBound : tail < size) :
    count size head tail < size := by
  unfold count
  split <;> omega

/-- Two offsets from one index, both within the array, reach two slots. -/
theorem add_mod_ne
    {offset count : Nat}
    (below : offset < count)
    (within : count < size) :
    (index + offset) % size ≠ (index + count) % size := by
  intro same
  have congruent : index + offset ≡ index + count [MOD size] := same
  have offsets : offset ≡ count [MOD size] :=
    Nat.ModEq.add_left_cancel' index congruent
  have equal : offset = count :=
    offsets.eq_of_lt_of_lt (Nat.lt_trans below within) within
  omega

@[simp] theorem count_self :
    count size head head = 0 := by
  simp [count]

end Index

section Window

variable {data : List α} {size : Nat}

@[simp] theorem length_window
    (start count : Nat) :
    (window blank data size start count).length = count := by
  induction count generalizing start with
  | zero =>
      rfl
  | succ count inductionHypothesis =>
      simp [window, inductionHypothesis]

/-- A longer window ends with the item that it has more. -/
theorem window_succ
    {start : Nat}
    (bound : start < size)
    (count : Nat) :
    window blank data size start (count + 1) =
      window blank data size start count ++
        [data.getD ((start + count) % size) blank] := by
  induction count generalizing start with
  | zero =>
      simp [window, Nat.mod_eq_of_lt bound]
  | succ count inductionHypothesis =>
      have inside : advance size start < size :=
        advance_lt (Nat.zero_lt_of_lt bound)
      have advanced := inductionHypothesis inside
      have index :
          (advance size start + count) % size =
            (start + (count + 1)) % size := by
        unfold advance
        rw [Nat.mod_add_mod, Nat.add_assoc, Nat.add_comm 1]
      rw [window, advanced, index]
      rfl

/-- A write outside a window leaves its items. -/
theorem window_set
    {start index : Nat}
    (bound : start < size)
    (item : α)
    (count : Nat)
    (outside : ∀ offset < count, (start + offset) % size ≠ index) :
    window blank (data.set index item) size start count =
      window blank data size start count := by
  induction count with
  | zero =>
      rfl
  | succ count inductionHypothesis =>
      have earlier :=
        inductionHypothesis fun offset below =>
          outside offset (Nat.lt_succ_of_lt below)
      have other := outside count (Nat.lt_succ_self count)
      rw [window_succ blank bound, window_succ blank bound, earlier]
      simp [List.getD, List.getElem?_set_ne (Ne.symm other)]

/-- From the first slot on, a window is the front of the array. -/
theorem window_zero
    {count : Nat}
    (fits : count < size)
    (inside : count ≤ data.length) :
    window blank data size 0 count = data.take count := by
  induction count with
  | zero =>
      rfl
  | succ count inductionHypothesis =>
      have index : (0 + count) % size = count := by
        rw [Nat.zero_add, Nat.mod_eq_of_lt (by omega)]
      rw [window_succ blank (by omega), inductionHypothesis (by omega)
        (by omega), index, List.take_add_one]
      simp [List.getD, List.getElem?_eq_getElem (show count < data.length by omega)]

/-- The items of a window, by their offset. -/
theorem window_eq_map
    {start : Nat}
    (bound : start < size)
    (count : Nat) :
    window blank data size start count =
      (List.range count).map
        fun offset => data.getD ((offset + start) % size) blank := by
  induction count with
  | zero =>
      rfl
  | succ count inductionHypothesis =>
      rw [window_succ blank bound, inductionHypothesis, List.range_succ,
        List.map_append, List.map_singleton, Nat.add_comm start count]

end Window

section Contents

variable {data : List α} {size head tail : Nat}

theorem contents_self :
    contents blank data size head head = [] := by
  simp [contents, window]

/-- Writing behind the last item appends it. -/
theorem contents_push
    (headBound : head < size)
    (tailBound : tail < size)
    (allocated : data.length = size)
    (free : advance size tail ≠ head)
    (item : α) :
    contents blank (data.set tail item) size head (advance size tail) =
      contents blank data size head tail ++ [item] := by
  have last : (head + count size head tail) % size = tail := by
    unfold count
    split
    · next ordered =>
        rw [Nat.add_sub_cancel' ordered, Nat.mod_eq_of_lt tailBound]
    · next wrapped =>
        have whole : head + (tail + size - head) = tail + size := by omega
        rw [whole, Nat.add_mod_right, Nat.mod_eq_of_lt tailBound]
  have outside :
      ∀ offset < count size head tail, (head + offset) % size ≠ tail := by
    intro offset below
    rw [← last]
    exact add_mod_ne below (count_lt headBound tailBound)
  unfold contents
  rw [count_advance_tail headBound tailBound free,
    window_succ blank headBound, window_set blank headBound item _ outside,
    last]
  simp [List.getD, allocated, tailBound]

/-- The item at the head is the oldest one. -/
theorem contents_pop
    (headBound : head < size)
    (tailBound : tail < size)
    (different : head ≠ tail) :
    contents blank data size head tail =
      data.getD head blank :: contents blank data size (advance size head) tail := by
  unfold contents
  rw [count_advance_head headBound tailBound different]
  rfl

/-- A buffer is empty exactly when its indices are equal. -/
theorem contents_eq_nil_iff
    (headBound : head < size)
    (tailBound : tail < size) :
    contents blank data size head tail = [] ↔ head = tail := by
  constructor
  · intro nothing
    by_contra different
    rw [contents_pop blank headBound tailBound different] at nothing
    cases nothing
  · intro same
    subst same
    exact contents_self blank

theorem length_contents_lt
    (headBound : head < size)
    (tailBound : tail < size) :
    (contents blank data size head tail).length < size := by
  unfold contents
  rw [length_window]
  exact count_lt headBound tailBound

end Contents

end Foundation.Ring
