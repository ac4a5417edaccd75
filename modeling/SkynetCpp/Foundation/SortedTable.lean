import Mathlib.Order.Lattice
import Mathlib.Data.List.Basic
import Mathlib.Data.List.Pairwise
import Mathlib.Tactic.Common

namespace Foundation

/-!
# Sorted tables

A table with one entry for each key, kept strictly sorted in the first places
of an array that may be longer.  An entry is found by binary search between
closed bounds, inserted after moving the later ones up, and removed by moving
the later ones down.
-/

section SortedTable

variable
    {Entry Key : Type}
    [LinearOrder Key]
    (key : Entry → Key)

/-- Later entries have greater keys. -/
def SortedBy (entries : List Entry) : Prop :=
  entries.Pairwise fun first second => key first < key second

/-- The entry of a key. -/
def lookup
    (entries : List Entry)
    (wanted : Key) : Option Entry :=
  entries.find? fun entry => decide (key entry = wanted)

/-- What a binary search ends with: an entry, or where one may be inserted. -/
inductive Place (Entry : Type) where
  | found (entry : Entry)
  | missing (start : Int)

/-- Binary search between closed bounds. -/
def bisect
    (entries : List Entry)
    (wanted : Key) : Nat → Int → Int → Place Entry
  | 0, start, _ => .missing start
  | turns + 1, start, stop =>
      if start ≤ stop then
        let mid := (start + stop) / 2
        match entries[mid.toNat]? with
        | none => .missing start
        | some entry =>
            if key entry = wanted then
              .found entry
            else if key entry < wanted then
              bisect entries wanted turns (mid + 1) stop
            else
              bisect entries wanted turns start (mid - 1)
      else
        .missing start

/-- Move the entries at the positions above `start` up to `stop` up by one. -/
def moveUp (start : Nat) : Nat → List Entry → List Entry
  | 0, entries => entries
  | stop + 1, entries =>
      if start < stop + 1 then
        match entries[stop]? with
        | none => entries
        | some entry => moveUp start stop (entries.set (stop + 1) entry)
      else
        entries

/-- Blank dropped entries and move later ones down: `i` reads, `j` writes. -/
def moveDown
    (dropped : Entry → Bool)
    (blank : Entry → Entry) :
    Nat → Nat → Nat → List Entry → List Entry × Nat
  | 0, _, j, entries => (entries, j)
  | turns + 1, i, j, entries =>
      match entries[i]? with
      | none => (entries, j)
      | some entry =>
          if dropped entry then
            moveDown dropped blank turns (i + 1) j (entries.set i (blank entry))
          else if i ≠ j then
            moveDown dropped blank turns (i + 1) (j + 1) (entries.set j entry)
          else
            moveDown dropped blank turns (i + 1) (j + 1) entries

section Lookup

variable
    {key : Entry → Key}
    {entries before after : List Entry}

/-- A found entry is in the table under the wanted key. -/
theorem mem_of_lookup
    {wanted : Key}
    {entry : Entry}
    (found : lookup key entries wanted = some entry) :
    entry ∈ entries ∧ key entry = wanted := by
  have isWanted := List.find?_some found
  exact ⟨List.mem_of_find?_eq_some found, of_decide_eq_true isWanted⟩

/-- Nothing is found exactly when no entry has the key. -/
theorem lookup_eq_none_iff
    {wanted : Key} :
    lookup key entries wanted = none ↔
      ∀ entry ∈ entries, key entry ≠ wanted := by
  simp [lookup]

/-- The keys of a sorted table grow with the positions. -/
theorem SortedBy.key_lt
    (sorted : SortedBy key entries)
    {i j : Nat}
    {first second : Entry}
    (before : i < j)
    (firstAt : entries[i]? = some first)
    (secondAt : entries[j]? = some second) :
    key first < key second := by
  obtain ⟨firstInside, isFirst⟩ := List.getElem?_eq_some_iff.mp firstAt
  obtain ⟨secondInside, isSecond⟩ := List.getElem?_eq_some_iff.mp secondAt
  rw [← isFirst, ← isSecond]
  exact List.pairwise_iff_getElem.mp sorted i j firstInside secondInside before

/-- Different entries of a sorted table have different keys. -/
theorem SortedBy.eq_of_key_eq
    (sorted : SortedBy key entries)
    {first second : Entry}
    (firstMember : first ∈ entries)
    (secondMember : second ∈ entries)
    (sameKey : key first = key second) :
    first = second := by
  by_contra different
  obtain ⟨i, firstAt⟩ := List.mem_iff_getElem?.mp firstMember
  obtain ⟨j, secondAt⟩ := List.mem_iff_getElem?.mp secondMember
  rcases Nat.lt_trichotomy i j with before | same | after
  · exact ne_of_lt (sorted.key_lt before firstAt secondAt) sameKey
  · rw [same, secondAt] at firstAt
    exact different (Option.some.inj firstAt).symm
  · exact ne_of_gt (sorted.key_lt after secondAt firstAt) sameKey

/-- Each entry of a sorted table is found under its key. -/
theorem SortedBy.lookup_eq_some_iff
    (sorted : SortedBy key entries)
    {wanted : Key}
    {entry : Entry} :
    lookup key entries wanted = some entry ↔
      entry ∈ entries ∧ key entry = wanted := by
  refine ⟨mem_of_lookup, ?_⟩
  rintro ⟨member, isWanted⟩
  cases found : lookup key entries wanted with
  | none =>
      exact absurd isWanted (lookup_eq_none_iff.mp found entry member)
  | some other =>
      obtain ⟨otherMember, otherKey⟩ := mem_of_lookup found
      rw [sorted.eq_of_key_eq otherMember member (otherKey.trans isWanted.symm)]

/-- Keeping some of the entries finds those that are kept. -/
theorem SortedBy.lookup_filter
    (sorted : SortedBy key entries)
    (keep : Entry → Bool)
    (wanted : Key) :
    lookup key (entries.filter keep) wanted =
      (lookup key entries wanted).filter keep := by
  have keptSorted : SortedBy key (entries.filter keep) := sorted.filter keep
  apply Option.ext
  intro entry
  simp only [keptSorted.lookup_eq_some_iff, Option.filter_eq_some_iff,
    sorted.lookup_eq_some_iff, List.mem_filter]
  tauto

/-- An entry between smaller and greater ones keeps the table sorted. -/
theorem SortedBy.insert
    {entry : Entry}
    (sorted : SortedBy key (before ++ after))
    (greater : ∀ other ∈ before, key other < key entry)
    (smaller : ∀ other ∈ after, key entry < key other) :
    SortedBy key (before ++ entry :: after) := by
  obtain ⟨beforeSorted, afterSorted, across⟩ := List.pairwise_append.mp sorted
  refine List.pairwise_append.mpr
    ⟨beforeSorted, List.pairwise_cons.mpr ⟨smaller, afterSorted⟩, ?_⟩
  intro first firstMember second secondMember
  rcases List.mem_cons.mp secondMember with isEntry | later
  · rw [isEntry]
    exact greater first firstMember
  · exact across first firstMember second later

/-- An inserted entry is found under its key, and the others as before. -/
theorem lookup_insert
    {entry : Entry}
    (unbound : lookup key (before ++ after) (key entry) = none)
    (wanted : Key) :
    lookup key (before ++ entry :: after) wanted =
      if wanted = key entry then some entry
      else lookup key (before ++ after) wanted := by
  unfold lookup at unbound ⊢
  rw [List.find?_append, Option.or_eq_none_iff] at unbound
  by_cases same : wanted = key entry
  · subst same
    rw [if_pos rfl, List.find?_append, unbound.1]
    simp
  · rw [if_neg same, List.find?_append, List.find?_append,
      List.find?_cons_of_neg (by simpa using Ne.symm same)]

end Lookup

section Search

variable
    {key : Entry → Key}
    {entries : List Entry}
    {count : Nat}
    {wanted : Key}
    {start stop : Int}

/--
The bounds of a search among the first entries: those outside are known to be
smaller or greater than the wanted one.
-/
structure Narrowed
    (key : Entry → Key)
    (entries : List Entry)
    (count : Nat)
    (wanted : Key)
    (start stop : Int) : Prop where
  nonneg : 0 ≤ start
  ordered : start ≤ stop + 1
  inside : stop < count
  smaller :
    ∀ (i : Nat) entry, entries[i]? = some entry → i < start → key entry < wanted
  greater :
    ∀ (i : Nat) entry,
      entries[i]? = some entry → i < count → stop < i → wanted < key entry

/-- A search starts among all the entries. -/
theorem Narrowed.all
    (key : Entry → Key)
    (entries : List Entry)
    (count : Nat)
    (wanted : Key) :
    Narrowed key entries count wanted 0 (count - 1) where
  nonneg := Int.le_refl 0
  ordered := by omega
  inside := by omega
  smaller := by
    intro i entry isEntry before
    omega
  greater := by
    intro i entry isEntry inside after
    omega

section Narrow

variable
    {mid : Nat}
    {entry : Entry}
    (narrowed : Narrowed key entries count wanted start stop)
    (sorted : SortedBy key (entries.take count))
    (below : mid ≤ stop)
    (isMid : entries[mid]? = some entry)

include narrowed sorted below isMid

/-- The entries up to a smaller one are smaller. -/
theorem Narrowed.raise
    (small : key entry < wanted) :
    Narrowed key entries count wanted (mid + 1) stop where
  nonneg := by omega
  ordered := by omega
  inside := narrowed.inside
  smaller := by
    intro i other isOther before
    rcases Nat.lt_or_ge i mid with earlier | notEarlier
    · have inside := narrowed.inside
      have increasing : key other < key entry :=
        sorted.key_lt earlier
          (by rwa [List.getElem?_take_of_lt (by omega)])
          (by rwa [List.getElem?_take_of_lt (by omega)])
      exact lt_trans increasing small
    · have same : i = mid := by omega
      rw [same, isMid] at isOther
      injection isOther with isOther
      exact isOther ▸ small
  greater := narrowed.greater

/-- The entries from a greater one on are greater. -/
theorem Narrowed.lower
    (above : start ≤ mid)
    (great : wanted < key entry) :
    Narrowed key entries count wanted start (mid - 1) where
  nonneg := narrowed.nonneg
  ordered := by omega
  inside := by
    have inside := narrowed.inside
    omega
  smaller := narrowed.smaller
  greater := by
    intro i other isOther inside after
    rcases Nat.lt_or_ge mid i with later | notLater
    · have increasing : key entry < key other :=
        sorted.key_lt later
          (by rwa [List.getElem?_take_of_lt (by omega)])
          (by rwa [List.getElem?_take_of_lt (by omega)])
      exact lt_trans great increasing
    · have same : i = mid := by omega
      rw [same, isMid] at isOther
      injection isOther with isOther
      exact isOther ▸ great

end Narrow

/-- What a search among the first entries of an array may end with. -/
def Place.Correct
    (key : Entry → Key)
    (entries : List Entry)
    (count : Nat)
    (wanted : Key) : Place Entry → Prop
  | .found entry => entry ∈ entries.take count ∧ key entry = wanted
  | .missing start =>
      0 ≤ start ∧ start ≤ count ∧
        (∀ entry ∈ entries.take start.toNat, key entry < wanted) ∧
        ∀ entry ∈ (entries.take count).drop start.toNat, wanted < key entry

/-- Bounds that have crossed are where the wanted entry may be inserted. -/
theorem Narrowed.correct_missing
    (narrowed : Narrowed key entries count wanted start stop)
    (crossed : stop < start) :
    (Place.missing start).Correct key entries count wanted := by
  obtain ⟨nonneg, ordered, inside, smaller, greater⟩ := narrowed
  refine ⟨nonneg, by omega, ?_, ?_⟩
  · intro entry member
    obtain ⟨i, isEntry⟩ := List.mem_iff_getElem?.mp member
    rw [List.getElem?_take] at isEntry
    split at isEntry
    · next before =>
        exact smaller i entry isEntry (by omega)
    · cases isEntry
  · intro entry member
    obtain ⟨i, isEntry⟩ := List.mem_iff_getElem?.mp member
    rw [List.getElem?_drop, List.getElem?_take] at isEntry
    split at isEntry
    · next before =>
        exact greater (start.toNat + i) entry isEntry before (by omega)
    · cases isEntry

/-- A binary search among sorted entries ends correctly. -/
theorem bisect_correct
    {turns : Nat}
    (sorted : SortedBy key (entries.take count))
    (full : count ≤ entries.length)
    (narrowed : Narrowed key entries count wanted start stop)
    (enough : stop - start + 1 < turns) :
    (bisect key entries wanted turns start stop).Correct
      key entries count wanted := by
  induction turns generalizing start stop with
  | zero =>
      have ordered := narrowed.ordered
      omega
  | succ turns inductionHypothesis =>
      unfold bisect
      by_cases remain : start ≤ stop
      · have nonneg := narrowed.nonneg
        have inside := narrowed.inside
        obtain ⟨mid, isMid⟩ : ∃ mid : Nat, (start + stop) / 2 = mid :=
          Int.eq_ofNat_of_zero_le (by omega)
        have above : start ≤ mid := by omega
        have below : mid ≤ stop := by omega
        have midInside : mid < entries.length := by omega
        simp only [remain, ↓reduceIte, isMid, Int.toNat_natCast,
          List.getElem?_eq_getElem midInside]
        have atMid := List.getElem?_eq_getElem midInside
        generalize entries[mid] = entry at atMid
        by_cases same : key entry = wanted
        · rw [if_pos same]
          refine ⟨List.mem_iff_getElem?.mpr ⟨mid, ?_⟩, same⟩
          rwa [List.getElem?_take_of_lt (by omega)]
        · rw [if_neg same]
          by_cases small : key entry < wanted
          · rw [if_pos small]
            exact inductionHypothesis
              (narrowed.raise sorted below atMid small) (by omega)
          · rw [if_neg small]
            have great : wanted < key entry :=
              lt_of_le_of_ne (not_lt.mp small) (Ne.symm same)
            exact inductionHypothesis
              (narrowed.lower sorted below atMid above great) (by omega)
      · rw [if_neg remain]
        exact narrowed.correct_missing (Int.not_le.mp remain)

/--
A binary search among all the first entries finds the entry of the wanted key,
or a position between the smaller and the greater ones.
-/
theorem bisect_cases
    (sorted : SortedBy key (entries.take count))
    (full : count ≤ entries.length)
    (wanted : Key) :
    (∃ entry,
      bisect key entries wanted (count + 1) 0 (count - 1) = .found entry ∧
        lookup key (entries.take count) wanted = some entry) ∨
      ∃ start : Nat,
        bisect key entries wanted (count + 1) 0 (count - 1) = .missing start ∧
          lookup key (entries.take count) wanted = none ∧
          start ≤ count ∧
          (∀ entry ∈ entries.take start, key entry < wanted) ∧
          ∀ entry ∈ (entries.take count).drop start, wanted < key entry := by
  have correct :=
    bisect_correct sorted full (Narrowed.all key entries count wanted)
      (show (count - 1 : Int) - 0 + 1 < (count + 1 : Nat) by omega)
  cases searched : bisect key entries wanted (count + 1) 0 (count - 1) with
  | found entry =>
      rw [searched] at correct
      exact Or.inl ⟨entry, rfl, sorted.lookup_eq_some_iff.mpr correct⟩
  | missing start =>
      rw [searched] at correct
      obtain ⟨nonneg, inside, smaller, greater⟩ := correct
      obtain ⟨position, rfl⟩ := Int.eq_ofNat_of_zero_le nonneg
      refine Or.inr ⟨position, rfl, lookup_eq_none_iff.mpr ?_, by omega,
        smaller, greater⟩
      intro entry member
      rw [← List.take_append_drop position (entries.take count),
        List.take_take, Nat.min_eq_left (by omega)] at member
      rcases List.mem_append.mp member with before | after
      · exact ne_of_lt (smaller entry before)
      · exact ne_of_gt (greater entry after)

end Search

section Move

variable
    {entries : List Entry}

@[simp] theorem length_moveUp
    (start stop : Nat)
    (entries : List Entry) :
    (moveUp start stop entries).length = entries.length := by
  induction stop generalizing entries with
  | zero =>
      rfl
  | succ stop inductionHypothesis =>
      unfold moveUp
      split
      · split
        · rfl
        · rw [inductionHypothesis, List.length_set]
      · rfl

/-- What is at a position after moving up. -/
theorem getElem?_moveUp
    {start stop : Nat}
    (room : stop < entries.length)
    (i : Nat) :
    (moveUp start stop entries)[i]? =
      if start < i ∧ i ≤ stop then entries[i - 1]? else entries[i]? := by
  induction stop generalizing entries with
  | zero =>
      have outside : ¬ (start < i ∧ i ≤ 0) := by omega
      rw [if_neg outside]
      rfl
  | succ stop inductionHypothesis =>
      unfold moveUp
      by_cases moves : start < stop + 1
      · have stopInside : stop < entries.length := by omega
        simp only [moves, ↓reduceIte, List.getElem?_eq_getElem stopInside]
        rw [inductionHypothesis (by rw [List.length_set]; omega)]
        by_cases isTop : i = stop + 1
        · subst isTop
          have notBelow : ¬ (start < stop + 1 ∧ stop + 1 ≤ stop) := by omega
          rw [if_neg notBelow, if_pos ⟨moves, Nat.le_refl _⟩,
            List.getElem?_set_self (by omega), Nat.add_sub_cancel,
            List.getElem?_eq_getElem stopInside]
        · by_cases below : start < i ∧ i ≤ stop
          · rw [if_pos below, if_pos ⟨below.1, by omega⟩,
              List.getElem?_set_ne (by omega)]
          · rw [if_neg below, if_neg (by omega),
              List.getElem?_set_ne (Ne.symm isTop)]
      · rw [if_neg moves, if_neg (by omega)]

/-- Moving up makes room for an entry among the first ones. -/
theorem take_moveUp_set
    {start count : Nat}
    (inside : start ≤ count)
    (room : count < entries.length)
    (entry : Entry) :
    ((moveUp start count entries).set start entry).take (count + 1) =
      entries.take start ++ entry :: (entries.take count).drop start := by
  have startLength : (entries.take start).length = start := by
    rw [List.length_take]
    omega
  apply List.ext_getElem?
  intro i
  rcases Nat.lt_trichotomy i start with before | same | after
  · rw [List.getElem?_append_left (by omega), List.getElem?_take_of_lt before,
      List.getElem?_take_of_lt (by omega),
      List.getElem?_set_ne (by omega), getElem?_moveUp room,
      if_neg (by omega)]
  · subst same
    rw [List.getElem?_append_right (by omega), startLength, Nat.sub_self,
      List.getElem?_take_of_lt (by omega),
      List.getElem?_set_self (by rw [length_moveUp]; omega),
      List.getElem?_cons_zero]
  · obtain ⟨above, rfl⟩ : ∃ above, i = start + above + 1 :=
      ⟨i - start - 1, by omega⟩
    rw [List.getElem?_append_right (by omega), startLength, Nat.add_assoc,
      Nat.add_sub_cancel_left, List.getElem?_cons_succ, List.getElem?_drop,
      List.getElem?_take, List.getElem?_take,
      List.getElem?_set_ne (by omega), getElem?_moveUp room]
    by_cases present : start + above < count
    · rw [if_pos (by omega), if_pos (by omega), if_pos present]
      rfl
    · rw [if_neg (by omega), if_neg present]

end Move

section Keep

variable
    {dropped : Entry → Bool}
    {blank : Entry → Entry}

@[simp] theorem length_moveDown
    (turns i j : Nat)
    (entries : List Entry) :
    (moveDown dropped blank turns i j entries).1.length = entries.length := by
  induction turns generalizing i j entries with
  | zero =>
      rfl
  | succ turns inductionHypothesis =>
      unfold moveDown
      split
      · rfl
      · split
        · rw [inductionHypothesis, List.length_set]
        · split
          · rw [inductionHypothesis, List.length_set]
          · exact inductionHypothesis ..

/-- Moving down keeps the entries that are not dropped, in order. -/
theorem take_moveDown
    {turns i j : Nat}
    {entries : List Entry}
    (behind : j ≤ i)
    (inside : i + turns ≤ entries.length) :
    (moveDown dropped blank turns i j entries).1.take
        (moveDown dropped blank turns i j entries).2 =
      entries.take j ++
        ((entries.drop i).take turns).filter fun entry => !dropped entry := by
  induction turns generalizing i j entries with
  | zero =>
      simp [moveDown]
  | succ turns inductionHypothesis =>
      have iInside : i < entries.length := by omega
      have isNext : entries[i]? = some entries[i] := List.getElem?_eq_getElem iInside
      unfold moveDown
      rw [List.drop_eq_getElem_cons iInside]
      generalize entries[i] = entry at isNext
      simp only [isNext, List.take_succ_cons]
      cases isDropped : dropped entry with
      | true =>
          simp only [↓reduceIte]
          rw [inductionHypothesis (by omega) (by rw [List.length_set]; omega),
            List.take_set_of_le behind, List.drop_set_of_lt (Nat.lt_succ_self i),
            List.filter_cons_of_neg (by simp [isDropped])]
      | false =>
          have keeps : (!dropped entry) = true := by simp [isDropped]
          have taken : entries.take j ++ [entry] = (entries.set j entry).take (j + 1) := by
            rw [List.take_add_one, List.take_set_of_le (Nat.le_refl j),
              List.getElem?_set_self (by omega)]
            rfl
          rw [List.filter_cons_of_pos (p := fun entry => !dropped entry) keeps,
            List.append_cons, taken]
          by_cases moved : i = j
          · have unchanged : entries.set j entry = entries := by
              subst moved
              apply List.ext_getElem?
              intro other
              by_cases same : i = other
              · rw [← same, List.getElem?_set_self iInside, isNext]
              · rw [List.getElem?_set_ne same]
            rw [unchanged]
            simp only [Bool.false_eq_true, ↓reduceIte, moved, ne_eq, not_true_eq_false]
            rw [← moved]
            exact inductionHypothesis (by omega) (by omega)
          · simp only [Bool.false_eq_true, ↓reduceIte, moved, ne_eq, not_false_eq_true]
            rw [inductionHypothesis (by omega) (by rw [List.length_set]; omega),
              List.drop_set_of_lt (by omega)]

/-- Moving down keeps at most the entries it read. -/
theorem moveDown_count_le
    (turns i j : Nat)
    (entries : List Entry) :
    (moveDown dropped blank turns i j entries).2 ≤ j + turns := by
  induction turns generalizing i j entries with
  | zero =>
      exact Nat.le_refl j
  | succ turns inductionHypothesis =>
      unfold moveDown
      split
      · exact Nat.le_add_right ..
      · split
        · exact Nat.le_trans (inductionHypothesis ..) (by omega)
        · split
          · exact Nat.le_trans (inductionHypothesis ..) (by omega)
          · exact Nat.le_trans (inductionHypothesis ..) (by omega)

end Keep

end SortedTable

end Foundation
