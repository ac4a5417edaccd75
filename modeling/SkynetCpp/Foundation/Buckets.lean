import Mathlib.Data.List.Basic
import Mathlib.Logic.Function.Basic

namespace Foundation.Buckets

/-!
# Chained hash tables

A table is a chain of entries for each bucket.  An entry is found under its
key in the bucket of the key; new entries come to the front of their chain,
and the entry found can be changed in place.
-/

variable
    {Entry Key : Type}
    [DecidableEq Key]
    (key : Entry → Key)
    (bucket : Key → Nat)

/-- The first entry with a key in the chain of its bucket. -/
def search
    (table : Nat → List Entry)
    (wanted : Key) : Option Entry :=
  (table (bucket wanted)).find? fun entry => key entry = wanted

/-- A new entry at the front of its chain. -/
def insert
    (table : Nat → List Entry)
    (entry : Entry) : Nat → List Entry :=
  Function.update table (bucket (key entry))
    (entry :: table (bucket (key entry)))

/-- A change of the first entry with a key in a chain. -/
def modifyFirst
    (wanted : Key)
    (change : Entry → Entry) : List Entry → List Entry
  | [] => []
  | entry :: rest =>
      if key entry = wanted then
        change entry :: rest
      else
        entry :: modifyFirst wanted change rest

/-- A change of the entry that is found under a key. -/
def modify
    (table : Nat → List Entry)
    (wanted : Key)
    (change : Entry → Entry) : Nat → List Entry :=
  Function.update table (bucket wanted)
    (modifyFirst key wanted change (table (bucket wanted)))

variable {key : Entry → Key} {bucket : Key → Nat} {table : Nat → List Entry}

theorem search_insert
    (entry : Entry)
    (wanted : Key) :
    search key bucket (insert key bucket table entry) wanted =
      if key entry = wanted then
        some entry
      else
        search key bucket table wanted := by
  unfold search insert
  by_cases same : key entry = wanted
  · subst same
    simp
  · by_cases sameBucket : bucket wanted = bucket (key entry)
    · simp [sameBucket, same]
    · simp [Function.update_of_ne sameBucket, same]

/-- The changed entry is found where the old one was. -/
theorem find?_modifyFirst_self
    {wanted : Key}
    {change : Entry → Entry}
    (keepsKey : ∀ entry, key entry = wanted → key (change entry) = wanted)
    (chain : List Entry) :
    (modifyFirst key wanted change chain).find?
        (fun entry => key entry = wanted) =
      (chain.find? fun entry => key entry = wanted).map change := by
  induction chain with
  | nil =>
      rfl
  | cons entry rest inductionHypothesis =>
      by_cases same : key entry = wanted
      · simp [modifyFirst, same, keepsKey entry same]
      · simp [modifyFirst, same, inductionHypothesis]

/-- Entries with other keys are found as before. -/
theorem find?_modifyFirst_of_ne
    {wanted other : Key}
    {change : Entry → Entry}
    (keepsKey : ∀ entry, key entry = wanted → key (change entry) = wanted)
    (different : other ≠ wanted)
    (chain : List Entry) :
    (modifyFirst key wanted change chain).find?
        (fun entry => key entry = other) =
      chain.find? fun entry => key entry = other := by
  induction chain with
  | nil =>
      rfl
  | cons entry rest inductionHypothesis =>
      by_cases same : key entry = wanted
      · have kept := keepsKey entry same
        simp [modifyFirst, same, kept, Ne.symm different]
      · simp only [modifyFirst, if_neg same, List.find?_cons,
          inductionHypothesis]

theorem search_modify_self
    {wanted : Key}
    {change : Entry → Entry}
    (keepsKey : ∀ entry, key entry = wanted → key (change entry) = wanted) :
    search key bucket (modify key bucket table wanted change) wanted =
      (search key bucket table wanted).map change := by
  unfold search modify
  rw [Function.update_self]
  exact find?_modifyFirst_self keepsKey _

theorem search_modify_of_ne
    {wanted other : Key}
    {change : Entry → Entry}
    (keepsKey : ∀ entry, key entry = wanted → key (change entry) = wanted)
    (different : other ≠ wanted) :
    search key bucket (modify key bucket table wanted change) other =
      search key bucket table other := by
  unfold search modify
  by_cases sameBucket : bucket other = bucket wanted
  · rw [sameBucket, Function.update_self]
    exact find?_modifyFirst_of_ne keepsKey different _
  · rw [Function.update_of_ne sameBucket]

end Foundation.Buckets
