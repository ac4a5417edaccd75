import Mathlib.Logic.Function.Basic
import Mathlib.Data.List.Basic

namespace Foundation

/-!
# Singly linked chains

An intrusive queue keeps one `next` pointer in every node.  `Chain` says that
following `next` from a start pointer visits exactly the nodes of a list and
then meets the null pointer.  `walk` follows the pointers without assuming
that they end, so that it also speaks about corrupted structures.
-/

/-- Following `next` from the start pointer visits exactly the listed nodes. -/
def Chain
    {Node : Type}
    (next : Node → Option Node) :
    Option Node → List Node → Prop
  | start, [] => start = none
  | start, node :: rest =>
      start = some node ∧ Chain next (next node) rest

/-- The pointer met after following `next` a number of times. -/
def walk
    {Node : Type}
    (next : Node → Option Node)
    (start : Option Node) :
    Nat → Option Node
  | 0 => start
  | steps + 1 => (walk next start steps).bind next

namespace Chain

variable
    {Node : Type}
    {next : Node → Option Node}
    {start : Option Node}
    {nodes : List Node}

/-- A walk along a chain meets the listed nodes and then null. -/
theorem walk_eq
    (chain : Chain next start nodes)
    (steps : Nat) :
    walk next start steps = nodes[steps]? := by
  have shifted :
      ∀ (start : Option Node) (steps : Nat),
        walk next start (steps + 1) =
          walk next (start.bind next) steps := by
    intro start steps
    induction steps with
    | zero =>
        rfl
    | succ steps inductionHypothesis =>
        rw [walk, inductionHypothesis]
        rfl
  induction nodes generalizing start steps with
  | nil =>
      have isNull : start = none := chain
      subst isNull
      induction steps with
      | zero =>
          rfl
      | succ steps inductionHypothesis =>
          simp [walk, inductionHypothesis]
  | cons node rest inductionHypothesis =>
      obtain ⟨startsHere, later⟩ := chain
      subst startsHere
      cases steps with
      | zero =>
          rfl
      | succ steps =>
          rw [shifted, List.getElem?_cons_succ]
          exact inductionHypothesis later steps

/-- A node is met by a walk along a chain exactly when it is listed. -/
theorem mem_iff_walk
    (chain : Chain next start nodes)
    {node : Node} :
    node ∈ nodes ↔ ∃ steps, walk next start steps = some node := by
  simp only [walk_eq chain, List.mem_iff_getElem?]

/-- Two chains from one pointer list the same nodes. -/
theorem unique
    {others : List Node}
    (first : Chain next start nodes)
    (second : Chain next start others) :
    nodes = others := by
  apply List.ext_getElem?
  intro steps
  rw [← walk_eq first, ← walk_eq second]

/-- Pointers of unlisted nodes do not matter. -/
theorem congr
    {other : Node → Option Node}
    (same : ∀ node ∈ nodes, other node = next node)
    (chain : Chain next start nodes) :
    Chain other start nodes := by
  induction nodes generalizing start with
  | nil =>
      exact chain
  | cons node rest inductionHypothesis =>
      obtain ⟨startsHere, later⟩ := chain
      refine ⟨startsHere, ?_⟩
      rw [same node (by simp)]
      exact inductionHypothesis
        (fun other member => same other (by simp [member])) later

/-- The last listed node of a chain points to null. -/
theorem next_last
    {earlier : List Node}
    {last : Node}
    (chain : Chain next start (earlier ++ [last])) :
    next last = none := by
  induction earlier generalizing start with
  | nil =>
      exact chain.2
  | cons node rest inductionHypothesis =>
      exact inductionHypothesis chain.2

variable [DecidableEq Node]

/-- Writing the pointer of an unlisted node keeps a chain. -/
theorem update_of_not_mem
    {node : Node}
    {pointer : Option Node}
    (absent : node ∉ nodes)
    (chain : Chain next start nodes) :
    Chain (Function.update next node pointer) start nodes := by
  apply congr ?_ chain
  intro other member
  have different : other ≠ node := by
    intro same
    subst same
    exact absent member
  exact Function.update_of_ne different pointer next

/-- Passing over a node of a duplicate-free chain takes it out. -/
theorem unlink
    {before node : Node}
    {earlier rest : List Node}
    (noDuplicates : (earlier ++ before :: node :: rest).Nodup)
    (chain : Chain next start (earlier ++ before :: node :: rest)) :
    Chain (Function.update next before (next node)) start
      (earlier ++ before :: rest) := by
  induction earlier generalizing start with
  | nil =>
      obtain ⟨startsHere, _, later⟩ := chain
      have absent : before ∉ rest := by
        intro member
        exact (List.nodup_cons.mp noDuplicates).1 (List.mem_cons_of_mem _ member)
      refine ⟨startsHere, ?_⟩
      rw [Function.update_self]
      exact update_of_not_mem absent later
  | cons first earlier inductionHypothesis =>
      obtain ⟨startsHere, later⟩ := chain
      obtain ⟨absent, noDuplicates⟩ := List.nodup_cons.mp noDuplicates
      have different : first ≠ before := by
        rintro rfl
        exact absent (by simp)
      refine ⟨startsHere, ?_⟩
      rw [Function.update_of_ne different]
      exact inductionHypothesis noDuplicates later

/-- Detaching the head of a duplicate-free chain leaves its tail. -/
theorem tail
    {node : Node}
    {rest : List Node}
    (noDuplicates : (node :: rest).Nodup)
    (chain : Chain next start (node :: rest)) :
    Chain (Function.update next node none) (next node) rest :=
  update_of_not_mem (List.nodup_cons.mp noDuplicates).1 chain.2

/-- Linking an unlisted node behind the last one extends the chain. -/
theorem append
    {earlier : List Node}
    {last node : Node}
    (noDuplicates : (earlier ++ [last]).Nodup)
    (absent : node ∉ earlier ++ [last])
    (detached : next node = none)
    (chain : Chain next start (earlier ++ [last])) :
    Chain (Function.update next last (some node)) start
      (earlier ++ [last] ++ [node]) := by
  induction earlier generalizing start with
  | nil =>
      have different : node ≠ last := by
        simpa using absent
      refine ⟨chain.1, ?_⟩
      simp [Chain, different, detached]
  | cons head rest inductionHypothesis =>
      obtain ⟨startsHere, later⟩ := chain
      have parts : head ∉ rest ++ [last] ∧ (rest ++ [last]).Nodup := by
        simpa using noDuplicates
      have different : head ≠ last := by
        intro same
        exact parts.1 (by simp [same])
      refine ⟨startsHere, ?_⟩
      rw [Function.update_of_ne different]
      exact inductionHypothesis parts.2
        (fun member => absent (List.mem_cons_of_mem head member))
        later

end Chain

end Foundation
