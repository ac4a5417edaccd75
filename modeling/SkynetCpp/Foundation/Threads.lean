import Mathlib.Algebra.BigOperators.Group.Finset.Basic
import Mathlib.Algebra.GroupWithZero.Nat
import Mathlib.Algebra.BigOperators.Group.Finset.Piecewise
import Mathlib.Algebra.Order.BigOperators.Group.Finset
import Mathlib.Data.Fintype.Basic

namespace Foundation

/-!
# Sums over the local states of threads

Reference counts and reader counters are sums over threads of what each local
state contributes.  One step changes one thread, so one lemma says how such a
sum moves.
-/

variable
    {Thread Local : Type}
    [Fintype Thread]

/-- What the local states of all threads contribute together. -/
def total
    (weight : Local → Nat)
    (threads : Thread → Local) : Nat :=
  ∑ thread, weight (threads thread)

/-- No thread contributes more than all of them together. -/
theorem weight_le_total
    (weight : Local → Nat)
    (threads : Thread → Local)
    (thread : Thread) :
    weight (threads thread) ≤ total weight threads :=
  Finset.single_le_sum
    (f := fun other => weight (threads other))
    (fun _ _ => Nat.zero_le _) (Finset.mem_univ thread)

/-- Nothing is contributed exactly when no thread contributes. -/
theorem total_eq_zero_iff
    (weight : Local → Nat)
    (threads : Thread → Local) :
    total weight threads = 0 ↔ ∀ thread, weight (threads thread) = 0 := by
  simp [total]

variable [DecidableEq Thread]

/-- Moving one thread exchanges its old contribution for its new one. -/
theorem total_update
    (weight : Local → Nat)
    (threads : Thread → Local)
    (thread : Thread)
    (next : Local) :
    total weight (Function.update threads thread next) +
        weight (threads thread) =
      total weight threads + weight next := by
  unfold total
  have split (state : Thread → Local) :
      ∑ other, weight (state other) =
        weight (state thread) +
          ∑ other ∈ Finset.univ.erase thread, weight (state other) :=
    (Finset.add_sum_erase Finset.univ
      (fun other => weight (state other)) (Finset.mem_univ thread)).symm
  have others :
      ∑ other ∈ Finset.univ.erase thread,
          weight (Function.update threads thread next other) =
        ∑ other ∈ Finset.univ.erase thread, weight (threads other) := by
    apply Finset.sum_congr rfl
    intro other member
    rw [Function.update_of_ne (Finset.ne_of_mem_erase member)]
  rw [split, split threads, others, Function.update_self]
  ac_rfl

section Stacks

variable
    {Frame : Type}
    (weight : Frame → Nat)

/-- What the frames of a stack contribute together. -/
def stackWeight (stack : List Frame) : Nat :=
  (stack.map weight).sum

@[simp] theorem stackWeight_nil :
    stackWeight weight [] = 0 :=
  rfl

@[simp] theorem stackWeight_cons
    (frame : Frame)
    (rest : List Frame) :
    stackWeight weight (frame :: rest) =
      weight frame + stackWeight weight rest := by
  simp [stackWeight]

@[simp] theorem stackWeight_append
    (first second : List Frame) :
    stackWeight weight (first ++ second) =
      stackWeight weight first + stackWeight weight second := by
  simp [stackWeight]

omit [DecidableEq Thread] in
/-- A frame contributes at most what its thread's stack does. -/
theorem weight_le_total_stack
    {stackOf : Thread → List Frame}
    {thread : Thread}
    {frame : Frame}
    (member : frame ∈ stackOf thread) :
    weight frame ≤ total (stackWeight weight) stackOf := by
  have inStack : weight frame ≤ stackWeight weight (stackOf thread) :=
    List.single_le_sum (by simp) _ (List.mem_map_of_mem member)
  exact Nat.le_trans inStack
    (weight_le_total (stackWeight weight) stackOf thread)

/-- Replacing the top frame exchanges its contribution for that of the new ones. -/
theorem total_replace_top
    {stackOf : Thread → List Frame}
    {thread : Thread}
    {frame : Frame}
    {rest : List Frame}
    (isTop : stackOf thread = frame :: rest)
    (frames : List Frame) :
    total (stackWeight weight)
          (Function.update stackOf thread (frames ++ rest)) +
        weight frame =
      total (stackWeight weight) stackOf + stackWeight weight frames := by
  have moved :=
    total_update (stackWeight weight) stackOf thread (frames ++ rest)
  rw [isTop, stackWeight_cons, stackWeight_append] at moved
  omega

/-- A frame put on top of a stack adds its contribution. -/
theorem total_push
    (stackOf : Thread → List Frame)
    (thread : Thread)
    (frame : Frame) :
    total (stackWeight weight)
        (Function.update stackOf thread (frame :: stackOf thread)) =
      total (stackWeight weight) stackOf + weight frame := by
  have moved :=
    total_update (stackWeight weight) stackOf thread (frame :: stackOf thread)
  rw [stackWeight_cons] at moved
  omega

end Stacks

end Foundation
