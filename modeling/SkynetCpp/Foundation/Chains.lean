import SkynetCpp.Foundation.Chain

namespace Foundation

/-!
# Families of chains in one memory

Several intrusive queues may link nodes of one pool through the same `next`
pointers.  `Chains` says that every queue is a chain and that no node is in two
of them, so that an operation on one queue leaves the others alone.
-/

/-- Every owner's head pointer starts a chain, and no node has two owners. -/
structure Chains
    {Owner Node : Type}
    (next : Node → Option Node)
    (head : Owner → Option Node)
    (nodes : Owner → List Node) : Prop where
  chain : ∀ owner, Chain next (head owner) (nodes owner)
  noDuplicates : ∀ owner, (nodes owner).Nodup
  apart :
    ∀ {first second node},
      node ∈ nodes first →
      node ∈ nodes second →
      first = second

/-- No owner's chain has the node. -/
def Unowned
    {Owner Node : Type}
    (nodes : Owner → List Node)
    (node : Node) : Prop :=
  ∀ owner, node ∉ nodes owner

namespace Chains

variable
    {Owner Node : Type}
    {next : Node → Option Node}
    {head : Owner → Option Node}
    {nodes : Owner → List Node}
    {owner : Owner}
    {node : Node}

/-- The head of an empty chain is null. -/
theorem head_eq_none
    (chains : Chains next head nodes)
    (isEmpty : nodes owner = []) :
    head owner = none := by
  have chain := chains.chain owner
  rw [isEmpty] at chain
  exact chain

/-- The head of a chain with nodes is its first node. -/
theorem head_eq_some
    (chains : Chains next head nodes)
    {rest : List Node}
    (starts : nodes owner = node :: rest) :
    head owner = some node := by
  have chain := chains.chain owner
  rw [starts] at chain
  exact chain.1

/-- A chain has no nodes exactly when its head is null. -/
theorem head_eq_none_iff
    (chains : Chains next head nodes) :
    head owner = none ↔ nodes owner = [] := by
  constructor
  · intro isNull
    cases listed : nodes owner with
    | nil =>
        rfl
    | cons node rest =>
        simp [chains.head_eq_some listed] at isNull
  · exact chains.head_eq_none

/-- A node that starts one chain starts its list. -/
theorem exists_eq_cons
    (chains : Chains next head nodes)
    (starts : head owner = some node) :
    ∃ rest, nodes owner = node :: rest := by
  have chain := chains.chain owner
  cases listed : nodes owner with
  | nil =>
      rw [listed] at chain
      have isNull : head owner = none := chain
      simp [isNull] at starts
  | cons first rest =>
      rw [listed] at chain
      have same : node = first := by
        simpa [chain.1] using starts.symm
      exact ⟨rest, by rw [same]⟩

/-- The pointer of a node outside all chains does not matter. -/
theorem update_next
    [DecidableEq Node]
    (chains : Chains next head nodes)
    (unowned : Unowned nodes node)
    (pointer : Option Node) :
    Chains (Function.update next node pointer) head nodes where
  chain owner :=
    Chain.update_of_not_mem (unowned owner) (chains.chain owner)
  noDuplicates := chains.noDuplicates
  apart := chains.apart

variable [DecidableEq Owner]

/-- The first node of a chain can be taken off. -/
theorem detach
    (chains : Chains next head nodes)
    {rest : List Node}
    (starts : nodes owner = node :: rest) :
    Chains next
      (Function.update head owner (next node))
      (Function.update nodes owner rest) where
  chain other := by
    by_cases same : other = owner
    · subst same
      have chain := chains.chain other
      rw [starts] at chain
      simpa using chain.2
    · simpa [Function.update_of_ne same] using chains.chain other
  noDuplicates other := by
    by_cases same : other = owner
    · subst same
      have noDuplicates := chains.noDuplicates other
      rw [starts] at noDuplicates
      simpa using (List.nodup_cons.mp noDuplicates).2
    · simpa [Function.update_of_ne same] using chains.noDuplicates other
  apart := by
    intro first second other inFirst inSecond
    have kept :
        ∀ {owner'},
          other ∈ Function.update nodes owner rest owner' →
          other ∈ nodes owner' := by
      intro owner' member
      by_cases same : owner' = owner
      · subst same
        rw [starts]
        exact List.mem_cons_of_mem _ (by simpa using member)
      · simpa [Function.update_of_ne same] using member
    exact chains.apart (kept inFirst) (kept inSecond)

/-- A node taken off a chain is in none. -/
theorem unowned_of_detach
    (chains : Chains next head nodes)
    {rest : List Node}
    (starts : nodes owner = node :: rest) :
    Unowned (Function.update nodes owner rest) node := by
  intro other member
  have noDuplicates := chains.noDuplicates owner
  rw [starts] at noDuplicates
  by_cases same : other = owner
  · subst same
    exact (List.nodup_cons.mp noDuplicates).1 (by simpa using member)
  · rw [Function.update_of_ne same] at member
    exact same (chains.apart member (by simp [starts]))

/-- A chain can be dropped as a whole. -/
theorem clear
    (chains : Chains next head nodes)
    (owner : Owner) :
    Chains next
      (Function.update head owner none)
      (Function.update nodes owner []) where
  chain other := by
    by_cases same : other = owner
    · subst same
      rw [Function.update_self, Function.update_self]
      rfl
    · simpa [Function.update_of_ne same] using chains.chain other
  noDuplicates other := by
    by_cases same : other = owner
    · subst same
      simp
    · simpa [Function.update_of_ne same] using chains.noDuplicates other
  apart := by
    intro first second other inFirst inSecond
    have kept :
        ∀ {owner'},
          other ∈ Function.update nodes owner [] owner' →
          other ∈ nodes owner' := by
      intro owner' member
      by_cases same : owner' = owner
      · subst same
        simp at member
      · simpa [Function.update_of_ne same] using member
    exact chains.apart (kept inFirst) (kept inSecond)

/-- A chain can pass as a whole to an owner that has no nodes. -/
theorem pass
    (chains : Chains next head nodes)
    {taker : Owner}
    (isEmpty : nodes taker = []) :
    Chains next
      (Function.update (Function.update head owner none) taker (head owner))
      (Function.update (Function.update nodes owner []) taker
        (nodes owner)) := by
  have members
      {other : Owner}
      {node : Node}
      (member :
        node ∈ Function.update (Function.update nodes owner []) taker
          (nodes owner) other) :
      (other = taker ∧ node ∈ nodes owner) ∨
        (other ≠ owner ∧ node ∈ nodes other) := by
    by_cases isTaker : other = taker
    · subst isTaker
      rw [Function.update_self] at member
      exact Or.inl ⟨rfl, member⟩
    · rw [Function.update_of_ne isTaker] at member
      by_cases same : other = owner
      · subst same
        rw [Function.update_self] at member
        cases member
      · rw [Function.update_of_ne same] at member
        exact Or.inr ⟨same, member⟩
  refine ⟨fun other => ?_, fun other => ?_, fun inFirst inSecond => ?_⟩
  · by_cases isTaker : other = taker
    · subst isTaker
      simpa using chains.chain owner
    · simpa [Function.update_of_ne isTaker] using
        (chains.clear owner).chain other
  · by_cases isTaker : other = taker
    · subst isTaker
      simpa using chains.noDuplicates owner
    · simpa [Function.update_of_ne isTaker] using
        (chains.clear owner).noDuplicates other
  · rcases members inFirst with ⟨isTaker, owned⟩ | ⟨notOwner, kept⟩
    · subst isTaker
      rcases members inSecond with ⟨isTaker, _⟩ | ⟨notOwner, kept⟩
      · exact isTaker.symm
      · exact absurd (chains.apart kept owned) notOwner
    · rcases members inSecond with ⟨isTaker, owned⟩ | ⟨_, alsoKept⟩
      · exact absurd (chains.apart kept owned) notOwner
      · exact chains.apart kept alsoKept

/-- What changes when a node outside all chains joins one. -/
theorem joined
    (chains : Chains next head nodes)
    (unowned : Unowned nodes node)
    {joinedNodes : List Node}
    (isJoined : joinedNodes.Perm (node :: nodes owner)) :
    (∀ other, (Function.update nodes owner joinedNodes other).Nodup) ∧
      ∀ {first second other},
        other ∈ Function.update nodes owner joinedNodes first →
        other ∈ Function.update nodes owner joinedNodes second →
        first = second := by
  have members :
      ∀ {other owner'},
        other ∈ Function.update nodes owner joinedNodes owner' →
        (other = node ∧ owner' = owner) ∨ other ∈ nodes owner' := by
    intro other owner' member
    by_cases same : owner' = owner
    · subst same
      rw [Function.update_self, isJoined.mem_iff, List.mem_cons] at member
      rcases member with isNode | kept
      · exact Or.inl ⟨isNode, rfl⟩
      · exact Or.inr kept
    · rw [Function.update_of_ne same] at member
      exact Or.inr member
  constructor
  · intro other
    by_cases same : other = owner
    · subst same
      rw [Function.update_self, isJoined.nodup_iff]
      exact List.nodup_cons.mpr
        ⟨unowned other, chains.noDuplicates other⟩
    · rw [Function.update_of_ne same]
      exact chains.noDuplicates other
  · intro first second other inFirst inSecond
    rcases members inFirst with ⟨isNode, isFirst⟩ | keptFirst
    · subst isNode
      rcases members inSecond with ⟨_, isSecond⟩ | keptSecond
      · rw [isFirst, isSecond]
      · exact (unowned second keptSecond).elim
    · rcases members inSecond with ⟨isNode, _⟩ | keptSecond
      · subst isNode
        exact (unowned first keptFirst).elim
      · exact chains.apart keptFirst keptSecond

/-- A node that points to the head of a chain can be put in front. -/
theorem pushFront
    (chains : Chains next head nodes)
    (unowned : Unowned nodes node)
    (points : next node = head owner) :
    Chains next
      (Function.update head owner (some node))
      (Function.update nodes owner (node :: nodes owner)) := by
  have both := chains.joined unowned (List.Perm.refl (node :: nodes owner))
  refine ⟨?_, both.1, both.2⟩
  intro other
  by_cases same : other = owner
  · subst same
    rw [Function.update_self, Function.update_self]
    refine ⟨rfl, ?_⟩
    rw [points]
    exact chains.chain other
  · rw [Function.update_of_ne same, Function.update_of_ne same]
    exact chains.chain other

/-- A node that points to null can be linked behind the last one. -/
theorem append
    [DecidableEq Node]
    (chains : Chains next head nodes)
    (unowned : Unowned nodes node)
    (detached : next node = none)
    {last : Node}
    (ends : (nodes owner).getLast? = some last) :
    Chains
      (Function.update next last (some node))
      head
      (Function.update nodes owner (nodes owner ++ [node])) := by
  obtain ⟨earlier, shape⟩ := List.getLast?_eq_some_iff.mp ends
  have isJoined : (nodes owner ++ [node]).Perm (node :: nodes owner) :=
    List.perm_append_singleton node (nodes owner)
  have both := chains.joined unowned isJoined
  refine ⟨?_, both.1, both.2⟩
  intro other
  by_cases same : other = owner
  · subst same
    have chain := chains.chain other
    have noDuplicates := chains.noDuplicates other
    have absent := unowned other
    rw [shape] at chain noDuplicates absent
    rw [Function.update_self, shape]
    exact Chain.append noDuplicates absent detached chain
  · rw [Function.update_of_ne same]
    have absent : last ∉ nodes other := by
      intro member
      exact same
        (chains.apart member (by rw [shape]; simp))
    exact Chain.update_of_not_mem absent (chains.chain other)

/-- A node behind another one of a chain can be taken out. -/
theorem unlink
    [DecidableEq Node]
    (chains : Chains next head nodes)
    {before : Node}
    {earlier rest : List Node}
    (listed : nodes owner = earlier ++ before :: node :: rest) :
    Chains
      (Function.update next before (next node))
      head
      (Function.update nodes owner (earlier ++ before :: rest)) where
  chain other := by
    by_cases same : other = owner
    · subst same
      have chain := chains.chain other
      have noDuplicates := chains.noDuplicates other
      rw [listed] at chain noDuplicates
      rw [Function.update_self]
      exact Chain.unlink noDuplicates chain
    · rw [Function.update_of_ne same]
      have absent : before ∉ nodes other := by
        intro member
        exact same (chains.apart member (by rw [listed]; simp))
      exact Chain.update_of_not_mem absent (chains.chain other)
  noDuplicates other := by
    by_cases same : other = owner
    · subst same
      have noDuplicates := chains.noDuplicates other
      rw [listed] at noDuplicates
      rw [Function.update_self]
      exact noDuplicates.sublist (by simp)
    · rw [Function.update_of_ne same]
      exact chains.noDuplicates other
  apart := by
    intro first second other inFirst inSecond
    have kept :
        ∀ {owner'},
          other ∈ Function.update nodes owner (earlier ++ before :: rest) owner' →
          other ∈ nodes owner' := by
      intro owner' member
      by_cases same : owner' = owner
      · subst same
        rw [Function.update_self] at member
        rw [listed]
        simp only [List.mem_append, List.mem_cons] at member ⊢
        exact member.imp_right fun later => later.imp_right Or.inr
      · rwa [Function.update_of_ne same] at member
    exact chains.apart (kept inFirst) (kept inSecond)

end Chains

/-- Consecutive nodes, each pointing to the next one, are a chain. -/
theorem Chain.range'
    {next : Nat → Option Nat}
    (first count : Nat)
    (links :
      ∀ node, first ≤ node → node + 1 < first + count →
        next node = some (node + 1))
    (ends : 0 < count → next (first + count - 1) = none) :
    Chain next (if count = 0 then none else some first)
      (List.range' first count) := by
  induction count generalizing first with
  | zero =>
      rfl
  | succ count inductionHypothesis =>
      have later :=
        inductionHypothesis (first + 1)
          (fun node above below => links node (by omega) (by omega))
          (fun positive => by
            have isLast : first + 1 + count - 1 = first + (count + 1) - 1 := by
              omega
            rw [isLast]
            exact ends (by omega))
      refine ⟨rfl, ?_⟩
      have isNext :
          next first = if count = 0 then none else some (first + 1) := by
        split
        · next isZero =>
            subst isZero
            exact ends (by omega)
        · next notZero =>
            exact links first (Nat.le_refl first) (by omega)
      rw [isNext]
      exact later

end Foundation
