import Mathlib.Data.UInt
import SkynetCpp.Foundation.Run

namespace SkynetCpp.SnluaMemory

open Foundation

/-!
# The memory of a Lua service

`lalloc` counts the bytes that Lua asks for, refuses what would exceed a limit,
and warns whenever the count has doubled.  It counts before `skynet_lalloc` is
asked, and does not take back what that fails to give.
-/

/-- `struct snlua`, as far as `lalloc` uses it. -/
structure Snlua where
  mem : UInt64
  memReport : UInt64
  memLimit : UInt64
  deriving Repr, DecidableEq

/-- `MEMORY_WARNING_REPORT`. -/
def memoryWarningReport : UInt64 := 1024 * 1024 * 32

/-- `snlua_create`. -/
def snluaCreate : Snlua where
  mem := 0
  memReport := memoryWarningReport
  memLimit := 0

/--
`lalloc` up to its call of `skynet_lalloc`, and whether it warned; nothing when
it returns NULL before.  `ptr` tells whether there is a block, whose size is
`osize` then.
-/
def lalloc
    (l : Snlua)
    (ptr : Bool)
    (osize nsize : UInt64) : Option (Snlua × Bool) :=
  let mem := if ptr then l.mem + nsize - osize else l.mem + nsize
  if l.memLimit ≠ 0 ∧ mem > l.memLimit ∧ (ptr = false ∨ nsize > osize) then
    none
  else if mem > l.memReport then
    some ({ l with mem := mem, memReport := l.memReport * 2 }, true)
  else
    some ({ l with mem := mem }, false)

/-- What Lua asks for; `given` tells whether `skynet_lalloc` has the memory. -/
inductive Call where
  /-- A new block; `tag` is the kind of object, which stands for `osize`. -/
  | allocate (tag nsize : UInt64) (given : Bool)
  /-- Another size for a block. -/
  | resize (block : Nat) (nsize : UInt64) (given : Bool)
  | free (block : Nat)
  /-- The `memlimit` of the registry, which `init_cb` stores. -/
  | limit (limit : UInt64)
  deriving Repr, DecidableEq

/-- The counters, the sizes of the blocks, and what became of the calls. -/
structure State where
  l : Snlua
  blocks : List UInt64
  /-- The bytes that were counted and not given. -/
  lost : Nat
  /-- The counts that were warned of, the last one first. -/
  warnings : List UInt64
  deriving Repr, DecidableEq

/-- Nothing was asked for and nothing counted. -/
def initial : State where
  l := snluaCreate
  blocks := []
  lost := 0
  warnings := []

namespace State

/-- The bytes of all blocks. -/
def live (s : State) : Nat :=
  (s.blocks.map UInt64.toNat).sum

/-- What is there after a call; the blocks change when it went on. -/
def answered
    (s : State)
    (answer : Option (Snlua × Bool))
    (blocks : List UInt64)
    (lost : Nat) : State :=
  match answer with
  | none => s
  | some (l, warned) =>
      { l := l
        blocks := blocks
        lost := lost
        warnings := if warned then l.mem :: s.warnings else s.warnings }

end State

namespace Call

/-- The memory that was asked for was there. -/
def IsGiven : Call → Prop
  | allocate _ _ given => given = true
  | resize _ _ given => given = true
  | _ => True

/-- Another limit is not set. -/
def KeepsLimit : Call → Prop
  | limit _ => False
  | _ => True

/--
The conditions on a call: it does not bring the count above `2 ^ 63`, and a
resize that does not grow its block is served, as Lua assumes of an allocator.
-/
def IsSound (s : State) : Call → Prop
  | allocate _ nsize _ => s.l.mem.toNat + nsize.toNat ≤ 2 ^ 63
  | resize block nsize given =>
      s.l.mem.toNat + nsize.toNat ≤ 2 ^ 63 ∧
        (given = false →
          ∀ osize ∈ s.blocks[block]?, osize.toNat ≤ nsize.toNat)
  | _ => True

instance (s : State) : (call : Call) → Decidable (call.IsSound s)
  | allocate _ nsize _ =>
      inferInstanceAs (Decidable (s.l.mem.toNat + nsize.toNat ≤ 2 ^ 63))
  | resize block nsize given =>
      inferInstanceAs
        (Decidable
          (s.l.mem.toNat + nsize.toNat ≤ 2 ^ 63 ∧
            (given = false →
              ∀ osize ∈ s.blocks[block]?, osize.toNat ≤ nsize.toNat)))
  | free _ | limit _ => inferInstanceAs (Decidable True)

instance : (call : Call) → Decidable call.KeepsLimit
  | allocate .. | resize .. | free _ => inferInstanceAs (Decidable True)
  | limit _ => inferInstanceAs (Decidable False)

end Call

/-- One call; a block that is not there cannot be resized or freed. -/
def next? (s : State) : Call → Option State
  | .allocate tag nsize given =>
      if nsize = 0 then none
      else
        some
          (s.answered (lalloc s.l false tag nsize)
            (if given then s.blocks ++ [nsize] else s.blocks)
            (if given then s.lost else s.lost + nsize.toNat))
  | .resize block nsize given =>
      match s.blocks[block]? with
      | none => none
      | some osize =>
          if nsize = 0 then none
          else
            some
              (s.answered (lalloc s.l true osize nsize)
                (if given then s.blocks.set block nsize else s.blocks)
                (if given then s.lost
                else s.lost + (nsize.toNat - osize.toNat)))
  | .free block =>
      match s.blocks[block]? with
      | none => none
      | some osize =>
          some
            (s.answered (lalloc s.l true osize 0)
              (s.blocks.eraseIdx block) s.lost)
  | .limit limit => some { s with l := { s.l with memLimit := limit } }

section Count

variable
    {l l' : Snlua}
    {ptr warned : Bool}
    {osize nsize : UInt64}

/-- What a call does that goes on. -/
theorem lalloc_passed
    (passed : lalloc l ptr osize nsize = some (l', warned)) :
    (l'.mem = if ptr then l.mem + nsize - osize else l.mem + nsize) ∧
      l'.memLimit = l.memLimit ∧
      (l.memLimit ≠ 0 → ptr = false ∨ nsize > osize →
        l'.mem ≤ l.memLimit) ∧
      (warned = true ∧ l.memReport < l'.mem ∧
          l'.memReport = l.memReport * 2 ∨
        warned = false ∧ l'.memReport = l.memReport) := by
  simp only [lalloc] at passed
  generalize
    (if ptr = true then l.mem + nsize - osize else l.mem + nsize) = mem
    at passed ⊢
  by_cases refused :
      l.memLimit ≠ 0 ∧ mem > l.memLimit ∧ (ptr = false ∨ nsize > osize)
  · rw [if_pos refused] at passed
    cases passed
  · have below (limited : l.memLimit ≠ 0) (grows : ptr = false ∨ nsize > osize) :
        mem ≤ l.memLimit :=
      UInt64.not_lt.mp (fun above => refused ⟨limited, above, grows⟩)
    rw [if_neg refused] at passed
    by_cases above : mem > l.memReport
    · rw [if_pos above] at passed
      cases passed
      exact ⟨rfl, rfl, below, .inl ⟨rfl, above, rfl⟩⟩
    · rw [if_neg above] at passed
      cases passed
      exact ⟨rfl, rfl, below, .inr ⟨rfl, rfl⟩⟩

/-- What a call counts when it goes on, as long as nothing overflows. -/
theorem lalloc_mem
    (bounded : l.mem.toNat + nsize.toNat ≤ 2 ^ 63)
    (counted : ptr = true → osize.toNat ≤ l.mem.toNat)
    (passed : lalloc l ptr osize nsize = some (l', warned)) :
    l'.mem.toNat + (if ptr then osize.toNat else 0) =
      l.mem.toNat + nsize.toNat := by
  have added : (l.mem + nsize).toNat = l.mem.toNat + nsize.toNat := by
    rw [UInt64.toNat_add]
    exact Nat.mod_eq_of_lt (by omega)
  rw [(lalloc_passed passed).1]
  cases ptr with
  | false =>
      simpa using added
  | true =>
      have held := counted rfl
      have enough : osize ≤ l.mem + nsize := by
        rw [UInt64.le_iff_toNat_le, added]
        omega
      simp only [if_true]
      rw [UInt64.toNat_sub_of_le _ _ enough, added]
      omega

end Count

section Blocks

variable
    {blocks : List UInt64}
    {block : Nat}
    {osize : UInt64}

/-- The bytes of all blocks with another size for one. -/
theorem sum_set
    (nsize : UInt64)
    (held : blocks[block]? = some osize) :
    ((blocks.set block nsize).map UInt64.toNat).sum + osize.toNat =
      (blocks.map UInt64.toNat).sum + nsize.toNat := by
  induction blocks generalizing block with
  | nil =>
      cases held
  | cons size rest inductionHypothesis =>
      cases block with
      | zero =>
          simp only [List.getElem?_cons_zero, Option.some.injEq] at held
          subst held
          simp only [List.set_cons_zero, List.map_cons, List.sum_cons]
          omega
      | succ block =>
          have others := inductionHypothesis held
          simp only [List.set_cons_succ, List.map_cons, List.sum_cons]
          omega

/-- The bytes of all blocks without one. -/
theorem sum_eraseIdx
    (held : blocks[block]? = some osize) :
    ((blocks.eraseIdx block).map UInt64.toNat).sum + osize.toNat =
      (blocks.map UInt64.toNat).sum := by
  induction blocks generalizing block with
  | nil =>
      cases held
  | cons size rest inductionHypothesis =>
      cases block with
      | zero =>
          simp only [List.getElem?_cons_zero, Option.some.injEq] at held
          subst held
          simp only [List.eraseIdx_cons_zero, List.map_cons, List.sum_cons]
          omega
      | succ block =>
          have others := inductionHypothesis held
          simp only [List.eraseIdx_cons_succ, List.map_cons, List.sum_cons]
          omega

/-- No block is larger than all of them. -/
theorem le_sum
    (held : blocks[block]? = some osize) :
    osize.toNat ≤ (blocks.map UInt64.toNat).sum := by
  have whole := sum_eraseIdx held
  omega

end Blocks

section Accounts

/-- Every count was above the mark of its time, `2 ^ 25` at first. -/
def Warned : List UInt64 → Prop
  | [] => True
  | count :: earlier =>
      2 ^ (25 + earlier.length) < count.toNat ∧ Warned earlier

/-- The count is of the blocks and of what was lost; each warning doubled the mark. -/
structure Accounts (s : State) : Prop where
  counted : s.l.mem.toNat = s.live + s.lost
  small : s.l.mem.toNat ≤ 2 ^ 63
  doubled : s.l.memReport.toNat = 2 ^ (25 + s.warnings.length)
  warned : Warned s.warnings

theorem accounts_initial :
    Accounts initial where
  counted := rfl
  small := by decide
  doubled := by decide
  warned := trivial

variable
    {s s' : State}
    {l : Snlua}
    {ptr warned : Bool}
    {osize nsize : UInt64}
    {blocks : List UInt64}
    {lost : Nat}
    {call : Call}

/-- A block is part of the count. -/
theorem Accounts.block_le
    (accounts : Accounts s)
    {block : Nat}
    (held : s.blocks[block]? = some osize) :
    osize.toNat ≤ s.l.mem.toNat := by
  rw [accounts.counted]
  exact (le_sum held).trans (Nat.le_add_right _ _)

/-- The accounts stay right when the blocks and what is lost change as the count does. -/
theorem Accounts.answered
    (accounts : Accounts s)
    (bounded : s.l.mem.toNat + nsize.toNat ≤ 2 ^ 63)
    (counted : ptr = true → osize.toNat ≤ s.l.mem.toNat)
    (balance :
      (blocks.map UInt64.toNat).sum + lost +
          (if ptr then osize.toNat else 0) =
        s.live + s.lost + nsize.toNat) :
    Accounts (s.answered (lalloc s.l ptr osize nsize) blocks lost) := by
  cases passed : lalloc s.l ptr osize nsize with
  | none =>
      exact accounts
  | some answer =>
      obtain ⟨l, warned⟩ := answer
      have mem := lalloc_mem bounded counted passed
      have small : l.mem.toNat ≤ 2 ^ 63 := by omega
      have isCounted : l.mem.toNat = (blocks.map UInt64.toNat).sum + lost := by
        have before := accounts.counted
        omega
      have mark := accounts.doubled
      rcases (lalloc_passed passed).2.2.2 with
        ⟨isWarned, above, doubled⟩ | ⟨isWarned, same⟩
      · subst isWarned
        have exceeded := UInt64.lt_iff_toNat_lt.mp above
        have fits : s.l.memReport.toNat * 2 < 2 ^ 64 := by omega
        refine ⟨isCounted, small, ?_, mark ▸ exceeded, accounts.warned⟩
        calc l.memReport.toNat
            = s.l.memReport.toNat * 2 := by
              rw [doubled, UInt64.toNat_mul]
              exact Nat.mod_eq_of_lt fits
          _ = 2 ^ (25 + s.warnings.length + 1) := by
              rw [mark, Nat.pow_succ]
      · subst isWarned
        exact ⟨isCounted, small, same ▸ mark, accounts.warned⟩

/-- Every sound call keeps the accounts. -/
theorem Accounts.step
    (accounts : Accounts s)
    (sound : call.IsSound s)
    (moved : next? s call = some s') :
    Accounts s' := by
  cases call with
  | allocate tag nsize given =>
      simp only [next?, Option.ite_none_left_eq_some, Option.some.injEq] at moved
      obtain ⟨-, rfl⟩ := moved
      refine accounts.answered sound nofun ?_
      cases given with
      | true =>
          simp only [State.live, if_true, List.map_append, List.sum_append,
            List.map_cons, List.map_nil, List.sum_singleton]
          simp only [Bool.false_eq_true, if_false]
          omega
      | false =>
          simp only [State.live, Bool.false_eq_true, if_false]
          omega
  | resize block nsize given =>
      simp only [next?] at moved
      cases held : s.blocks[block]? with
      | none =>
          simp [held] at moved
      | some osize =>
          simp only [held, Option.ite_none_left_eq_some,
            Option.some.injEq] at moved
          obtain ⟨-, rfl⟩ := moved
          refine
            accounts.answered sound.1 (fun _ => accounts.block_le held) ?_
          cases given with
          | true =>
              have sizes := sum_set nsize held
              simp only [State.live, if_true]
              omega
          | false =>
              have grows := sound.2 rfl osize held
              simp only [State.live, Bool.false_eq_true, if_true, if_false]
              omega
  | free block =>
      simp only [next?] at moved
      cases held : s.blocks[block]? with
      | none =>
          simp [held] at moved
      | some osize =>
          simp only [held, Option.some.injEq] at moved
          subst moved
          have sizes := sum_eraseIdx held
          refine
            accounts.answered (by simpa using accounts.small)
              (fun _ => accounts.block_le held) ?_
          simp only [State.live, if_true, UInt64.toNat_zero]
          omega
  | limit limit =>
      cases moved
      exact ⟨accounts.counted, accounts.small, accounts.doubled, accounts.warned⟩

end Accounts

section Limit

variable
    {s s' : State}
    {ptr : Bool}
    {osize nsize : UInt64}
    {call : Call}

/-- Under a limit a call leaves the count within it, or no larger than before. -/
theorem answered_mem_le
    (blocks : List UInt64)
    (lost : Nat)
    (bounded : s.l.mem.toNat + nsize.toNat ≤ 2 ^ 63)
    (counted : ptr = true → osize.toNat ≤ s.l.mem.toNat)
    (limited : s.l.memLimit ≠ 0) :
    (s.answered (lalloc s.l ptr osize nsize) blocks lost).l.memLimit =
        s.l.memLimit ∧
      (s.answered (lalloc s.l ptr osize nsize) blocks lost).l.mem.toNat ≤
        max s.l.mem.toNat s.l.memLimit.toNat := by
  cases passed : lalloc s.l ptr osize nsize with
  | none =>
      exact ⟨rfl, le_max_left _ _⟩
  | some answer =>
      obtain ⟨l, warned⟩ := answer
      obtain ⟨-, sameLimit, within, -⟩ := lalloc_passed passed
      refine ⟨sameLimit, le_max_iff.mpr ?_⟩
      by_cases grows : ptr = false ∨ nsize > osize
      · exact .inr (UInt64.le_iff_toNat_le.mp (within limited grows))
      · rw [not_or, Bool.not_eq_false] at grows
        obtain ⟨isBlock, shrinks⟩ := grows
        have smaller := UInt64.le_iff_toNat_le.mp (UInt64.not_lt.mp shrinks)
        have mem := lalloc_mem bounded counted passed
        rw [if_pos isBlock] at mem
        exact .inl (show l.mem.toNat ≤ s.l.mem.toNat by omega)

/-- Every sound call that leaves the limit alone obeys it. -/
theorem Accounts.mem_le
    (accounts : Accounts s)
    (sound : call.IsSound s)
    (kept : call.KeepsLimit)
    (limited : s.l.memLimit ≠ 0)
    (moved : next? s call = some s') :
    s'.l.memLimit = s.l.memLimit ∧
      s'.l.mem.toNat ≤ max s.l.mem.toNat s.l.memLimit.toNat := by
  cases call with
  | allocate tag nsize given =>
      simp only [next?, Option.ite_none_left_eq_some, Option.some.injEq] at moved
      obtain ⟨-, rfl⟩ := moved
      exact answered_mem_le _ _ sound nofun limited
  | resize block nsize given =>
      simp only [next?] at moved
      cases held : s.blocks[block]? with
      | none =>
          simp [held] at moved
      | some osize =>
          simp only [held, Option.ite_none_left_eq_some,
            Option.some.injEq] at moved
          obtain ⟨-, rfl⟩ := moved
          exact
            answered_mem_le _ _ sound.1 (fun _ => accounts.block_le held) limited
  | free block =>
      simp only [next?] at moved
      cases held : s.blocks[block]? with
      | none =>
          simp [held] at moved
      | some osize =>
          simp only [held, Option.some.injEq] at moved
          subst moved
          exact
            answered_mem_le _ _ (by simpa using accounts.small)
              (fun _ => accounts.block_le held) limited
  | limit limit =>
      cases kept

end Limit

/-- Where the memory was there, nothing is lost. -/
theorem lost_step
    {s s' : State}
    {call : Call}
    (none_lost : s.lost = 0)
    (given : call.IsGiven)
    (moved : next? s call = some s') :
    s'.lost = 0 := by
  have answered
      (answer : Option (Snlua × Bool))
      (blocks : List UInt64) : (s.answered answer blocks s.lost).lost = 0 := by
    cases answer with
    | none =>
        exact none_lost
    | some answer =>
        exact none_lost
  cases call with
  | allocate tag nsize wasGiven =>
      cases given
      simp only [next?, Option.ite_none_left_eq_some, Option.some.injEq] at moved
      exact moved.2 ▸ answered _ _
  | resize block nsize wasGiven =>
      cases given
      simp only [next?] at moved
      cases held : s.blocks[block]? with
      | none =>
          simp [held] at moved
      | some osize =>
          simp only [held, Option.ite_none_left_eq_some,
            Option.some.injEq] at moved
          exact moved.2 ▸ answered _ _
  | free block =>
      simp only [next?] at moved
      cases held : s.blocks[block]? with
      | none =>
          simp [held] at moved
      | some osize =>
          simp only [held, Option.some.injEq] at moved
          exact moved ▸ answered _ _
  | limit limit =>
      cases moved
      exact none_lost

section Runs

variable
    {past : List (State × Call)}
    {final : State}

/-- Whatever a sound run does, the accounts are right. -/
theorem accounts_visited
    (run : Run (Run.Steps next?) initial past final)
    (sound : ∀ s call, (s, call) ∈ past → call.IsSound s) :
    ∀ s ∈ Run.visited past final, Accounts s :=
  run.invariant_visited accounts_initial
    (fun accounts isSound moved => accounts.step isSound moved)
    (fun member => sound _ _ member)

/--
The count is the bytes of all blocks and those that were never given, which
are none where no request fails.  Each warning is of a count above the mark,
`2 ^ 25` at first, and doubles it, so that there are 38 at most.
-/
theorem memory_accounted
    (run : Run (Run.Steps next?) initial past final)
    (sound : ∀ s call, (s, call) ∈ past → call.IsSound s) :
    ∀ s ∈ Run.visited past final,
      s.l.mem.toNat = s.live + s.lost ∧
        s.l.memReport.toNat = 2 ^ (25 + s.warnings.length) ∧
        Warned s.warnings ∧
        s.warnings.length ≤ 38 ∧
        ((∀ s call, (s, call) ∈ past → call.IsGiven) →
          s.l.mem.toNat = s.live) := by
  intro s wasVisited
  have accounts := accounts_visited run sound s wasVisited
  refine ⟨accounts.counted, accounts.doubled, accounts.warned, ?_, ?_⟩
  · have mark := s.l.memReport.toNat_lt
    rw [accounts.doubled] at mark
    have few := (Nat.pow_lt_pow_iff_right (by decide)).mp mark
    omega
  · intro given
    have none_lost : ∀ s ∈ Run.visited past final, s.lost = 0 :=
      run.invariant_visited rfl
        (fun none_lost isGiven moved => lost_step none_lost isGiven moved)
        (fun member => given _ _ member)
    rw [accounts.counted, none_lost s wasVisited, Nat.add_zero]

/--
A service takes 48 MB, which is warned of, asks for 1024 bytes that are not
there, and frees the block; the 1024 stay counted.
-/
theorem memory_accounted_lost :
    ∃ past final,
      Run (Run.Steps next?) initial past final ∧
        final.l.mem = 1024 ∧
        final.warnings = [48 * 1024 * 1024] ∧
        ∀ s ∈ Run.visited past final,
          s.l.mem.toNat = s.live + s.lost ∧
            s.l.memReport.toNat = 2 ^ (25 + s.warnings.length) ∧
            Warned s.warnings ∧
            s.warnings.length ≤ 38 ∧
            ((∀ s call, (s, call) ∈ past → call.IsGiven) →
              s.l.mem.toNat = s.live) := by
  obtain ⟨past, final, run, sound, checked⟩ :=
    Run.exists_of_checked initial next?
      [.allocate 5 (48 * 1024 * 1024) true, .allocate 6 1024 false, .free 0]
      (fun s call _ => decide (call.IsSound s))
      (fun s => s.l.mem = 1024 && s.warnings = [48 * 1024 * 1024])
      (by decide)
  simp only [Bool.and_eq_true, decide_eq_true_eq] at checked
  refine
    ⟨past, final, run, checked.1, checked.2, memory_accounted run ?_⟩
  intro s call member
  obtain ⟨next, -, taken⟩ := run.exists_next member
  exact of_decide_eq_true (sound s call next member taken)

/--
Once a limit is set and left alone, the blocks never take more than it, or
than was counted when it was set.
-/
theorem memory_limited
    {before : List (State × Call)}
    {s : State}
    (earlier : Run (Run.Steps next?) initial before s)
    (soundBefore : ∀ s call, (s, call) ∈ before → call.IsSound s)
    (limited : s.l.memLimit ≠ 0)
    (run : Run (Run.Steps next?) s past final)
    (sound :
      ∀ s call, (s, call) ∈ past → call.IsSound s ∧ call.KeepsLimit) :
    ∀ later ∈ Run.visited past final,
      later.live + later.lost ≤ max s.l.mem.toNat s.l.memLimit.toNat := by
  have accounts : Accounts s :=
    accounts_visited earlier soundBefore s (by simp)
  have obeys :
      ∀ later ∈ Run.visited past final,
        Accounts later ∧ later.l.memLimit = s.l.memLimit ∧
          later.l.mem.toNat ≤ max s.l.mem.toNat s.l.memLimit.toNat :=
    run.invariant_visited
      ⟨accounts, rfl, le_max_left _ _⟩
      (fun holds isSound moved => by
        obtain ⟨accounts, sameLimit, within⟩ := holds
        have obeyed :=
          accounts.mem_le isSound.1 isSound.2 (sameLimit ▸ limited) moved
        refine
          ⟨accounts.step isSound.1 moved, obeyed.1.trans sameLimit,
            obeyed.2.trans (max_le within ?_)⟩
        rw [sameLimit]
        exact le_max_right _ _)
      (fun member => sound _ _ member)
  intro later wasVisited
  obtain ⟨accounts, -, within⟩ := obeys later wasVisited
  rw [← accounts.counted]
  exact within

/-- A service with 48 MB, after which its limit became 32 MB. -/
def overLimit : State where
  l :=
    { mem := 48 * 1024 * 1024
      memReport := 64 * 1024 * 1024
      memLimit := 32 * 1024 * 1024 }
  blocks := [48 * 1024 * 1024]
  lost := 0
  warnings := [48 * 1024 * 1024]

/-- Such a service cannot get more, and cuts its block to the limit in two steps. -/
theorem memory_limited_cut :
    ∃ before s past final,
      Run (Run.Steps next?) initial before s ∧
        Run (Run.Steps next?) s past final ∧
        s.l.mem = 48 * 1024 * 1024 ∧
        final.l.mem = 32 * 1024 * 1024 ∧
        ∀ later ∈ Run.visited past final,
          later.live + later.lost ≤
            max s.l.mem.toNat s.l.memLimit.toNat := by
  obtain ⟨before, s, earlier, soundBefore, isLimited⟩ :=
    Run.exists_of_checked initial next?
      [.allocate 5 (48 * 1024 * 1024) true, .limit (32 * 1024 * 1024)]
      (fun s call _ => decide (call.IsSound s))
      (fun s => s = overLimit)
      (by decide)
  cases of_decide_eq_true isLimited
  obtain ⟨past, final, run, sound, isCut⟩ :=
    Run.exists_of_checked overLimit next?
      [.allocate 6 16 true, .resize 0 (40 * 1024 * 1024) true,
        .resize 0 (32 * 1024 * 1024) true]
      (fun s call _ => decide (call.IsSound s ∧ call.KeepsLimit))
      (fun s => s.l.mem = 32 * 1024 * 1024)
      (by decide)
  refine
    ⟨before, _, past, final, earlier, run, rfl, of_decide_eq_true isCut,
      memory_limited earlier ?_ (by decide) run ?_⟩
  · intro s call member
    obtain ⟨next, -, taken⟩ := earlier.exists_next member
    exact of_decide_eq_true (soundBefore s call next member taken)
  · intro s call member
    obtain ⟨next, -, taken⟩ := run.exists_next member
    exact of_decide_eq_true (sound s call next member taken)

end Runs

end SkynetCpp.SnluaMemory
