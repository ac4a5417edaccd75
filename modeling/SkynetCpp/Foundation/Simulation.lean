import SkynetCpp.Foundation.Ownership

namespace Foundation

/-!
# Simulation of programs

A program over one kind of state simulates a program over another when the two
take the same steps on related states.  Then a machine whose threads run the
one moves as a machine whose threads run the other.
-/

variable
    {State Part Input : Type}
    {α β : Type}

namespace Program

/--
On related states the two programs take their steps together, with the same
results, and get stuck together.
-/
def Simulates
    (related : State → Part → Prop) :
    Program State Input α → Program Part Input α → Prop
  | .done result, .done result' => result = result'
  | .crash, .crash => True
  | .step next rest, .step next' rest' =>
      ∀ input state part,
        related state part →
          (match next input state, next' input part with
            | some state', some part' => related state' part'
            | none, none => True
            | _, _ => False) ∧
            Simulates related (rest input state) (rest' input part)
  | _, _ => False

variable {related : State → Part → Prop}

theorem Simulates.pure
    (result : α) :
    Simulates related
      (Pure.pure result : Program State Input α) (Pure.pure result) :=
  rfl

theorem Simulates.bind
    {program : Program State Input α}
    {program' : Program Part Input α}
    {after : α → Program State Input β}
    {after' : α → Program Part Input β}
    (first : Simulates related program program')
    (second : ∀ result, Simulates related (after result) (after' result)) :
    Simulates related (program >>= after) (program' >>= after') := by
  induction program generalizing program' with
  | done result =>
      cases program' with
      | done result' =>
          obtain rfl : result = result' := first
          exact second result
      | crash =>
          exact first.elim
      | step next' rest' =>
          exact first.elim
  | crash =>
      cases program' with
      | done result' =>
          exact first.elim
      | crash =>
          trivial
      | step next' rest' =>
          exact first.elim
  | step next rest inductionHypothesis =>
      cases program' with
      | done result' =>
          exact first.elim
      | crash =>
          exact first.elim
      | step next' rest' =>
          intro input state part isRelated
          have both := first input state part isRelated
          exact ⟨both.1, inductionHypothesis input state both.2⟩

theorem Simulates.ite
    {condition : Prop}
    [Decidable condition]
    {first second : Program State Input α}
    {first' second' : Program Part Input α}
    (onFirst : Simulates related first first')
    (onSecond : Simulates related second second') :
    Simulates related
      (if condition then first else second)
      (if condition then first' else second') := by
  split
  · exact onFirst
  · exact onSecond

theorem Simulates.act
    {value : Input → State → α}
    {value' : Input → Part → α}
    {next : Input → State → State}
    {next' : Input → Part → Part}
    (sameValue :
      ∀ input state part,
        related state part → value input state = value' input part)
    (sameNext :
      ∀ input state part,
        related state part → related (next input state) (next' input part)) :
    Simulates related (Program.act value next) (Program.act value' next') :=
  fun input state part isRelated =>
    ⟨sameNext input state part isRelated,
      sameValue input state part isRelated⟩

theorem Simulates.ask
    {value : Input → State → α}
    {value' : Input → Part → α}
    (sameValue :
      ∀ input state part,
        related state part → value input state = value' input part) :
    Simulates related (Program.ask value) (Program.ask value') :=
  fun input state part isRelated =>
    ⟨isRelated, sameValue input state part isRelated⟩

theorem Simulates.check
    (condition : Prop)
    [Decidable condition] :
    Simulates related
      (Program.check condition : Program State Input Unit)
      (Program.check condition) := by
  intro input state part isRelated
  refine ⟨?_, rfl⟩
  by_cases met : condition
  · simpa only [met, if_true] using isRelated
  · simp only [met, if_false]

/-- A step that waits for nothing on related states. -/
theorem Simulates.attempt_act
    {value : State → α}
    {value' : Input → Part → α}
    {next : State → Option State}
    {next' : Input → Part → Part}
    (sameValue :
      ∀ input state part,
        related state part → value state = value' input part)
    (sameNext :
      ∀ input state part,
        related state part →
        ∃ state',
          next state = some state' ∧ related state' (next' input part)) :
    Simulates related
      (Program.attempt value next : Program State Input α)
      (Program.act value' next') := by
  intro input state part isRelated
  obtain ⟨state', taken, stays⟩ := sameNext input state part isRelated
  refine ⟨?_, sameValue input state part isRelated⟩
  simpa only [taken] using stays

end Program

namespace Machine

variable {Thread Call : Type}

/-- The threads of two machines simulate each other on related states. -/
structure Related
    (related : State → Part → Prop)
    (machine : Machine Thread State Input)
    (machine' : Machine Thread Part Input) : Prop where
  shared : related machine.shared machine'.shared
  program :
    ∀ thread,
      (machine.program thread).Simulates related (machine'.program thread)

variable
    {related : State → Part → Prop}
    {machine : Machine Thread State Input}
    {machine' : Machine Thread Part Input}

/-- A thread that runs nothing in one machine runs nothing in the other. -/
theorem Related.done
    (isRelated : Related related machine machine')
    {thread : Thread}
    (isIdle : machine.program thread = .done ()) :
    machine'.program thread = .done () := by
  have simulates := isRelated.program thread
  rw [isIdle] at simulates
  cases isProgram : machine'.program thread with
  | done result =>
      rfl
  | crash =>
      rw [isProgram] at simulates
      exact simulates.elim
  | step next rest =>
      rw [isProgram] at simulates
      exact simulates.elim

/-- A thread that is stuck in one machine is stuck in the other. -/
theorem Related.stuck
    (isRelated : Related related machine machine')
    {thread : Thread}
    (isStuck : machine.Stuck thread) :
    machine'.Stuck thread := by
  obtain ⟨next, rest, isProgram, blocked⟩ := isStuck
  have simulates := isRelated.program thread
  rw [isProgram] at simulates
  cases isProgram' : machine'.program thread with
  | done result =>
      rw [isProgram'] at simulates
      exact simulates.elim
  | crash =>
      rw [isProgram'] at simulates
      exact simulates.elim
  | step next' rest' =>
      rw [isProgram'] at simulates
      refine ⟨next', rest', isProgram', fun input => ?_⟩
      have both := (simulates input _ _ isRelated.shared).1
      rw [blocked input] at both
      cases taken : next' input machine'.shared with
      | none =>
          rfl
      | some part =>
          simp [taken] at both

variable [DecidableEq Thread]

/-- What one machine does, the other does as well. -/
theorem Related.step
    {body : Thread → Call → Program State Input Unit}
    {body' : Thread → Call → Program Part Input Unit}
    {next : Machine Thread State Input}
    {label : Thread × Move Call Input}
    (bodies :
      ∀ thread call,
        (body thread call).Simulates related (body' thread call))
    (isRelated : Related related machine machine')
    (taken : next? body machine label = some next) :
    ∃ next',
      next? body' machine' label = some next' ∧
        Related related next next' := by
  obtain ⟨thread, move⟩ := label
  have simulates := isRelated.program thread
  unfold next? at taken
  cases isProgram : machine.program thread with
  | done result =>
      cases move with
      | advance input =>
          simp [isProgram] at taken
      | call call =>
          simp only [isProgram, Option.some.injEq] at taken
          subst taken
          have isIdle := isRelated.done isProgram
          refine
            ⟨{ machine' with
                program :=
                  Function.update machine'.program thread
                    (body' thread call) },
              by simp only [next?, isIdle], isRelated.shared, ?_⟩
          intro other
          by_cases isOther : other = thread
          · subst isOther
            simp only [Function.update_self]
            exact bodies other call
          · simp only [Function.update_of_ne isOther]
            exact isRelated.program other
  | crash =>
      simp [isProgram] at taken
  | step nextStep rest =>
      cases move with
      | call call =>
          simp [isProgram] at taken
      | advance input =>
          simp only [isProgram, Option.map_eq_some_iff] at taken
          obtain ⟨shared, performed, rfl⟩ := taken
          rw [isProgram] at simulates
          cases isProgram' : machine'.program thread with
          | done result =>
              rw [isProgram'] at simulates
              exact simulates.elim
          | crash =>
              rw [isProgram'] at simulates
              exact simulates.elim
          | step nextStep' rest' =>
              rw [isProgram'] at simulates
              have both := simulates input _ _ isRelated.shared
              cases performed' : nextStep' input machine'.shared with
              | none =>
                  simp [performed, performed'] at both
              | some part =>
                  have stays := both.1
                  rw [performed, performed'] at stays
                  refine
                    ⟨{ shared := part
                       program :=
                         Function.update machine'.program thread
                           (rest' input machine'.shared) },
                      by simp [next?, isProgram', performed'], stays, ?_⟩
                  intro other
                  by_cases isOther : other = thread
                  · subst isOther
                    simp only [Function.update_self]
                    exact both.2
                  · simp only [Function.update_of_ne isOther]
                    exact isRelated.program other

end Machine

end Foundation
