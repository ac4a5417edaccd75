import SkynetCpp.Foundation.Program

namespace Foundation.Program

/-!
# Ways through a program

A program of one thread runs among others, which may do anything between two of
its steps.  `Ends` collects what it can end with, whatever they do.  Two
programs mirror each other when they take the same steps, except where the
first one stops and the second one crashes or waits for ever.
-/

variable
    {State Input : Type}
    {α β γ δ : Type}

theorem bind_pure
    (program : Program State Input α) :
    (program >>= fun result => pure result) = program := by
  induction program with
  | done result =>
      rfl
  | crash =>
      rfl
  | step next rest inductionHypothesis =>
      simp only [step_bind, inductionHypothesis]

/-- Some way through the program, whatever the others do, ends with the result. -/
inductive Ends : Program State Input α → α → Prop where
  | done
      {result : α} :
      Ends (.done result) result
  | step
      {next : Input → State → Option State}
      {rest : Input → State → Program State Input α}
      {input : Input}
      {state state' : State}
      {result : α}
      (taken : next input state = some state')
      (later : Ends (rest input state) result) :
      Ends (.step next rest) result

/-- What every result meets is met at the end of every way. -/
theorem Within.of_ends
    {program : Program State Input α}
    {effect : State → State → Prop}
    {ends : α → Prop}
    {result : α}
    (within : program.Within effect ends)
    (way : program.Ends result) :
    ends result := by
  induction way with
  | done =>
      exact within
  | step taken later inductionHypothesis =>
      exact inductionHypothesis (within _ _ _ taken).2

/-- What a thread that runs alone ends with is the end of a way. -/
theorem Ends.of_solo
    {program : Program State Input α}
    {input : Input}
    {steps : Nat}
    {state state' : State}
    {result : α}
    (alone :
      Machine.solo input steps (program, state) =
        some (.done result, state')) :
    program.Ends result := by
  induction steps generalizing program state with
  | zero =>
      simp only [Machine.solo, Option.some.injEq, Prod.mk.injEq] at alone
      rw [alone.1]
      exact .done
  | succ steps inductionHypothesis =>
      cases program with
      | done other =>
          cases alone
      | crash =>
          cases alone
      | step next rest =>
          simp only [Machine.solo, Option.bind_eq_some_iff] at alone
          obtain ⟨between, taken, alone⟩ := alone
          exact .step taken (inductionHypothesis alone)

section Mirrors

/--
The first program takes the steps of the second one and ends with a related
result; where it stops before, the second one crashes or cannot take its next
step.
-/
def Mirrors
    (related : α → β → Prop)
    (stopped : α → Prop) :
    Program State Input α → Program State Input β → Prop
  | .done result, .done other => related result other
  | .done result, .step next _ =>
      stopped result ∧ ∀ input state, next input state = none
  | .done result, .crash => stopped result
  | .crash, .crash => True
  | .crash, _ => False
  | .step _ _, .done _ => False
  | .step _ _, .crash => False
  | .step next rest, .step next' rest' =>
      ∀ input state,
        next input state = next' input state ∧
          ∀ state', next input state = some state' →
            Mirrors related stopped (rest input state) (rest' input state)

variable
    {related : α → β → Prop}
    {stopped : α → Prop}
    {stopped' : β → Prop}
    {first : Program State Input α}
    {second : Program State Input β}

namespace Mirrors

/-- Programs that mirror each other, one after the other. -/
theorem bind
    {relatedAfter : γ → δ → Prop}
    {stoppedAfter : γ → Prop}
    {after : α → Program State Input γ}
    {after' : β → Program State Input δ}
    (mirrors : Mirrors related stopped first second)
    (goesOn :
      ∀ result other,
        related result other →
          Mirrors relatedAfter stoppedAfter (after result) (after' other))
    (stops :
      ∀ result,
        stopped result →
          ∃ last, after result = .done last ∧ stoppedAfter last) :
    Mirrors relatedAfter stoppedAfter (first >>= after)
      (second >>= after') := by
  induction first generalizing second with
  | done result =>
      cases second with
      | done other =>
          exact goesOn result other mirrors
      | crash =>
          obtain ⟨last, isLast, isStopped⟩ := stops result mirrors
          rw [done_bind, isLast]
          exact isStopped
      | step next rest =>
          obtain ⟨last, isLast, isStopped⟩ := stops result mirrors.1
          rw [done_bind, isLast]
          exact ⟨isStopped, mirrors.2⟩
  | crash =>
      cases second with
      | done other =>
          exact mirrors.elim
      | crash =>
          trivial
      | step next rest =>
          exact mirrors.elim
  | step next rest inductionHypothesis =>
      cases second with
      | done other =>
          exact mirrors.elim
      | crash =>
          exact mirrors.elim
      | step next' rest' =>
          intro input state
          obtain ⟨same, later⟩ := mirrors input state
          exact
            ⟨same, fun state' taken =>
              inductionHypothesis input state (later state' taken)⟩

/-- A program mirrors itself, whatever is made of its results. -/
theorem map
    (make : α → β)
    (program : Program State Input α) :
    Mirrors (fun result other => result = make other) stopped'
      (program >>= fun result => pure (make result)) program := by
  induction program with
  | done result =>
      rfl
  | crash =>
      trivial
  | step next rest inductionHypothesis =>
      intro input state
      exact ⟨rfl, fun _ _ => inductionHypothesis input state⟩

/-- Programs that mirror each other do so on a part of the state. -/
theorem zoom
    {Whole : Type}
    (mirrors : Mirrors related stopped first second)
    (view : Whole → State)
    (put : State → Whole → Whole) :
    Mirrors related stopped (first.zoom view put) (second.zoom view put) := by
  induction first generalizing second with
  | done result =>
      cases second with
      | done other =>
          exact mirrors
      | crash =>
          exact mirrors
      | step next rest =>
          refine ⟨mirrors.1, ?_⟩
          intro input whole
          dsimp only
          rw [mirrors.2 input (view whole), Option.map_none]
  | crash =>
      cases second with
      | done other =>
          exact mirrors.elim
      | crash =>
          trivial
      | step next rest =>
          exact mirrors.elim
  | step next rest inductionHypothesis =>
      cases second with
      | done other =>
          exact mirrors.elim
      | crash =>
          exact mirrors.elim
      | step next' rest' =>
          intro input whole
          obtain ⟨same, later⟩ := mirrors input (view whole)
          refine ⟨by dsimp only; rw [same], ?_⟩
          intro whole' taken
          obtain ⟨part, performed, -⟩ := Option.map_eq_some_iff.mp taken
          exact inductionHypothesis input (view whole) (later part performed)

theorem mono
    {weaker : α → β → Prop}
    {stopsToo : α → Prop}
    (mirrors : Mirrors related stopped first second)
    (implies : ∀ result other, related result other → weaker result other)
    (onStops : ∀ result, stopped result → stopsToo result) :
    Mirrors weaker stopsToo first second := by
  induction first generalizing second with
  | done result =>
      cases second with
      | done other =>
          exact implies result other mirrors
      | crash =>
          exact onStops result mirrors
      | step next rest =>
          exact ⟨onStops result mirrors.1, mirrors.2⟩
  | crash =>
      cases second with
      | done other =>
          exact mirrors.elim
      | crash =>
          trivial
      | step next rest =>
          exact mirrors.elim
  | step next rest inductionHypothesis =>
      cases second with
      | done other =>
          exact mirrors.elim
      | crash =>
          exact mirrors.elim
      | step next' rest' =>
          intro input state
          obtain ⟨same, later⟩ := mirrors input state
          exact
            ⟨same, fun state' taken =>
              inductionHypothesis input state (later state' taken)⟩

/-- Every end of the second program is one of the first. -/
theorem ends_first
    {other : β}
    (mirrors : Mirrors related stopped first second)
    (way : second.Ends other) :
    ∃ result, first.Ends result ∧ related result other := by
  induction way generalizing first with
  | done =>
      cases first with
      | done result =>
          exact ⟨result, .done, mirrors⟩
      | crash =>
          exact mirrors.elim
      | step next rest =>
          exact mirrors.elim
  | @step next' rest' input state state' other taken later inductionHypothesis =>
      cases first with
      | done result =>
          cases (mirrors.2 input state).symm.trans taken
      | crash =>
          exact mirrors.elim
      | step next rest =>
          obtain ⟨same, mirrorsLater⟩ := mirrors input state
          have performed := same.trans taken
          obtain ⟨result, ends, isRelated⟩ :=
            inductionHypothesis (mirrorsLater state' performed)
          exact ⟨result, .step performed ends, isRelated⟩

/-- Every end of the first program where it did not stop is one of the second. -/
theorem ends_second
    {result : α}
    (mirrors : Mirrors related stopped first second)
    (way : first.Ends result) :
    stopped result ∨ ∃ other, second.Ends other ∧ related result other := by
  induction way generalizing second with
  | done =>
      cases second with
      | done other =>
          exact Or.inr ⟨other, .done, mirrors⟩
      | crash =>
          exact Or.inl mirrors
      | step next rest =>
          exact Or.inl mirrors.1
  | @step next rest input state state' result taken later inductionHypothesis =>
      cases second with
      | done other =>
          exact mirrors.elim
      | crash =>
          exact mirrors.elim
      | step next' rest' =>
          obtain ⟨same, mirrorsLater⟩ := mirrors input state
          have performed := same.symm.trans taken
          rcases inductionHypothesis (mirrorsLater state' taken) with
            stops | ⟨other, ends, isRelated⟩
          · exact Or.inl stops
          · exact Or.inr ⟨other, .step performed ends, isRelated⟩

end Mirrors

end Mirrors

end Foundation.Program
