import SkynetCpp.Foundation.Outcome

namespace Foundation

/-!
# A thread among others

One thread runs the same code over and over, and others change the state between
its steps.  What is proved of the code by rely and guarantee holds along every
run.
-/

/-- The state, and what is left to run of the thread. -/
structure Loop (State Input : Type) where
  shared : State
  program : Program State Input Unit

namespace Loop

variable {State Input : Type}

/-- What happens next. -/
inductive Label (Input : Type) where
  /-- The thread begins its code again. -/
  | again
  /-- The thread takes a step with this input. -/
  | advance (input : Input)
  /-- The others change the state. -/
  | others
  deriving Repr, DecidableEq

/-- One step of the thread, or of the others. -/
inductive Step
    (body : Program State Input Unit)
    (others : State → State → Prop) :
    Loop State Input → Label Input → Loop State Input → Prop where
  | again
      {state : State} :
      Step body others ⟨state, .done ()⟩ .again ⟨state, body⟩
  | advance
      {state state' : State}
      {next : Input → State → Option State}
      {rest : Input → State → Program State Input Unit}
      {input : Input}
      (taken : next input state = some state') :
      Step body others ⟨state, .step next rest⟩ (.advance input)
        ⟨state', rest input state⟩
  | others
      {state state' : State}
      {program : Program State Input Unit}
      (moved : others state state') :
      Step body others ⟨state, program⟩ .others ⟨state', program⟩

/-- The thread before it begins its code. -/
def idle (state : State) : Loop State Input :=
  ⟨state, .done ()⟩

/-- A run of the thread and the others, from a state in which it is idle. -/
abbrev Runs
    (body : Program State Input Unit)
    (others : State → State → Prop)
    (start : State) :=
  Run (Step body others) (idle start)

variable
    {body : Program State Input Unit}
    {others : State → State → Prop}

variable (body others) in
/-- The condition on the steps of the thread in a run. -/
def Considered
    (allowed : State → State → Prop)
    (loop : Loop State Input)
    (label : Label Input) : Prop :=
  ∀ input loop',
    label = .advance input →
    Step body others loop label loop' →
    allowed loop.shared loop'.shared

variable (body others) in
/-- The steps of the thread in a run meet a condition. -/
def Throughout
    (allowed : State → State → Prop)
    (past : List (Loop State Input × Label Input)) : Prop :=
  ∀ loop label,
    (loop, label) ∈ past → Considered body others allowed loop label

/-- The condition holds of the steps that a program takes on these inputs. -/
def Passes
    (allowed : State → State → Prop) :
    List Input → Program State Input Unit → State → Prop
  | input :: inputs, .step next rest, state =>
      ∀ middle,
        next input state = some middle →
          allowed state middle ∧ Passes allowed inputs (rest input state) middle
  | _, _, _ => True

variable {allowed : State → State → Prop}

/-- The first step is looked at, and then the others. -/
theorem Passes.cons
    {next : Input → State → Option State}
    {rest : Input → State → Program State Input Unit}
    {input : Input}
    {inputs : List Input}
    {state middle : State}
    (taken : next input state = some middle)
    (isAllowed : allowed state middle)
    (later : Passes allowed inputs (rest input state) middle) :
    Passes allowed (input :: inputs) (.step next rest) state := by
  intro other isOther
  cases taken.symm.trans isOther
  exact ⟨isAllowed, later⟩

theorem Throughout.mono
    {weaker : State → State → Prop}
    {past : List (Loop State Input × Label Input)}
    (throughout : Throughout body others allowed past)
    (implies : ∀ state state', allowed state state' → weaker state state') :
    Throughout body others weaker past :=
  fun loop label member input loop' isStep taken =>
    implies _ _ (throughout loop label member input loop' isStep taken)

/-- Only steps of the thread are looked at. -/
theorem considered_of_ne
    {loop : Loop State Input}
    {label : Label Input}
    (notStep : ∀ input, label ≠ .advance input) :
    Considered body others allowed loop label :=
  fun input _ isStep _ => absurd isStep (notStep input)

/-- A step of the thread that is allowed is added to the others. -/
theorem considered_snoc
    {state state' : State}
    {next : Input → State → Option State}
    {rest : Input → State → Program State Input Unit}
    {input : Input}
    {past : List (Loop State Input × Label Input)}
    (taken : next input state = some state')
    (isAllowed : allowed state state')
    (considered : Throughout body others allowed past) :
    Throughout body others allowed
      ((⟨state, .step next rest⟩, .advance input) :: past) := by
  intro loop label member
  rcases List.mem_cons.mp member with isLast | isEarlier
  · cases isLast
    rintro other loop' ⟨⟩ stepped
    cases stepped with
    | advance again =>
        cases taken.symm.trans again
        exact isAllowed
  · exact considered loop label isEarlier

/-- What is no step of the thread is allowed. -/
theorem considered_cons
    {loop : Loop State Input}
    {label : Label Input}
    {past : List (Loop State Input × Label Input)}
    (notStep : ∀ input, label ≠ .advance input)
    (considered : Throughout body others allowed past) :
    Throughout body others allowed ((loop, label) :: past) := by
  intro other otherLabel member
  rcases List.mem_cons.mp member with isLast | isEarlier
  · cases isLast
    exact considered_of_ne notStep
  · exact considered other otherLabel isEarlier

/-- That the thread begins its code again is allowed. -/
theorem considered_again
    {state : State}
    {past : List (Loop State Input × Label Input)}
    (considered : Throughout body others allowed past) :
    Throughout body others allowed ((idle state, .again) :: past) :=
  considered_cons (fun _ => nofun) considered

/-- What a program comes to on some inputs extends a run. -/
theorem extend_of_replay
    {start state final : State}
    {program : Program State Input Unit}
    {past : List (Loop State Input × Label Input)}
    {inputs : List Input}
    (run : Runs body others start past ⟨state, program⟩)
    (considered : Throughout body others allowed past)
    (passes : Passes allowed inputs program state)
    (replayed : program.replay inputs state = some ((), final)) :
    ∃ past,
      Runs body others start past (idle final) ∧
        Throughout body others allowed past := by
  induction program generalizing state inputs past with
  | done result =>
      simp only [Program.replay, Option.some.injEq, Prod.mk.injEq] at replayed
      obtain ⟨-, rfl⟩ := replayed
      exact ⟨past, run, considered⟩
  | crash =>
      simp [Program.replay] at replayed
  | step next rest inductionHypothesis =>
      cases inputs with
      | nil =>
          cases replayed
      | cons input inputs =>
          unfold Program.replay at replayed
          split at replayed
          · next middle taken =>
              obtain ⟨isAllowed, later⟩ := passes middle taken
              exact inductionHypothesis input state
                (run.snoc (.advance taken))
                (considered_snoc taken isAllowed considered) later replayed
          · cases replayed

/-- One time through the code extends a run. -/
theorem extend_again
    {start state final : State}
    {past : List (Loop State Input × Label Input)}
    {inputs : List Input}
    (run : Runs body others start past (idle state))
    (considered : Throughout body others allowed past)
    (passes : Passes allowed inputs body state)
    (replayed : body.replay inputs state = some ((), final)) :
    ∃ past,
      Runs body others start past (idle final) ∧
        Throughout body others allowed past :=
  extend_of_replay (run.snoc .again) (considered_again considered) passes
    replayed

/-- Run a program on these inputs, if each of its steps passes a check. -/
def checked (check : State → State → Bool) :
    List Input → Program State Input Unit → State → Option State
  | _, .done _, state => some state
  | _, .crash, _ => none
  | [], .step _ _, _ => none
  | input :: inputs, .step next rest, state =>
      (next input state).bind fun middle =>
        if check state middle then checked check inputs (rest input state) middle
        else none

/-- What was checked extends a run. -/
theorem extend_of_checked
    {check : State → State → Bool}
    {start state final : State}
    {program : Program State Input Unit}
    {past : List (Loop State Input × Label Input)}
    {inputs : List Input}
    (run : Runs body others start past ⟨state, program⟩)
    (considered : Throughout body others (check · · = true) past)
    (reached : checked check inputs program state = some final) :
    ∃ past,
      Runs body others start past (idle final) ∧
        Throughout body others (check · · = true) past := by
  induction program generalizing state inputs past with
  | done result =>
      cases inputs <;> cases reached <;> exact ⟨past, run, considered⟩
  | crash =>
      simp [checked] at reached
  | step next rest inductionHypothesis =>
      cases inputs with
      | nil =>
          cases reached
      | cons input inputs =>
          obtain ⟨middle, taken, continued⟩ :=
            Option.bind_eq_some_iff.mp reached
          split at continued
          · next isChecked =>
              refine inductionHypothesis input state (run.snoc (.advance taken))
                ?_ continued
              exact considered_snoc taken isChecked considered
          · cases continued

variable (body) in
/-- Run the code once for each of these lists of inputs. -/
def rounds (check : State → State → Bool) :
    List (List Input) → State → Option State
  | [], state => some state
  | inputs :: later, state =>
      (checked check inputs body state).bind (rounds check later)

/-- Rounds whose steps and whose last state were checked extend a run. -/
theorem exists_of_rounds
    {check : State → State → Bool}
    {start state final : State}
    {past : List (Loop State Input × Label Input)}
    (run : Runs body others start past (idle state))
    (considered : Throughout body others (check · · = true) past)
    (inputs : List (List Input))
    (reached : rounds body check inputs state = some final) :
    ∃ past,
      Runs body others start past (idle final) ∧
        Throughout body others (check · · = true) past := by
  induction inputs generalizing state past with
  | nil =>
      cases reached
      exact ⟨past, run, considered⟩
  | cons round later inductionHypothesis =>
      obtain ⟨middle, first, others⟩ := Option.bind_eq_some_iff.mp reached
      obtain ⟨once, extended, stillConsidered⟩ :=
        extend_of_checked (run.snoc .again) (considered_again considered) first
      exact inductionHypothesis extended stillConsidered others

end Loop

namespace Discipline

variable
    {State Input : Type}
    (discipline : Discipline Unit State)

/-- What holds along every run: the invariant, and that the thread is safe. -/
structure Loops (loop : Loop State Input) : Prop where
  invariant : discipline.invariant loop.shared
  safe :
    discipline.Safe () (fun _ => discipline.ready ()) loop.program loop.shared

variable
    {discipline}
    {body : Program State Input Unit}
    {others : State → State → Prop}

theorem Loops.step
    (sound :
      discipline.Triple () (discipline.ready ()) body
        fun _ => discipline.ready ())
    (relied : ∀ {s s'}, others s s' → discipline.rely () s s')
    (kept :
      ∀ {s s'},
        discipline.invariant s → others s s' → discipline.invariant s')
    {loop loop' : Loop State Input}
    {label : Loop.Label Input}
    (loops : discipline.Loops loop)
    (considered :
      Loop.Considered body others discipline.allowed loop label)
    (taken : Loop.Step body others loop label loop') :
    discipline.Loops loop' := by
  have allowed input := considered input loop'
  cases taken with
  | again =>
      exact ⟨loops.invariant, sound _ loops.safe⟩
  | @advance state state' next rest input performed =>
      have stepSafe :=
        loops.safe state (discipline.rely_refl () state) loops.invariant
          input state' performed (allowed input rfl (.advance performed))
      exact ⟨stepSafe.1, stepSafe.2.2⟩
  | others moved =>
      exact
        ⟨kept loops.invariant moved,
          loops.safe.others (fun _ => discipline.ready_stable) (relied moved)⟩

/-- The invariant and the safety of the thread hold along every run. -/
theorem loops_visited
    (sound :
      discipline.Triple () (discipline.ready ()) body
        fun _ => discipline.ready ())
    (relied : ∀ {s s'}, others s s' → discipline.rely () s s')
    (kept :
      ∀ {s s'},
        discipline.invariant s → others s s' → discipline.invariant s')
    {start : State}
    (invariant : discipline.invariant start)
    (ready : discipline.ready () start)
    {final : Loop State Input}
    {past : List (Loop State Input × Loop.Label Input)}
    (run : Loop.Runs body others start past final)
    (considered : Loop.Throughout body others discipline.allowed past) :
    ∀ loop ∈ Run.visited past final, discipline.Loops loop :=
  Run.invariant_visited run ⟨invariant, ready⟩
    (fun holds guarded taken => holds.step sound relied kept guarded taken)
    fun inPast => considered _ _ inPast

end Discipline

end Foundation
