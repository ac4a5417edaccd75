import SkynetCpp.Foundation.Paths

namespace Foundation

/-!
# Refinement of programs

A program refines another one, over a part of its state, when the other can do
whatever it does to the part, in any number of steps of its own.  Then what a
machine comes to whose threads run the one, a machine whose threads run the
other comes to as well.
-/

variable
    {State Part Input : Type}
    {α β γ δ : Type}

namespace Program

/-- A program goes on from one state to another, to what is left of it. -/
inductive Goes :
    Program State Input α → State → Program State Input α → State → Prop where
  | refl
      {program : Program State Input α}
      {state : State} :
      Goes program state program state
  | step
      {next : Input → State → Option State}
      {rest : Input → State → Program State Input α}
      {last : Program State Input α}
      {state middle final : State}
      (input : Input)
      (taken : next input state = some middle)
      (later : Goes (rest input state) middle last final) :
      Goes (.step next rest) state last final

theorem Goes.trans
    {first second third : Program State Input α}
    {state middle final : State}
    (earlier : Goes first state second middle)
    (later : Goes second middle third final) :
    Goes first state third final := by
  induction earlier with
  | refl =>
      exact later
  | step input taken _ inductionHypothesis =>
      exact .step input taken (inductionHypothesis later)

theorem Goes.bind
    {program last : Program State Input α}
    {state final : State}
    (goes : Goes program state last final)
    (after : α → Program State Input β) :
    Goes (program >>= after) state (last >>= after) final := by
  induction goes with
  | refl =>
      exact .refl
  | step input taken _ inductionHypothesis =>
      exact .step input taken inductionHypothesis

/-- One step of a program, whose next state is known. -/
theorem Goes.once
    {next : Input → State → Option State}
    {rest : Input → State → Program State Input α}
    {state final : State}
    (input : Input)
    (taken : next input state = some final) :
    Goes (.step next rest) state (rest input state) final :=
  .step input taken .refl

/--
Each step of the first program is one of the second, or several, or none; it
ends when the second one can end with a related result.
-/
def Refines
    (view : State → Part)
    (related : α → β → Prop) :
    Program State Input α → Program Part Input β → Prop
  | .done result, other =>
      ∀ part, ∃ result', related result result' ∧
        Goes other part (.done result') part
  | .crash, _ => True
  | .step next rest, other =>
      ∀ input state state',
        next input state = some state' →
          ∃ later,
            Goes other (view state) later (view state') ∧
              Refines view related (rest input state) later

section Rules

variable
    {view : State → Part}
    {put : Part → State → State}
    {related : α → β → Prop}
    {program : Program State Input α}
    {other : Program Part Input β}

/-- The second program may first go on, as long as it changes nothing. -/
theorem Refines.of_goes
    (goes :
      ∀ part,
        ∃ later,
          Goes other part later part ∧ Refines view related program later) :
    Refines view related program other := by
  cases program with
  | done result =>
      intro part
      obtain ⟨later, gone, ends⟩ := goes part
      obtain ⟨result', isRelated, ended⟩ := ends part
      exact ⟨result', isRelated, gone.trans ended⟩
  | crash =>
      trivial
  | step next rest =>
      intro input state state' taken
      obtain ⟨later, gone, refines⟩ := goes (view state)
      obtain ⟨last, moved, stays⟩ := refines input state state' taken
      exact ⟨last, gone.trans moved, stays⟩

theorem Refines.pure
    {result : α}
    {result' : β}
    (isRelated : related result result') :
    Refines view related
      (Pure.pure result : Program State Input α)
      (Pure.pure result' : Program Part Input β) :=
  fun _ => ⟨result', isRelated, .refl⟩

theorem Refines.bind
    {relatedAfter : γ → δ → Prop}
    {after : α → Program State Input γ}
    {after' : β → Program Part Input δ}
    (first : Refines view related program other)
    (second :
      ∀ result result',
        related result result' →
          Refines view relatedAfter (after result) (after' result')) :
    Refines view relatedAfter (program >>= after) (other >>= after') := by
  induction program generalizing other with
  | done result =>
      refine .of_goes fun part => ?_
      obtain ⟨result', isRelated, ended⟩ := first part
      exact ⟨after' result', ended.bind after', second result result' isRelated⟩
  | crash =>
      trivial
  | step next rest inductionHypothesis =>
      intro input state state' taken
      obtain ⟨later, gone, refines⟩ := first input state state' taken
      exact ⟨later >>= after', gone.bind after', inductionHypothesis _ _ refines⟩

/-- One program after the other, where the first ones end with the same result. -/
theorem Refines.andThen
    {first : Program State Input α}
    {first' : Program Part Input α}
    {relatedAfter : γ → δ → Prop}
    {after : α → Program State Input γ}
    {after' : α → Program Part Input δ}
    (refines : Refines view Eq first first')
    (second :
      ∀ result, Refines view relatedAfter (after result) (after' result)) :
    Refines view relatedAfter (first >>= after) (first' >>= after') :=
  refines.bind fun result _ same => same ▸ second result

/-- What the first program does beside the part need not be done at all. -/
theorem Refines.skip
    {after : α → Program State Input γ}
    {last : Program Part Input δ}
    {relatedAfter : γ → δ → Prop}
    (silent :
      Refines view (fun _ _ => True) program
        (Pure.pure () : Program Part Input Unit))
    (second : ∀ result, Refines view relatedAfter (after result) last) :
    Refines view relatedAfter (program >>= after) last := by
  have both :
      Refines view relatedAfter (program >>= after)
        ((Pure.pure () : Program Part Input Unit) >>= fun _ => last) :=
    silent.bind fun result _ _ => second result
  exact both

/-- The same of what the first program does after the other one has ended. -/
theorem Refines.before
    {after : α → Program State Input γ}
    {relatedAfter : γ → β → Prop}
    (first : Refines view related program other)
    (silent :
      ∀ result result',
        related result result' →
          Refines view relatedAfter (after result)
            (Pure.pure result' : Program Part Input β)) :
    Refines view relatedAfter (program >>= after) other := by
  rw [← bind_pure other]
  exact first.bind silent

theorem Refines.ite
    {condition condition' : Prop}
    [Decidable condition]
    [Decidable condition']
    {first second : Program State Input α}
    {first' second' : Program Part Input β}
    (same : condition ↔ condition')
    (onFirst : condition → Refines view related first first')
    (onSecond : ¬ condition → Refines view related second second') :
    Refines view related
      (if condition then first else second)
      (if condition' then first' else second') := by
  by_cases holds : condition
  · rw [if_pos holds, if_pos (same.mp holds)]
    exact onFirst holds
  · rw [if_neg holds, if_neg (same.not.mp holds)]
    exact onSecond holds

/-- A step that changes the state and one that changes the part in the same way. -/
theorem Refines.act
    {value : Input → State → α}
    {value' : Input → Part → β}
    {next : Input → State → State}
    {next' : Input → Part → Part}
    (inputs : Input → Input)
    (sameValue :
      ∀ input state,
        related (value input state) (value' (inputs input) (view state)))
    (sameNext :
      ∀ input state,
        view (next input state) = next' (inputs input) (view state)) :
    Refines view related (Program.act value next) (Program.act value' next') := by
  intro input state state' taken
  obtain rfl : next input state = state' := Option.some.inj taken
  refine ⟨_, .once (inputs input) (congrArg some (sameNext input state).symm), ?_⟩
  exact .pure (sameValue input state)

/-- Any step that leaves the part alone. -/
theorem Refines.silent
    {next : Input → State → Option State}
    {rest : Input → State → Program State Input α}
    (same :
      ∀ input state state', next input state = some state' →
        view state' = view state)
    (later : ∀ input state, Refines view related (rest input state) other) :
    Refines view related (.step next rest) other := by
  intro input state state' taken
  refine ⟨other, ?_, later input state⟩
  rw [same input state state' taken]
  exact .refl

theorem Refines.check
    (condition : Prop)
    [Decidable condition] :
    Refines view (fun _ _ => True)
      (Program.check condition : Program State Input Unit)
      (Program.check condition : Program Part Input Unit) := by
  intro input state state' taken
  simp only [Option.ite_none_right_eq_some, Option.some.injEq] at taken
  obtain ⟨holds, rfl⟩ := taken
  exact ⟨_, .once input (if_pos holds), .pure trivial⟩

/-- A program on a part refines itself. -/
theorem Refines.zoom
    (lawful : ∀ part state, view (put part state) = part)
    (program : Program Part Input α) :
    Refines view Eq (program.zoom view put) program := by
  induction program with
  | done result =>
      exact .pure rfl
  | crash =>
      trivial
  | step next rest inductionHypothesis =>
      intro input state state' taken
      obtain ⟨part, performed, rfl⟩ := Option.map_eq_some_iff.mp taken
      refine ⟨_, .once input ?_, inductionHypothesis input (view state)⟩
      rw [lawful]
      exact performed

end Rules

end Program

namespace Machine

variable
    {Thread Call : Type}
    {view : State → Part}

/-- The threads of the one machine refine those of the other. -/
structure Refined
    (view : State → Part)
    (machine : Machine Thread State Input)
    (machine' : Machine Thread Part Input) : Prop where
  shared : view machine.shared = machine'.shared
  program :
    ∀ thread,
      Program.Refines view Eq (machine.program thread) (machine'.program thread)

theorem Refined.idle
    (state : State) :
    Refined view
      (idle state : Machine Thread State Input)
      (idle (view state) : Machine Thread Part Input) where
  shared := rfl
  program _ := .pure rfl

variable [DecidableEq Thread]

/-- What one thread does extends a run. -/
theorem extend_of_goes
    {body : Thread → Call → Program State Input Unit}
    {initial : Machine Thread State Input}
    {thread : Thread}
    {program last : Program State Input Unit}
    {state final : State}
    (goes : program.Goes state last final)
    {machine : Machine Thread State Input}
    {past :
      List (Machine Thread State Input × (Thread × Move Call Input))}
    (run : Run (Run.Steps (next? body)) initial past machine)
    (isProgram : machine.program thread = program)
    (isShared : machine.shared = state) :
    ∃ past,
      Run (Run.Steps (next? body)) initial past
        { shared := final
          program := Function.update machine.program thread last } := by
  induction goes generalizing machine past with
  | refl =>
      refine ⟨past, ?_⟩
      rw [← isProgram, ← isShared, Function.update_eq_self]
      exact run
  | @step next rest last state middle final input taken _ inductionHypothesis =>
      have moved :
          next? body machine (thread, .advance input) =
            some
              { shared := middle
                program :=
                  Function.update machine.program thread (rest input state) } := by
        simp [next?, isProgram, isShared, taken]
      obtain ⟨past', extended⟩ :=
        inductionHypothesis (run.snoc moved) (Function.update_self ..) rfl
      exact ⟨past', by simpa using extended⟩

variable
    {body : Thread → Call → Program State Input Unit}
    {body' : Thread → Call → Program Part Input Unit}

/-- Another thread's program is not touched. -/
theorem Refined.update
    {machine : Machine Thread State Input}
    {machine' : Machine Thread Part Input}
    (refined : Refined view machine machine')
    (thread : Thread)
    {program : Program State Input Unit}
    {program' : Program Part Input Unit}
    (state : State)
    (refines : Program.Refines view Eq program program') :
    Refined view
      { shared := state
        program := Function.update machine.program thread program }
      { shared := view state
        program := Function.update machine'.program thread program' } where
  shared := rfl
  program other := by
    by_cases isOther : other = thread
    · subst isOther
      simpa only [Function.update_self] using refines
    · simpa only [Function.update_of_ne isOther] using refined.program other

/-- What one machine does, the other does in some steps. -/
theorem Refined.step
    (bodies :
      ∀ thread call,
        Program.Refines view Eq (body thread call) (body' thread call))
    {initial' : Machine Thread Part Input}
    {machine next : Machine Thread State Input}
    {machine' : Machine Thread Part Input}
    {past' : List (Machine Thread Part Input × (Thread × Move Call Input))}
    {label : Thread × Move Call Input}
    (refined : Refined view machine machine')
    (taken : next? body machine label = some next)
    (run' : Run (Run.Steps (next? body')) initial' past' machine') :
    ∃ past' next',
      Run (Run.Steps (next? body')) initial' past' next' ∧
        Refined view next next' := by
  obtain ⟨thread, move⟩ := label
  have refines := refined.program thread
  unfold next? at taken
  cases isProgram : machine.program thread with
  | done result =>
      cases move with
      | advance input =>
          simp [isProgram] at taken
      | call call =>
          simp only [isProgram, Option.some.injEq] at taken
          subst taken
          rw [isProgram] at refines
          obtain ⟨⟨⟩, -, ended⟩ := refines machine'.shared
          obtain ⟨past'', extended⟩ := extend_of_goes ended run' rfl rfl
          have begins :
              next? body'
                  { shared := machine'.shared
                    program :=
                      Function.update machine'.program thread (.done ()) }
                  (thread, .call call) =
                some
                  { shared := machine'.shared
                    program :=
                      Function.update machine'.program thread
                        (body' thread call) } := by
            simp [next?]
          refine ⟨_, _, extended.snoc begins, ?_⟩
          rw [← refined.shared]
          exact refined.update thread machine.shared (bodies thread call)
  | crash =>
      simp [isProgram] at taken
  | step nextStep rest =>
      cases move with
      | call call =>
          simp [isProgram] at taken
      | advance input =>
          simp only [isProgram, Option.map_eq_some_iff] at taken
          obtain ⟨shared, performed, rfl⟩ := taken
          rw [isProgram] at refines
          obtain ⟨later, gone, stays⟩ := refines input _ _ performed
          obtain ⟨past'', extended⟩ :=
            extend_of_goes gone run' rfl refined.shared.symm
          exact ⟨past'', _, extended, refined.update thread shared stays⟩

/-- Where a run of one machine comes to, a run of the other comes to. -/
theorem Refined.run
    (bodies :
      ∀ thread call,
        Program.Refines view Eq (body thread call) (body' thread call))
    {initial final : Machine Thread State Input}
    {initial' : Machine Thread Part Input}
    {past : List (Machine Thread State Input × (Thread × Move Call Input))}
    (refined : Refined view initial initial')
    (run : Run (Run.Steps (next? body)) initial past final) :
    ∃ past' final',
      Run (Run.Steps (next? body')) initial' past' final' ∧
        Refined view final final' := by
  induction run with
  | nil =>
      exact ⟨[], initial', .nil, refined⟩
  | snoc _ taken inductionHypothesis =>
      obtain ⟨past', machine', run', refined'⟩ := inductionHypothesis
      exact refined'.step bodies taken run'

end Machine

end Foundation
