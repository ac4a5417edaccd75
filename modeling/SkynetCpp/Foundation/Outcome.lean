import SkynetCpp.Foundation.Program

namespace Foundation

/-!
# Programs that run alone

What a program comes to when no other thread runs meanwhile: with which result
it can end in which state, and what holds however the inputs are.
-/

variable
    {State Part Input : Type}
    {α β : Type}

namespace Program

/-- The program can run from the one state to the other, with the result. -/
inductive Yields :
    Program State Input α → State → α → State → Prop where
  | done
      {result : α}
      {state : State} :
      Yields (.done result) state result state
  | step
      {next : Input → State → Option State}
      {rest : Input → State → Program State Input α}
      {state middle final : State}
      {result : α}
      (input : Input)
      (taken : next input state = some middle)
      (later : Yields (rest input state) middle result final) :
      Yields (.step next rest) state result final

/-- Run the program on these inputs, one for each step. -/
def replay :
    List Input → Program State Input α → State → Option (α × State)
  | _, .done result, state => some (result, state)
  | _, .crash, _ => none
  | [], .step _ _, _ => none
  | input :: inputs, .step next rest, state =>
      match next input state with
      | some middle => replay inputs (rest input state) middle
      | none => none

/-- However the program ends, it ends with the condition. -/
def Ensures (post : α → State → Prop) : Program State Input α → State → Prop
  | .done result, state => post result state
  | .crash, _ => True
  | .step next rest, state =>
      ∀ input middle,
        next input state = some middle → (rest input state).Ensures post middle

variable
    {post weaker : α → State → Prop}
    {state final : State}

/-- What a program comes to on some inputs, it yields. -/
theorem yields_of_replay
    {inputs : List Input}
    {program : Program State Input α}
    {result : α}
    (replayed : replay inputs program state = some (result, final)) :
    program.Yields state result final := by
  induction program generalizing state inputs with
  | done other =>
      simp only [replay, Option.some.injEq, Prod.mk.injEq] at replayed
      obtain ⟨rfl, rfl⟩ := replayed
      exact .done
  | crash =>
      simp [replay] at replayed
  | step next rest inductionHypothesis =>
      cases inputs with
      | nil =>
          cases replayed
      | cons input inputs =>
          unfold replay at replayed
          split at replayed
          · next middle taken =>
              exact .step input taken (inductionHypothesis input state replayed)
          · cases replayed

/-- What a program ensures holds at every end of it. -/
theorem Ensures.of_yields
    {program : Program State Input α}
    {result : α}
    (ensures : program.Ensures post state)
    (yields : program.Yields state result final) :
    post result final := by
  induction yields with
  | done =>
      exact ensures
  | step input taken later inductionHypothesis =>
      exact inductionHypothesis (ensures input _ taken)

theorem Ensures.mono
    {program : Program State Input α}
    (ensures : program.Ensures post state)
    (implies : ∀ result state, post result state → weaker result state) :
    program.Ensures weaker state := by
  induction program generalizing state with
  | done result =>
      exact implies result state ensures
  | crash =>
      trivial
  | step next rest inductionHypothesis =>
      intro input middle taken
      exact inductionHypothesis input state (ensures input middle taken)

/-- A condition that always holds. -/
theorem Ensures.of_forall
    {program : Program State Input α}
    (always : ∀ result state, post result state) :
    program.Ensures post state := by
  induction program generalizing state with
  | done result =>
      exact always result state
  | crash =>
      trivial
  | step next rest inductionHypothesis =>
      intro input middle _
      exact inductionHypothesis input state

section Rules

@[simp] theorem ensures_pure
    (result : α) :
    (Pure.pure result : Program State Input α).Ensures post state ↔
      post result state :=
  Iff.rfl

@[simp] theorem ensures_bind
    {post : β → State → Prop}
    {program : Program State Input α}
    {after : α → Program State Input β} :
    (program >>= after).Ensures post state ↔
      program.Ensures (fun result => (after result).Ensures post) state := by
  induction program generalizing state with
  | done result =>
      exact Iff.rfl
  | crash =>
      trivial
  | step next rest inductionHypothesis =>
      simp only [step_bind, Ensures, inductionHypothesis]

@[simp] theorem ensures_ask
    (value : Input → State → α) :
    (ask value).Ensures post state ↔ ∀ input, post (value input state) state := by
  simp [ask, Ensures]

@[simp] theorem ensures_act
    (value : Input → State → α)
    (next : Input → State → State) :
    (act value next).Ensures post state ↔
      ∀ input, post (value input state) (next input state) := by
  simp [act, Ensures]

@[simp] theorem ensures_check
    [Nonempty Input]
    (condition : Prop)
    [Decidable condition]
    {post : Unit → State → Prop} :
    (check condition : Program State Input Unit).Ensures post state ↔
      (condition → post () state) := by
  by_cases met : condition
  · simp [check, Ensures, met]
  · simp [check, Ensures, met]

@[simp] theorem ensures_ite
    (condition : Prop)
    [Decidable condition]
    (first second : Program State Input α) :
    (if condition then first else second).Ensures post state ↔
      if condition then first.Ensures post state
      else second.Ensures post state := by
  split <;> exact Iff.rfl

/-- A program on a part of the state that can be taken out and put back. -/
theorem ensures_zoom
    {view : State → Part}
    {put : Part → State → State}
    (view_put : ∀ part state, view (put part state) = part)
    (put_view : ∀ state, put (view state) state = state)
    (put_put :
      ∀ first second state, put first (put second state) = put first state)
    {program : Program Part Input α} :
    (program.zoom view put).Ensures post state ↔
      program.Ensures (fun result part => post result (put part state))
        (view state) := by
  suffices general :
      ∀ part,
        (program.zoom view put).Ensures post (put part state) ↔
          program.Ensures (fun result part => post result (put part state))
            part by
    have atView := general (view state)
    rwa [put_view] at atView
  intro part
  induction program generalizing part with
  | done result =>
      exact Iff.rfl
  | crash =>
      trivial
  | step next rest inductionHypothesis =>
      simp only [zoom, Ensures, view_put, Option.map_eq_some_iff,
        forall_exists_index, and_imp]
      constructor
      · intro ensures input middle taken
        have later := ensures input _ middle taken rfl
        rw [put_put] at later
        exact (inductionHypothesis input part middle).mp later
      · rintro ensures input _ middle taken rfl
        rw [put_put]
        exact (inductionHypothesis input part middle).mpr
          (ensures input middle taken)

end Rules

section Yields

variable
    {result : α}

@[simp] theorem yields_pure
    {other : α} :
    (Pure.pure other : Program State Input α).Yields state result final ↔
      result = other ∧ final = state := by
  constructor
  · rintro ⟨⟩
    exact ⟨rfl, rfl⟩
  · rintro ⟨rfl, rfl⟩
    exact .done

@[simp] theorem yields_step
    {next : Input → State → Option State}
    {rest : Input → State → Program State Input α} :
    (Program.step next rest).Yields state result final ↔
      ∃ input middle,
        next input state = some middle ∧
          (rest input state).Yields middle result final := by
  constructor
  · rintro (_ | ⟨input, taken, later⟩)
    exact ⟨input, _, taken, later⟩
  · rintro ⟨input, middle, taken, later⟩
    exact .step input taken later

@[simp] theorem yields_bind
    {program : Program State Input α}
    {after : α → Program State Input β}
    {result : β} :
    (program >>= after).Yields state result final ↔
      ∃ value middle,
        program.Yields state value middle ∧
          (after value).Yields middle result final := by
  induction program generalizing state with
  | done value =>
      constructor
      · intro later
        exact ⟨value, state, .done, later⟩
      · rintro ⟨_, _, ⟨⟩, later⟩
        exact later
  | crash =>
      constructor
      · rintro ⟨⟩
      · rintro ⟨_, _, ⟨⟩, _⟩
  | step next rest inductionHypothesis =>
      simp only [step_bind, yields_step, inductionHypothesis]
      constructor
      · rintro ⟨input, middle, taken, value, last, first, later⟩
        exact ⟨value, last, ⟨input, middle, taken, first⟩, later⟩
      · rintro ⟨value, last, ⟨input, middle, taken, first⟩, later⟩
        exact ⟨input, middle, taken, value, last, first, later⟩

@[simp] theorem yields_ask
    {value : Input → State → α} :
    (ask value).Yields state result final ↔
      ∃ input, result = value input state ∧ final = state := by
  simp only [ask, yields_step, Option.some.injEq]
  constructor
  · rintro ⟨input, middle, rfl, ⟨⟩⟩
    exact ⟨input, rfl, rfl⟩
  · rintro ⟨input, rfl, rfl⟩
    exact ⟨input, _, rfl, .done⟩

@[simp] theorem yields_act
    {value : Input → State → α}
    {next : Input → State → State} :
    (act value next).Yields state result final ↔
      ∃ input, result = value input state ∧ final = next input state := by
  simp only [act, yields_step, Option.some.injEq]
  constructor
  · rintro ⟨input, middle, rfl, ⟨⟩⟩
    exact ⟨input, rfl, rfl⟩
  · rintro ⟨input, rfl, rfl⟩
    exact ⟨input, _, rfl, .done⟩

@[simp] theorem yields_check
    [inhabited : Nonempty Input]
    {condition : Prop}
    [Decidable condition]
    {result : Unit} :
    (check condition : Program State Input Unit).Yields state result final ↔
      condition ∧ final = state := by
  simp only [check, yields_step]
  constructor
  · rintro ⟨input, middle, taken, ⟨⟩⟩
    split at taken
    · next met =>
        cases taken
        exact ⟨met, rfl⟩
    · cases taken
  · rintro ⟨met, rfl⟩
    obtain ⟨input⟩ := inhabited
    exact ⟨input, final, if_pos met, .done⟩

end Yields

section Reads

/-- A program that can end without any change of the state. -/
def Reads : Program State Input α → State → Prop
  | .done _, _ => True
  | .crash, _ => False
  | .step next rest, state =>
      ∃ input, next input state = some state ∧ (rest input state).Reads state

theorem Reads.pure
    (result : α) :
    (Pure.pure result : Program State Input α).Reads state :=
  trivial

theorem Reads.ask
    [inhabited : Nonempty Input]
    (value : Input → State → α) :
    (Program.ask value).Reads state := by
  obtain ⟨input⟩ := inhabited
  exact ⟨input, rfl, trivial⟩

theorem Reads.bind
    {program : Program State Input α}
    {after : α → Program State Input β}
    (reads : program.Reads state)
    (later : ∀ value, (after value).Reads state) :
    (program >>= after).Reads state := by
  induction program with
  | done value =>
      exact later value
  | crash =>
      trivial
  | step next rest inductionHypothesis =>
      obtain ⟨input, same, reads⟩ := reads
      exact ⟨input, same, inductionHypothesis input state reads⟩

theorem Reads.andM
    {first second : Program State Input Bool}
    (isFirst : first.Reads state)
    (isSecond : second.Reads state) :
    (first <&&> second).Reads state := by
  refine isFirst.bind fun value => ?_
  cases value with
  | true =>
      exact isSecond
  | false =>
      exact .pure false

theorem Reads.orM
    {first second : Program State Input Bool}
    (isFirst : first.Reads state)
    (isSecond : second.Reads state) :
    (first <||> second).Reads state := by
  refine isFirst.bind fun value => ?_
  cases value with
  | true =>
      exact .pure true
  | false =>
      exact isSecond

/-- Looking at a part changes nothing of a state that is put back. -/
theorem Reads.zoom
    {view : State → Part}
    {put : Part → State → State}
    (lawful : put (view state) state = state)
    {program : Program Part Input α}
    (reads : program.Reads (view state)) :
    (program.zoom view put).Reads state := by
  induction program with
  | done result =>
      trivial
  | crash =>
      trivial
  | step next rest inductionHypothesis =>
      obtain ⟨input, same, reads⟩ := reads
      refine ⟨input, ?_, inductionHypothesis input _ reads⟩
      change (next input (view state)).map _ = some state
      rw [same, Option.map_some, lawful]

/-- Such a program comes to some result. -/
theorem Reads.yields
    {program : Program State Input α}
    (reads : program.Reads state) :
    ∃ result, program.Yields state result state := by
  induction program with
  | done result =>
      exact ⟨result, .done⟩
  | crash =>
      trivial
  | step next rest inductionHypothesis =>
      obtain ⟨input, same, reads⟩ := reads
      obtain ⟨result, later⟩ := inductionHypothesis input state reads
      exact ⟨result, .step input same later⟩

end Reads

section Crashes

/-- On inputs of this kind the program can come to a crash. -/
inductive Crashes
    (given : Input → Prop) : Program State Input α → State → Prop where
  | crash
      {state : State} :
      Crashes given .crash state
  | step
      {next : Input → State → Option State}
      {rest : Input → State → Program State Input α}
      {state middle : State}
      (input : Input)
      (isGiven : given input)
      (taken : next input state = some middle)
      (later : Crashes given (rest input state) middle) :
      Crashes given (.step next rest) state

/-- The program comes to a crash on these inputs, one for each step. -/
def crashesOn :
    List Input → Program State Input α → State → Bool
  | _, .done _, _ => false
  | _, .crash, _ => true
  | [], .step _ _, _ => false
  | input :: inputs, .step next rest, state =>
      match next input state with
      | some middle => crashesOn inputs (rest input state) middle
      | none => false

variable {given : Input → Prop}

theorem crashes_of_crashesOn
    {inputs : List Input}
    {program : Program State Input α}
    (areGiven : ∀ input ∈ inputs, given input)
    (crashed : crashesOn inputs program state = true) :
    program.Crashes given state := by
  induction program generalizing state inputs with
  | done other =>
      simp [crashesOn] at crashed
  | crash =>
      exact .crash
  | step next rest inductionHypothesis =>
      cases inputs with
      | nil =>
          cases crashed
      | cons input inputs =>
          obtain ⟨isGiven, areGiven⟩ := List.forall_mem_cons.mp areGiven
          unfold crashesOn at crashed
          split at crashed
          · next middle taken =>
              exact
                .step input isGiven taken
                  (inductionHypothesis input state areGiven crashed)
          · cases crashed

/-- A crash is in the first program, or in what comes after it. -/
theorem Crashes.of_bind
    {program : Program State Input α}
    {after : α → Program State Input β}
    (crashes : (program >>= after).Crashes given state) :
    program.Crashes given state ∨
      ∃ value middle,
        program.Yields state value middle ∧
          (after value).Crashes given middle := by
  induction program generalizing state with
  | done value =>
      exact Or.inr ⟨value, state, .done, crashes⟩
  | crash =>
      exact Or.inl .crash
  | step next rest inductionHypothesis =>
      rcases crashes with _ | ⟨input, isGiven, taken, later⟩
      rcases inductionHypothesis input state later with
        isFirst | ⟨value, last, yields, isLater⟩
      · exact Or.inl (.step input isGiven taken isFirst)
      · exact Or.inr ⟨value, last, .step input taken yields, isLater⟩

theorem Crashes.of_ask
    {value : Input → State → α}
    {after : α → Program State Input β}
    (crashes : (ask value >>= after).Crashes given state) :
    ∃ input, given input ∧ (after (value input state)).Crashes given state := by
  rcases crashes with _ | ⟨input, isGiven, ⟨⟩, later⟩
  exact ⟨input, isGiven, later⟩

theorem Crashes.of_act
    {value : Input → State → α}
    {next : Input → State → State}
    {after : α → Program State Input β}
    (crashes : (act value next >>= after).Crashes given state) :
    ∃ input,
      given input ∧
        (after (value input state)).Crashes given (next input state) := by
  rcases crashes with _ | ⟨input, isGiven, ⟨⟩, later⟩
  exact ⟨input, isGiven, later⟩

theorem not_crashes_pure
    (result : α) :
    ¬ (Pure.pure result : Program State Input α).Crashes given state :=
  nofun

theorem not_crashes_ask
    (value : Input → State → α) :
    ¬ (ask value).Crashes given state := by
  rintro (_ | ⟨_, _, _, later⟩)
  exact not_crashes_pure _ later

theorem not_crashes_andM
    {first second : Program State Input Bool}
    (notFirst : ∀ state, ¬ first.Crashes given state)
    (notSecond : ∀ state, ¬ second.Crashes given state) :
    ¬ (first <&&> second).Crashes given state := by
  intro crashes
  rcases crashes.of_bind with isFirst | ⟨value, middle, _, isLater⟩
  · exact notFirst _ isFirst
  · cases value with
    | true =>
        exact notSecond _ isLater
    | false =>
        exact not_crashes_pure _ isLater

end Crashes

section Traced

variable {Entry : Type}

/-- The program with a record, beside its state, of what its steps met. -/
def traced
    (record : Input → State → List Entry) :
    Program State Input α → Program (State × List Entry) Input α
  | .done result => .done result
  | .crash => .crash
  | .step next rest =>
      .step
        (fun input state =>
          (next input state.1).map (·, state.2 ++ record input state.1))
        fun input state => (rest input state.1).traced record

variable
    {record : Input → State → List Entry}
    {entries entries' : List Entry}
    {result : α}

/-- Without the record it ends as the program does. -/
theorem yields_of_traced
    {program : Program State Input α}
    (yields :
      (program.traced record).Yields (state, entries) result
        (final, entries')) :
    program.Yields state result final := by
  induction program generalizing state entries with
  | done other =>
      cases yields
      exact .done
  | crash =>
      trivial
  | step next rest inductionHypothesis =>
      obtain ⟨input, ⟨middle, _⟩, taken, later⟩ := yields_step.mp yields
      obtain ⟨moved, isNext, isMiddle⟩ := Option.map_eq_some_iff.mp taken
      cases isMiddle
      exact .step input isNext (inductionHypothesis input state later)

/-- Every end of the program has some record. -/
theorem exists_traced
    (record : Input → State → List Entry)
    {program : Program State Input α}
    (yields : program.Yields state result final)
    (entries : List Entry) :
    ∃ entries',
      (program.traced record).Yields (state, entries) result
        (final, entries') := by
  induction yields generalizing entries with
  | done =>
      exact ⟨entries, .done⟩
  | @step next rest start middle _ _ input taken later inductionHypothesis =>
      obtain ⟨entries', traced⟩ :=
        inductionHypothesis (entries ++ record input start)
      refine ⟨entries', .step input ?_ traced⟩
      change (next input start).map _ = _
      rw [taken]
      rfl

end Traced

section Whole

variable
    {effect : State → State → Prop}
    {ends : α → Prop}
    {program : Program State Input α}

/-- What every step of a program does holds of the whole of it. -/
theorem Within.ensures
    (within : program.Within effect ends)
    (refl : ∀ state, effect state state)
    (trans :
      ∀ first second third,
        effect first second → effect second third → effect first third) :
    program.Ensures (fun result final => effect state final ∧ ends result)
      state := by
  induction program generalizing state with
  | done result =>
      exact ⟨refl state, within⟩
  | crash =>
      trivial
  | step next rest inductionHypothesis =>
      intro input middle taken
      obtain ⟨moved, later⟩ := within input state middle taken
      refine (inductionHypothesis input state later).mono ?_
      rintro result final ⟨further, isEnd⟩
      exact ⟨trans _ _ _ moved further, isEnd⟩

/-- However it ends, it ends within what its steps do. -/
theorem Within.of_yields
    {result : α}
    (within : program.Within effect ends)
    (refl : ∀ state, effect state state)
    (trans :
      ∀ first second third,
        effect first second → effect second third → effect first third)
    (yields : program.Yields state result final) :
    effect state final ∧ ends result :=
  (within.ensures refl trans).of_yields yields

end Whole

end Program

end Foundation
