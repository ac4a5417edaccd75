import SkynetCpp.Foundation.Paths

namespace Foundation

/-!
# Routines

A routine is a program of one thread with variables of its own that may stop
early.  It runs among other threads, which share the state and not the
variables.  `Meets` is what holds at every end of it, whatever the others do.
-/

/-- A program with variables of its own, which may stop early. -/
abbrev Routine (Stop Own State Input Result : Type) :=
  ExceptT Stop (StateT Own (Program State Input)) Result

namespace Routine

variable
    {Stop Own State Input Part : Type}
    {α β γ δ : Type}
    {own : Own}

/-- The program that a routine is, from its variables on. -/
def start
    (routine : Routine Stop Own State Input α)
    (own : Own) : Program State Input (Except Stop α × Own) :=
  routine.run.run own

/-- Run a routine on a part of the state. -/
def zoom
    (view : State → Part)
    (put : Part → State → State)
    (routine : Routine Stop Own Part Input α) :
    Routine Stop Own State Input α :=
  ExceptT.mk fun own => (routine.start own).zoom view put

/-- Run a program, which leaves the variables alone. -/
def perform
    (program : Program State Input α) : Routine Stop Own State Input α :=
  liftM program

theorem start_perform
    (program : Program State Input α) :
    (perform program : Routine Stop Own State Input α).start own =
      program >>= fun result => pure (.ok result, own) := by
  change
    (program >>= fun result => pure (result, own)) >>=
        (fun pair => pure (Except.ok pair.1, pair.2)) = _
  rw [Program.bind_assoc]
  rfl

section Meets

/-- Every end of the routine meets the condition. -/
def Meets
    (routine : Routine Stop Own State Input α)
    (own : Own)
    (post : Except Stop α → Own → Prop) : Prop :=
  (routine.start own).Within (fun _ _ => True) fun last => post last.1 last.2

namespace Meets

variable
    {routine : Routine Stop Own State Input α}
    {post : Except Stop α → Own → Prop}

theorem pure
    {result : α}
    (isEnd : post (.ok result) own) :
    Meets (Pure.pure result : Routine Stop Own State Input α) own post :=
  isEnd

theorem throw
    {stop : Stop}
    (isEnd : post (.error stop) own) :
    Meets (MonadExcept.throw stop : Routine Stop Own State Input α) own post :=
  isEnd

theorem get_bind
    {after : Own → Routine Stop Own State Input α}
    (goesOn : Meets (after own) own post) :
    Meets (get >>= after) own post :=
  goesOn

theorem modify
    {change : Own → Own}
    {post : Except Stop PUnit → Own → Prop}
    (isEnd : post (.ok ⟨⟩) (change own)) :
    Meets (modifyGet fun own => (⟨⟩, change own) :
      Routine Stop Own State Input PUnit) own post :=
  isEnd

theorem modify_bind
    {change : Own → Own}
    {after : PUnit → Routine Stop Own State Input α}
    (goesOn : Meets (after ⟨⟩) (change own) post) :
    Meets
      ((modifyGet fun own => (⟨⟩, change own) :
          Routine Stop Own State Input PUnit) >>= after)
      own post :=
  goesOn

theorem perform
    {program : Program State Input α}
    (isEnd : ∀ result, post (.ok result) own) :
    Meets (Routine.perform program) own post := by
  unfold Meets
  rw [start_perform]
  exact Program.Within.bind (Program.Within.any program) fun result _ =>
    isEnd result

theorem mono
    {weaker : Except Stop α → Own → Prop}
    (meets : Meets routine own post)
    (implies : ∀ result own', post result own' → weaker result own') :
    Meets routine own weaker :=
  Program.Within.mono meets (fun _ _ _ => trivial) fun last =>
    implies last.1 last.2

theorem bind
    {after : α → Routine Stop Own State Input β}
    {mid : Except Stop α → Own → Prop}
    {post : Except Stop β → Own → Prop}
    (first : Meets routine own mid)
    (goesOn :
      ∀ result own', mid (.ok result) own' → Meets (after result) own' post)
    (stops : ∀ stop own', mid (.error stop) own' → post (.error stop) own') :
    Meets (routine >>= after) own post := by
  apply Program.Within.bind first
  rintro ⟨result, own'⟩ met
  cases result with
  | ok result =>
      exact goesOn result own' met
  | error stop =>
      exact stops stop own' met

/-- A routine after a program whose result is not looked at. -/
theorem perform_bind
    {program : Program State Input α}
    {after : α → Routine Stop Own State Input β}
    {post : Except Stop β → Own → Prop}
    (goesOn : ∀ result, Meets (after result) own post) :
    Meets (Routine.perform program >>= after) own post := by
  have first :
      Meets (Routine.perform program : Routine Stop Own State Input α) own
        fun result own' => own' = own ∧ ∃ value, result = .ok value :=
    perform fun result => ⟨rfl, result, rfl⟩
  apply bind first
  · rintro result own' ⟨rfl, -⟩
    exact goesOn result
  · rintro stop own' ⟨-, value, isValue⟩
    cases isValue

/-- A routine after a program, with what is known of its result. -/
theorem ends_bind
    {program : Program State Input α}
    {ends : α → Prop}
    {after : α → Routine Stop Own State Input β}
    {post : Except Stop β → Own → Prop}
    (within : program.Within (fun _ _ => True) ends)
    (goesOn : ∀ result, ends result → Meets (after result) own post) :
    Meets (Routine.perform program >>= after) own post := by
  have first :
      Meets (Routine.perform program : Routine Stop Own State Input α) own
        fun result own' => own' = own ∧ ∃ value, result = .ok value ∧ ends value := by
    unfold Meets
    rw [start_perform]
    exact Program.Within.bind within fun result isEnd =>
      ⟨rfl, result, rfl, isEnd⟩
  apply bind first
  · rintro result own' ⟨rfl, value, isValue, isEnd⟩
    cases isValue
    exact goesOn result isEnd
  · rintro stop own' ⟨-, value, isValue, -⟩
    cases isValue

/-- A routine after one that returns a given result. -/
theorem returned_bind
    {after : α → Routine Stop Own State Input β}
    {value : α}
    {changed : Own}
    {post : Except Stop β → Own → Prop}
    (first :
      Meets routine own fun result own' =>
        result = .ok value ∧ own' = changed)
    (goesOn : Meets (after value) changed post) :
    Meets (routine >>= after) own post := by
  apply bind first
  · rintro result own' ⟨isValue, rfl⟩
    cases isValue
    exact goesOn
  · rintro stop own' ⟨isValue, -⟩
    cases isValue

theorem ite
    {condition : Prop}
    [Decidable condition]
    {first second : Routine Stop Own State Input α}
    (onFirst : condition → Meets first own post)
    (onSecond : ¬ condition → Meets second own post) :
    Meets (if condition then first else second) own post := by
  split
  · exact onFirst ‹_›
  · exact onSecond ‹_›

theorem zoom
    {routine : Routine Stop Own Part Input α}
    (meets : Meets routine own post)
    (view : State → Part)
    (put : Part → State → State) :
    Meets (routine.zoom view put) own post :=
  Program.Within.mono (Program.Within.zoom meets view put)
    (fun _ _ _ => trivial) fun _ => id

/-- What a routine meets is met at the end of every way through it. -/
theorem of_ends
    {result : Except Stop α}
    {own' : Own}
    (meets : Meets routine own post)
    (way : (routine.start own).Ends (result, own')) :
    post result own' := by
  have within :
      (routine.start own).Within (fun _ _ => True) fun last =>
        post last.1 last.2 :=
    meets
  exact within.of_ends way

end Meets

end Meets

section Mirrors

/--
The routine takes the steps of the program and returns a related result; where
it stops, the program crashes or cannot take its next step.
-/
def Mirrors
    (related : α → Own → β → Prop)
    (routine : Routine Stop Own State Input α)
    (own : Own)
    (program : Program State Input β) : Prop :=
  Program.Mirrors
    (fun last other =>
      ∃ result, last.1 = .ok result ∧ related result last.2 other)
    (fun last => ∃ stop, last.1 = .error stop)
    (routine.start own) program

namespace Mirrors

variable
    {related : α → Own → β → Prop}
    {routine : Routine Stop Own State Input α}
    {program : Program State Input β}

theorem pure
    {result : α}
    {other : β}
    (isRelated : related result own other) :
    Mirrors related (Pure.pure result : Routine Stop Own State Input α) own
      (Pure.pure other) :=
  ⟨result, rfl, isRelated⟩

/-- A routine stops where the program waits for ever. -/
theorem throw
    {stop : Stop}
    {next : Input → State → Option State}
    {rest : Input → State → Program State Input β}
    (stuck : ∀ input state, next input state = none) :
    Mirrors related
      (MonadExcept.throw stop : Routine Stop Own State Input α) own
      (.step next rest) :=
  ⟨⟨stop, rfl⟩, stuck⟩

/-- A routine stops where the program crashes. -/
theorem throw_crash
    {stop : Stop} :
    Mirrors related
      (MonadExcept.throw stop : Routine Stop Own State Input α) own
      (.crash : Program State Input β) :=
  ⟨stop, rfl⟩

theorem bind
    {relatedAfter : γ → Own → δ → Prop}
    {after : α → Routine Stop Own State Input γ}
    {after' : β → Program State Input δ}
    (first : Mirrors related routine own program)
    (goesOn :
      ∀ result own' other,
        related result own' other →
          Mirrors relatedAfter (after result) own' (after' other)) :
    Mirrors relatedAfter (routine >>= after) own (program >>= after') := by
  apply Program.Mirrors.bind first
  · rintro ⟨ending, own'⟩ other ⟨result, isResult, isRelated⟩
    cases isResult
    exact goesOn result own' other isRelated
  · rintro ⟨ending, own'⟩ ⟨stop, isStop⟩
    cases isStop
    exact ⟨(.error stop, own'), rfl, stop, rfl⟩

theorem perform
    (program : Program State Input α) :
    Mirrors (fun result own' other => result = other ∧ own' = own)
      (Routine.perform program : Routine Stop Own State Input α) own
      program := by
  unfold Mirrors
  rw [start_perform]
  apply
    (Program.Mirrors.map (fun result => ((.ok result : Except Stop α), own))
      program).mono
  · rintro last other rfl
    exact ⟨other, rfl, rfl, rfl⟩
  · exact fun _ => id

/-- A routine and a program that go on the same way. -/
theorem perform_bind
    {first : Program State Input γ}
    {after : γ → Routine Stop Own State Input α}
    {after' : γ → Program State Input β}
    (goesOn : ∀ result, Mirrors related (after result) own (after' result)) :
    Mirrors related (Routine.perform first >>= after) own
      (first >>= after') := by
  apply bind (perform first)
  rintro result own' other ⟨rfl, rfl⟩
  exact goesOn result

/-- A routine that goes on after a program without a step. -/
theorem perform_end
    {first : Program State Input β}
    {after : β → Routine Stop Own State Input α}
    (isEnd : ∀ result, Mirrors related (after result) own (Pure.pure result)) :
    Mirrors related (Routine.perform first >>= after) own first := by
  have joined :
      Mirrors related (Routine.perform first >>= after) own
        (first >>= fun result => Pure.pure result) :=
    perform_bind isEnd
  rwa [Program.bind_pure] at joined

theorem get_bind
    {after : Own → Routine Stop Own State Input α}
    (goesOn : Mirrors related (after own) own program) :
    Mirrors related (get >>= after) own program :=
  goesOn

theorem modify_bind
    {change : Own → Own}
    {after : PUnit → Routine Stop Own State Input α}
    (goesOn : Mirrors related (after ⟨⟩) (change own) program) :
    Mirrors related
      ((modifyGet fun own => (⟨⟩, change own) :
          Routine Stop Own State Input PUnit) >>= after)
      own program :=
  goesOn

theorem ite
    {condition condition' : Prop}
    [Decidable condition]
    [Decidable condition']
    {first second : Routine Stop Own State Input α}
    {first' second' : Program State Input β}
    (same : condition ↔ condition')
    (onFirst : condition → Mirrors related first own first')
    (onSecond : ¬ condition → Mirrors related second own second') :
    Mirrors related (if condition then first else second) own
      (if condition' then first' else second') := by
  by_cases holds : condition
  · rw [if_pos holds, if_pos (same.mp holds)]
    exact onFirst holds
  · rw [if_neg holds, if_neg (mt same.mpr holds)]
    exact onSecond holds

theorem mono
    {weaker : α → Own → β → Prop}
    (mirrors : Mirrors related routine own program)
    (implies :
      ∀ result own' other,
        related result own' other → weaker result own' other) :
    Mirrors weaker routine own program := by
  apply Program.Mirrors.mono mirrors
  · rintro last other ⟨result, isResult, isRelated⟩
    exact ⟨result, isResult, implies result last.2 other isRelated⟩
  · exact fun _ => id

/-- A routine mirrors a program on a part of the state too. -/
theorem zoom
    {routine : Routine Stop Own Part Input α}
    {program : Program Part Input β}
    (mirrors : Mirrors related routine own program)
    (view : State → Part)
    (put : Part → State → State) :
    Mirrors related (routine.zoom view put) own (program.zoom view put) :=
  Program.Mirrors.zoom mirrors view put

end Mirrors

end Mirrors

end Routine

end Foundation
