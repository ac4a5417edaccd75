import SkynetCpp.Foundation.Program

namespace Foundation

/-!
# Programs that own a part of the state

One thread owns what its program works on; the other threads only move the
state in a way that the owner knows.  Then the program of the owner can be
checked by itself, and it can be shown that none of its steps is ever stuck.
-/

namespace Program

variable
    {State Input : Type}
    {α β : Type}

/--
Between moves of the others, no step of the program is ever stuck; and along
the steps that are considered the program ends with `post`.
-/
def Sure
    (moves allowed : State → State → Prop)
    (post : α → State → Prop) : Program State Input α → State → Prop
  | .done result, state => post result state
  | .crash, _ => True
  | .step next rest, known =>
      ∀ state,
        moves known state →
        ∀ input,
          ∃ state',
            next input state = some state' ∧
              (allowed state state' →
                Sure moves allowed post (rest input state) state')

/-- A program is sure from every state with this knowledge. -/
def Assured
    (moves allowed : State → State → Prop)
    (pre : State → Prop)
    (program : Program State Input α)
    (post : α → State → Prop) : Prop :=
  ∀ state, pre state → Sure moves allowed post program state

variable
    {moves allowed : State → State → Prop}
    {pre : State → Prop}
    {post mid : α → State → Prop}

theorem Sure.bind
    {program : Program State Input α}
    {after : α → Program State Input β}
    {post : β → State → Prop}
    {state : State}
    (first : Sure moves allowed mid program state)
    (second :
      ∀ result state,
        mid result state → Sure moves allowed post (after result) state) :
    Sure moves allowed post (program >>= after) state := by
  induction program generalizing state with
  | done result =>
      exact second result state first
  | crash =>
      trivial
  | step next rest inductionHypothesis =>
      intro moved others input
      obtain ⟨state', taken, later⟩ := first moved others input
      exact
        ⟨state', taken,
          fun considered => inductionHypothesis input moved (later considered)⟩

theorem Sure.mono
    {program : Program State Input α}
    {weaker : α → State → Prop}
    {state : State}
    (sure : Sure moves allowed post program state)
    (implies : ∀ result state, post result state → weaker result state) :
    Sure moves allowed weaker program state := by
  induction program generalizing state with
  | done result =>
      exact implies result state sure
  | crash =>
      trivial
  | step next rest inductionHypothesis =>
      intro moved others input
      obtain ⟨state', taken, later⟩ := sure moved others input
      exact
        ⟨state', taken,
          fun considered => inductionHypothesis input moved (later considered)⟩

/-- Being sure survives the moves of the others. -/
theorem Sure.others
    {program : Program State Input α}
    {state state' : State}
    (moves_trans :
      ∀ {first second third},
        moves first second → moves second third → moves first third)
    (stable :
      ∀ result {state state'},
        moves state state' → post result state → post result state')
    (sure : Sure moves allowed post program state)
    (moved : moves state state') :
    Sure moves allowed post program state' := by
  cases program with
  | done result =>
      exact stable result moved sure
  | crash =>
      trivial
  | step next rest =>
      exact fun later others => sure later (moves_trans moved others)

section Assured

theorem Assured.pure
    {result : α}
    (holds : ∀ state, pre state → post result state) :
    Assured moves allowed pre
      (Pure.pure result : Program State Input α) post :=
  holds

theorem Assured.bind
    {program : Program State Input α}
    {after : α → Program State Input β}
    {post : β → State → Prop}
    (first : Assured moves allowed pre program mid)
    (second :
      ∀ result, Assured moves allowed (mid result) (after result) post) :
    Assured moves allowed pre (program >>= after) post :=
  fun state holds => (first state holds).bind second

theorem Assured.mono
    {program : Program State Input α}
    {stronger : State → Prop}
    {weaker : α → State → Prop}
    (assured : Assured moves allowed pre program post)
    (onPre : ∀ state, stronger state → pre state)
    (onPost : ∀ result state, post result state → weaker result state) :
    Assured moves allowed stronger program weaker :=
  fun state holds => (assured state (onPre state holds)).mono onPost

theorem Assured.act
    {value : Input → State → α}
    {next : Input → State → State}
    (stable : ∀ {state state'}, moves state state' → pre state → pre state')
    (steps :
      ∀ input state,
        pre state →
        allowed state (next input state) →
        post (value input state) (next input state)) :
    Assured moves allowed pre (Program.act value next) post :=
  fun _ holds moved others input =>
    ⟨next input moved, rfl, steps input moved (stable others holds)⟩

theorem Assured.ask
    {value : Input → State → α}
    (stable : ∀ {state state'}, moves state state' → pre state → pre state')
    (learns : ∀ input state, pre state → post (value input state) state) :
    Assured moves allowed pre (Program.ask value) post :=
  fun _ holds moved others input =>
    ⟨moved, rfl, fun _ => learns input moved (stable others holds)⟩

/-- A condition that is checked has to hold. -/
theorem Assured.check
    {condition : Prop}
    [Decidable condition]
    {post : Unit → State → Prop}
    (stable : ∀ {state state'}, moves state state' → pre state → pre state')
    (met : ∀ state, pre state → condition)
    (learns : ∀ state, pre state → post () state) :
    Assured moves allowed pre
      (Program.check condition : Program State Input Unit) post :=
  fun _ holds moved others _ =>
    ⟨moved, if_pos (met moved (stable others holds)),
      fun _ => learns moved (stable others holds)⟩

theorem Assured.ite
    {condition : Prop}
    [Decidable condition]
    {first second : Program State Input α}
    (onFirst : condition → Assured moves allowed pre first post)
    (onSecond : ¬ condition → Assured moves allowed pre second post) :
    Assured moves allowed pre
      (if condition then first else second) post := by
  split
  · exact onFirst ‹_›
  · exact onSecond ‹_›

end Assured

end Program

namespace Machine

variable {Thread State Input Call : Type}

/-- A thread has more to run, and no input lets it take its next step. -/
def Stuck
    (machine : Machine Thread State Input)
    (thread : Thread) : Prop :=
  ∃ next rest,
    machine.program thread = .step next rest ∧
      ∀ input, next input machine.shared = none

/-- The owner is sure, and all the others only make their moves. -/
structure Owned
    (moves allowed : State → State → Prop)
    (ready : State → Prop)
    (owner : Thread)
    (machine : Machine Thread State Input) : Prop where
  sure :
    (machine.program owner).Sure moves allowed (fun _ => ready) machine.shared
  others :
    ∀ thread,
      thread ≠ owner →
      (machine.program thread).Within moves fun _ => True

variable
    {moves allowed : State → State → Prop}
    {ready : State → Prop}
    {owner : Thread}
    {machine : Machine Thread State Input}

/-- An owner that runs nothing is ready. -/
theorem Owned.ready_of_idle
    (owned : Owned moves allowed ready owner machine)
    (isIdle : machine.program owner = .done ()) :
    ready machine.shared := by
  have sure := owned.sure
  rwa [isIdle] at sure

/-- The owner is never stuck. -/
theorem Owned.not_stuck
    [Inhabited Input]
    (owned : Owned moves allowed ready owner machine)
    (moves_refl : ∀ state, moves state state) :
    ¬ machine.Stuck owner := by
  rintro ⟨next, rest, isProgram, isStuck⟩
  have sure := owned.sure
  rw [isProgram] at sure
  obtain ⟨state', taken, _⟩ := sure machine.shared (moves_refl _) default
  rw [isStuck default] at taken
  cases taken

variable [DecidableEq Thread]

/-- One step of a thread, of those that are considered for the owner. -/
theorem Owned.step
    {body : Thread → Call → Program State Input Unit}
    {machine' : Machine Thread State Input}
    {label : Thread × Move Call Input}
    (moves_refl : ∀ state, moves state state)
    (moves_trans :
      ∀ {first second third},
        moves first second → moves second third → moves first third)
    (stable :
      ∀ {state state'}, moves state state' → ready state → ready state')
    (ownBody :
      ∀ call,
        (body owner call).Assured moves allowed ready fun _ => ready)
    (otherBody :
      ∀ thread call,
        thread ≠ owner → (body thread call).Within moves fun _ => True)
    (owned : Owned moves allowed ready owner machine)
    (considered : label.1 = owner → allowed machine.shared machine'.shared)
    (taken : next? body machine label = some machine') :
    Owned moves allowed ready owner machine' := by
  obtain ⟨thread, move⟩ := label
  unfold next? at taken
  cases isProgram : machine.program thread with
  | done result =>
      cases move with
      | advance input =>
          simp [isProgram] at taken
      | call call =>
          simp only [isProgram, Option.some.injEq] at taken
          subst taken
          by_cases isOwner : thread = owner
          · subst isOwner
            refine ⟨?_, fun other different => ?_⟩
            · simp only [Function.update_self]
              exact ownBody call machine.shared (owned.ready_of_idle isProgram)
            · simp only [Function.update_of_ne different]
              exact owned.others other different
          · refine ⟨?_, fun other different => ?_⟩
            · simp only [Function.update_of_ne (Ne.symm isOwner)]
              exact owned.sure
            · by_cases isThread : other = thread
              · subst isThread
                simp only [Function.update_self]
                exact otherBody other call different
              · simp only [Function.update_of_ne isThread]
                exact owned.others other different
  | crash =>
      simp [isProgram] at taken
  | step next rest =>
      cases move with
      | call call =>
          simp [isProgram] at taken
      | advance input =>
          simp only [isProgram, Option.map_eq_some_iff] at taken
          obtain ⟨shared, performed, rfl⟩ := taken
          by_cases isOwner : thread = owner
          · subst isOwner
            have sure := owned.sure
            rw [isProgram] at sure
            obtain ⟨shared', taken, later⟩ :=
              sure machine.shared (moves_refl _) input
            obtain rfl : shared = shared' := by
              rw [performed] at taken
              exact Option.some.inj taken
            refine ⟨?_, fun other different => ?_⟩
            · simp only [Function.update_self]
              exact later (considered rfl)
            · simp only [Function.update_of_ne different]
              exact owned.others other different
          · have ownWithin := owned.others thread isOwner
            rw [isProgram] at ownWithin
            have stepWithin :=
              ownWithin input machine.shared shared performed
            refine ⟨?_, fun other different => ?_⟩
            · simp only [Function.update_of_ne (Ne.symm isOwner)]
              exact
                owned.sure.others moves_trans (fun _ => stable) stepWithin.1
            · by_cases isThread : other = thread
              · subst isThread
                simp only [Function.update_self]
                exact stepWithin.2
              · simp only [Function.update_of_ne isThread]
                exact owned.others other different

end Machine

end Foundation
