import Mathlib.Logic.Function.Basic
import SkynetCpp.Foundation.Run

namespace Foundation

/-!
# Programs that share a state

A thread runs a program: a tree of atomic steps on the shared state, each with
an input from outside.  Threads are reasoned about one at a time, by rely and
guarantee: what a thread knows between its steps has to be stable under the
steps of the others.
-/

/-- What is left to run of a thread. -/
inductive Program (State Input Result : Type) : Type where
  /-- Nothing, with the result. -/
  | done (result : Result)
  /--
  Nothing any more: the process ends here.  Other threads are not stopped, which
  only adds runs.
  -/
  | crash
  /-- One atomic step, which may have to wait, and what comes after it. -/
  | step
      (next : Input → State → Option State)
      (rest : Input → State → Program State Input Result)

namespace Program

variable
    {State Input : Type}
    {α β γ : Type}

/-- Run one program after the other. -/
def bind :
    Program State Input α →
      (α → Program State Input β) →
      Program State Input β
  | .done result, after => after result
  | .crash, _ => .crash
  | .step next rest, after =>
      .step next fun input state => (rest input state).bind after

instance : Monad (Program State Input) where
  pure := .done
  bind := bind

@[simp] theorem pure_eq_done
    (result : α) :
    (pure result : Program State Input α) = .done result :=
  rfl

@[simp] theorem done_bind
    (result : α)
    (after : α → Program State Input β) :
    (Program.done result >>= after) = after result :=
  rfl

@[simp] theorem crash_bind
    (after : α → Program State Input β) :
    (Program.crash >>= after) = .crash :=
  rfl

@[simp] theorem step_bind
    (next : Input → State → Option State)
    (rest : Input → State → Program State Input α)
    (after : α → Program State Input β) :
    (Program.step next rest >>= after) =
      .step next fun input state => rest input state >>= after :=
  rfl

theorem bind_assoc
    (program : Program State Input α)
    (after : α → Program State Input β)
    (last : β → Program State Input γ) :
    (program >>= after) >>= last =
      program >>= fun result => after result >>= last := by
  induction program with
  | done result =>
      rfl
  | crash =>
      rfl
  | step next rest inductionHypothesis =>
      simp only [step_bind, inductionHypothesis]

section Primitives

/-- Look at the state, or take an input. -/
def ask (value : Input → State → α) : Program State Input α :=
  .step (fun _ state => some state) fun input state => .done (value input state)

/-- Change the state. -/
def act
    (value : Input → State → α)
    (next : Input → State → State) : Program State Input α :=
  .step (fun input state => some (next input state))
    fun input state => .done (value input state)

/-- Change the state, or wait while there is no next state. -/
def attempt
    (value : State → α)
    (next : State → Option State) : Program State Input α :=
  .step (fun _ state => next state) fun _ state => .done (value state)

/-- Go on only under a condition on what the thread knows. -/
def check
    (condition : Prop)
    [Decidable condition] : Program State Input Unit :=
  .step (fun _ state => if condition then some state else none)
    fun _ _ => .done ()

end Primitives

section Zoom

variable {Part : Type}

/-- Run a program on a part of the state. -/
def zoom
    (view : State → Part)
    (put : Part → State → State) :
    Program Part Input α → Program State Input α
  | .done result => .done result
  | .crash => .crash
  | .step next rest =>
      .step
        (fun input state =>
          (next input (view state)).map fun part => put part state)
        fun input state => (rest input (view state)).zoom view put

variable
    (view : State → Part)
    (put : Part → State → State)

@[simp] theorem zoom_pure
    (result : α) :
    (Pure.pure result : Program Part Input α).zoom view put =
      Pure.pure result :=
  rfl

@[simp] theorem zoom_bind
    (program : Program Part Input α)
    (after : α → Program Part Input β) :
    (program >>= after).zoom view put =
      program.zoom view put >>= fun result => (after result).zoom view put := by
  induction program with
  | done result =>
      rfl
  | crash =>
      rfl
  | step next rest inductionHypothesis =>
      simp only [step_bind, zoom, inductionHypothesis]

@[simp] theorem zoom_ite
    (condition : Prop)
    [Decidable condition]
    (first second : Program Part Input α) :
    (if condition then first else second).zoom view put =
      if condition then first.zoom view put else second.zoom view put := by
  split <;> rfl

@[simp] theorem zoom_act
    (value : Input → Part → α)
    (next : Input → Part → Part) :
    (act value next).zoom view put =
      act (fun input state => value input (view state))
        fun input state => put (next input (view state)) state :=
  rfl

@[simp] theorem zoom_attempt
    (value : Part → α)
    (next : Part → Option Part) :
    (attempt value next : Program Part Input α).zoom view put =
      attempt (fun state => value (view state)) fun state =>
        (next (view state)).map fun part => put part state :=
  rfl

variable {view put}

/-- Looking at a part changes nothing of a state that is put back. -/
theorem zoom_ask
    (lawful : ∀ state, put (view state) state = state)
    (value : Input → Part → α) :
    (ask value).zoom view put =
      ask fun input state => value input (view state) := by
  simp only [ask, zoom, Option.map_some, lawful]

theorem zoom_check
    (lawful : ∀ state, put (view state) state = state)
    (condition : Prop)
    [Decidable condition] :
    (check condition : Program Part Input Unit).zoom view put =
      check condition := by
  simp only [check, zoom]
  congr 1
  funext _ state
  split
  · rw [Option.map_some, lawful]
  · rfl

end Zoom

section Within

/--
Every step of the program moves the state by the effect, and every result meets
the condition.
-/
def Within
    (effect : State → State → Prop)
    (ends : α → Prop) : Program State Input α → Prop
  | .done result => ends result
  | .crash => True
  | .step next rest =>
      ∀ input state state',
        next input state = some state' →
          effect state state' ∧ (rest input state).Within effect ends

variable
    {effect : State → State → Prop}
    {ends : α → Prop}

theorem Within.pure
    {result : α}
    (isEnd : ends result) :
    (Pure.pure result : Program State Input α).Within effect ends :=
  isEnd

theorem Within.bind
    {program : Program State Input α}
    {after : α → Program State Input β}
    {ends : β → Prop}
    {mid : α → Prop}
    (first : program.Within effect mid)
    (second : ∀ result, mid result → (after result).Within effect ends) :
    (program >>= after).Within effect ends := by
  induction program with
  | done result =>
      exact second result first
  | crash =>
      trivial
  | step next rest inductionHypothesis =>
      intro input state state' taken
      have stepWithin := first input state state' taken
      exact ⟨stepWithin.1, inductionHypothesis input state stepWithin.2⟩

theorem Within.mono
    {program : Program State Input α}
    {larger : State → State → Prop}
    {weaker : α → Prop}
    (within : program.Within effect ends)
    (implies : ∀ state state', effect state state' → larger state state')
    (onEnds : ∀ result, ends result → weaker result) :
    program.Within larger weaker := by
  induction program with
  | done result =>
      exact onEnds result within
  | crash =>
      trivial
  | step next rest inductionHypothesis =>
      intro input state state' taken
      have stepWithin := within input state state' taken
      exact
        ⟨implies _ _ stepWithin.1,
          inductionHypothesis input state stepWithin.2⟩

theorem Within.ask
    {value : Input → State → α}
    (unchanged : ∀ state, effect state state)
    (isEnd : ∀ input state, ends (value input state)) :
    (Program.ask value).Within effect ends := by
  intro input state state' taken
  cases taken
  exact ⟨unchanged state, isEnd input state⟩

theorem Within.act
    {value : Input → State → α}
    {next : Input → State → State}
    (moves :
      ∀ input state,
        effect state (next input state) ∧ ends (value input state)) :
    (Program.act value next).Within effect ends := by
  intro input state state' taken
  cases taken
  exact moves input state

theorem Within.attempt
    {value : State → α}
    {next : State → Option State}
    (moves :
      ∀ state state',
        next state = some state' → effect state state' ∧ ends (value state)) :
    (Program.attempt value next : Program State Input α).Within effect ends :=
  fun _ state state' taken => moves state state' taken

theorem Within.check
    {condition : Prop}
    [Decidable condition]
    {ends : Unit → Prop}
    (unchanged : ∀ state, effect state state)
    (isEnd : condition → ends ()) :
    (Program.check condition : Program State Input Unit).Within
      effect ends := by
  intro input state state' taken
  dsimp only at taken
  split at taken
  · rename_i met
    cases taken
    exact ⟨unchanged state, isEnd met⟩
  · cases taken

theorem Within.ite
    {condition : Prop}
    [Decidable condition]
    {first second : Program State Input α}
    (onFirst : condition → first.Within effect ends)
    (onSecond : ¬ condition → second.Within effect ends) :
    (if condition then first else second).Within effect ends := by
  split
  · exact onFirst ‹_›
  · exact onSecond ‹_›

/-- What a program does to its part is all that it does. -/
theorem Within.zoom
    {Part : Type}
    {program : Program Part Input α}
    {effect : Part → Part → Prop}
    (within : program.Within effect ends)
    (view : State → Part)
    (put : Part → State → State) :
    (program.zoom view put).Within
      (fun state state' => ∃ part, effect (view state) part ∧
        state' = put part state) ends := by
  induction program with
  | done result =>
      exact within
  | crash =>
      trivial
  | step next rest inductionHypothesis =>
      intro input state state' taken
      obtain ⟨part, performed, rfl⟩ := Option.map_eq_some_iff.mp taken
      have stepWithin := within input (view state) part performed
      exact
        ⟨⟨part, stepWithin.1, rfl⟩,
          inductionHypothesis input (view state) stepWithin.2⟩

/-- Every program moves the state somehow. -/
theorem Within.any
    (program : Program State Input α) :
    program.Within (fun _ _ => True) fun _ => True := by
  induction program with
  | done result =>
      trivial
  | crash =>
      trivial
  | step next rest inductionHypothesis =>
      exact fun input state _ _ => ⟨trivial, inductionHypothesis input state⟩

/-- Results that are not looked at. -/
theorem Within.free
    {program : Program State Input α}
    (within : program.Within effect ends) :
    program.Within effect fun _ => True :=
  within.mono (fun _ _ moved => moved) (fun _ _ => trivial)

end Within

section Follows

/-- Every step of the program moves the state by the effect. -/
abbrev Follows
    (effect : State → State → Prop)
    (program : Program State Input α) : Prop :=
  program.Within effect fun _ => True

variable {effect : State → State → Prop}

namespace Follows

theorem pure
    (result : α) :
    (Pure.pure result : Program State Input α).Follows effect :=
  trivial

theorem bind
    {program : Program State Input α}
    {after : α → Program State Input β}
    (first : program.Follows effect)
    (second : ∀ result, (after result).Follows effect) :
    (program >>= after).Follows effect :=
  Within.bind first fun result _ => second result

theorem ite
    {condition : Prop}
    [Decidable condition]
    {first second : Program State Input α}
    (onFirst : first.Follows effect)
    (onSecond : second.Follows effect) :
    (if condition then first else second).Follows effect :=
  Within.ite (fun _ => onFirst) (fun _ => onSecond)

theorem andM
    {first second : Program State Input Bool}
    (onFirst : first.Follows effect)
    (onSecond : second.Follows effect) :
    (first <&&> second).Follows effect := by
  refine bind onFirst fun result => ?_
  cases result
  · exact pure _
  · exact onSecond

theorem orM
    {first second : Program State Input Bool}
    (onFirst : first.Follows effect)
    (onSecond : second.Follows effect) :
    (first <||> second).Follows effect := by
  refine bind onFirst fun result => ?_
  cases result
  · exact onSecond
  · exact pure _

theorem act
    {value : Input → State → α}
    {next : Input → State → State}
    (moves : ∀ input state, effect state (next input state)) :
    (Program.act value next).Follows effect :=
  Within.act fun input state => ⟨moves input state, trivial⟩

theorem attempt
    {value : State → α}
    {next : State → Option State}
    (moves : ∀ state state', next state = some state' → effect state state') :
    (Program.attempt value next : Program State Input α).Follows effect :=
  Within.attempt fun state state' taken => ⟨moves state state' taken, trivial⟩

theorem mono
    {program : Program State Input α}
    {larger : State → State → Prop}
    (follows : program.Follows effect)
    (implies : ∀ state state', effect state state' → larger state state') :
    program.Follows larger :=
  Within.mono follows implies fun _ _ => trivial

variable [Std.Refl effect]

theorem ask
    (value : Input → State → α) :
    (Program.ask value).Follows effect :=
  Within.ask Std.Refl.refl (fun _ _ => trivial)

theorem check
    (condition : Prop)
    [Decidable condition] :
    (Program.check condition : Program State Input Unit).Follows effect :=
  Within.check Std.Refl.refl (fun _ => trivial)

end Follows

end Follows

end Program

section Discipline

/--
How threads share a state: what all of them keep, what each may do and what
each may find done by the others, and what each knows while it runs nothing.
-/
structure Discipline (Thread State : Type) where
  invariant : State → Prop
  /-- The steps that are considered. -/
  allowed : State → State → Prop
  guarantee : Thread → State → State → Prop
  rely : Thread → State → State → Prop
  ready : Thread → State → Prop
  rely_refl : ∀ thread state, rely thread state state
  rely_trans :
    ∀ {thread first second third},
      rely thread first second →
      rely thread second third →
      rely thread first third
  rely_of_guarantee :
    ∀ {thread other state state'},
      thread ≠ other →
      invariant state →
      invariant state' →
      guarantee thread state state' →
      rely other state state'
  ready_stable :
    ∀ {thread state state'},
      rely thread state state' →
      ready thread state →
      ready thread state'

variable
    {Thread State Input : Type}
    {α β : Type}

namespace Discipline

variable (discipline : Discipline Thread State) (thread : Thread)

/-- The others do not disturb this knowledge of a thread. -/
def Stable (known : State → Prop) : Prop :=
  ∀ {state state'},
    discipline.rely thread state state' → known state → known state'

/--
Whatever the others do between the steps, every step of the program keeps the
invariant and the guarantee, and the end of the program knows `post`.
-/
def Safe (post : α → State → Prop) : Program State Input α → State → Prop
  | .done result, state => post result state
  | .crash, _ => True
  | .step next rest, known =>
      ∀ state,
        discipline.rely thread known state →
        discipline.invariant state →
        ∀ input state',
          next input state = some state' →
          discipline.allowed state state' →
          discipline.invariant state' ∧
            discipline.guarantee thread state state' ∧
            Safe post (rest input state) state'

/-- A program is safe from every state with this knowledge. -/
def Triple
    (pre : State → Prop)
    (program : Program State Input α)
    (post : α → State → Prop) : Prop :=
  ∀ state, pre state → discipline.Safe thread post program state

variable
    {discipline}
    {thread}
    {pre known : State → Prop}
    {post mid : α → State → Prop}

section Rules

theorem Stable.and
    (first : discipline.Stable thread pre)
    (second : discipline.Stable thread known) :
    discipline.Stable thread fun state => pre state ∧ known state :=
  fun moved holds => ⟨first moved holds.1, second moved holds.2⟩

theorem Stable.const
    (fact : Prop) :
    discipline.Stable thread fun _ => fact :=
  fun _ holds => holds

theorem Stable.imp
    (fact : Prop)
    (stable : discipline.Stable thread known) :
    discipline.Stable thread fun state => fact → known state :=
  fun moved holds given => stable moved (holds given)

theorem Stable.ready :
    discipline.Stable thread (discipline.ready thread) :=
  discipline.ready_stable

theorem Safe.bind
    {program : Program State Input α}
    {after : α → Program State Input β}
    {post : β → State → Prop}
    {state : State}
    (first : discipline.Safe thread mid program state)
    (second :
      ∀ result state,
        mid result state → discipline.Safe thread post (after result) state) :
    discipline.Safe thread post (program >>= after) state := by
  induction program generalizing state with
  | done result =>
      exact second result state first
  | crash =>
      trivial
  | step next rest inductionHypothesis =>
      intro moved others holds input state' taken allowed
      have stepSafe := first moved others holds input state' taken allowed
      exact
        ⟨stepSafe.1, stepSafe.2.1,
          inductionHypothesis input moved stepSafe.2.2⟩

theorem Safe.mono
    {program : Program State Input α}
    {weaker : α → State → Prop}
    {state : State}
    (safe : discipline.Safe thread post program state)
    (implies : ∀ result state, post result state → weaker result state) :
    discipline.Safe thread weaker program state := by
  induction program generalizing state with
  | done result =>
      exact implies result state safe
  | crash =>
      trivial
  | step next rest inductionHypothesis =>
      intro moved others holds input state' taken allowed
      have stepSafe := safe moved others holds input state' taken allowed
      exact
        ⟨stepSafe.1, stepSafe.2.1,
          inductionHypothesis input moved stepSafe.2.2⟩

theorem Triple.pure
    {result : α}
    (holds : ∀ state, pre state → post result state) :
    discipline.Triple thread pre
      (Pure.pure result : Program State Input α) post :=
  holds

theorem Triple.bind
    {program : Program State Input α}
    {after : α → Program State Input β}
    {post : β → State → Prop}
    (first : discipline.Triple thread pre program mid)
    (second :
      ∀ result, discipline.Triple thread (mid result) (after result) post) :
    discipline.Triple thread pre (program >>= after) post :=
  fun state holds => (first state holds).bind second

theorem Triple.mono
    {program : Program State Input α}
    {stronger : State → Prop}
    {weaker : α → State → Prop}
    (triple : discipline.Triple thread pre program post)
    (onPre : ∀ state, stronger state → pre state)
    (onPost : ∀ result state, post result state → weaker result state) :
    discipline.Triple thread stronger program weaker :=
  fun state holds => (triple state (onPre state holds)).mono onPost

/-- A fact that does not speak of the state can be assumed. -/
theorem Triple.given
    {program : Program State Input α}
    {fact : Prop}
    (triple : fact → discipline.Triple thread pre program post) :
    discipline.Triple thread (fun state => fact ∧ pre state) program post :=
  fun state holds => triple holds.1 state holds.2

theorem Triple.ask
    {value : Input → State → α}
    (unchanged : ∀ state, discipline.guarantee thread state state)
    (stable : discipline.Stable thread pre)
    (learns :
      ∀ input state,
        pre state →
        discipline.invariant state →
        post (value input state) state) :
    discipline.Triple thread pre (Program.ask value) post := by
  intro state holds moved others invariant input state' taken allowed
  cases taken
  exact
    ⟨invariant, unchanged moved,
      learns input moved (stable others holds) invariant⟩

theorem Triple.act
    {value : Input → State → α}
    {next : Input → State → State}
    (stable : discipline.Stable thread pre)
    (moves :
      ∀ input state,
        pre state →
        discipline.invariant state →
        discipline.allowed state (next input state) →
        discipline.invariant (next input state) ∧
          discipline.guarantee thread state (next input state) ∧
          post (value input state) (next input state)) :
    discipline.Triple thread pre (Program.act value next) post := by
  intro state holds moved others invariant input state' taken allowed
  cases taken
  exact moves input moved (stable others holds) invariant allowed

theorem Triple.attempt
    {value : State → α}
    {next : State → Option State}
    (stable : discipline.Stable thread pre)
    (moves :
      ∀ state state',
        pre state →
        next state = some state' →
        discipline.invariant state →
        discipline.allowed state state' →
        discipline.invariant state' ∧
          discipline.guarantee thread state state' ∧
          post (value state) state') :
    discipline.Triple thread pre
      (Program.attempt value next : Program State Input α) post :=
  fun _ holds moved others invariant _ state' taken allowed =>
    moves moved state' (stable others holds) taken invariant allowed

theorem Triple.check
    {condition : Prop}
    [Decidable condition]
    {post : Unit → State → Prop}
    (unchanged : ∀ state, discipline.guarantee thread state state)
    (stable : discipline.Stable thread pre)
    (learns : ∀ state, pre state → condition → post () state) :
    discipline.Triple thread pre
      (Program.check condition : Program State Input Unit) post := by
  intro state holds moved others invariant input state' taken allowed
  split at taken
  · rename_i met
    cases taken
    exact
      ⟨invariant, unchanged moved,
        learns moved (stable others holds) met⟩
  · cases taken

/-- Safety of a thread survives the steps of the others. -/
theorem Safe.others
    {program : Program State Input α}
    {state state' : State}
    (safe : discipline.Safe thread post program state)
    (stable : ∀ result, discipline.Stable thread (post result))
    (moved : discipline.rely thread state state') :
    discipline.Safe thread post program state' := by
  cases program with
  | done result =>
      exact stable result moved safe
  | crash =>
      trivial
  | step next rest =>
      exact fun later others =>
        safe later (discipline.rely_trans moved others)

/-- A program whose effect leaves alone what is known does not disturb it. -/
theorem Triple.within
    {program : Program State Input α}
    {effect : State → State → Prop}
    {ends : α → Prop}
    (within : program.Within effect ends)
    (stable : discipline.Stable thread pre)
    (keeps :
      ∀ state state',
        pre state →
        effect state state' →
        discipline.invariant state →
        discipline.allowed state state' →
        discipline.invariant state' ∧
          discipline.guarantee thread state state' ∧
          pre state') :
    discipline.Triple thread pre program fun result state =>
      ends result ∧ pre state := by
  induction program with
  | done result =>
      exact fun state holds => ⟨within, holds⟩
  | crash =>
      exact fun _ _ => trivial
  | step next rest inductionHypothesis =>
      intro state holds moved others invariant input state' taken allowed
      have stepWithin := within input moved state' taken
      have kept :=
        keeps moved state' (stable others holds) stepWithin.1 invariant allowed
      exact
        ⟨kept.1, kept.2.1,
          inductionHypothesis input moved stepWithin.2 state' kept.2.2⟩

/-- What neither the program nor the others disturb is known at the end. -/
theorem Triple.frame
    {program : Program State Input α}
    {effect : State → State → Prop}
    (triple : discipline.Triple thread pre program post)
    (follows : program.Follows effect)
    (stable : discipline.Stable thread known)
    (keeps : ∀ state state', effect state state' → known state → known state') :
    discipline.Triple thread (fun state => pre state ∧ known state) program
      fun result state => post result state ∧ known state := by
  have framed :
      ∀ state,
        discipline.Safe thread post program state →
          known state →
            discipline.Safe thread
              (fun result state => post result state ∧ known state)
              program state := by
    clear triple
    induction program with
    | done result =>
        exact fun state holds isKnown => ⟨holds, isKnown⟩
    | crash =>
        exact fun _ _ _ => trivial
    | step next rest inductionHypothesis =>
        intro state safe isKnown moved others invariant input state' taken
          allowed
        have stepSafe := safe moved others invariant input state' taken allowed
        have stepFollows := follows input moved state' taken
        exact
          ⟨stepSafe.1, stepSafe.2.1,
            inductionHypothesis input moved stepFollows.2 state' stepSafe.2.2
              (keeps moved state' stepFollows.1 (stable others isKnown))⟩
  exact fun state holds => framed state (triple state holds.1) holds.2

theorem Triple.ite
    {condition : Prop}
    [Decidable condition]
    {first second : Program State Input α}
    (onFirst : condition → discipline.Triple thread pre first post)
    (onSecond : ¬ condition → discipline.Triple thread pre second post) :
    discipline.Triple thread pre
      (if condition then first else second) post := by
  split
  · exact onFirst ‹_›
  · exact onSecond ‹_›

end Rules

end Discipline

end Discipline

section Machine

/-- The shared state and what is left to run of every thread. -/
structure Machine (Thread State Input : Type) where
  shared : State
  program : Thread → Program State Input Unit

/-- What a thread does next. -/
inductive Move (Call Input : Type) where
  | call (call : Call)
  | advance (input : Input)
  deriving DecidableEq

variable {Thread State Input Call : Type}

namespace Machine

/-- Threads that run nothing yet. -/
def idle (shared : State) : Machine Thread State Input where
  shared := shared
  program := fun _ => .done ()

/-- One step of one thread; an idle thread may begin a call. -/
def next?
    [DecidableEq Thread]
    (body : Thread → Call → Program State Input Unit)
    (machine : Machine Thread State Input)
    (label : Thread × Move Call Input) :
    Option (Machine Thread State Input) :=
  match machine.program label.1, label.2 with
  | .done _, .call call =>
      some
        { machine with
          program :=
            Function.update machine.program label.1 (body label.1 call) }
  | .step next rest, .advance input =>
      (next input machine.shared).map fun shared =>
        { shared := shared
          program :=
            Function.update machine.program label.1
              (rest input machine.shared) }
  | _, _ => none

/-- A thread runs alone, with the same input in every step. -/
def solo
    {α : Type}
    (input : Input) :
    Nat →
      Program State Input α × State →
      Option (Program State Input α × State)
  | 0, reached => some reached
  | steps + 1, (.step next rest, state) =>
      (next input state).bind fun state' =>
        solo input steps (rest input state, state')
  | _ + 1, (.done _, _) => none
  | _ + 1, (.crash, _) => none

theorem solo_add
    {α : Type}
    {input : Input}
    (first second : Nat)
    (reached : Program State Input α × State) :
    solo input (first + second) reached =
      (solo input first reached).bind (solo input second) := by
  induction first generalizing reached with
  | zero =>
      rw [Nat.zero_add]
      rfl
  | succ first inductionHypothesis =>
      rw [Nat.succ_add]
      obtain ⟨program, state⟩ := reached
      cases program with
      | done result =>
          rfl
      | crash =>
          rfl
      | step next rest =>
          simp only [solo]
          cases next input state with
          | none =>
              rfl
          | some state' =>
              exact inductionHypothesis (rest input state, state')

/-- A thread that runs alone gets from one program and state to another. -/
def Alone
    {α : Type}
    (input : Input)
    (before after : Program State Input α × State) : Prop :=
  ∃ steps, solo input steps before = some after

theorem Alone.refl
    {α : Type}
    (input : Input)
    (reached : Program State Input α × State) :
    Alone input reached reached :=
  ⟨0, rfl⟩

theorem Alone.trans
    {α : Type}
    {input : Input}
    {first second third : Program State Input α × State}
    (earlier : Alone input first second)
    (later : Alone input second third) :
    Alone input first third := by
  obtain ⟨firstSteps, isSecond⟩ := earlier
  obtain ⟨secondSteps, isThird⟩ := later
  exact ⟨firstSteps + secondSteps, by rw [solo_add, isSecond]; exact isThird⟩

/-- A change of the state, and what the thread does after it. -/
theorem Alone.act
    {α β : Type}
    {input : Input}
    {value : Input → State → α}
    {next : Input → State → State}
    {after : α → Program State Input β}
    {state : State}
    {reached : Program State Input β × State}
    (later : Alone input (after (value input state), next input state) reached) :
    Alone input (Program.act value next >>= after, state) reached := by
  obtain ⟨steps, isReached⟩ := later
  exact ⟨steps + 1, isReached⟩

/-- A look at the state, and what the thread does after it. -/
theorem Alone.ask
    {α β : Type}
    {input : Input}
    {value : Input → State → α}
    {after : α → Program State Input β}
    {state : State}
    {reached : Program State Input β × State}
    (later : Alone input (after (value input state), state) reached) :
    Alone input (Program.ask value >>= after, state) reached := by
  obtain ⟨steps, isReached⟩ := later
  exact ⟨steps + 1, isReached⟩

/-- A thread that runs alone ends in one way. -/
theorem Alone.unique
    {α : Type}
    {input : Input}
    {before : Program State Input α × State}
    {first second : α}
    {state state' : State}
    (one : Alone input before (.done first, state))
    (other : Alone input before (.done second, state')) :
    first = second ∧ state = state' := by
  obtain ⟨steps, isFirst⟩ := one
  obtain ⟨steps', isSecond⟩ := other
  induction steps generalizing steps' before with
  | zero =>
      cases isFirst
      cases steps' with
      | zero =>
          cases isSecond
          exact ⟨rfl, rfl⟩
      | succ steps' =>
          cases isSecond
  | succ steps inductionHypothesis =>
      obtain ⟨program, here⟩ := before
      cases program with
      | done result =>
          cases isFirst
      | crash =>
          cases isFirst
      | step next rest =>
          cases steps' with
          | zero =>
              cases isSecond
          | succ steps' =>
              simp only [solo, Option.bind_eq_some_iff] at isFirst isSecond
              obtain ⟨moved, taken, isFirst⟩ := isFirst
              obtain ⟨moved', taken', isSecond⟩ := isSecond
              cases taken.symm.trans taken'
              exact inductionHypothesis isFirst steps' isSecond

end Machine

namespace Discipline

variable
    (discipline : Discipline Thread State)
    (body : Thread → Call → Program State Input Unit)
    (permitted : Thread → Call → Prop)

/-- Every call that is considered is safe and leaves its thread ready. -/
def Sound : Prop :=
  ∀ thread call,
    permitted thread call →
    discipline.Triple thread (discipline.ready thread) (body thread call)
      fun _ => discipline.ready thread

/-- What holds along every run: the invariant, and that all threads are safe. -/
structure Holds (machine : Machine Thread State Input) : Prop where
  invariant : discipline.invariant machine.shared
  safe :
    ∀ thread,
      discipline.Safe thread (fun _ => discipline.ready thread)
        (machine.program thread) machine.shared

variable {discipline body permitted}

/-- A thread that runs nothing is ready. -/
theorem Holds.ready
    {machine : Machine Thread State Input}
    (holds : discipline.Holds machine)
    {thread : Thread}
    (isIdle : machine.program thread = .done ()) :
    discipline.ready thread machine.shared := by
  have ownSafe := holds.safe thread
  rwa [isIdle] at ownSafe

variable [DecidableEq Thread]

variable (discipline body permitted) in
/-- The condition on the steps of a run. -/
structure Considered
    (machine : Machine Thread State Input)
    (label : Thread × Move Call Input) : Prop where
  call : ∀ call, label.2 = .call call → permitted label.1 call
  step :
    ∀ machine',
      Machine.next? body machine label = some machine' →
      discipline.allowed machine.shared machine'.shared

theorem Holds.step
    (sound : discipline.Sound body permitted)
    {machine machine' : Machine Thread State Input}
    {label : Thread × Move Call Input}
    (holds : discipline.Holds machine)
    (considered : discipline.Considered body permitted machine label)
    (taken : Machine.next? body machine label = some machine') :
    discipline.Holds machine' := by
  obtain ⟨thread, move⟩ := label
  have permittedCall := considered.call
  have allowed := considered.step machine' taken
  have ownSafe := holds.safe thread
  unfold Machine.next? at taken
  cases isProgram : machine.program thread with
  | done result =>
      rw [isProgram] at ownSafe
      cases move with
      | advance input =>
          simp [isProgram] at taken
      | call call =>
          simp only [isProgram, Option.some.injEq] at taken
          subst taken
          refine ⟨holds.invariant, fun other => ?_⟩
          by_cases isOther : other = thread
          · subst isOther
            simp only [Function.update_self]
            exact
              sound other call (permittedCall call rfl) machine.shared ownSafe
          · simp only [Function.update_of_ne isOther]
            exact holds.safe other
  | crash =>
      simp [isProgram] at taken
  | step next rest =>
      rw [isProgram] at ownSafe
      cases move with
      | call call =>
          simp [isProgram] at taken
      | advance input =>
          simp only [isProgram, Option.map_eq_some_iff] at taken
          obtain ⟨shared, performed, rfl⟩ := taken
          have stepSafe :=
            ownSafe machine.shared (discipline.rely_refl thread machine.shared)
              holds.invariant input shared performed allowed
          refine ⟨stepSafe.1, fun other => ?_⟩
          by_cases isOther : other = thread
          · subst isOther
            simp only [Function.update_self]
            exact stepSafe.2.2
          · simp only [Function.update_of_ne isOther]
            exact
              (holds.safe other).others
                (fun _ => discipline.ready_stable)
                (discipline.rely_of_guarantee (Ne.symm isOther)
                  holds.invariant stepSafe.1 stepSafe.2.1)

/-- The invariant and the safety of all threads hold along every run. -/
theorem holds_visited
    (sound : discipline.Sound body permitted)
    {shared : State}
    (start : discipline.invariant shared)
    (ready : ∀ thread, discipline.ready thread shared)
    {final : Machine Thread State Input}
    {past :
      List (Machine Thread State Input × (Thread × Move Call Input))}
    (run :
      Run (Run.Steps (Machine.next? body)) (Machine.idle shared) past final)
    (considered :
      ∀ machine label,
        (machine, label) ∈ past →
        discipline.Considered body permitted machine label) :
    ∀ machine ∈ Run.visited past final, discipline.Holds machine :=
  Run.invariant_visited run
    ⟨start, fun thread => ready thread⟩
    (fun holds guarded taken => Holds.step sound holds guarded taken)
    (fun inPast => considered _ _ inPast)

/-- Threads that know no more of each other than the invariant. -/
def only (invariant : State → Prop) : Discipline Thread State where
  invariant := invariant
  allowed _ _ := True
  guarantee _ _ _ := True
  rely _ _ _ := True
  ready _ _ := True
  rely_refl _ _ := trivial
  rely_trans _ _ := trivial
  rely_of_guarantee _ _ _ _ := trivial
  ready_stable _ _ := trivial

/-- What every step of every thread keeps holds along every run. -/
theorem kept_visited
    {invariant : State → Prop}
    (keeps :
      ∀ thread call,
        (body thread call).Follows fun state state' =>
          invariant state → invariant state')
    {shared : State}
    (start : invariant shared)
    {final : Machine Thread State Input}
    {past :
      List (Machine Thread State Input × (Thread × Move Call Input))}
    (run :
      Run (Run.Steps (Machine.next? body)) (Machine.idle shared) past final) :
    ∀ machine ∈ Run.visited past final, invariant machine.shared := by
  have sound :
      (only invariant : Discipline Thread State).Sound body
        fun _ _ => True :=
    fun thread call _ =>
      (Triple.within (keeps thread call) (fun _ _ => trivial)
        fun _ _ _ step holds _ => ⟨step holds, trivial, trivial⟩).mono
          (fun _ _ => trivial) fun _ _ _ => trivial
  intro machine visited
  exact
    (holds_visited sound start (fun _ => trivial) run
      (fun _ _ _ => ⟨fun _ _ => trivial, fun _ _ => trivial⟩)
      machine visited).invariant

end Discipline

end Machine

end Foundation
