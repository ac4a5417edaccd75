import Mathlib.Logic.Function.Basic
import SkynetCpp.Foundation.Run

namespace SkynetCpp.Spinlock

open Foundation

/-!
# The spinlock

`spinlock.h` as a step relation: every atomic operation on the lock is one step,
and so is every operation on what the lock guards.  A section is the list of its
operations; whatever threads do at the same time, sections take effect one after
another.
-/

variable {Data Thread : Type}

/-- A section under the lock, by its operations on the guarded data. -/
abbrev Section (Data : Type) := List (Data → Data)

/-- The next operation of a thread. -/
inductive Pc (Data : Type) where
  /-- Outside the lock's functions and sections. -/
  | idle
  /-- `spinlock_lock`: about to exchange. -/
  | lockExchange (body : Section Data)
  /-- `spinlock_lock`: waiting until the lock is 0. -/
  | lockLoad (body : Section Data)
  /-- `spinlock_trylock`: about to load. -/
  | trylockLoad (body : Section Data)
  /-- `spinlock_trylock`: about to exchange. -/
  | trylockExchange (body : Section Data)
  /-- Behind the lock, with the operations done and left before `spinlock_unlock`. -/
  | holding (past left : Section Data)

/-- What a thread does next. -/
inductive Action (Data : Type) where
  | lock (body : Section Data)
  | trylock (body : Section Data)
  | advance

/-- The lock, what it guards, the place of every thread, and the sections so far. -/
structure State (Data Thread : Type) where
  lock : Int
  data : Data
  pc : Thread → Pc Data
  /-- The sections that were begun, first one first. -/
  begun : List (Section Data)
  /-- The sections that were unlocked, first one first. -/
  unlocked : List (Section Data)

namespace State

/-- Move one thread. -/
def move
    [DecidableEq Thread]
    (s : State Data Thread)
    (thread : Thread)
    (pc : Pc Data) : State Data Thread :=
  { s with pc := Function.update s.pc thread pc }

@[simp] theorem pc_move_self
    [DecidableEq Thread]
    (s : State Data Thread)
    (thread : Thread)
    (pc : Pc Data) :
    (s.move thread pc).pc thread = pc := by
  simp [move]

theorem pc_move_of_ne
    [DecidableEq Thread]
    (s : State Data Thread)
    {thread other : Thread}
    (pc : Pc Data)
    (different : other ≠ thread) :
    (s.move thread pc).pc other = s.pc other := by
  simp [move, different]

/-- The exchange of 1 into the lock, by a thread that enters or is refused. -/
def exchange
    [DecidableEq Thread]
    (s : State Data Thread)
    (thread : Thread)
    (body : Section Data)
    (refused : Pc Data) : State Data Thread :=
  if s.lock = 0 then
    { s with lock := 1, begun := s.begun ++ [body] }.move thread
      (.holding [] body)
  else
    { s with lock := 1 }.move thread refused

end State

/-- `spinlock_init`, and threads that do not use the lock yet. -/
def start (data : Data) : State Data Thread where
  lock := 0
  data := data
  pc := fun _ => .idle
  begun := []
  unlocked := []

/-- One operation of one thread. -/
def next?
    [DecidableEq Thread]
    (s : State Data Thread) :
    Thread × Action Data → Option (State Data Thread)
  | (thread, .lock body) =>
      match s.pc thread with
      | .idle => some (s.move thread (.lockExchange body))
      | _ => none
  | (thread, .trylock body) =>
      match s.pc thread with
      | .idle => some (s.move thread (.trylockLoad body))
      | _ => none
  | (thread, .advance) =>
      match s.pc thread with
      | .idle => none
      | .lockExchange body =>
          some (s.exchange thread body (.lockLoad body))
      | .lockLoad body =>
          some
            (s.move thread
              (if s.lock ≠ 0 then .lockLoad body else .lockExchange body))
      | .trylockLoad body =>
          some
            (s.move thread
              (if s.lock ≠ 0 then .idle else .trylockExchange body))
      | .trylockExchange body =>
          some (s.exchange thread body .idle)
      | .holding past (operation :: left) =>
          some
            ({ s with data := operation s.data }.move thread
              (.holding (past ++ [operation]) left))
      | .holding past [] =>
          some
            ({ s with lock := 0, unlocked := s.unlocked ++ [past] }.move thread
              .idle)

/-- What a section does as one step. -/
def perform
    (body : Section Data)
    (data : Data) : Data :=
  body.foldl (fun data operation => operation data) data

/-- What sections do one after another. -/
def performAll
    (sections : List (Section Data))
    (data : Data) : Data :=
  sections.foldl (fun data body => perform body data) data

/--
Nobody is behind the lock and it is 0, or one thread is and it is 1; the data
are what the sections begun have made of them, of the last one the part that
its thread has done.
-/
inductive Serial
    (initial : Data)
    (s : State Data Thread) : Prop where
  | free
      (lock : s.lock = 0)
      (data : s.data = performAll s.unlocked initial)
      (begun : s.begun = s.unlocked)
      (outside : ∀ thread past left, s.pc thread ≠ .holding past left)
  | held
      (holder : Thread)
      (past left : Section Data)
      (lock : s.lock = 1)
      (holds : s.pc holder = .holding past left)
      (data : s.data = perform past (performAll s.unlocked initial))
      (begun : s.begun = s.unlocked ++ [past ++ left])
      (alone :
        ∀ thread past left, s.pc thread = .holding past left → thread = holder)

/-- The section that a place waits to enter with `spinlock_lock`. -/
def Pc.waitsFor : Pc Data → Option (Section Data)
  | .lockExchange body => some body
  | .lockLoad body => some body
  | _ => none

@[simp] theorem perform_nil
    (data : Data) :
    perform [] data = data :=
  rfl

theorem perform_append
    (past : Section Data)
    (operation : Data → Data)
    (data : Data) :
    perform (past ++ [operation]) data = operation (perform past data) := by
  simp [perform]

theorem performAll_append
    (sections : List (Section Data))
    (body : Section Data)
    (data : Data) :
    performAll (sections ++ [body]) data =
      perform body (performAll sections data) := by
  simp [performAll]

variable
    {initial : Data}
    {s next : State Data Thread}
    {thread : Thread}

theorem serial_start
    (initial : Data) :
    Serial initial (start initial : State Data Thread) :=
  .free rfl rfl rfl (by simp [start])

/-- The thread behind the lock is the holder. -/
theorem Serial.holder
    (serial : Serial initial s)
    {past left : Section Data}
    (holds : s.pc thread = .holding past left) :
    s.lock = 1 ∧
      s.data = perform past (performAll s.unlocked initial) ∧
        s.begun = s.unlocked ++ [past ++ left] ∧
          ∀ other past left,
            s.pc other = .holding past left → other = thread := by
  cases serial with
  | free lock data begun none =>
      exact absurd holds (none thread past left)
  | held holder past' left' lock holds' data begun alone =>
      obtain rfl := alone thread past left holds
      rw [holds] at holds'
      injection holds' with samePast sameLeft
      subst samePast
      subst sameLeft
      exact ⟨lock, data, begun, alone⟩

variable [DecidableEq Thread]

/-- A thread that moves outside of the sections changes nothing. -/
theorem Serial.move
    (serial : Serial initial s)
    {pc : Pc Data}
    (outside : ∀ past left, s.pc thread ≠ .holding past left)
    (stays : ∀ past left, pc ≠ .holding past left) :
    Serial initial (s.move thread pc) := by
  have notMoved {other : Thread} {past left : Section Data}
      (holds : (s.move thread pc).pc other = .holding past left) :
      s.pc other = .holding past left := by
    by_cases isThread : other = thread
    · subst isThread
      rw [State.pc_move_self] at holds
      exact absurd holds (stays past left)
    · rwa [State.pc_move_of_ne s pc isThread] at holds
  cases serial with
  | free lock data begun none =>
      exact .free lock data begun
        fun other past left holds => none other past left (notMoved holds)
  | held holder past left lock holds data begun alone =>
      have different : holder ≠ thread := by
        rintro rfl
        exact outside past left holds
      exact .held holder past left lock
        ((State.pc_move_of_ne s pc different).trans holds) data begun
        fun other past left holds => alone other past left (notMoved holds)

/-- An exchange finds the lock open, or leaves it as it is. -/
theorem Serial.exchange
    (serial : Serial initial s)
    {body : Section Data}
    {refused : Pc Data}
    (outside : ∀ past left, s.pc thread ≠ .holding past left)
    (stays : ∀ past left, refused ≠ .holding past left) :
    Serial initial (s.exchange thread body refused) := by
  unfold State.exchange
  by_cases isOpen : s.lock = 0
  · rw [if_pos isOpen]
    cases serial with
    | free lock data begun none =>
        refine .held thread [] body rfl (State.pc_move_self ..) data
          (congrArg (· ++ [body]) begun) ?_
        intro other past left holds
        by_contra different
        rw [State.pc_move_of_ne _ _ different] at holds
        exact none other past left holds
    | held holder past left lock holds data begun alone =>
        rw [lock] at isOpen
        cases isOpen
  · rw [if_neg isOpen]
    have isTaken : s.lock = 1 := by
      cases serial with
      | free lock data begun none =>
          exact absurd lock isOpen
      | held holder past left lock holds data begun alone =>
          exact lock
    have same : { s with lock := 1 } = s := by
      rw [← isTaken]
    rw [same]
    exact serial.move outside stays

/-- Every operation of every thread keeps the sections in a row. -/
theorem Serial.step
    {label : Thread × Action Data}
    (serial : Serial initial s)
    (taken : Run.Steps next? s label next) :
    Serial initial next := by
  obtain ⟨thread, action⟩ := label
  unfold Run.Steps next? at taken
  cases action with
  | lock body =>
      simp only at taken
      split at taken
      · next idle =>
          cases taken
          exact serial.move (by simp [idle]) (by simp)
      · cases taken
  | trylock body =>
      simp only at taken
      split at taken
      · next idle =>
          cases taken
          exact serial.move (by simp [idle]) (by simp)
      · cases taken
  | advance =>
      simp only at taken
      cases place : s.pc thread with
      | idle =>
          simp [place] at taken
      | lockExchange body =>
          simp only [place, Option.some.injEq] at taken
          subst taken
          exact serial.exchange (by simp [place]) (by simp)
      | lockLoad body =>
          simp only [place, Option.some.injEq] at taken
          subst taken
          refine serial.move (by simp [place]) ?_
          intro past left
          split <;> simp
      | trylockLoad body =>
          simp only [place, Option.some.injEq] at taken
          subst taken
          refine serial.move (by simp [place]) ?_
          intro past left
          split <;> simp
      | trylockExchange body =>
          simp only [place, Option.some.injEq] at taken
          subst taken
          exact serial.exchange (by simp [place]) (by simp)
      | holding past left =>
          obtain ⟨lock, data, begun, alone⟩ := serial.holder place
          cases left with
          | nil =>
              simp only [place, Option.some.injEq] at taken
              subst taken
              refine .free rfl ?_ (by simpa [State.move] using begun) ?_
              · exact data.trans (performAll_append s.unlocked past initial).symm
              · intro other past' left' holds
                by_cases isThread : other = thread
                · subst isThread
                  rw [State.pc_move_self] at holds
                  cases holds
                · rw [State.pc_move_of_ne _ _ isThread] at holds
                  exact isThread (alone other past' left' holds)
          | cons operation left =>
              simp only [place, Option.some.injEq] at taken
              subst taken
              refine .held thread (past ++ [operation]) left lock
                (State.pc_move_self ..) ?_ (by simpa [State.move] using begun) ?_
              · rw [perform_append]
                exact congrArg operation data
              · intro other past' left' holds
                by_contra isOther
                rw [State.pc_move_of_ne _ _ isOther] at holds
                exact isOther (alone other past' left' holds)

variable
    {past : List (State Data Thread × (Thread × Action Data))}
    {final : State Data Thread}

/--
However the threads interleave their operations, at most one is behind the lock
at a time, and the data are what the sections make of them one after another, in
the order in which they were begun, with the part of the open one on top.
-/
theorem spinlock_serial
    (run : Run (Run.Steps next?) (start initial) past final) :
    ∀ s ∈ Run.visited past final, Serial initial s :=
  run.invariant_of_step (serial_start initial)
    fun serial taken => serial.step taken

/-- A holder that goes on alone comes to its `spinlock_unlock`. -/
theorem unlocks
    {past left : Section Data}
    (holds : s.pc thread = .holding past left) :
    ∃ released,
      Run.replay next? s
          (List.replicate (left.length + 1) (thread, Action.advance)) =
        some released ∧
      released.lock = 0 ∧
      released.unlocked = s.unlocked ++ [past ++ left] ∧
      ∀ other, other ≠ thread → released.pc other = s.pc other := by
  induction left generalizing s past with
  | nil =>
      refine
        ⟨{ s with lock := 0, unlocked := s.unlocked ++ [past] }.move thread .idle,
          ?_, rfl, by simp [State.move],
          fun other different => State.pc_move_of_ne _ _ different⟩
      simp [Run.replay, next?, holds]
  | cons operation left inductionHypothesis =>
      let moved :=
        { s with data := operation s.data }.move thread
          (.holding (past ++ [operation]) left)
      obtain ⟨released, replayed, isOpen, unlocked, others⟩ :=
        inductionHypothesis (s := moved) (State.pc_move_self ..)
      refine ⟨released, ?_, isOpen, ?_, ?_⟩
      · rw [List.length_cons, List.replicate_succ, Run.replay, next?, holds]
        exact replayed
      · simpa [moved, State.move] using unlocked
      · intro other different
        rw [others other different]
        exact State.pc_move_of_ne _ _ different

/-- A waiting thread that runs while the lock is open gets behind it. -/
theorem acquires
    {body : Section Data}
    (isOpen : s.lock = 0)
    (waits : (s.pc thread).waitsFor = some body) :
    ∃ turns ≤ 2, ∃ entered,
      Run.replay next? s
          (List.replicate turns (thread, Action.advance)) =
        some entered ∧
      entered.pc thread = .holding [] body := by
  cases place : s.pc thread with
  | lockExchange other =>
      simp only [place, Pc.waitsFor, Option.some.injEq] at waits
      subst waits
      refine ⟨1, by omega, ?_⟩
      simp [Run.replay, next?, place, State.exchange, isOpen]
  | lockLoad other =>
      simp only [place, Pc.waitsFor, Option.some.injEq] at waits
      subst waits
      refine ⟨2, by omega, ?_⟩
      have opened : (s.move thread (.lockExchange other)).lock = 0 := isOpen
      simp [List.replicate, Run.replay, next?, place, State.exchange, isOpen,
        opened]
  | idle => simp [place, Pc.waitsFor] at waits
  | trylockLoad other => simp [place, Pc.waitsFor] at waits
  | trylockExchange other => simp [place, Pc.waitsFor] at waits
  | holding past left => simp [place, Pc.waitsFor] at waits

/-- Two threads add to a counter, and the second one waits for the first. -/
theorem exists_contended :
    ∃ past,
      ∃ final : State Nat Bool,
        Run (Run.Steps next?) (start 0) past final ∧
          (final.data = 3 ∧ (final.pc true).waitsFor.isSome) := by
  obtain ⟨past, final, run, checked⟩ :=
    Run.exists_of_replay (start 0 : State Nat Bool) next?
      [(false, .lock [(· + 3), (· + 4)]), (true, .lock [(· + 1)]),
        (false, .advance), (true, .advance), (false, .advance)]
      (fun s => s.data == 3 && (s.pc true).waitsFor.isSome)
      (by decide)
  exact ⟨past, final, run, by simpa using checked⟩

/-- The first thread has added 3 of its 7. -/
theorem contended_serial :
    ∃ final : State Nat Bool, final.data = 3 ∧ Serial 0 final := by
  obtain ⟨past, final, run, isThree, _⟩ := exists_contended
  exact ⟨final, isThree, spinlock_serial run final (by simp)⟩

/--
No thread that waits in `spinlock_lock` waits in vain: in every state that a run
reaches, once the holder, if there is one, has made the steps that its section
has left, two steps of the waiting thread bring it behind the lock.
-/
theorem spinlock_acquires
    (run : Run (Run.Steps next?) (start initial) past final)
    {body : Section Data}
    (waits : (final.pc thread).waitsFor = some body) :
    ∃ holder steps released turns entered,
      (steps = 0 ∨
        ∃ past left,
          final.pc holder = .holding past left ∧ steps = left.length + 1) ∧
      Run.replay next? final
          (List.replicate steps (holder, Action.advance)) =
        some released ∧
      turns ≤ 2 ∧
      Run.replay next? released
          (List.replicate turns (thread, Action.advance)) =
        some entered ∧
      entered.pc thread = .holding [] body := by
  have serial := spinlock_serial run final (by simp)
  cases serial with
  | free lock data begun none =>
      obtain ⟨turns, few, entered, replayed, inside⟩ := acquires lock waits
      exact
        ⟨thread, 0, final, turns, entered, Or.inl rfl, rfl, few, replayed,
          inside⟩
  | held holder past left lock holds data begun alone =>
      have different : thread ≠ holder := by
        rintro rfl
        simp [holds, Pc.waitsFor] at waits
      obtain ⟨released, replayed, isOpen, _, others⟩ := unlocks holds
      rw [← others thread different] at waits
      obtain ⟨turns, few, entered, later, inside⟩ := acquires isOpen waits
      exact
        ⟨holder, left.length + 1, released, turns, entered,
          Or.inr ⟨past, left, holds, rfl⟩, replayed, few, later, inside⟩

/-- The second thread gets its turn. -/
theorem contended_acquires :
    ∃ final released : State Nat Bool,
      ∃ body holder steps turns entered,
        final.data = 3 ∧
          Run.replay next? final
              (List.replicate steps (holder, Action.advance)) =
            some released ∧
          Run.replay next? released
              (List.replicate turns (true, Action.advance)) =
            some entered ∧
          entered.pc true = .holding [] body := by
  obtain ⟨past, final, run, isThree, waiting⟩ := exists_contended
  obtain ⟨body, waits⟩ := Option.isSome_iff_exists.mp waiting
  obtain ⟨holder, steps, released, turns, entered, _, first, _, later, inside⟩ :=
    spinlock_acquires run waits
  exact
    ⟨final, released, body, holder, steps, turns, entered, isThree, first, later,
      inside⟩

end SkynetCpp.Spinlock
