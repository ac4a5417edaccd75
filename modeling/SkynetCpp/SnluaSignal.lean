import Mathlib.Logic.Function.Basic
import SkynetCpp.Foundation.Run

namespace SkynetCpp.SnluaSignal

open Foundation

/-!
# Signals to a Lua service

`snlua_signal` asks the Lua code that a worker is running to raise an error, by
a hook that Lua calls at an instruction.  `trap` says that a signal is pending:
1 while the thread that sends it has not set the hook, -1 afterwards.  Every
access to `trap`, `activeL` and a hook is one step of one thread.  The cell of
`trap` and the hooks are parameters, and Lua may call the hook whenever it runs
code.
-/

variable {Coroutine Thread Cell Lua : Type}

section Parameters

/-- The operations of `atomic.h` on a cell with a number. -/
class Atomic (Cell : Type) where
  /-- `ATOM_INIT` -/
  init : Int → Cell
  /-- `ATOM_LOAD` -/
  load : Cell → Int
  /-- `ATOM_STORE` -/
  store : Cell → Int → Cell
  /-- `ATOM_CAS`, where it may end with what the flag says. -/
  cas : Cell → Int → Int → Bool → Option Cell

open Atomic

/-- What these operations do; an exchange may be refused without a reason. -/
class LawfulAtomic (Cell : Type) [Atomic Cell] : Prop where
  load_init (value : Int) : load (init value : Cell) = value
  load_store (cell : Cell) (value : Int) : load (store cell value) = value
  of_exchanged {cell cell' : Cell} {expected desired : Int} :
    cas cell expected desired true = some cell' →
      load cell = expected ∧ load cell' = desired
  of_refused {cell cell' : Cell} {expected desired : Int} :
    cas cell expected desired false = some cell' → load cell' = load cell

/-- Exchanges that end, and are refused only where the number is another one. -/
class StrongAtomic (Cell : Type) [Atomic Cell] : Prop where
  exchanges {cell : Cell} {expected : Int} (desired : Int) :
    load cell = expected → ∃ cell', cas cell expected desired true = some cell'
  refuses {cell : Cell} {expected : Int} (desired : Int) :
    load cell ≠ expected → ∃ cell', cas cell expected desired false = some cell'
  of_refused {cell cell' : Cell} {expected desired : Int} :
    cas cell expected desired false = some cell' → load cell ≠ expected

/-- What Lua keeps of hooks, where `signal_hook` is the only one. -/
class Hooks (Lua Coroutine : Type) where
  /-- `lua_sethook` with `signal_hook`, or with NULL. -/
  sethook : Lua → Coroutine → Bool → Lua
  /-- Whether `lua_gethook` finds `signal_hook`. -/
  gethook : Lua → Coroutine → Bool

open Hooks

/-- A hook that is set is found, and is that of one coroutine. -/
class LawfulHooks (Lua Coroutine : Type) [Hooks Lua Coroutine] : Prop where
  gethook_sethook (lua : Lua) (co : Coroutine) (hook : Bool) :
    gethook (sethook lua co hook) co = hook
  gethook_sethook_of_ne (lua : Lua) {co other : Coroutine} (hook : Bool) :
    other ≠ co → gethook (sethook lua co hook) other = gethook lua other

/-- A cell that is its number. -/
instance : Atomic Int where
  init value := value
  load cell := cell
  store _ value := value
  cas cell expected desired exchanged :=
    match exchanged with
    | true => if cell = expected then some desired else none
    | false => if cell = expected then none else some cell

instance : LawfulAtomic Int where
  load_init _ := rfl
  load_store _ _ := rfl
  of_exchanged := by
    intro cell cell' expected desired exchanged
    simp only [cas, Option.ite_none_right_eq_some, Option.some.injEq] at exchanged
    exact ⟨exchanged.1, exchanged.2.symm⟩
  of_refused := by
    intro cell cell' expected desired refused
    simp only [cas, Option.ite_none_left_eq_some, Option.some.injEq] at refused
    exact refused.2.symm

instance : StrongAtomic Int where
  exchanges desired same := ⟨desired, if_pos same⟩
  refuses {cell _} _ different := ⟨cell, if_neg different⟩
  of_refused := by
    intro cell cell' expected desired refused
    simp only [cas, Option.ite_none_left_eq_some] at refused
    exact refused.1

/-- The hooks as a table. -/
instance [DecidableEq Coroutine] : Hooks (Coroutine → Bool) Coroutine where
  sethook lua co hook := Function.update lua co hook
  gethook lua co := lua co

instance [DecidableEq Coroutine] :
    LawfulHooks (Coroutine → Bool) Coroutine where
  gethook_sethook _ _ _ := Function.update_self _ _ _
  gethook_sethook_of_ne _ _ _ _ different := Function.update_of_ne different _ _

end Parameters

open Atomic Hooks

/-- The next operation of the worker that runs the service. -/
inductive Place where
  /-- In the Lua code of the coroutine that runs. -/
  | code
  /-- `switchL`: about to load `trap`. -/
  | switchLoad
  /-- `switchL`: about to set the hook. -/
  | switchHook
  /-- `signal_hook`: about to remove the hook. -/
  | hookClear
  /-- `signal_hook`: about to load `trap`. -/
  | hookLoad
  /-- `signal_hook`: about to store 0 to `trap` and to raise the error. -/
  | hookStore
  /-- `lua_resumeX` behind `lua_resume`: about to load `trap`. -/
  | resumeLoad
  /-- `lua_resumeX`: in the loop that waits for the hook. -/
  | resumeWait
  /-- `lua_resumeX`: about to set `activeL` back to `from`. -/
  | resumeSwitch
  deriving Repr, DecidableEq

/-- The next operation of a thread in `snlua_signal`. -/
inductive Sender (Coroutine : Type) where
  /-- Not in the function. -/
  | idle
  /-- It has seen 0: about to exchange 0 for 1. -/
  | exchange
  /-- About to read `activeL`. -/
  | read
  /-- About to set the hook of what it read. -/
  | hook (active : Option Coroutine)
  /-- About to exchange 1 for -1. -/
  | finish
  deriving Repr, DecidableEq

namespace Sender

/-- Between the two exchanges. -/
def isSetting : Sender Coroutine → Bool
  | .idle => false
  | .exchange => false
  | .read => true
  | .hook _ => true
  | .finish => true

end Sender

/-- What happens next. -/
inductive Label (Coroutine Thread : Type) where
  /-- Lua calls `signal_hook` at an instruction. -/
  | interrupt
  /-- Lua code resumes a coroutine, with `lua_resumeX`. -/
  | resume (co : Coroutine)
  /-- The coroutine that runs yields, returns or fails. -/
  | leave
  /-- The worker goes on in the functions of the service. -/
  | advance
  /-- A thread calls `snlua_signal` with 0, and loads `trap`. -/
  | signal (thread : Thread)
  /-- A thread comes to an exchange, which ends as the flag says. -/
  | exchange (thread : Thread) (exchanged : Bool)
  /-- A thread goes on between the exchanges. -/
  | send (thread : Thread)

/-- `struct snlua`, what Lua keeps, and the threads. -/
structure State (Coroutine Thread Cell Lua : Type) where
  activeL : Option Coroutine
  trap : Cell
  lua : Lua
  place : Place
  /-- The coroutine whose `lua_resume` was called last, or has just returned. -/
  running : Coroutine
  /-- Those that resumed one another up to it, the last one first. -/
  resumers : List Coroutine
  sender : Thread → Sender Coroutine
  /-- How many senders have exchanged 0 for 1. -/
  accepted : Nat
  /-- How many errors `signal_hook` has raised. -/
  raised : Nat

namespace State

/-- `lua_sethook` of a coroutine. -/
def sethook
    [Hooks Lua Coroutine]
    (s : State Coroutine Thread Cell Lua)
    (co : Coroutine)
    (hook : Bool) : State Coroutine Thread Cell Lua :=
  { s with lua := Hooks.sethook s.lua co hook }

/-- Move the worker. -/
def goto
    (s : State Coroutine Thread Cell Lua)
    (place : Place) : State Coroutine Thread Cell Lua :=
  { s with place := place }

/-- Move a sender. -/
def move
    [DecidableEq Thread]
    (s : State Coroutine Thread Cell Lua)
    (thread : Thread)
    (sender : Sender Coroutine) : State Coroutine Thread Cell Lua :=
  { s with sender := Function.update s.sender thread sender }

/--
Whether the `lua_resumeX` of a coroutine has not yet set `activeL` back, or it
is the first one.
-/
def IsLive
    (s : State Coroutine Thread Cell Lua)
    (co : Coroutine) : Prop :=
  co = s.running ∨ co ∈ s.resumers

instance
    [DecidableEq Coroutine]
    (s : State Coroutine Thread Cell Lua)
    (co : Coroutine) :
    Decidable (s.IsLive co) :=
  inferInstanceAs (Decidable (_ ∨ _))

end State

/-- `snlua_create`, and the first coroutine, with any hooks. -/
def start
    [Atomic Cell]
    (main : Coroutine)
    (lua : Lua) : State Coroutine Thread Cell Lua where
  activeL := none
  trap := init 0
  lua := lua
  place := .code
  running := main
  resumers := []
  sender := fun _ => .idle
  accepted := 0
  raised := 0

/-- Some thread is between the two exchanges. -/
def IsSetting (s : State Coroutine Thread Cell Lua) : Prop :=
  ∃ thread, (s.sender thread).isSetting = true

/-- The coroutine that runs has the hook, or a thread will give it the hook. -/
def IsArmed
    [Hooks Lua Coroutine]
    (s : State Coroutine Thread Cell Lua) : Prop :=
  gethook s.lua s.running = true ∨
    ∃ thread, s.sender thread = .read ∨ s.sender thread = .hook s.activeL

/-- The places at which a pending signal must have been noticed. -/
def Place.isBehindSwitch : Place → Bool
  | .code => true
  | .resumeLoad => true
  | .resumeWait => true
  | .resumeSwitch => true
  | _ => false

/-- The places in `lua_resumeX` behind `lua_resume`. -/
def Place.isResumed : Place → Bool
  | .resumeLoad => true
  | .resumeWait => true
  | .resumeSwitch => true
  | _ => false

variable {s : State Coroutine Thread Cell Lua}

section Armed

section Setting

variable [DecidableEq Thread]

/-- A thread that is not between the exchanges does not end a setting. -/
theorem IsSetting.move
    {thread : Thread}
    (setting : IsSetting s)
    (outside : (s.sender thread).isSetting = false)
    (sender : Sender Coroutine) :
    IsSetting (s.move thread sender) := by
  obtain ⟨other, isSetting⟩ := setting
  have different : other ≠ thread := by
    rintro rfl
    rw [outside] at isSetting
    cases isSetting
  exact ⟨other, by simpa [State.move, different] using isSetting⟩

theorem isSetting_move
    {thread : Thread}
    {sender : Sender Coroutine}
    (isSetting : sender.isSetting = true) :
    IsSetting (s.move thread sender) :=
  ⟨thread, by simpa [State.move] using isSetting⟩

end Setting

variable [Hooks Lua Coroutine]

/-- With nobody between the exchanges, the hook is where it is needed. -/
theorem IsArmed.hooked
    (armed : IsArmed s)
    (settled : ¬ IsSetting s) :
    gethook s.lua s.running = true := by
  rcases armed with hooked | ⟨thread, reads | hooks⟩
  · exact hooked
  · exact absurd ⟨thread, by rw [reads]; rfl⟩ settled
  · exact absurd ⟨thread, by rw [hooks]; rfl⟩ settled

/-- Setting a hook only helps. -/
theorem IsArmed.sethook
    [LawfulHooks Lua Coroutine]
    (armed : IsArmed s)
    (co : Coroutine) :
    IsArmed (s.sethook co true) := by
  rcases armed with hooked | gives
  · refine .inl ?_
    by_cases isRunning : s.running = co
    · simp [State.sethook, isRunning, LawfulHooks.gethook_sethook]
    · simpa only [State.sethook,
        LawfulHooks.gethook_sethook_of_ne s.lua true isRunning] using hooked
  · exact .inr gives

/-- The moves of the threads that do not give the hook leave it to the others. -/
theorem IsArmed.move
    [DecidableEq Thread]
    {thread : Thread}
    (armed : IsArmed s)
    (notReading : s.sender thread ≠ .read)
    (notHooking : s.sender thread ≠ .hook s.activeL)
    (sender : Sender Coroutine) :
    IsArmed (s.move thread sender) := by
  rcases armed with hooked | ⟨other, gives⟩
  · exact .inl hooked
  · have different : other ≠ thread := by
      rintro rfl
      exact gives.elim notReading notHooking
    exact .inr ⟨other, by simpa [State.move, different] using gives⟩

end Armed

variable [Atomic Cell] [Hooks Lua Coroutine]

/-- What every step of the worker and of the senders keeps. -/
structure Keeps (s : State Coroutine Thread Cell Lua) : Prop where
  range : load s.trap = 0 ∨ load s.trap = 1 ∨ load s.trap = -1
  counted : s.accepted = s.raised + if load s.trap = 0 then 0 else 1
  taking : s.place = .hookStore ∨ s.place = .resumeWait → load s.trap ≠ 0
  active : s.activeL = some s.running ∨ s.activeL = none ∧ s.resumers = []
  nested : s.place.isResumed = true → s.resumers ≠ []
  armed : load s.trap ≠ 0 → s.place.isBehindSwitch = true → IsArmed s

theorem keeps_start
    [LawfulAtomic Cell]
    (main : Coroutine)
    (lua : Lua) :
    Keeps (start main lua : State Coroutine Thread Cell Lua) where
  range := .inl (LawfulAtomic.load_init 0)
  counted := by simp [start, LawfulAtomic.load_init]
  taking := by simp [start]
  active := .inr ⟨rfl, rfl⟩
  nested := by simp [start, Place.isResumed]
  armed := by simp [start, LawfulAtomic.load_init]

/-- The worker may move as long as it stays behind its last switch. -/
theorem Keeps.goto
    (keeps : Keeps s)
    {place : Place}
    (taking : place = .hookStore ∨ place = .resumeWait → load s.trap ≠ 0)
    (nested : place.isResumed = true → s.resumers ≠ [])
    (armed : load s.trap ≠ 0 → place.isBehindSwitch = true → IsArmed s) :
    Keeps (s.goto place) where
  range := keeps.range
  counted := keeps.counted
  taking := taking
  active := keeps.active
  nested := nested
  armed := armed

/-- A hook that is set or removed away from `armed` places changes nothing else. -/
theorem Keeps.sethook
    (keeps : Keeps s)
    {co : Coroutine}
    {hook : Bool}
    (armed :
      load s.trap ≠ 0 → s.place.isBehindSwitch = true →
        IsArmed (s.sethook co hook)) :
    Keeps (s.sethook co hook) where
  range := keeps.range
  counted := keeps.counted
  taking := keeps.taking
  active := keeps.active
  nested := keeps.nested
  armed := armed

/-- A switch to a coroutine asks `trap` before any of its code runs. -/
theorem Keeps.switch
    (keeps : Keeps s)
    (co : Coroutine)
    (resumers : List Coroutine) :
    Keeps
      ({ s with
          activeL := some co
          running := co
          resumers := resumers }.goto .switchLoad) where
  range := keeps.range
  counted := keeps.counted
  taking := by simp [State.goto]
  active := .inl rfl
  nested := by simp [State.goto, Place.isResumed]
  armed := by simp [State.goto, Place.isBehindSwitch]

/-- What `signal_hook` takes is the pending signal. -/
theorem Keeps.hookStore
    [LawfulAtomic Cell]
    (keeps : Keeps s)
    (taken : s.place = .hookStore) :
    Keeps
      ({ s with
          trap := store s.trap 0
          raised := s.raised + 1 }.goto .code) where
  range := .inl (LawfulAtomic.load_store _ _)
  counted := by
    have pending := keeps.taking (.inl taken)
    have counted := keeps.counted
    rw [if_neg pending] at counted
    simpa [State.goto, LawfulAtomic.load_store] using counted
  taking := by simp [State.goto]
  active := keeps.active
  nested := by simp [State.goto, Place.isResumed]
  armed := by simp [State.goto, LawfulAtomic.load_store]

/-- A cell that tells the same of a pending signal may take the place of `trap`. -/
theorem Keeps.replace
    (keeps : Keeps s)
    {trap : Cell}
    (range : load trap = load s.trap ∨ load trap = -1 ∧ load s.trap = 1) :
    Keeps { s with trap := trap } := by
  have isZero : load trap = 0 ↔ load s.trap = 0 := by
    rcases range with same | ⟨isSet, wasOne⟩ <;> omega
  refine ⟨?_, ?_, ?_, keeps.active, keeps.nested, ?_⟩
  · have wasRange := keeps.range
    change load trap = 0 ∨ load trap = 1 ∨ load trap = -1
    rcases range with same | ⟨isSet, wasOne⟩ <;> omega
  · simpa only [isZero] using keeps.counted
  · exact fun taking => isZero.not.mpr (keeps.taking taking)
  · exact fun pending behind => keeps.armed (isZero.not.mp pending) behind

variable [DecidableEq Thread]

/-- A sender may move as long as it leaves nothing undone. -/
theorem Keeps.move
    (keeps : Keeps s)
    {thread : Thread}
    {sender : Sender Coroutine}
    (armed : IsArmed s → IsArmed (s.move thread sender)) :
    Keeps (s.move thread sender) where
  range := keeps.range
  counted := keeps.counted
  taking := keeps.taking
  active := keeps.active
  nested := keeps.nested
  armed := fun pending behind => armed (keeps.armed pending behind)

/-- A sender that wins will read `activeL`. -/
theorem Keeps.accept
    (keeps : Keeps s)
    (thread : Thread)
    {trap : Cell}
    (quiet : load s.trap = 0)
    (isOne : load trap = 1) :
    Keeps
      ({ s with
          trap := trap
          accepted := s.accepted + 1 }.move thread .read) where
  range := .inr (.inl isOne)
  counted := by
    have counted := keeps.counted
    rw [if_pos quiet] at counted
    simpa [State.move, isOne] using counted
  taking := by simp [State.move, isOne]
  active := keeps.active
  nested := keeps.nested
  armed := fun _ _ => .inr ⟨thread, by simp [State.move]⟩

/-- The worker goes on in `switchL`, `signal_hook` and `lua_resumeX`. -/
def advance?
    (s : State Coroutine Thread Cell Lua) : Option (State Coroutine Thread Cell Lua) :=
  match s.place with
  | .code => none
  | .switchLoad =>
      some (s.goto (if load s.trap ≠ 0 then .switchHook else .code))
  | .switchHook =>
      some ((s.sethook s.running true).goto .code)
  | .hookClear =>
      some ((s.sethook s.running false).goto .hookLoad)
  | .hookLoad =>
      some (s.goto (if load s.trap ≠ 0 then .hookStore else .code))
  | .hookStore =>
      some
        ({ s with
            trap := store s.trap 0
            raised := s.raised + 1 }.goto .code)
  | .resumeLoad =>
      some (s.goto (if load s.trap ≠ 0 then .resumeWait else .resumeSwitch))
  | .resumeWait =>
      some (s.goto (if load s.trap ≥ 0 then .resumeWait else .resumeSwitch))
  | .resumeSwitch =>
      match s.resumers with
      | [] => none
      | from_ :: resumers =>
          some
            ({ s with
                activeL := some from_
                running := from_
                resumers := resumers }.goto .switchLoad)

/-- A thread makes an exchange of `snlua_signal`. -/
def exchange?
    (s : State Coroutine Thread Cell Lua)
    (thread : Thread)
    (exchanged : Bool) : Option (State Coroutine Thread Cell Lua) :=
  match s.sender thread with
  | .exchange =>
      (cas s.trap 0 1 exchanged).map fun trap =>
        if exchanged then
          { s with trap := trap, accepted := s.accepted + 1 }.move thread .read
        else { s with trap := trap }.move thread .idle
  | .finish =>
      (cas s.trap 1 (-1) exchanged).map fun trap =>
        { s with trap := trap }.move thread .idle
  | _ => none

/-- A thread goes on between the exchanges; it may not set a hook of NULL. -/
def send?
    (s : State Coroutine Thread Cell Lua)
    (thread : Thread) : Option (State Coroutine Thread Cell Lua) :=
  match s.sender thread with
  | .read => some (s.move thread (.hook s.activeL))
  | .hook (some co) => some ((s.sethook co true).move thread .finish)
  | _ => none

/-- One step of one thread. -/
def next?
    (s : State Coroutine Thread Cell Lua) :
    Label Coroutine Thread → Option (State Coroutine Thread Cell Lua)
  | .interrupt =>
      match s.place with
      | .code => some (s.goto .hookClear)
      | _ => none
  | .resume co =>
      match s.place with
      | .code =>
          some
            ({ s with
                activeL := some co
                running := co
                resumers := s.running :: s.resumers }.goto .switchLoad)
      | _ => none
  | .leave =>
      match s.place, s.resumers with
      | .code, _ :: _ => some (s.goto .resumeLoad)
      | _, _ => none
  | .advance => advance? s
  | .signal thread =>
      match s.sender thread with
      | .idle =>
          some (s.move thread (if load s.trap = 0 then .exchange else .idle))
      | _ => none
  | .exchange thread exchanged => exchange? s thread exchanged
  | .send thread => send? s thread

/-- What a step of the worker or of a sender can do. -/
inductive Step (s : State Coroutine Thread Cell Lua) :
    Label Coroutine Thread → State Coroutine Thread Cell Lua → Prop where
  | interrupt
      (code : s.place = .code) :
      Step s .interrupt (s.goto .hookClear)
  | resume
      {co : Coroutine}
      (code : s.place = .code) :
      Step s (.resume co)
        ({ s with
            activeL := some co
            running := co
            resumers := s.running :: s.resumers }.goto .switchLoad)
  | leave
      (code : s.place = .code)
      (resumed : s.resumers ≠ []) :
      Step s .leave (s.goto .resumeLoad)
  | switched
      (loads : s.place = .switchLoad)
      (quiet : load s.trap = 0) :
      Step s .advance (s.goto .code)
  | switchPending
      (loads : s.place = .switchLoad)
      (pending : load s.trap ≠ 0) :
      Step s .advance (s.goto .switchHook)
  | switchHook
      (hook : s.place = .switchHook) :
      Step s .advance ((s.sethook s.running true).goto .code)
  | hookClear
      (clear : s.place = .hookClear) :
      Step s .advance ((s.sethook s.running false).goto .hookLoad)
  | hookQuiet
      (loads : s.place = .hookLoad)
      (quiet : load s.trap = 0) :
      Step s .advance (s.goto .code)
  | hookPending
      (loads : s.place = .hookLoad)
      (pending : load s.trap ≠ 0) :
      Step s .advance (s.goto .hookStore)
  | hookStore
      (taken : s.place = .hookStore) :
      Step s .advance
        ({ s with
            trap := store s.trap 0
            raised := s.raised + 1 }.goto .code)
  | resumeQuiet
      (loads : s.place = .resumeLoad)
      (quiet : load s.trap = 0) :
      Step s .advance (s.goto .resumeSwitch)
  | resumePending
      (loads : s.place = .resumeLoad)
      (pending : load s.trap ≠ 0) :
      Step s .advance (s.goto .resumeWait)
  | waiting
      (wait : s.place = .resumeWait)
      (setting : load s.trap ≥ 0) :
      Step s .advance (s.goto .resumeWait)
  | waited
      (wait : s.place = .resumeWait)
      (hooked : load s.trap < 0) :
      Step s .advance (s.goto .resumeSwitch)
  | resumeSwitch
      {from_ : Coroutine}
      {resumers : List Coroutine}
      (switch : s.place = .resumeSwitch)
      (resumed : s.resumers = from_ :: resumers) :
      Step s .advance
        ({ s with
            activeL := some from_
            running := from_
            resumers := resumers }.goto .switchLoad)
  | refused
      {thread : Thread}
      (idle : s.sender thread = .idle)
      (pending : load s.trap ≠ 0) :
      Step s (.signal thread) (s.move thread .idle)
  | signal
      {thread : Thread}
      (idle : s.sender thread = .idle)
      (quiet : load s.trap = 0) :
      Step s (.signal thread) (s.move thread .exchange)
  | late
      {thread : Thread}
      {trap : Cell}
      (exchange : s.sender thread = .exchange)
      (refused : cas s.trap 0 1 false = some trap) :
      Step s (.exchange thread false) ({ s with trap := trap }.move thread .idle)
  | accept
      {thread : Thread}
      {trap : Cell}
      (exchange : s.sender thread = .exchange)
      (exchanged : cas s.trap 0 1 true = some trap) :
      Step s (.exchange thread true)
        ({ s with
            trap := trap
            accepted := s.accepted + 1 }.move thread .read)
  | finish
      {thread : Thread}
      {exchanged : Bool}
      {trap : Cell}
      (finish : s.sender thread = .finish)
      (done : cas s.trap 1 (-1) exchanged = some trap) :
      Step s (.exchange thread exchanged)
        ({ s with trap := trap }.move thread .idle)
  | read
      {thread : Thread}
      (read : s.sender thread = .read) :
      Step s (.send thread) (s.move thread (.hook s.activeL))
  | hook
      {thread : Thread}
      {co : Coroutine}
      (hook : s.sender thread = .hook (some co)) :
      Step s (.send thread) ((s.sethook co true).move thread .finish)

variable
    {next : State Coroutine Thread Cell Lua}
    {label : Label Coroutine Thread}

theorem step_of_advance?
    (taken : advance? s = some next) :
    Step s .advance next := by
  unfold advance? at taken
  split at taken
  · cases taken
  · next loads =>
      cases taken
      split
      · next pending => exact .switchPending loads pending
      · next quiet => exact .switched loads (not_not.mp quiet)
  · next hook =>
      cases taken
      exact .switchHook hook
  · next clear =>
      cases taken
      exact .hookClear clear
  · next loads =>
      cases taken
      split
      · next pending => exact .hookPending loads pending
      · next quiet => exact .hookQuiet loads (not_not.mp quiet)
  · next store =>
      cases taken
      exact .hookStore store
  · next loads =>
      cases taken
      split
      · next pending => exact .resumePending loads pending
      · next quiet => exact .resumeQuiet loads (not_not.mp quiet)
  · next wait =>
      cases taken
      split
      · next setting => exact .waiting wait setting
      · next hooked => exact .waited wait (Int.not_le.mp hooked)
  · next switch =>
      split at taken
      · cases taken
      · next resumed =>
          cases taken
          exact .resumeSwitch switch resumed

theorem step_of_exchange?
    {thread : Thread}
    {exchanged : Bool}
    (taken : exchange? s thread exchanged = some next) :
    Step s (.exchange thread exchanged) next := by
  unfold exchange? at taken
  split at taken
  · next exchange =>
      obtain ⟨trap, done, rfl⟩ := Option.map_eq_some_iff.mp taken
      cases exchanged with
      | false => exact .late exchange done
      | true => exact .accept exchange done
  · next finish =>
      obtain ⟨trap, done, rfl⟩ := Option.map_eq_some_iff.mp taken
      exact .finish finish done
  · cases taken

theorem step_of_send?
    {thread : Thread}
    (taken : send? s thread = some next) :
    Step s (.send thread) next := by
  unfold send? at taken
  split at taken
  · next read =>
      cases taken
      exact .read read
  · next hook =>
      cases taken
      exact .hook hook
  · cases taken

/-- A step does one of the things that were listed. -/
theorem step_of_next?
    (taken : Run.Steps next? s label next) :
    Step s label next := by
  unfold Run.Steps next? at taken
  cases label with
  | interrupt =>
      simp only at taken
      split at taken
      · next code =>
          cases taken
          exact .interrupt code
      · cases taken
  | resume co =>
      simp only at taken
      split at taken
      · next code =>
          cases taken
          exact .resume code
      · cases taken
  | leave =>
      simp only at taken
      split at taken
      · next code resumed =>
          cases taken
          exact .leave code (by simp [resumed])
      · cases taken
  | advance =>
      exact step_of_advance? taken
  | signal thread =>
      simp only at taken
      split at taken
      · next idle =>
          cases taken
          split
          · next quiet => exact .signal idle quiet
          · next pending => exact .refused idle pending
      · cases taken
  | exchange thread exchanged =>
      exact step_of_exchange? taken
  | send thread =>
      exact step_of_send? taken

variable [LawfulAtomic Cell]

/-- Every step of every thread keeps them. -/
theorem Keeps.step
    [LawfulHooks Lua Coroutine]
    (keeps : Keeps s)
    (step : Step s label next) :
    Keeps next := by
  cases step with
  | interrupt code =>
      exact keeps.goto (by simp) (by simp [Place.isResumed])
        (by simp [Place.isBehindSwitch])
  | resume code =>
      exact keeps.switch _ _
  | leave code resumed =>
      exact keeps.goto (by simp) (fun _ => resumed)
        fun pending _ => keeps.armed pending (by rw [code]; rfl)
  | switched loads quiet =>
      exact keeps.goto (by simp) (by simp [Place.isResumed])
        fun pending => absurd quiet pending
  | switchPending loads pending =>
      exact keeps.goto (by simp) (by simp [Place.isResumed])
        (by simp [Place.isBehindSwitch])
  | switchHook hook =>
      have isHooked : IsArmed (s.sethook s.running true) := by
        simp [IsArmed, State.sethook, LawfulHooks.gethook_sethook]
      exact (keeps.sethook fun _ _ => isHooked).goto (by simp)
        (by simp [Place.isResumed]) fun _ _ => isHooked
  | hookClear clear =>
      have notBehind : s.place.isBehindSwitch ≠ true := by
        simp [clear, Place.isBehindSwitch]
      exact (keeps.sethook fun _ behind => absurd behind notBehind).goto
        (by simp) (by simp [Place.isResumed]) (by simp [Place.isBehindSwitch])
  | hookQuiet loads quiet =>
      exact keeps.goto (by simp) (by simp [Place.isResumed])
        fun pending => absurd quiet pending
  | hookPending loads pending =>
      exact keeps.goto (fun _ => pending) (by simp [Place.isResumed])
        (by simp [Place.isBehindSwitch])
  | hookStore taken =>
      exact keeps.hookStore taken
  | resumeQuiet loads quiet =>
      exact keeps.goto (by simp)
        (fun _ => keeps.nested (by rw [loads]; rfl))
        fun pending => absurd quiet pending
  | resumePending loads pending =>
      exact keeps.goto (fun _ => pending)
        (fun _ => keeps.nested (by rw [loads]; rfl))
        fun pending _ => keeps.armed pending (by rw [loads]; rfl)
  | waiting wait setting =>
      exact keeps.goto (fun _ => keeps.taking (.inr wait))
        (fun _ => keeps.nested (by rw [wait]; rfl))
        fun pending _ => keeps.armed pending (by rw [wait]; rfl)
  | waited wait hooked =>
      exact keeps.goto (by simp) (fun _ => keeps.nested (by rw [wait]; rfl))
        fun pending _ => keeps.armed pending (by rw [wait]; rfl)
  | resumeSwitch switch resumed =>
      exact keeps.switch _ _
  | refused idle pending =>
      exact keeps.move fun armed =>
        armed.move (by simp [idle]) (by simp [idle]) _
  | signal idle quiet =>
      exact keeps.move fun armed =>
        armed.move (by simp [idle]) (by simp [idle]) _
  | late exchange refused =>
      exact (keeps.replace (.inl (LawfulAtomic.of_refused refused))).move
        fun armed => armed.move (by simp [exchange]) (by simp [exchange]) _
  | accept exchange exchanged =>
      obtain ⟨quiet, isOne⟩ := LawfulAtomic.of_exchanged exchanged
      exact keeps.accept _ quiet isOne
  | @finish thread exchanged trap finish done =>
      refine (keeps.replace ?_).move fun armed =>
        armed.move (by simp [finish]) (by simp [finish]) _
      cases exchanged with
      | false => exact .inl (LawfulAtomic.of_refused done)
      | true =>
          obtain ⟨wasOne, isSet⟩ := LawfulAtomic.of_exchanged done
          exact .inr ⟨isSet, wasOne⟩
  | @read thread read =>
      exact keeps.move fun _ => .inr ⟨thread, .inr (by simp [State.move])⟩
  | @hook thread co hook =>
      have hooked : Keeps (s.sethook co true) :=
        keeps.sethook fun pending behind =>
          (keeps.armed pending behind).sethook co
      refine hooked.move fun armed => ?_
      by_cases isActive : s.activeL = some co
      · rcases keeps.active with active | ⟨active, _⟩
        · rw [isActive] at active
          injection active with isRunning
          refine .inl ?_
          simp [State.move, State.sethook, isRunning,
            LawfulHooks.gethook_sethook]
        · rw [isActive] at active
          cases active
      · exact armed.move (by simp [State.sethook, hook])
          (by simpa [State.sethook, hook] using Ne.symm isActive) _

/-- With strong exchanges a signal that is not marked has a sender. -/
theorem isSetting_step
    [StrongAtomic Cell]
    (setting : load s.trap = 1 → IsSetting s)
    (step : Step s label next) :
    load next.trap = 1 → IsSetting next := by
  cases step with
  | hookStore taken =>
      simp [State.goto, LawfulAtomic.load_store]
  | refused idle pending =>
      exact fun isOne => (setting isOne).move (by rw [idle]; rfl) _
  | signal idle quiet =>
      exact fun isOne => (setting isOne).move (by rw [idle]; rfl) _
  | late exchange refused =>
      intro isOne
      have same := LawfulAtomic.of_refused refused
      exact IsSetting.move (s := { s with trap := _ })
        (setting (same.symm.trans isOne)) (by rw [exchange]; rfl) _
  | accept exchange exchanged =>
      exact fun _ => isSetting_move rfl
  | @finish thread exchanged trap finish done =>
      intro isOne
      change load trap = 1 at isOne
      cases exchanged with
      | false =>
          have notOne := StrongAtomic.of_refused done
          rw [LawfulAtomic.of_refused done] at isOne
          exact absurd isOne notOne
      | true =>
          rw [(LawfulAtomic.of_exchanged done).2] at isOne
          cases isOne
  | read read =>
      exact fun _ => isSetting_move rfl
  | hook hook =>
      exact fun _ => isSetting_move rfl
  | _ => exact setting

section Pending

/-- A call of the hook raises a pending signal. -/
theorem interrupt_raises
    (code : s.place = .code)
    (pending : load s.trap ≠ 0) :
    ∃ s',
      Run.replay next? s [.interrupt, .advance, .advance, .advance] =
          some s' ∧
        s'.place = .code ∧ load s'.trap = 0 ∧ s'.raised = s.raised + 1 := by
  refine
    ⟨{ s.sethook s.running false with
        trap := store s.trap 0
        raised := s.raised + 1
        place := .code }, ?_, rfl, LawfulAtomic.load_store _ _, rfl⟩
  simp [Run.replay, next?, advance?, State.goto, State.sethook, code, pending]

/-- A move that a thread makes in `snlua_signal`. -/
def Label.IsBy (thread : Thread) : Label Coroutine Thread → Prop
  | .exchange other _ => other = thread
  | .send other => other = thread
  | _ => False

/-- A thread that makes its second exchange leaves -1. -/
theorem finish_sets
    [StrongAtomic Cell]
    (thread : Thread)
    (range : load s.trap = 1 ∨ load s.trap = -1)
    (finish : s.sender thread = .finish) :
    ∃ exchanged s',
      next? s (.exchange thread exchanged) = some s' ∧
        load s'.trap = -1 ∧ s'.place = s.place := by
  by_cases isOne : load s.trap = 1
  · obtain ⟨trap, exchanged⟩ := StrongAtomic.exchanges (-1) isOne
    refine
      ⟨true, { s with trap := trap }.move thread .idle, ?_,
        (LawfulAtomic.of_exchanged exchanged).2, rfl⟩
    simp [next?, exchange?, finish, exchanged]
  · obtain ⟨trap, refused⟩ := StrongAtomic.refuses (-1) isOne
    refine
      ⟨false, { s with trap := trap }.move thread .idle, ?_,
        (LawfulAtomic.of_refused refused).trans (range.resolve_left isOne), rfl⟩
    simp [next?, exchange?, finish, refused]

/-- A thread that sets the hook of a coroutine leaves -1 after another step. -/
theorem hook_sets
    [StrongAtomic Cell]
    (thread : Thread)
    {co : Coroutine}
    (range : load s.trap = 1 ∨ load s.trap = -1)
    (hook : s.sender thread = .hook (some co)) :
    ∃ exchanged s',
      Run.replay next? s [.send thread, .exchange thread exchanged] = some s' ∧
        load s'.trap = -1 ∧ s'.place = s.place := by
  obtain ⟨exchanged, s', taken, isSet, samePlace⟩ :=
    finish_sets thread (s := (s.sethook co true).move thread .finish) range
      (by simp [State.move])
  have hooks :
      next? s (.send thread) =
        some ((s.sethook co true).move thread .finish) := by
    simp [next?, send?, hook]
  exact
    ⟨exchanged, s', by simp [Run.replay, hooks, taken], isSet, samePlace⟩

/-- A thread between the exchanges that has not read NULL makes `trap` -1. -/
theorem sender_finishes
    [StrongAtomic Cell]
    {thread : Thread}
    (range : load s.trap = 1 ∨ load s.trap = -1)
    (active : s.activeL = some s.running)
    (setting : (s.sender thread).isSetting = true)
    (notNull : s.sender thread ≠ .hook none) :
    ∃ moves s',
      moves.length ≤ 3 ∧ (∀ move ∈ moves, Label.IsBy thread move) ∧
        Run.replay next? s moves = some s' ∧
        load s'.trap = -1 ∧ s'.place = s.place := by
  cases place : s.sender thread with
  | idle =>
      rw [place] at setting
      cases setting
  | exchange =>
      rw [place] at setting
      cases setting
  | read =>
      obtain ⟨exchanged, s', replayed, isSet, samePlace⟩ :=
        hook_sets thread (s := s.move thread (.hook s.activeL)) range
          (show _ = Sender.hook (some s.running) by simp [State.move, active])
      have reads :
          next? s (.send thread) = some (s.move thread (.hook s.activeL)) := by
        simp [next?, send?, place]
      refine
        ⟨[.send thread, .send thread, .exchange thread exchanged], s',
          by simp, by simp [Label.IsBy], ?_, isSet, samePlace⟩
      rw [Run.replay, reads]
      exact replayed
  | hook found =>
      cases found with
      | none => exact absurd place notNull
      | some co =>
          obtain ⟨exchanged, s', replayed, isSet, samePlace⟩ :=
            hook_sets thread range place
          exact
            ⟨[.send thread, .exchange thread exchanged], s', by simp,
              by simp [Label.IsBy], replayed, isSet, samePlace⟩
  | finish =>
      obtain ⟨exchanged, s', taken, isSet, samePlace⟩ :=
        finish_sets thread range place
      exact
        ⟨[.exchange thread exchanged], s', by simp, by simp [Label.IsBy],
          by simp [Run.replay, taken], isSet, samePlace⟩

variable
    {main : Coroutine}
    {lua : Lua}
    {past : List (State Coroutine Thread Cell Lua × Label Coroutine Thread)}
    {final : State Coroutine Thread Cell Lua}

theorem keeps_visited
    [LawfulHooks Lua Coroutine]
    (run : Run (Run.Steps next?) (start main lua) past final) :
    ∀ s ∈ Run.visited past final, Keeps s :=
  run.invariant_of_step (keeps_start main lua)
    fun keeps taken => keeps.step (step_of_next? taken)

theorem isSetting_visited
    [StrongAtomic Cell]
    (run : Run (Run.Steps next?) (start main lua) past final) :
    ∀ s ∈ Run.visited past final, load s.trap = 1 → IsSetting s := by
  refine run.invariant_of_step ?_
    fun setting taken => isSetting_step setting (step_of_next? taken)
  simp [start, LawfulAtomic.load_init]

/--
Every signal that exchanged 0 for 1 is raised once, or is the one that is
pending.  While one is pending and nobody is between the exchanges, the
coroutine that runs has the hook, and when Lua calls it the signal is raised.
-/
theorem signal_raised
    [LawfulHooks Lua Coroutine]
    (run : Run (Run.Steps next?) (start main lua) past final) :
    ∀ s ∈ Run.visited past final,
      s.accepted = s.raised + (if load s.trap = 0 then 0 else 1) ∧
        (load s.trap ≠ 0 → s.place = .code → ¬ IsSetting s →
          gethook s.lua s.running = true ∧
            ∃ s',
              Run.replay next? s [.interrupt, .advance, .advance, .advance] =
                  some s' ∧
                s'.place = .code ∧ load s'.trap = 0 ∧
                s'.raised = s.raised + 1) := by
  intro s member
  have keeps := keeps_visited run s member
  refine ⟨keeps.counted, fun pending code settled => ?_⟩
  have armed := keeps.armed pending (by rw [code]; rfl)
  exact ⟨armed.hooked settled, interrupt_raises code pending⟩

/-- A signal that is pending while a coroutine runs. -/
theorem signal_raised_pending :
    ∃ past final,
      Run (Run.Steps next?)
          (start 0 fun _ => false : State Nat Unit Int (Nat → Bool))
          past final ∧
        final.place = .code ∧ final.trap = -1 ∧
        final.accepted = final.raised + 1 ∧ final.lua 1 = true := by
  obtain ⟨past, final, run, checks⟩ :=
    Run.exists_of_replay
      (start 0 fun _ => false : State Nat Unit Int (Nat → Bool)) next?
      [.resume 1, .advance, .signal (), .exchange () true, .send (), .send (),
        .exchange () true]
      (fun s =>
        s.place = .code ∧ s.trap = -1 ∧ s.running = 1 ∧ s.sender () = .idle)
      (by decide +kernel)
  obtain ⟨code, isSet, isRunning, idle⟩ := of_decide_eq_true checks
  have settled : ¬ IsSetting final := by
    rintro ⟨_, setting⟩
    rw [idle] at setting
    cases setting
  have pending : load final.trap ≠ 0 := by simp [isSet, load]
  obtain ⟨counted, raises⟩ := signal_raised run final List.mem_cons_self
  have hooked := (raises pending code settled).1
  rw [if_neg pending] at counted
  rw [isRunning] at hooked
  exact ⟨past, final, run, code, isSet, counted, hooked⟩

/--
With strong exchanges, a worker that waits for the hook of a coroutine that it
has left goes on at once, or waits for a thread that is between the exchanges;
each of these ends the wait within three steps of its own, unless it is about
to give the hook to NULL.
-/
theorem resumeWait_ends
    [LawfulHooks Lua Coroutine]
    [StrongAtomic Cell]
    (run : Run (Run.Steps next?) (start main lua) past final) :
    ∀ s ∈ Run.visited past final,
      s.place = .resumeWait →
        (next? s .advance = some (s.goto .resumeSwitch) ∨ IsSetting s) ∧
          ∀ thread,
            (s.sender thread).isSetting = true →
              s.sender thread ≠ .hook none →
                ∃ moves s',
                  moves.length ≤ 3 ∧
                    (∀ move ∈ moves, Label.IsBy thread move) ∧
                    Run.replay next? s (moves ++ [.advance]) = some s' ∧
                    s'.place = .resumeSwitch := by
  intro s member wait
  have keeps := keeps_visited run s member
  have range : load s.trap = 1 ∨ load s.trap = -1 :=
    keeps.range.resolve_left (keeps.taking (.inr wait))
  have active : s.activeL = some s.running := by
    rcases keeps.active with active | ⟨_, notResumed⟩
    · exact active
    · exact absurd notResumed (keeps.nested (by rw [wait]; rfl))
  have leaves (t : State Coroutine Thread Cell Lua)
      (waits : t.place = .resumeWait)
      (isSet : load t.trap = -1) :
      next? t .advance = some (t.goto .resumeSwitch) := by
    simp [next?, advance?, waits, isSet]
  refine ⟨?_, fun thread setting notNull => ?_⟩
  · rcases range with isOne | isSet
    · exact .inr (isSetting_visited run s member isOne)
    · exact .inl (leaves s wait isSet)
  · obtain ⟨moves, s', atMost, own, replayed, isSet, samePlace⟩ :=
      sender_finishes range active setting notNull
    refine ⟨moves, s'.goto .resumeSwitch, atMost, own, ?_, rfl⟩
    rw [Run.replay_append, replayed]
    simp [Run.replay, leaves s' (samePlace.trans wait) isSet]

/-- A worker that waits for a sender which has not read `activeL` yet. -/
theorem resumeWait_ends_read :
    ∃ past final,
      Run (Run.Steps next?)
          (start 0 fun _ => false : State Nat Unit Int (Nat → Bool))
          past final ∧
        final.sender () = .read ∧
        ∃ moves s',
          moves.length ≤ 3 ∧ (∀ move ∈ moves, Label.IsBy () move) ∧
            Run.replay next? final (moves ++ [.advance]) = some s' ∧
            s'.place = .resumeSwitch := by
  obtain ⟨past, final, run, checks⟩ :=
    Run.exists_of_replay
      (start 0 fun _ => false : State Nat Unit Int (Nat → Bool)) next?
      [.resume 1, .advance, .signal (), .exchange () true, .leave, .advance]
      (fun s => s.place = .resumeWait ∧ s.sender () = .read)
      (by decide +kernel)
  obtain ⟨wait, reads⟩ := of_decide_eq_true checks
  exact
    ⟨past, final, run, reads,
      (resumeWait_ends run final List.mem_cons_self wait).2 ()
        (by rw [reads]; rfl) (by rw [reads]; simp)⟩

end Pending

section Careful

/--
A sender does not win its exchange after a worker has seen `trap` empty and
before that worker leaves its coroutine, and the worker does not take a signal
whose sender has not made its second exchange.
-/
def IsCareful
    (s : State Coroutine Thread Cell Lua) : Label Coroutine Thread → Prop
  | .exchange thread exchanged =>
      s.sender thread = .exchange → exchanged = true → s.place ≠ .resumeSwitch
  | .advance => s.place = .hookStore → ¬ IsSetting s
  | _ => True

/-- What careful steps keep. -/
structure IsSafe (s : State Coroutine Thread Cell Lua) : Prop where
  trapped : IsSetting s → load s.trap = 1
  alone :
    ∀ thread other,
      (s.sender thread).isSetting = true →
        (s.sender other).isSetting = true → thread = other
  notLeaving : IsSetting s → s.place ≠ .resumeSwitch
  target :
    ∀ thread co, s.sender thread = .hook (some co) → s.IsLive co

omit [Hooks Lua Coroutine] [DecidableEq Thread] [LawfulAtomic Cell] in
/-- Nothing is asked while nobody is between the exchanges. -/
theorem isSafe_of_settled
    (settled : ¬ IsSetting s) :
    IsSafe s where
  trapped := fun setting => absurd setting settled
  alone := fun thread _ setting => absurd ⟨thread, setting⟩ settled
  notLeaving := fun setting => absurd setting settled
  target := fun thread _ hook =>
    absurd ⟨thread, by rw [hook]; rfl⟩ settled

omit [Hooks Lua Coroutine] [DecidableEq Thread] [LawfulAtomic Cell] in
/-- Careful steps of the worker that leave nothing. -/
theorem IsSafe.worker
    (safe : IsSafe s)
    (sameSender : next.sender = s.sender)
    (sameTrap : next.trap = s.trap)
    (notLeaving : IsSetting s → next.place ≠ .resumeSwitch)
    (live : ∀ co, s.IsLive co → next.IsLive co) :
    IsSafe next := by
  have sameSetting : IsSetting next ↔ IsSetting s := by
    simp only [IsSetting, sameSender]
  refine ⟨?_, ?_, ?_, ?_⟩
  · rw [sameSetting, sameTrap]
    exact safe.trapped
  · rw [sameSender]
    exact safe.alone
  · rw [sameSetting]
    exact notLeaving
  · rw [sameSender]
    exact fun thread co hook => live co (safe.target thread co hook)

omit [Hooks Lua Coroutine] [LawfulAtomic Cell] in
/-- A sender that moves on between the exchanges, or outside of them. -/
theorem IsSafe.move
    (safe : IsSafe s)
    {thread : Thread}
    {sender : Sender Coroutine}
    (same : sender.isSetting = (s.sender thread).isSetting)
    (target : ∀ co, sender = .hook (some co) → s.IsLive co) :
    IsSafe (s.move thread sender) := by
  have sameSetting (other : Thread) :
      ((s.move thread sender).sender other).isSetting =
        (s.sender other).isSetting := by
    by_cases isThread : other = thread
    · subst isThread
      simpa [State.move] using same
    · simp [State.move, isThread]
  have setting : IsSetting (s.move thread sender) ↔ IsSetting s := by
    simp only [IsSetting, sameSetting]
  refine ⟨?_, ?_, ?_, ?_⟩
  · rw [setting]
    exact safe.trapped
  · intro other another
    rw [sameSetting, sameSetting]
    exact safe.alone other another
  · rw [setting]
    exact safe.notLeaving
  · intro other co hook
    by_cases isThread : other = thread
    · subst isThread
      exact target co (by simpa [State.move] using hook)
    · exact safe.target other co (by simpa [State.move, isThread] using hook)

omit [Hooks Lua Coroutine] [LawfulAtomic Cell] in
/-- A sender that wins is alone, with a worker that has left nothing. -/
theorem IsSafe.accept
    (safe : IsSafe s)
    (thread : Thread)
    {trap : Cell}
    (quiet : load s.trap = 0)
    (isOne : load trap = 1)
    (careful : s.place ≠ .resumeSwitch) :
    IsSafe
      ({ s with
          trap := trap
          accepted := s.accepted + 1 }.move thread .read) := by
  have settled : ¬ IsSetting s := by
    intro setting
    rw [safe.trapped setting] at quiet
    cases quiet
  have isThread (other : Thread)
      (setting :
        (Function.update s.sender thread .read other).isSetting = true) :
      other = thread := by
    by_contra different
    rw [Function.update_of_ne different] at setting
    exact settled ⟨other, setting⟩
  refine ⟨fun _ => isOne, ?_, fun _ => careful, ?_⟩
  · intro other another setting setting'
    rw [isThread other setting, isThread another setting']
  · intro other co hook
    have isSelf := isThread other (by
      change Function.update s.sender thread .read other = _ at hook
      rw [hook]
      rfl)
    subst isSelf
    simp [State.move] at hook

/-- A careful step keeps a sender at a coroutine that is not left. -/
theorem IsSafe.step
    (safe : IsSafe s)
    (keeps : Keeps s)
    (careful : IsCareful s label)
    (step : Step s label next) :
    IsSafe next := by
  cases step with
  | interrupt code =>
      exact safe.worker rfl rfl (by simp [State.goto]) fun _ live => live
  | resume code =>
      refine safe.worker rfl rfl (by simp [State.goto]) fun other live => ?_
      exact .inr (List.mem_cons.mpr live)
  | leave code resumed =>
      exact safe.worker rfl rfl (by simp [State.goto]) fun _ live => live
  | switched loads quiet =>
      exact safe.worker rfl rfl (by simp [State.goto]) fun _ live => live
  | switchPending loads pending =>
      exact safe.worker rfl rfl (by simp [State.goto]) fun _ live => live
  | switchHook hook =>
      exact safe.worker rfl rfl (by simp [State.goto]) fun _ live => live
  | hookClear clear =>
      exact safe.worker rfl rfl (by simp [State.goto]) fun _ live => live
  | hookQuiet loads quiet =>
      exact safe.worker rfl rfl (by simp [State.goto]) fun _ live => live
  | hookPending loads pending =>
      exact safe.worker rfl rfl (by simp [State.goto]) fun _ live => live
  | hookStore taken =>
      exact isSafe_of_settled (careful taken)
  | resumeQuiet loads quiet =>
      refine safe.worker rfl rfl (fun setting => ?_) fun _ live => live
      rw [safe.trapped setting] at quiet
      cases quiet
  | resumePending loads pending =>
      exact safe.worker rfl rfl (by simp [State.goto]) fun _ live => live
  | waiting wait setting =>
      exact safe.worker rfl rfl (by simp [State.goto]) fun _ live => live
  | waited wait hooked =>
      refine safe.worker rfl rfl (fun setting => ?_) fun _ live => live
      rw [safe.trapped setting] at hooked
      cases hooked
  | resumeSwitch switch resumed =>
      exact isSafe_of_settled fun setting => safe.notLeaving setting switch
  | refused idle pending =>
      exact safe.move (by rw [idle]) (by simp)
  | signal idle quiet =>
      exact safe.move (by rw [idle]; rfl) (by simp)
  | @late thread trap exchange refused =>
      have replaced : IsSafe { s with trap := trap } :=
        ⟨fun setting =>
          (LawfulAtomic.of_refused refused).trans (safe.trapped setting),
          safe.alone, safe.notLeaving, safe.target⟩
      have sameSender : { s with trap := trap }.sender thread = .exchange :=
        exchange
      exact replaced.move (by rw [sameSender]; rfl) (by simp)
  | accept exchange exchanged =>
      obtain ⟨quiet, isOne⟩ := LawfulAtomic.of_exchanged exchanged
      exact safe.accept _ quiet isOne (careful exchange rfl)
  | read read =>
      refine safe.move (by rw [read]; rfl) fun co hook => ?_
      injection hook with active
      rcases keeps.active with isRunning | ⟨isNone, _⟩
      · rw [active] at isRunning
        injection isRunning with isRunning
        exact .inl isRunning
      · rw [active] at isNone
        cases isNone
  | @hook thread co hook =>
      have sets : IsSafe (s.sethook co true) :=
        safe.worker rfl rfl safe.notLeaving fun _ live => live
      have sameSender : (s.sethook co true).sender thread = .hook (some co) :=
        hook
      exact sets.move (by rw [sameSender]; rfl) (by simp)
  | @finish thread exchanged trap finish done =>
      refine isSafe_of_settled ?_
      rintro ⟨other, setting⟩
      by_cases isThread : other = thread
      · subst isThread
        simp [State.move, Sender.isSetting] at setting
      · simp only [State.move, Function.update_of_ne isThread] at setting
        exact isThread (safe.alone other thread setting (by rw [finish]; rfl))

variable
    {main : Coroutine}
    {lua : Lua}
    {past : List (State Coroutine Thread Cell Lua × Label Coroutine Thread)}
    {final : State Coroutine Thread Cell Lua}

/--
As long as no sender wins its exchange while the worker, having seen `trap`
empty, is about to leave its coroutine, and the worker takes no signal whose
sender is still between its exchanges, only one thread at a time is between
them, and it gives the hook to a coroutine whose `lua_resumeX` is not over.
-/
theorem hook_isLive
    [LawfulHooks Lua Coroutine]
    (run : Run (Run.Steps next?) (start main lua) past final)
    (careful : ∀ s label, (s, label) ∈ past → IsCareful s label) :
    ∀ s ∈ Run.visited past final,
      (∀ thread other,
        (s.sender thread).isSetting = true →
          (s.sender other).isSetting = true → thread = other) ∧
        ∀ thread co, s.sender thread = .hook (some co) → s.IsLive co := by
  have settled :
      ¬ IsSetting (start main lua : State Coroutine Thread Cell Lua) := by
    rintro ⟨thread, setting⟩
    cases setting
  have kept : ∀ s ∈ Run.visited past final, Keeps s ∧ IsSafe s :=
    run.invariant_visited
      ⟨keeps_start main lua, isSafe_of_settled settled⟩
      (fun holds isCareful taken =>
        have step := step_of_next? taken
        ⟨holds.1.step step, holds.2.step holds.1 isCareful step⟩)
      fun member => careful _ _ member
  intro s member
  have safe := (kept s member).2
  exact ⟨safe.alone, safe.target⟩

/-- A run in which a sender is about to give the hook to the coroutine that runs. -/
theorem hook_isLive_running :
    ∃ past final,
      Run (Run.Steps next?)
          (start 0 fun _ => false : State Nat Unit Int (Nat → Bool))
          past final ∧
        final.sender () = .hook (some 1) ∧ final.IsLive 1 := by
  obtain ⟨past, final, run, careful, checks⟩ :=
    Run.exists_of_trace
      (start 0 fun _ => false : State Nat Unit Int (Nat → Bool)) next?
      [.resume 1, .advance, .signal (), .exchange () true, .send ()]
      (fun s => s.place ≠ .resumeSwitch ∧ s.place ≠ .hookStore)
      (fun s => s.sender () = .hook (some 1))
      (by decide +kernel)
  have isCareful (s : State Nat Unit Int (Nat → Bool)) (label : Label Nat Unit)
      (member : (s, label) ∈ past) :
      IsCareful s label := by
    obtain ⟨notLeaving, notTaking⟩ := of_decide_eq_true (careful s label member)
    cases label with
    | exchange thread exchanged => exact fun _ _ => notLeaving
    | advance => exact fun taking => absurd taking notTaking
    | _ => trivial
  have hook := of_decide_eq_true checks
  exact
    ⟨past, final, run, hook,
      (hook_isLive run isCareful final List.mem_cons_self).2 () 1 hook⟩

/-- A sender that wins behind the test of `trap` may be late for the coroutine. -/
theorem late_hook :
    ∃ past final,
      Run (Run.Steps next?)
          (start 0 fun _ => false : State Nat Unit Int (Nat → Bool))
          past final ∧
        final.sender () = .hook (some 1) ∧ ¬ final.IsLive 1 := by
  obtain ⟨past, final, run, checks⟩ :=
    Run.exists_of_replay
      (start 0 fun _ => false : State Nat Unit Int (Nat → Bool)) next?
      [.resume 1, .advance, .leave, .advance, .signal (), .exchange () true,
        .send (), .advance]
      (fun s => s.sender () = .hook (some 1) ∧ ¬ s.IsLive 1)
      (by decide +kernel)
  exact ⟨past, final, run, of_decide_eq_true checks⟩

/-- A worker that takes the signal first does not wait for its sender. -/
theorem taken_hook :
    ∃ past final,
      Run (Run.Steps next?)
          (start 0 fun _ => false : State Nat Unit Int (Nat → Bool))
          past final ∧
        final.raised = 1 ∧ final.sender () = .hook (some 1) ∧
          ¬ final.IsLive 1 := by
  obtain ⟨past, final, run, checks⟩ :=
    Run.exists_of_replay
      (start 0 fun _ => false : State Nat Unit Int (Nat → Bool)) next?
      [.resume 1, .signal (), .exchange () true, .advance, .advance, .send (),
        .interrupt, .advance, .advance, .advance, .leave, .advance, .advance]
      (fun s =>
        s.raised = 1 ∧ s.sender () = .hook (some 1) ∧ ¬ s.IsLive 1)
      (by decide +kernel)
  exact ⟨past, final, run, of_decide_eq_true checks⟩

end Careful

end SkynetCpp.SnluaSignal
