import SkynetCpp.Command
import SkynetCpp.TimerMemory

namespace SkynetCpp

open Foundation

/-!
# The `TIMEOUT` command

The command reads a `long` and hands it to `Timeout`, which takes an `int`, and
which links a local variable.  A response comes as late as it was asked for when
the number fits an `int` and nothing writes the variable while it waits.
-/

section Number

/-- The value of the leading decimal digits, if there are any. -/
def decimalDigits : List Char → Option Nat → Option Nat
  | [], value => value
  | c :: rest, value =>
      if '0' ≤ c ∧ c ≤ '9' then
        decimalDigits rest (some (value.getD 0 * 10 + (c.toNat - '0'.toNat)))
      else
        value

/-- What `strtol` reads in base 10: whether there is a minus sign, and the number. -/
def decimalPrefix (text : List Char) : Option (Bool × Nat) :=
  match text.dropWhile isSpaceChar with
  | '-' :: rest => (decimalDigits rest none).map (true, ·)
  | '+' :: rest => (decimalDigits rest none).map (false, ·)
  | rest => (decimalDigits rest none).map (false, ·)

/-- `std::stol(text, &pos, 10)`; a `long` has 64 bits. -/
def stol (text : List Char) : Except Fault Int :=
  match decimalPrefix text with
  | none => .error (.exception "stol")
  | some (negative, value) =>
      if negative then
        if value ≤ 2 ^ 63 then .ok (-value) else .error (.exception "stol")
      else
        if value < 2 ^ 63 then .ok value else .error (.exception "stol")

end Number

/-- A `TIMEOUT` command that returned; ghost state. -/
structure TimeoutCommand where
  handle : UInt32
  /-- What `std::stol` read. -/
  number : Int
  answer : String
  time : UInt32
  tick : Nat
  /-- The expiry of the node that it linked, if it linked one. -/
  expire : Option UInt32
  deriving Repr, DecidableEq

/-- The timer, and the `TIMEOUT` commands that were given. -/
structure Timeouts where
  memory : TimerMemory
  commands : List TimeoutCommand

namespace Timeouts

section Model

/-- A timer without nodes, in memory of any contents. -/
def start
    (node : Nat → TimerCell)
    (next : Nat → Option Nat)
    (time : UInt32) : Timeouts where
  memory := TimerMemory.start node next time
  commands := []

/--
`Timeout` in `CmdTimeout`, with the address of its local variable.  The `long`
is converted to the `int` that `Timeout` takes.
-/
def requested
    (s : Timeouts)
    (address : Nat)
    (handle : UInt32)
    (number session : Int) : Timeouts :=
  let time := toInt32 number
  let memory :=
    s.memory.timeout address handle time session s.commands.length
  { memory := memory
    commands :=
      s.commands ++
        [{ handle := handle
           number := number
           answer := toString session
           time := s.memory.time
           tick := s.memory.ticks
           expire :=
             if time ≤ 0 then none else some (memory.node address).expire }] }

/-- `CmdTimeout`; the result of `Timeout` is not looked at. -/
def cmdTimeout
    (s : Timeouts)
    (system : System)
    (ctx : ContextId)
    (address : Nat)
    (param : String) : Except Fault (String × Timeouts) := do
  let number ← stol param.toList
  let (session, system) := newsession system ctx
  .ok
    (toString session,
      s.requested address (system.contexts ctx).handle number session)

/-- The steps of the threads. -/
inductive Action where
  /-- A `TIMEOUT` command, in the state that the rest of the process is in. -/
  | command
      (system : System)
      (ctx : ContextId)
      (address : Nat)
      (param : String)
  /-- Other code uses the memory of a node. -/
  | write
      (address : Nat)
      (next : Option Nat)
      (cell : TimerCell)
  /-- A step of `Update`. -/
  | update

/-- One step; a command whose number `std::stol` does not take throws. -/
def next? (s : Timeouts) : Action → Option Timeouts
  | .command system ctx address param =>
      match s.cmdTimeout system ctx address param with
      | .ok (_, later) => some later
      | .error _ => none
  | .write address next cell =>
      some { s with memory := s.memory.write address next cell }
  | .update => s.memory.update.map fun memory => { s with memory := memory }

/-- A number that fits an `int`, and a variable that no waiting node lies in. -/
def Fits
    (s : Timeouts)
    (address : Nat) : Except Fault Int → Prop
  | .ok number =>
      number < 2 ^ 31 ∧ (0 < toInt32 number → address ∉ s.memory.waiting)
  | .error _ => True

instance
    (s : Timeouts)
    (address : Nat) :
    (number : Except Fault Int) → Decidable (s.Fits address number)
  | .ok number =>
      inferInstanceAs
        (Decidable
          (number < 2 ^ 31 ∧ (0 < toInt32 number → address ∉ s.memory.waiting)))
  | .error _ => .isTrue trivial

/-- The numbers of the commands fit an `int`, and no waiting node is written. -/
def Undisturbed (s : Timeouts) : Action → Prop
  | .command _ _ address param => s.Fits address (stol param.toList)
  | .write address _ _ => address ∉ s.memory.waiting
  | .update => True

instance
    (s : Timeouts) :
    (action : Action) → Decidable (s.Undisturbed action)
  | .command _ _ address param =>
      inferInstanceAs (Decidable (s.Fits address (stol param.toList)))
  | .write address _ _ =>
      inferInstanceAs (Decidable (address ∉ s.memory.waiting))
  | .update => .isTrue trivial

end Model

section Property

/-- The response is that of a command, and comes in the tick it asked for or later. -/
structure Answers
    (command : TimeoutCommand)
    (handle : UInt32)
    (session : Int)
    (tick : Nat) : Prop where
  handle : handle = command.handle
  session : toString session = command.answer
  notBefore : (command.tick : Int) + command.number ≤ tick

/-- The response of a call answers the command that made it. -/
def Rightful
    (commands : List TimeoutCommand)
    (call : Option Nat)
    (handle : UInt32)
    (session : Int)
    (tick : Nat) : Prop :=
  ∃ command,
    (call.bind fun k => commands[k]?) = some command ∧
      Answers command handle session tick

/--
A command with a positive number goes through the wheel, so many ticks ahead,
and every response that was sent carries the session of a command and does not
come before the ticks that it asked for.
-/
structure Waits (s : Timeouts) : Prop where
  throughTimer :
    ∀ command ∈ s.commands,
      0 < command.number →
        command.expire = some (command.time + UInt32.ofInt command.number)
  rightful :
    ∀ response ∈ s.memory.sent,
      Rightful s.commands response.call response.handle
        response.message.session response.tick

end Property

section Steps

variable
    {commands : List TimeoutCommand}
    {s s' : Timeouts}
    {base : Nat}

/-- A later command takes no response from the earlier ones. -/
theorem Rightful.append
    {call : Option Nat}
    {handle : UInt32}
    {session : Int}
    {tick : Nat}
    (rightful : Rightful commands call handle session tick)
    (command : TimeoutCommand) :
    Rightful (commands ++ [command]) call handle session tick := by
  obtain ⟨answered, isAnswered, answers⟩ := rightful
  obtain ⟨k, isCall, found⟩ := Option.bind_eq_some_iff.mp isAnswered
  refine ⟨answered, Option.bind_eq_some_iff.mpr ⟨k, isCall, ?_⟩, answers⟩
  obtain ⟨bound, _⟩ := List.getElem?_eq_some_iff.mp found
  rwa [List.getElem?_append_left bound]

/-- The next command gets its number. -/
theorem rightful_append_self
    {command : TimeoutCommand}
    {handle : UInt32}
    {session : Int}
    {tick : Nat}
    (answers : Answers command handle session tick) :
    Rightful (commands ++ [command]) (some commands.length) handle session
      tick :=
  ⟨command, by simp, answers⟩

/-- Every node holds the response of a command. -/
structure Keeps
    (base : Nat)
    (s : Timeouts) : Prop where
  owing :
    s.memory.Owing
      (fun tick cell => Rightful s.commands cell.call cell.handle cell.session tick)
      base
  waits : Waits s

theorem keeps_start
    (node : Nat → TimerCell)
    (next : Nat → Option Nat)
    (time : UInt32) :
    Keeps time.toNat (start node next time) where
  owing := TimerMemory.owing_start node next time
  waits := ⟨fun _ member => (nomatch member), fun _ member => (nomatch member)⟩

/-- A number that fits an `int` is not less than what is left of it. -/
theorem le_toInt32
    {number : Int}
    (short : number < 2 ^ 31) :
    number ≤ toInt32 number := by
  have lower := Int.le_bmod (x := number) (m := 2 ^ 32) (by decide)
  by_cases fits : -2 ^ 31 ≤ number
  · exact Int.le_of_eq (toInt32_of_bounds fits short).symm
  · have isBound : -2 ^ 31 ≤ toInt32 number := by
      simpa [toInt32] using lower
    omega

section Command

variable
    {address : Nat}
    {handle : UInt32}
    {number session : Int}

/-- The earlier commands stay answered when one is given. -/
theorem Rightful.requested
    {call : Option Nat}
    {owner : UInt32}
    {answered : Int}
    {tick : Nat}
    (rightful : Rightful s.commands call owner answered tick) :
    Rightful (s.requested address handle number session).commands call owner
      answered tick :=
  rightful.append _

/-- Every node holds the response of a command still. -/
theorem Keeps.owing_requested
    (keeps : Keeps base s) :
    s.memory.Owing
      (fun tick cell =>
        Rightful (s.requested address handle number session).commands cell.call
          cell.handle cell.session tick)
      base :=
  keeps.owing.mono fun _ _ rightful => rightful.requested

/-- A number that is not positive is answered at once, and was none to wait for. -/
theorem Keeps.requested_atOnce
    (keeps : Keeps base s)
    (short : number < 2 ^ 31)
    (atOnce : toInt32 number ≤ 0) :
    Keeps base (s.requested address handle number session) := by
  have isMemory :
      (s.requested address handle number session).memory =
        s.memory.push handle
          { source := 0
            session := session
            data := none
            sz := encodeSz 0 kPtypeResponse }
          (some s.commands.length) :=
    if_pos atOnce
  have notPositive : number ≤ 0 := Int.le_trans (le_toInt32 short) atOnce
  refine ⟨?_, ?_, ?_⟩
  · rw [isMemory]
    exact keeps.owing_requested.push _ _ _
  · intro command member positive
    rcases List.mem_append.mp member with wasGiven | isNew
    · exact keeps.waits.throughTimer command wasGiven positive
    · rw [List.mem_singleton.mp isNew] at positive
      exact absurd positive (Int.not_lt.mpr notPositive)
  · intro response member
    rw [isMemory] at member
    rcases List.mem_append.mp member with wasSent | isNew
    · exact (keeps.waits.rightful response wasSent).requested
    · rw [List.mem_singleton.mp isNew]
      refine rightful_append_self ⟨rfl, rfl, ?_⟩
      show (s.memory.ticks : Int) + number ≤ s.memory.ticks
      omega

/-- A positive number is waited for, so many ticks. -/
theorem Keeps.requested_linked
    (keeps : Keeps base s)
    (short : number < 2 ^ 31)
    (isFree : address ∉ s.memory.waiting)
    (waits : 0 < toInt32 number) :
    Keeps base (s.requested address handle number session) := by
  let linked :=
    s.memory.write address (s.memory.next address)
      { expire := UInt32.ofInt (toInt32 number) + s.memory.time
        handle := handle
        session := session
        call := some s.commands.length }
  have notAtOnce : ¬ toInt32 number ≤ 0 := Int.not_le.mpr waits
  have isMemory :
      (s.requested address handle number session).memory =
        linked.addNode address :=
    if_neg notAtOnce
  have isNode : linked.node address = ⟨_, _, _, _⟩ :=
    Function.update_self _ _ _
  obtain ⟨sameNode, _, _, sameSent⟩ := linked.addNode_frame address
  obtain ⟨time, isTime⟩ := Int.eq_ofNat_of_zero_le (Int.le_of_lt waits)
  have least := le_toInt32 short
  have isInt := toInt32_lt number
  rw [isTime] at least isInt
  have positive : 0 < time := by omega
  have bound : time < 2 ^ 31 := by omega
  have isExpire :
      (linked.node address).expire = linked.time + UInt32.ofNat time := by
    rw [isNode, isTime, UInt32.ofInt_natCast, UInt32.add_comm]
    rfl
  refine ⟨?_, ?_, ?_⟩
  · rw [isMemory]
    refine
      (keeps.owing_requested.write isFree _ _).addNode isFree positive bound
        isExpire ?_
    rw [isNode]
    refine rightful_append_self ⟨rfl, rfl, ?_⟩
    show (s.memory.ticks : Int) + number ≤ ((s.memory.ticks + time : Nat) : Int)
    omega
  · intro command member isPositive
    rcases List.mem_append.mp member with wasGiven | isNew
    · exact keeps.waits.throughTimer command wasGiven isPositive
    · rw [List.mem_singleton.mp isNew] at isPositive ⊢
      have sameNumber : toInt32 number = number :=
        toInt32_of_bounds
          (Int.le_trans (by decide) (Int.le_of_lt isPositive)) short
      have isExpired :
          ((s.requested address handle number session).memory.node
              address).expire =
            s.memory.time + UInt32.ofInt number := by
        rw [isMemory, sameNode, isNode, sameNumber, UInt32.add_comm]
      exact (if_neg notAtOnce).trans (congrArg some isExpired)
  · intro response member
    rw [isMemory, sameSent] at member
    exact (keeps.waits.rightful response member).requested

/-- A command whose number fits keeps what was promised, and promises its own. -/
theorem Keeps.requested
    (keeps : Keeps base s)
    (fits : s.Fits address (.ok number)) :
    Keeps base (s.requested address handle number session) := by
  obtain ⟨short, free⟩ := fits
  by_cases waits : 0 < toInt32 number
  · exact keeps.requested_linked short (free waits) waits
  · exact keeps.requested_atOnce short (Int.not_lt.mp waits)

end Command

/-- A step that leaves waiting nodes alone keeps what was promised. -/
theorem Keeps.step
    (keeps : Keeps base s)
    {action : Action}
    (undisturbed : s.Undisturbed action)
    (taken : next? s action = some s') :
    Keeps base s' := by
  cases action with
  | command system ctx address param =>
      have fits : s.Fits address (stol param.toList) := undisturbed
      unfold next? at taken
      dsimp only at taken
      cases returned : s.cmdTimeout system ctx address param with
      | error fault =>
          rw [returned] at taken
          cases taken
      | ok answered =>
          rw [returned] at taken
          cases taken
          obtain ⟨number, isNumber, isLater⟩ := bind_eq_ok_iff.mp returned
          rw [isNumber] at fits
          cases isLater
          exact keeps.requested fits
  | write address next cell =>
      cases taken
      exact ⟨keeps.owing.write undisturbed next cell,
        ⟨keeps.waits.throughTimer, keeps.waits.rightful⟩⟩
  | update =>
      obtain ⟨memory, updated, isLater⟩ := Option.map_eq_some_iff.mp taken
      obtain ⟨later, sends⟩ := keeps.owing.update updated
      rw [← isLater]
      refine ⟨later, keeps.waits.throughTimer, fun response member => ?_⟩
      rcases sends with same | ⟨address, owed, isSent⟩
      · exact keeps.waits.rightful response (same ▸ member)
      · have member : response ∈ (s.memory.dispatch address).sent :=
          isSent ▸ member
        rcases List.mem_append.mp member with wasSent | isNew
        · exact keeps.waits.rightful response wasSent
        · rw [List.mem_singleton.mp isNew]
          exact owed

end Steps

section Runs

/--
As long as the numbers fit an `int` and nothing writes a node that waits, no
response comes before the ticks that its command asked for.
-/
theorem waits_visited
    {node : Nat → TimerCell}
    {next : Nat → Option Nat}
    {time : UInt32}
    {past : List (Timeouts × Action)}
    {final : Timeouts}
    (run : Run (Run.Steps next?) (start node next time) past final)
    (undisturbed :
      ∀ s action, (s, action) ∈ past → s.Undisturbed action) :
    ∀ s ∈ Run.visited past final, Waits s :=
  fun s visited =>
    (Run.invariant_visited run (keeps_start node next time)
      (fun keeps undisturbed taken => keeps.step undisturbed taken)
      (fun member => undisturbed _ _ member) s visited).waits

/-- A timer whose clock stands at 7, in memory that is blank. -/
def blank : Timeouts :=
  start (fun _ => ⟨0, 0, 0, none⟩) (fun _ => none) 7

/-- The system after its first session. -/
def secondSession : System :=
  (newsession soloSystem 0).2

/-- The responses that were sent: their sessions, and in which ticks. -/
def responses (s : Timeouts) : List (Int × Nat) :=
  s.memory.sent.map fun response => (response.message.session, response.tick)

/-- The second of two responses comes first, and then its memory is used again. -/
theorem twoTimeouts_wait :
    ∃ past final,
      Run (Run.Steps next?) blank past final ∧
        final.responses = [(2, 1), (1, 3)] ∧
        ∀ s ∈ Run.visited past final, Waits s := by
  obtain ⟨past, final, run, checked⟩ :=
    Run.exists_of_recorded blank next?
      [.command soloSystem 0 100 "3", .command secondSession 0 200 "1",
        .update, .update, .write 200 (some 100) ⟨0, 0, 0, none⟩, .update,
        .update, .update, .update]
      (fun past final =>
        past.all (fun step => step.1.Undisturbed step.2) &&
          decide (final.responses = [(2, 1), (1, 3)]))
      (by decide +kernel)
  obtain ⟨undisturbed, isSent⟩ := Bool.and_eq_true_iff.mp checked
  refine ⟨past, final, run, of_decide_eq_true isSent, waits_visited run ?_⟩
  intro s action member
  exact of_decide_eq_true (List.all_eq_true.mp undisturbed _ member)

/-- No response was sent before the ticks that its command asked for. -/
def inTime (s : Timeouts) : Bool :=
  s.memory.sent.all fun response =>
    (response.call.bind fun k => s.commands[k]?).all fun command =>
      (command.tick : Int) + command.number ≤ response.tick

theorem Waits.inTime
    {s : Timeouts}
    (waits : Waits s) :
    s.inTime = true := by
  refine List.all_eq_true.mpr fun response member => ?_
  obtain ⟨command, isCommand, answers⟩ := waits.rightful response member
  rw [isCommand]
  exact decide_eq_true answers.notBefore

/--
`2 ^ 31` ticks are answered at once, and `2 ^ 32 + 5` ticks after five.  Of two
commands that use the same memory, the second is answered when the first is due.
-/
theorem timeout_shortened :
    ((Run.replay next? blank [.command soloSystem 0 100 "2147483648"]).map
        responses = some [(1, 0)] ∧
      (Run.replay next? blank
          (.command soloSystem 0 100 "4294967301" ::
            List.replicate 6 .update)).map responses = some [(1, 5)] ∧
      (Run.replay next? blank
          (.command soloSystem 0 100 "5" ::
            .command secondSession 0 100 "100" ::
              List.replicate 6 .update)).map responses = some [(2, 5)]) ∧
      ¬ ∀ node next time past final,
        Run (Run.Steps next?) (start node next time) past final →
          ∀ s ∈ Run.visited past final, Waits s := by
  refine ⟨by decide +kernel, fun holds => ?_⟩
  obtain ⟨past, final, run, early⟩ :=
    Run.exists_of_recorded blank next?
      [.command soloSystem 0 100 "2147483648"] (fun _ final => !final.inTime)
      (by decide +kernel)
  have waits := holds _ _ _ past final run final (by simp)
  rw [waits.inTime] at early
  cases early

end Runs

end Timeouts

end SkynetCpp
