import SkynetCpp.Command
import SkynetCpp.CommandTimeout
import SkynetCpp.GateTable

namespace SkynetCpp

/-!
# The gate's text commands

`_ctrl`, `_parm` and `_forward_agent` of `service_gate.cpp`.  The first word of
a message is compared with each command over the length of the word, not over
that of the command, so that every proper prefix of a command is taken for it.
-/

/-- The characters of bytes. -/
def charsOf (text : List UInt8) : List Char :=
  text.map fun byte => Char.ofNat byte.toNat

/-- The bytes of a literal. -/
def bytesOf (literal : String) : List UInt8 :=
  literal.toList.map fun c => UInt8.ofNat c.toNat

/-- The C string at a place of the memory. -/
def cstring
    (mem : List UInt8)
    (place : Nat) : List UInt8 :=
  (mem.drop place).takeWhile (· ≠ 0)

/-- `strtol(text, NULL, 10)`; out of range the nearest `long` is returned. -/
def strtol (text : List Char) : Int :=
  match decimalPrefix text with
  | none => 0
  | some (negative, value) =>
      if negative then max (-value) (-2 ^ 63) else min value (2 ^ 63 - 1)

/--
`strsep(&client, " ")`: the memory with a zero for the space, and where the
string goes on.
-/
def strsep
    (mem : List UInt8)
    (client : Nat) : List UInt8 × Option Nat :=
  match (cstring mem client).findIdx? (· = 0x20) with
  | some k => (mem.set (client + k) 0, some (client + k + 1))
  | none => (mem, none)

/-- `_parm`, on `sz` bytes of text and the byte behind them. -/
def parm
    (msg : List UInt8)
    (sz command_sz : Nat) : List UInt8 :=
  let behind := ((msg.take sz).drop command_sz).dropWhile (· = 0x20)
  behind ++ 0 :: msg.drop (behind.length + 1)

/-- The commands of `_ctrl`, in the order in which they are tried. -/
inductive GateCommand where
  | kick
  | forward
  | broker
  | start
  | close
  deriving Repr, DecidableEq

namespace GateCommand

/-- The literal that the first word is compared with. -/
def text : GateCommand → List UInt8
  | .kick => bytesOf "kick"
  | .forward => bytesOf "forward"
  | .broker => bytesOf "broker"
  | .start => bytesOf "start"
  | .close => bytesOf "close"

/-- The memory from a literal on: its characters, a zero, and what is behind. -/
def memory
    (behind : GateCommand → Nat → UInt8)
    (command : GateCommand)
    (i : Nat) : UInt8 :=
  (command.text ++ [0]).getD i (behind command i)

/-- The memory from the literal on starts with these bytes. -/
def StartsWith
    (behind : GateCommand → Nat → UInt8)
    (command : GateCommand)
    (word : List UInt8) : Prop :=
  word = (List.range word.length).map (command.memory behind)

instance
    (behind : GateCommand → Nat → UInt8)
    (command : GateCommand)
    (word : List UInt8) :
    Decidable (command.StartsWith behind word) :=
  inferInstanceAs (Decidable (_ = _))

def all : List GateCommand :=
  [.kick, .forward, .broker, .start, .close]

end GateCommand

/-- What the gate asks of the node besides the calls of the data path. -/
inductive GateCall where
  | service (call : ServiceCall)
  | socketStart (id : Int)
  /-- `SkynetError`, with a text of any bytes. -/
  | skynetError (text : List UInt8)
  deriving Repr, DecidableEq

/-- What a text message did. -/
structure ControlOutcome where
  table : GateTable
  calls : List GateCall
  executed : Option GateCommand

namespace GateTable

/-- `_forward_agent`. -/
def forwardAgent
    (table : GateTable)
    (fd : Int)
    (agentaddr clientaddr : UInt32) : Except Fault GateTable := do
  let id ← table.hash.lookup fd
  if id ≥ 0 then
    .ok (table.modifyConn id fun agent =>
      { agent with agent := agentaddr, client := clientaddr })
  else
    .ok table

/-- The command `forward`, on the text behind it. -/
def forwardCommand
    (table : GateTable)
    (tmp : List UInt8) : Except Fault GateTable :=
  match strsep tmp 0 with
  | (_, none) => .ok table
  | (tmp, some agent) =>
      let id := toInt32 (strtol (charsOf (cstring tmp 0)))
      match strsep tmp agent with
      | (_, none) => .ok table
      | (tmp, some client) =>
          let agent_handle := strtoul (charsOf (cstring tmp (agent + 1)))
          let client_handle := strtoul (charsOf (cstring tmp (client + 1)))
          table.forwardAgent id agent_handle.toUInt32 client_handle.toUInt32

variable (queryname : List UInt8 → Except Fault UInt32)

/-- A command on the text behind it; `queryname` is `SkynetQueryname`. -/
def execute
    (table : GateTable)
    (tmp : List UInt8) : GateCommand → Except Fault ControlOutcome
  | .kick => do
      let uid := toInt32 (strtol (charsOf (cstring tmp 0)))
      let id ← table.hash.lookup uid
      .ok
        { table := table
          calls := if id ≥ 0 then [.service (.socketClose uid)] else []
          executed := some .kick }
  | .forward => do
      let table ← table.forwardCommand tmp
      .ok { table := table, calls := [], executed := some .forward }
  | .broker => do
      let broker ← queryname (cstring tmp 0)
      .ok
        { table := { table with gate := { table.gate with broker := broker } }
          calls := []
          executed := some .broker }
  | .start => do
      let uid := toInt32 (strtol (charsOf (cstring tmp 0)))
      let id ← table.hash.lookup uid
      .ok
        { table := table
          calls := if id ≥ 0 then [.socketStart uid] else []
          executed := some .start }
  | .close =>
      if table.listen_id ≥ 0 then
        .ok
          { table := { table with listen_id := -1 }
            calls := [.service (.socketClose table.listen_id)]
            executed := some .close }
      else
        .ok { table := table, calls := [], executed := some .close }

/-- What `_ctrl` does with a message of no command. -/
def unknownCommand
    (table : GateTable)
    (msg : List UInt8) : ControlOutcome where
  table := table
  calls :=
    [.skynetError (bytesOf "[Gate] Unkown command : " ++ cstring (msg ++ [0]) 0)]
  executed := none

variable (behind : GateCommand → Nat → UInt8)

/-- `_ctrl`; `behind` is the memory behind the literals, which `memcmp` may reach. -/
def ctrl
    (table : GateTable)
    (msg : List UInt8) : Except Fault ControlOutcome :=
  let sz := msg.length
  let tmp := msg ++ [0]
  if sz = 0 then
    .ok { table := table, calls := [], executed := none }
  else
    let i := (msg.takeWhile (· ≠ 0x20)).length
    let memcmp (command : GateCommand) : Bool :=
      command.StartsWith behind (tmp.take i)
    if memcmp .kick then
      table.execute queryname (parm tmp sz i) .kick
    else if memcmp .forward then
      table.execute queryname (parm tmp sz i) .forward
    else if memcmp .broker then
      table.execute queryname (parm tmp sz i) .broker
    else if memcmp .start then
      table.execute queryname (parm tmp sz i) .start
    else if memcmp .close then
      table.execute queryname tmp .close
    else
      .ok (table.unknownCommand msg)

end GateTable

/-- The first word of a message, up to the first space or the end. -/
def firstWord (msg : List UInt8) : List UInt8 :=
  msg.takeWhile (· ≠ 0x20)

/-- The text behind the first word, without the spaces in front of it. -/
def argument (msg : List UInt8) : List UInt8 :=
  (msg.drop (firstWord msg).length).dropWhile (· = 0x20)

/--
A message whose first word is a command executes this command, on the text
behind the word; any other message that is not empty is reported.
-/
structure ControlMeets
    (queryname : List UInt8 → Except Fault UInt32)
    (behind : GateCommand → Nat → UInt8)
    (table : GateTable)
    (msg : List UInt8) : Prop where
  executes :
    ∀ outcome, table.ctrl queryname behind msg = .ok outcome →
      ∀ command, outcome.executed = some command ↔ firstWord msg = command.text
  known :
    ∀ command : GateCommand, firstWord msg = command.text →
      ∃ tmp, argument msg ++ [0] <+: tmp ∧
        table.ctrl queryname behind msg = table.execute queryname tmp command
  unknown :
    msg ≠ [] → (∀ command : GateCommand, firstWord msg ≠ command.text) →
      table.ctrl queryname behind msg = .ok (table.unknownCommand msg)

namespace GateCommand

variable
    {behind : GateCommand → Nat → UInt8}
    {command other : GateCommand}
    {word : List UInt8}

/-- A literal starts with itself. -/
theorem startsWith_text
    (behind : GateCommand → Nat → UInt8)
    (command : GateCommand) :
    command.StartsWith behind command.text := by
  cases command <;> rfl

/-- The first byte of a word that a literal starts with. -/
theorem StartsWith.head
    {byte : UInt8}
    {rest : List UInt8}
    (starts : command.StartsWith behind (byte :: rest)) :
    command.text.head? = some byte := by
  have same : (byte :: rest)[0]? =
      ((List.range (byte :: rest).length).map (command.memory behind))[0]? := by
    conv_lhs => rw [starts]
  simp only [List.getElem?_cons_zero, List.length_cons, List.getElem?_map,
    List.getElem?_range (Nat.succ_pos _), Option.map_some] at same
  rw [same]
  cases command <;> rfl

/-- No literal starts with another command. -/
theorem StartsWith.eq_of_text
    (starts : command.StartsWith behind other.text) :
    command = other := by
  obtain ⟨byte, rest, isText⟩ : ∃ byte rest, other.text = byte :: rest := by
    cases other <;> exact ⟨_, _, rfl⟩
  rw [isText] at starts
  have same : command.text.head? = other.text.head? := by
    rw [starts.head, isText]
    rfl
  revert same
  cases command <;> cases other <;> decide

theorem text_injective
    (same : command.text = other.text) :
    command = other := by
  have starts : command.StartsWith (fun _ _ => 0) other.text :=
    same ▸ startsWith_text _ command
  exact starts.eq_of_text

end GateCommand

namespace GateTable

variable
    {queryname : List UInt8 → Except Fault UInt32}
    {behind : GateCommand → Nat → UInt8}
    {table : GateTable}
    {tmp msg : List UInt8}
    {command : GateCommand}
    {outcome : ControlOutcome}

/-- A command that returns is recorded. -/
theorem execute_executed
    (returned : table.execute queryname tmp command = .ok outcome) :
    outcome.executed = some command := by
  cases command with
  | kick | start =>
      obtain ⟨id, _, isOutcome⟩ := bind_eq_ok_iff.mp returned
      cases isOutcome
      rfl
  | forward =>
      obtain ⟨forwarded, _, isOutcome⟩ := bind_eq_ok_iff.mp returned
      cases isOutcome
      rfl
  | broker =>
      obtain ⟨broker, _, isOutcome⟩ := bind_eq_ok_iff.mp returned
      cases isOutcome
      rfl
  | close =>
      simp only [execute] at returned
      split at returned
      · cases returned
        rfl
      · cases returned
        rfl

/-- The memory that a command is executed on. -/
def commandText
    (msg : List UInt8) : GateCommand → List UInt8
  | .close => msg ++ [0]
  | _ => parm (msg ++ [0]) msg.length (firstWord msg).length

/-- The first command that the word compares equal to is executed. -/
theorem ctrl_cases
    (queryname : List UInt8 → Except Fault UInt32)
    (behind : GateCommand → Nat → UInt8)
    (table : GateTable)
    (notEmpty : msg ≠ []) :
    (∃ command : GateCommand,
      command.StartsWith behind (firstWord msg) ∧
        table.ctrl queryname behind msg =
          table.execute queryname (commandText msg command) command) ∨
      (∀ command : GateCommand, ¬ command.StartsWith behind (firstWord msg)) ∧
        table.ctrl queryname behind msg = .ok (table.unknownCommand msg) := by
  have isWord :
      (msg ++ [0]).take (firstWord msg).length = firstWord msg := by
    have isPrefix : firstWord msg <+: msg := List.takeWhile_prefix _
    rw [List.take_append_of_le_length isPrefix.length_le]
    exact (List.prefix_iff_eq_take.mp isPrefix).symm
  have notZero : ¬ msg.length = 0 := fun isZero =>
    notEmpty (List.length_eq_zero_iff.mp isZero)
  have isCtrl :
      table.ctrl queryname behind msg =
        if GateCommand.kick.StartsWith behind (firstWord msg) then
          table.execute queryname (commandText msg .kick) .kick
        else if GateCommand.forward.StartsWith behind (firstWord msg) then
          table.execute queryname (commandText msg .forward) .forward
        else if GateCommand.broker.StartsWith behind (firstWord msg) then
          table.execute queryname (commandText msg .broker) .broker
        else if GateCommand.start.StartsWith behind (firstWord msg) then
          table.execute queryname (commandText msg .start) .start
        else if GateCommand.close.StartsWith behind (firstWord msg) then
          table.execute queryname (commandText msg .close) .close
        else
          .ok (table.unknownCommand msg) := by
    unfold ctrl
    rw [if_neg notZero]
    have isFirst : msg.takeWhile (· ≠ 0x20) = firstWord msg := rfl
    simp only [isFirst, isWord, decide_eq_true_eq]
    rfl
  rw [isCtrl]
  by_cases isKick : GateCommand.kick.StartsWith behind (firstWord msg)
  · exact Or.inl ⟨_, isKick, if_pos isKick⟩
  by_cases isForward : GateCommand.forward.StartsWith behind (firstWord msg)
  · exact Or.inl ⟨_, isForward, by rw [if_neg isKick, if_pos isForward]⟩
  by_cases isBroker : GateCommand.broker.StartsWith behind (firstWord msg)
  · exact Or.inl
      ⟨_, isBroker, by rw [if_neg isKick, if_neg isForward, if_pos isBroker]⟩
  by_cases isStart : GateCommand.start.StartsWith behind (firstWord msg)
  · exact Or.inl
      ⟨_, isStart, by
        rw [if_neg isKick, if_neg isForward, if_neg isBroker, if_pos isStart]⟩
  by_cases isClose : GateCommand.close.StartsWith behind (firstWord msg)
  · exact Or.inl
      ⟨_, isClose, by
        rw [if_neg isKick, if_neg isForward, if_neg isBroker, if_neg isStart,
          if_pos isClose]⟩
  · refine Or.inr ⟨?_, by
      rw [if_neg isKick, if_neg isForward, if_neg isBroker, if_neg isStart,
        if_neg isClose]⟩
    intro command
    cases command <;> assumption

/-- `_parm` leaves the argument of the message, as a C string. -/
theorem argument_prefix_parm
    (msg : List UInt8) :
    argument msg ++ [0] <+:
      parm (msg ++ [0]) msg.length (firstWord msg).length := by
  have isTaken : (msg ++ [0]).take msg.length = msg := List.take_left
  simp only [parm, isTaken]
  exact ⟨_, by rw [List.append_assoc]; rfl⟩

/-- A command is executed on the argument of the message. -/
theorem exists_argument
    (queryname : List UInt8 → Except Fault UInt32)
    (table : GateTable)
    (msg : List UInt8)
    (command : GateCommand) :
    ∃ tmp, argument msg ++ [0] <+: tmp ∧
      table.execute queryname (commandText msg command) command =
        table.execute queryname tmp command := by
  cases command with
  | close =>
      -- `close` reads no text.
      exact ⟨argument msg ++ [0], List.prefix_refl _, rfl⟩
  | kick | forward | broker | start =>
      exact ⟨_, argument_prefix_parm msg, rfl⟩

end GateTable

section Commands

variable
    {queryname : List UInt8 → Except Fault UInt32}
    {behind : GateCommand → Nat → UInt8}
    {table : GateTable}
    {msg : List UInt8}

/-- The only words that a literal starts with are commands. -/
theorem ControlMeets.of_words
    (words :
      ∀ command : GateCommand, command.StartsWith behind (firstWord msg) →
        firstWord msg = command.text)
    (notEmpty : msg ≠ []) :
    ControlMeets queryname behind table msg := by
  rcases GateTable.ctrl_cases queryname behind table notEmpty with
    ⟨command, starts, isCtrl⟩ | ⟨noCommand, isCtrl⟩
  · have isWord := words command starts
    refine ⟨?_, ?_, ?_⟩
    · intro outcome returned other
      rw [isCtrl] at returned
      rw [GateTable.execute_executed returned, isWord, Option.some.injEq]
      exact ⟨fun same => congrArg _ same, GateCommand.text_injective⟩
    · intro other isOther
      have same : command = other :=
        GateCommand.text_injective (isWord.symm.trans isOther)
      subst same
      rw [isCtrl]
      exact GateTable.exists_argument queryname table msg command
    · intro _ noText
      exact (noText command isWord).elim
  · have noText :
        ∀ command : GateCommand, firstWord msg ≠ command.text := by
      intro command isText
      exact noCommand command
        (isText ▸ GateCommand.startsWith_text behind command)
    refine ⟨?_, ?_, fun _ _ => isCtrl⟩
    · intro outcome returned command
      rw [isCtrl] at returned
      cases returned
      exact ⟨fun isSome => (by cases isSome), fun isText =>
        (noText command isText).elim⟩
    · intro command isText
      exact (noText command isText).elim

/-- An empty message is ignored. -/
theorem ControlMeets.empty :
    ControlMeets queryname behind table [] := by
  have noText (command : GateCommand) : firstWord [] ≠ command.text := by
    cases command <;> decide
  refine ⟨?_, ?_, fun notEmpty => (notEmpty rfl).elim⟩
  · intro outcome returned command
    cases returned
    exact ⟨fun isSome => (by cases isSome), fun isText =>
      (noText command isText).elim⟩
  · intro command isText
    exact (noText command isText).elim

/--
`_ctrl` keeps to the five commands exactly for the empty message and for those
whose first word is a command or is not what the memory at a command's literal
starts with: no proper prefix of one, as the empty word is of every command.
-/
theorem control_meets_iff
    (queryname : List UInt8 → Except Fault UInt32)
    (behind : GateCommand → Nat → UInt8)
    (table : GateTable)
    (msg : List UInt8) :
    ControlMeets queryname behind table msg ↔
      msg = [] ∨
        ∀ command : GateCommand, command.StartsWith behind (firstWord msg) →
          firstWord msg = command.text := by
  constructor
  · intro meets
    by_cases isEmpty : msg = []
    · exact Or.inl isEmpty
    refine Or.inr fun command starts => ?_
    by_contra notText
    have noText :
        ∀ other : GateCommand, firstWord msg ≠ other.text := by
      intro other isOther
      have same : command = other :=
        GateCommand.StartsWith.eq_of_text (isOther ▸ starts)
      subst same
      exact notText isOther
    have isUnknown := meets.unknown isEmpty noText
    rcases GateTable.ctrl_cases queryname behind table isEmpty with
      ⟨found, _, isCtrl⟩ | ⟨noCommand, _⟩
    · rw [isUnknown] at isCtrl
      have isFound := GateTable.execute_executed isCtrl.symm
      cases isFound
    · exact noCommand command starts
  · rintro (isEmpty | words)
    · subst isEmpty
      exact ControlMeets.empty
    · by_cases isEmpty : msg = []
      · subst isEmpty
        exact ControlMeets.empty
      · exact ControlMeets.of_words words isEmpty

/-- A message that starts with a space is taken for `kick`. -/
theorem control_not_meets :
    ¬ ControlMeets (fun _ => .ok 0) (fun _ _ => 0) GateTableRun.single
      (bytesOf " close") := by
  intro meets
  have isUnknown :=
    meets.unknown (by decide) fun command => by cases command <;> decide
  cases isUnknown

end Commands

end SkynetCpp
