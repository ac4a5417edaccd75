import SkynetCpp.Foundation.Outcome
import SkynetCpp.SocketCalls

namespace SkynetCpp

open Foundation

/-!
# What code on a slot comes to alone

Rules for the results and the servers that the small actions on a slot end
with, when no other thread runs meanwhile.
-/

variable {Worker α β : Type}

/-- A server with another socket in a slot. -/
def SocketServer.withSlot
    (s : SocketServer Worker)
    (k : Nat)
    (sock : Socket Worker) : SocketServer Worker :=
  s.put k { s.view k with sock := sock }

section Slots

variable
    {s s' : SocketServer Worker}
    {k : Nat}
    {caller : Caller Worker}

theorem SocketServer.withSlot_slot
    (sock : Socket Worker) :
    (s.withSlot k sock).slot k =
      { sock with incarnation := (s.slot k).incarnation } := by
  simp [SocketServer.withSlot, SocketServer.put]

@[simp] theorem SocketServer.withSlot_log
    (sock : Socket Worker) :
    (s.withSlot k sock).log = s.log :=
  rfl

theorem atSlot_bind
    (action : SocketAction Worker α)
    (after : α → SocketAction Worker β) :
    atSlot k (action >>= after) =
      atSlot k action >>= fun result => atSlot k (after result) :=
  Program.zoom_bind _ _ action after

theorem yields_load
    {field : Socket Worker → α}
    {result : α} :
    (atSlot k (load field)).Yields s result s' ↔
      result = field (s.slot k) ∧ s' = s := by
  rw [atSlot_load, Program.yields_ask]
  constructor
  · rintro ⟨_, rfl, rfl⟩
    exact ⟨rfl, rfl⟩
  · rintro ⟨rfl, rfl⟩
    exact ⟨default, rfl, rfl⟩

theorem yields_answer
    {value : OsAnswer → α}
    {result : α} :
    (atSlot k (answer value)).Yields s result s' ↔
      (∃ input, result = value input) ∧ s' = s := by
  unfold atSlot answer
  rw [Program.zoom_ask (SocketServer.put_view k), Program.yields_ask]
  constructor
  · rintro ⟨input, rfl, rfl⟩
    exact ⟨⟨input, rfl⟩, rfl⟩
  · rintro ⟨⟨input, rfl⟩, rfl⟩
    exact ⟨input, rfl, rfl⟩

theorem yields_store
    {change : Socket Worker → Socket Worker}
    {result : Unit} :
    (atSlot k (store change)).Yields s result s' ↔
      s' = s.withSlot k (change (s.slot k)) := by
  unfold atSlot store
  rw [Program.zoom_act, Program.yields_act]
  constructor
  · rintro ⟨_, _, rfl⟩
    rfl
  · rintro rfl
    exact ⟨default, rfl, rfl⟩

/-- A server whose slot a caller holds. -/
def SocketServer.lockedBy
    (s : SocketServer Worker)
    (k : Nat)
    (caller : Caller Worker) : SocketServer Worker :=
  s.withSlot k { s.slot k with dw_lock := some caller }

theorem yields_socketTrylock
    {result : Bool} :
    (atSlot k (socketTrylock caller)).Yields s result s' ↔
      result = (s.slot k).dw_lock.isNone ∧
        s' = if (s.slot k).dw_lock.isNone then s.lockedBy k caller else s := by
  unfold atSlot socketTrylock
  rw [Program.zoom_act, Program.yields_act]
  have isTaken :
      (s.put k
        (if (s.view k).sock.dw_lock.isNone then
          { s.view k with
            sock := { (s.view k).sock with dw_lock := some caller } }
        else s.view k)) =
        if (s.slot k).dw_lock.isNone then s.lockedBy k caller else s := by
    by_cases isFree : (s.slot k).dw_lock.isNone = true
    · rw [if_pos isFree]
      exact congrArg (s.put k) (if_pos isFree)
    · rw [if_neg isFree]
      exact (congrArg (SocketServer.put k · s) (if_neg isFree)).trans
        (s.put_view k)
  rw [← isTaken]
  constructor
  · rintro ⟨_, rfl, rfl⟩
    exact ⟨rfl, rfl⟩
  · rintro ⟨rfl, rfl⟩
    exact ⟨default, rfl, rfl⟩

theorem yields_socketUnlock
    {result : Unit} :
    (atSlot k (socketUnlock 1)).Yields s result s' ↔
      s' = s.withSlot k { s.slot k with dw_lock := none } := by
  have isStore :
      atSlot k (socketUnlock 1 : SocketAction Worker Unit) =
        atSlot k (store ({ · with dw_lock := none })) :=
    rfl
  rw [isStore, yields_store]

/-- `CanDirectWrite` only looks at the socket. -/
theorem canDirectWrite_reads
    (id : Int32)
    {v : SocketView Worker} :
    (canDirectWrite id).Reads v := by
  have empty : sendBufferEmpty.Reads v := .andM (.ask _) (.ask _)
  have nomore : nomoreSendingData.Reads v :=
    .orM (.andM empty (.andM (.ask _) (.ask _))) (.ask _)
  exact .andM (.ask _) (.andM nomore (.andM (.ask _) (.ask _)))

theorem canDirectWrite_yields
    (k : Nat)
    (id : Int32)
    (s : SocketServer Worker) :
    ∃ can, (atSlot k (canDirectWrite id)).Yields s can s :=
  (Program.Reads.zoom (s.put_view k) (canDirectWrite_reads id)).yields

/-- Code that only looks at a socket leaves the server as it was. -/
theorem unchanged_of_follows
    {action : SocketAction Worker α}
    {result : α}
    (follows : action.Follows Eq)
    (yields : (atSlot k action).Yields s result s') :
    s' = s := by
  have within :
      (atSlot k action).Follows fun s s' => s' = s := by
    refine Program.Within.mono (follows.zoom _ _) ?_ fun _ _ => trivial
    rintro state _ ⟨_, rfl, rfl⟩
    exact state.put_view k
  have whole := within.of_yields (fun _ => rfl) ?_ yields
  · exact whole.1
  · intro first second third isSecond isThird
    exact isThird.trans isSecond

/-- Code on a socket that shows nothing leaves the log as it was. -/
theorem log_of_follows
    {action : SocketAction Worker α}
    {result : α}
    (follows : action.Follows fun v v' => v'.notes = v.notes)
    (yields : (atSlot k action).Yields s result s') :
    s'.log = s.log := by
  have within :
      (atSlot k action).Follows fun s s' => s'.log = s.log := by
    refine Program.Within.mono (follows.zoom _ _) ?_ fun _ _ => trivial
    rintro state _ ⟨part, silent, rfl⟩
    rw [SocketServer.put, silent]
    rfl
  have whole := within.of_yields (fun _ => rfl) ?_ yields
  · exact whole.1
  · intro first second third isSecond isThird
    exact isThird.trans isSecond

theorem sendBufferEmpty_follows :
    (sendBufferEmpty : SocketAction Worker Bool).Follows Eq :=
  .andM (.ask _) (.ask _)

theorem canDirectWrite_follows
    (id : Int32) :
    (canDirectWrite id : SocketAction Worker Bool).Follows Eq :=
  .andM (.ask _) (.andM
    (.orM (.andM sendBufferEmpty_follows (.andM (.ask _) (.ask _))) (.ask _))
    (.andM (.ask _) (.ask _)))

theorem socketInvalid_follows
    (id : Int32) :
    (socketInvalid id : SocketAction Worker Bool).Follows Eq :=
  .bind (.ask _) fun _ => .ite (.pure true) (.bind (.ask _) fun _ => .pure _)

/-- An open socket is not refused. -/
theorem socketInvalid_yields
    {id : Int32}
    (isId : (s.slot k).id = id)
    (isOpen : (s.slot k).type ≠ .kSocketTypeInvalid) :
    (atSlot k (socketInvalid id)).Yields s false s := by
  unfold socketInvalid
  rw [atSlot_bind]
  refine Program.yields_bind.mpr ⟨_, s, yields_load.mpr ⟨rfl, rfl⟩, ?_⟩
  rw [if_neg (not_not.mpr isId), atSlot_bind]
  refine Program.yields_bind.mpr ⟨_, s, yields_load.mpr ⟨rfl, rfl⟩, ?_⟩
  rw [decide_eq_false isOpen]
  exact .done

theorem yields_SendRequest
    {request : SocketRequest Buffer}
    {result : Unit} :
    (SendRequest caller request).Yields s result s' ↔
      ∃ found,
        s' =
          { s with pipe := s.pipe ++ found }.note
            (.requested caller request found) := by
  rw [SendRequest, Program.yields_act]
  constructor
  · rintro ⟨input, _, rfl⟩
    exact ⟨input.found, rfl⟩
  · rintro ⟨found, rfl⟩
    exact ⟨{ (default : OsAnswer) with found := found }, rfl, rfl⟩

end Slots

end SkynetCpp
