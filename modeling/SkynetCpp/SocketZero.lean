import SkynetCpp.Foundation.Outcome
import SkynetCpp.Gate
import SkynetCpp.HarborService
import SkynetCpp.SocketReserve

namespace SkynetCpp

open Foundation

/-!
# The id 0

Behind the last id `ReserveId` comes to 0, and takes slot 0 for it when the slot
is free.  The gate and the harbor take 0 for no connection.  On its way to 0 a
call passes the taken slots, and the free ones whose exchange fails.
-/

variable {Worker : Type}

namespace SocketReserve

section Turns

/-- How many ids there are before 0. -/
def turnsToZero (s : SocketServer Worker) : Nat :=
  idCount - 1 - numberOf s.alloc_id

/-- How many of the numbers behind this one have taken slots. -/
def takenAmong
    (s : SocketServer Worker) : Nat → Nat → Nat
  | _, 0 => 0
  | number, turns + 1 =>
      (if (s.slot ((number + 1) % MAX_SOCKET)).type = .kSocketTypeInvalid
        then 0 else 1) +
        takenAmong s (number + 1) turns

/-- A call whose exchanges do not fail comes to 0, and finds slot 0 free. -/
structure ComesToZero (s : SocketServer Worker) : Prop where
  free : (s.slot 0).type = .kSocketTypeInvalid
  soon : turnsToZero s < MAX_SOCKET
  allTaken : AllTaken s (numberOf s.alloc_id) (turnsToZero s)

/-- A call comes to 0 when the exchanges on its way fail. -/
structure MayComeToZero (s : SocketServer Worker) : Prop where
  free : (s.slot 0).type = .kSocketTypeInvalid
  few :
    takenAmong s (numberOf s.alloc_id) (turnsToZero s) < MAX_SOCKET

variable
    {s : SocketServer Worker}
    {number turn : Nat}

theorem numberOf_lt
    (id : Int32) :
    numberOf id < idCount :=
  mod_idCount_lt _

/-- Only the slots matter. -/
@[simp] theorem takenAmong_counted
    (other : Nat) :
    takenAmong (counted s other) number turn = takenAmong s number turn := by
  induction turn generalizing number with
  | zero =>
      rfl
  | succ turn inductionHypothesis =>
      rw [takenAmong, takenAmong, slot_counted, inductionHypothesis]

/-- More numbers have more taken slots. -/
theorem takenAmong_mono
    {more : Nat}
    (isMore : turn ≤ more) :
    takenAmong s number turn ≤ takenAmong s number more := by
  induction turn generalizing number more with
  | zero =>
      exact Nat.zero_le _
  | succ turn inductionHypothesis =>
      obtain ⟨more, rfl⟩ : ∃ fewer, more = fewer + 1 :=
        ⟨more - 1, by omega⟩
      exact Nat.add_le_add_left
        (inductionHypothesis (Nat.le_of_succ_le_succ isMore)) _

/-- There are no more taken slots than numbers. -/
theorem takenAmong_le :
    takenAmong s number turn ≤ turn := by
  induction turn generalizing number with
  | zero =>
      exact Nat.le_refl 0
  | succ turn inductionHypothesis =>
      have later : takenAmong s (number + 1) turn ≤ turn := inductionHypothesis
      rw [takenAmong]
      split <;> omega

/-- A call that comes to 0 by itself also does when exchanges may fail. -/
theorem ComesToZero.mayComeToZero
    (comes : ComesToZero s) :
    MayComeToZero s :=
  ⟨comes.free, Nat.lt_of_le_of_lt takenAmong_le comes.soon⟩

/-- The ids are positive, apart from that of the number 0. -/
theorem idOf_pos_iff :
    0 < idOf number ↔ number % idCount ≠ 0 := by
  have isZero : idOf number = 0 ↔ number % idCount = 0 := by
    rw [← Nat.zero_mod idCount, ← idOf_inj]
    exact Iff.rfl
  rw [Ne, ← isZero]
  constructor
  · intro positive same
    rw [same] at positive
    exact Int32.lt_irrefl positive
  · intro nonzero
    exact Int32.lt_of_le_of_ne (idOf_nonneg number) (Ne.symm nonzero)

/-- The number 0 comes first after the numbers before it. -/
theorem idOf_turn_pos
    (early : turn < turnsToZero s) :
    0 < idOf (numberOf s.alloc_id + 1 + turn) := by
  have small := numberOf_lt s.alloc_id
  rw [turnsToZero] at early
  rw [idOf_pos_iff, Nat.mod_eq_of_lt (by omega)]
  omega

theorem numberOf_add_turnsToZero :
    numberOf s.alloc_id + 1 + turnsToZero s = idCount := by
  have small := numberOf_lt s.alloc_id
  rw [turnsToZero]
  omega

/-- The number that comes to 0 has slot 0. -/
theorem slot_turnsToZero :
    (numberOf s.alloc_id + 1 + turnsToZero s) % MAX_SOCKET = 0 := by
  rw [numberOf_add_turnsToZero]
  decide

theorem idOf_turnsToZero :
    idOf (numberOf s.alloc_id + 1 + turnsToZero s) = 0 := by
  rw [numberOf_add_turnsToZero]
  decide

end Turns

section Exchanges

variable
    {s s' : SocketServer Worker}
    {number rounds i turn : Nat}
    {id : Int32}
    {result : Option Int32}

/-- The id that is tried next. -/
theorem yields_allocateId
    (stands : StandsAt s number) :
    allocateId.Yields s id s' ↔
      id = idOf (number + 1) ∧ s' = counted s (number + 1) := by
  have next := id_add_one stands
  rw [allocateId, Program.yields_bind]
  simp only [Program.yields_act]
  split at next
  · next negative =>
      constructor
      · rintro ⟨_, _, ⟨_, rfl, rfl⟩, later⟩
        rw [if_pos negative, Program.yields_act] at later
        obtain ⟨_, rfl, rfl⟩ := later
        exact ⟨next, by rw [counted, ← next]⟩
      · rintro ⟨rfl, rfl⟩
        refine ⟨_, _, ⟨default, rfl, rfl⟩, ?_⟩
        rw [if_pos negative, Program.yields_act]
        exact ⟨default, next.symm, by rw [counted, ← next]⟩
  · next nonneg =>
      constructor
      · rintro ⟨_, _, ⟨_, rfl, rfl⟩, later⟩
        rw [if_neg nonneg, Program.yields_pure] at later
        obtain ⟨rfl, rfl⟩ := later
        rw [next]
        exact ⟨rfl, rfl⟩
      · rintro ⟨rfl, rfl⟩
        refine ⟨_, _, ⟨default, rfl, rfl⟩, ?_⟩
        rw [if_neg nonneg, Program.yields_pure, next]
        exact ⟨rfl, rfl⟩

/-- The exchange of a free slot, with the fields that are set behind it. -/
theorem yields_reserveSlot
    (isFree : (s.slot (hashId id)).type = .kSocketTypeInvalid) :
    (do
        if ← reserveSlot (hashId id) then
          atSlot (hashId id) (store (reservedSocket id))
          return some id
        else
          reserveIdLoop rounds i :
      ServerAction Worker (Option Int32)).Yields
        { s with alloc_id := id } result s' ↔
      result = some id ∧ s' = reservedAt s id ∨
        (reserveIdLoop rounds i).Yields { s with alloc_id := id } result s' := by
  simp only [Program.yields_bind, reserveSlot, Program.yields_act, isFree,
    true_and]
  constructor
  · rintro ⟨_, _, ⟨input, rfl, rfl⟩, later⟩
    by_cases exchanges : input.flag = true
    · simp only [exchanges, decide_true, ↓reduceIte, atSlot, store,
        Program.zoom_act, Program.yields_bind, Program.yields_act,
        Program.yields_pure] at later
      obtain ⟨_, _, ⟨_, _, rfl⟩, rfl, rfl⟩ := later
      refine Or.inl ⟨rfl, ?_⟩
      simp [SocketServer.put, SocketServer.view, SocketServer.note, reservedAt,
        reservedSocket]
    · simp only [exchanges, decide_false, Bool.false_eq_true,
        ↓reduceIte] at later
      exact Or.inr later
  · rintro (⟨rfl, rfl⟩ | later)
    · refine ⟨_, _, ⟨{ (default : OsAnswer) with flag := true }, rfl, rfl⟩, ?_⟩
      simp [atSlot, store, SocketServer.put, SocketServer.view,
        SocketServer.note, reservedAt, reservedSocket]
      exact .done
    · refine ⟨_, _, ⟨{ (default : OsAnswer) with flag := false }, rfl, rfl⟩, ?_⟩
      simpa using later

/-- What a round comes to: past a taken slot, with a free one, or past it. -/
theorem yields_round
    (stands : StandsAt s number)
    (early : i < MAX_SOCKET) :
    (reserveIdLoop (rounds + 1) i).Yields s result s' ↔
      if (s.slot ((number + 1) % MAX_SOCKET)).type = .kSocketTypeInvalid then
        (result = some (idOf (number + 1)) ∧
            s' = reservedAt s (idOf (number + 1))) ∨
          (reserveIdLoop rounds i).Yields (counted s (number + 1)) result s'
      else
        (reserveIdLoop rounds (i + 1)).Yields (counted s (number + 1)) result
          s' := by
  rw [reserveIdLoop, if_neg (Nat.not_le.mpr early), Program.yields_bind]
  simp only [yields_allocateId stands, atSlot_load]
  rw [← hashId_idOf]
  constructor
  · rintro ⟨_, _, ⟨rfl, rfl⟩, later⟩
    rw [Program.yields_bind] at later
    obtain ⟨_, _, asked, later⟩ := later
    rw [Program.yields_ask] at asked
    obtain ⟨_, rfl, rfl⟩ := asked
    rw [slot_counted] at later
    split at later
    · next isFree =>
        rw [if_pos isFree]
        exact (yields_reserveSlot isFree).mp later
    · next taken =>
        rw [if_neg taken]
        exact later
  · intro later
    refine ⟨_, _, ⟨rfl, rfl⟩, ?_⟩
    rw [Program.yields_bind]
    refine ⟨_, _, Program.yields_ask.mpr ⟨default, rfl, rfl⟩, ?_⟩
    rw [slot_counted]
    split at later
    · next isFree =>
        rw [if_pos isFree]
        exact (yields_reserveSlot isFree).mpr later
    · next taken =>
        rw [if_neg taken]
        exact later

/-- The id that the loop returns, with what it went past on its way. -/
theorem turn_of_yields_loop
    (stands : StandsAt s number)
    (yields : (reserveIdLoop rounds i).Yields s (some id) s') :
    ∃ turn,
      id = idOf (number + 1 + turn) ∧
        (s.slot ((number + 1 + turn) % MAX_SOCKET)).type =
          .kSocketTypeInvalid ∧
        i + takenAmong s number turn < MAX_SOCKET := by
  induction rounds generalizing s number i with
  | zero =>
      rw [reserveIdLoop, Program.yields_bind] at yields
      simp at yields
  | succ rounds inductionHypothesis =>
      by_cases early : i < MAX_SOCKET
      · rw [yields_round stands early] at yields
        have isTurn (turn : Nat) :
            number + 1 + 1 + turn = number + 1 + (turn + 1) := by
          omega
        split at yields
        · next isFree =>
            rcases yields with ⟨isId, _⟩ | later
            · exact ⟨0, Option.some.inj isId, isFree, early⟩
            · obtain ⟨turn, isId, found, few⟩ :=
                inductionHypothesis (standsAt_counted s _) later
              rw [isTurn] at isId found
              refine ⟨turn + 1, isId, found, ?_⟩
              rw [takenAmong, if_pos isFree, Nat.zero_add]
              rw [takenAmong_counted] at few
              exact few
        · next taken =>
            obtain ⟨turn, isId, found, few⟩ :=
              inductionHypothesis (standsAt_counted s _) yields
            rw [isTurn] at isId found
            refine ⟨turn + 1, isId, found, ?_⟩
            rw [takenAmong, if_neg taken, ← Nat.add_assoc]
            rw [takenAmong_counted] at few
            exact few
      · rw [reserveIdLoop, if_pos (Nat.not_lt.mp early)] at yields
        cases yields

/-- The loop gets to every free slot, as long as few slots before are taken. -/
theorem loop_yields
    (stands : StandsAt s number)
    (found :
      (s.slot ((number + 1 + turn) % MAX_SOCKET)).type = .kSocketTypeInvalid)
    (few : i + takenAmong s number turn < MAX_SOCKET) :
    ∃ rounds s',
      (reserveIdLoop rounds i).Yields s (some (idOf (number + 1 + turn)))
        s' := by
  induction turn generalizing s number i with
  | zero =>
      have early : i < MAX_SOCKET := few
      refine ⟨1, reservedAt s (idOf (number + 1)), ?_⟩
      rw [yields_round stands early, if_pos found]
      exact Or.inl ⟨rfl, rfl⟩
  | succ turn inductionHypothesis =>
      have early : i < MAX_SOCKET :=
        Nat.lt_of_le_of_lt (Nat.le_add_right i _) few
      have isTurn : number + 1 + (turn + 1) = number + 1 + 1 + turn := by
        omega
      rw [isTurn] at found ⊢
      rw [takenAmong] at few
      by_cases isFree :
          (s.slot ((number + 1) % MAX_SOCKET)).type = .kSocketTypeInvalid
      · -- its exchange fails
        rw [if_pos isFree, Nat.zero_add,
          ← takenAmong_counted (s := s) (number + 1)] at few
        obtain ⟨rounds, s', later⟩ :=
          inductionHypothesis (standsAt_counted s _) found few
        refine ⟨rounds + 1, s', ?_⟩
        rw [yields_round stands early, if_pos isFree]
        exact Or.inr later
      · rw [if_neg isFree, ← Nat.add_assoc,
          ← takenAmong_counted (s := s) (number + 1)] at few
        obtain ⟨rounds, s', later⟩ :=
          inductionHypothesis (standsAt_counted s _) found few
        refine ⟨rounds + 1, s', ?_⟩
        rw [yields_round stands early, if_neg isFree]
        exact later

end Exchanges

section Calls

variable
    {s s' : SocketServer Worker}
    {input : OsAnswer}
    {id : Int32}

/-- The ids that `ReserveId` can return, whatever exchanges fail. -/
theorem yields_reserveId :
    (∃ s', reserveId.Yields s (some id) s') ↔
      ∃ turn,
        id = idOf (numberOf s.alloc_id + 1 + turn) ∧
          (s.slot ((numberOf s.alloc_id + 1 + turn) % MAX_SOCKET)).type =
            .kSocketTypeInvalid ∧
          takenAmong s (numberOf s.alloc_id) turn < MAX_SOCKET := by
  have stands := standsAt_numberOf s
  constructor
  · rintro ⟨s', yields⟩
    rw [reserveId, answer, Program.yields_bind] at yields
    obtain ⟨_, _, asked, later⟩ := yields
    rw [Program.yields_ask] at asked
    obtain ⟨_, rfl, rfl⟩ := asked
    obtain ⟨turn, isId, found, few⟩ := turn_of_yields_loop stands later
    rw [Nat.zero_add] at few
    exact ⟨turn, isId, found, few⟩
  · rintro ⟨turn, rfl, found, few⟩
    rw [← Nat.zero_add (takenAmong _ _ _)] at few
    obtain ⟨rounds, s', later⟩ := loop_yields stands found few
    refine ⟨s', ?_⟩
    rw [reserveId, answer, Program.yields_bind]
    exact ⟨rounds, s, Program.yields_ask.mpr
      ⟨{ (default : OsAnswer) with rounds := rounds }, rfl, rfl⟩, later⟩

/-- Every id that may be returned is positive, unless 0 may be reached. -/
theorem yields_positive_iff
    (s : SocketServer Worker) :
    (∀ id s', reserveId.Yields s (some id) s' → 0 < id) ↔
      ¬ MayComeToZero s := by
  constructor
  · intro positive comes
    obtain ⟨s', yields⟩ :=
      yields_reserveId.mpr
        ⟨turnsToZero s, rfl, by rw [slot_turnsToZero]; exact comes.free,
          comes.few⟩
    have isPositive := positive _ s' yields
    rw [idOf_turnsToZero] at isPositive
    exact Int32.lt_irrefl isPositive
  · intro never id s' yields
    obtain ⟨turn, rfl, found, few⟩ := yields_reserveId.mp ⟨s', yields⟩
    rw [idOf_pos_iff]
    intro isZero
    have late : turnsToZero s ≤ turn := by
      by_contra early
      exact idOf_pos_iff.mp (idOf_turn_pos (Nat.not_le.mp early)) isZero
    have isSlot :
        (numberOf s.alloc_id + 1 + turn) % MAX_SOCKET = 0 := by
      rw [← Nat.mod_mod_of_dvd _ (show MAX_SOCKET ∣ idCount by decide), isZero]
      rfl
    rw [isSlot] at found
    exact never ⟨found, Nat.lt_of_le_of_lt (takenAmong_mono late) few⟩

/-- The id of a call whose exchanges do not fail. -/
theorem alone_positive_iff
    (s : SocketServer Worker) :
    (∀ input id s',
        input.flag = true →
        MAX_SOCKET < input.rounds →
        Machine.Alone input (reserveId, s) (.done (some id), s') →
          0 < id) ↔
      ¬ ComesToZero s := by
  have stands := standsAt_numberOf s
  constructor
  · intro positive comes
    let input : OsAnswer :=
      { (default : OsAnswer) with flag := true, rounds := MAX_SOCKET + 1 }
    have exchanges : input.flag = true := rfl
    have enough : MAX_SOCKET < input.rounds := Nat.lt_succ_self _
    rcases alone_reserveId exchanges enough stands with
      ⟨allTaken, _⟩ | ⟨turn, inTime, allTaken, found, ends⟩
    · exact allTaken 0 (by decide) comes.free
    · have isTurn : turn = turnsToZero s := by
        rcases Nat.lt_trichotomy turn (turnsToZero s) with early | same | late
        · rw [hashId_idOf] at found
          exact absurd found (comes.allTaken turn early)
        · exact same
        · have taken := allTaken (turnsToZero s) late
          rw [slot_turnsToZero] at taken
          exact absurd comes.free taken
      have isPositive := positive input _ _ exchanges enough ends
      rw [isTurn, idOf_turnsToZero] at isPositive
      exact Int32.lt_irrefl isPositive
  · intro never input id s' exchanges enough ends
    rcases alone_reserveId exchanges enough stands with
      ⟨_, ends'⟩ | ⟨turn, inTime, allTaken, found, ends'⟩
    · cases (ends.unique ends').1
    · cases (ends.unique ends').1
      rw [idOf_pos_iff]
      intro isZero
      have isTurn : turn = turnsToZero s := by
        have total := numberOf_add_turnsToZero (s := s)
        have small := numberOf_lt s.alloc_id
        have short : MAX_SOCKET < idCount := by decide
        have late : turnsToZero s ≤ turn := by
          by_contra early
          exact idOf_pos_iff.mp (idOf_turn_pos (Nat.not_le.mp early)) isZero
        have again : (idCount + (turn - turnsToZero s)) % idCount = 0 := by
          rw [← isZero]
          congr 1
          omega
        rw [Nat.add_mod_left, Nat.mod_eq_of_lt (by omega)] at again
        omega
      rw [isTurn] at inTime allTaken found
      rw [idOf_turnsToZero] at found
      exact never ⟨found, inTime, allTaken⟩

/--
Every id that `ReserveId` returns is positive exactly when the call does not
come to 0 with slot 0 free.  Without failing exchanges it comes to 0 when all
the slots on its way are taken, and otherwise when few of them are.
-/
theorem reserveId_positive_iff
    (s : SocketServer Worker) :
    ((∀ input id s',
        input.flag = true →
        MAX_SOCKET < input.rounds →
        Machine.Alone input (reserveId, s) (.done (some id), s') →
          0 < id) ↔
      ¬ ComesToZero s) ∧
    ((∀ id s', reserveId.Yields s (some id) s' → 0 < id) ↔
      ¬ MayComeToZero s) :=
  ⟨alone_positive_iff s, yields_positive_iff s⟩

/-- Behind the last id there is 0. -/
theorem lastServer_reserves_zero :
    ¬ ∀ input id s',
      input.flag = true →
      MAX_SOCKET < input.rounds →
      Machine.Alone input (reserveId, lastServer) (.done (some id), s') →
        0 < id := by
  have isLast : turnsToZero lastServer = 0 := by decide
  rw [alone_positive_iff, not_not]
  refine ⟨rfl, ?_, ?_⟩
  · rw [isLast]
    decide
  · rw [isLast]
    exact .zero

end Calls

end SocketReserve

section Users

/-- A connection with the id 0 gets no frames to anybody. -/
theorem Gate.forward_of_zero
    {gate : Gate}
    {c : Nat}
    (isZero : (gate.conn c).id = 0)
    (size : Int) :
    gate.forward c size = .ok (gate, []) := by
  rw [Gate.forward, if_pos (Int.le_of_eq isZero)]

/-- A harbor is not connected over a socket with the id 0. -/
theorem HarborService.connectCommand_of_zero
    {name : List UInt8}
    (isZero : (scanInts (cString name)).1 = 0)
    (h : HarborService)
    (accepted : Bool)
    (stack : List UInt8) :
    h.connectCommand accepted name stack = .ok (h, []) := by
  rw [HarborService.connectCommand]
  exact if_pos (Or.inl isZero)

end Users

end SkynetCpp
