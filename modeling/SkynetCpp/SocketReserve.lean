import Mathlib.Data.List.Nodup
import SkynetCpp.Foundation.Scan
import SkynetCpp.SocketRuns

namespace SkynetCpp

open Foundation

/-!
# Reserving ids

The ids that `ReserveId` tries are consecutive modulo `2 ^ 31`, so their slots
are consecutive modulo the number of slots: a call looks at every slot once, and
two calls give the same id only when the counter went all the way round.
-/

variable {Worker α β : Type}

namespace SocketReserve

/-- The number of ids. -/
def idCount : Nat := 2 ^ 31

/-- The id with a number. -/
def idOf (number : Nat) : Int32 :=
  Int32.ofNat (number % idCount)

/-- A server whose counter stands at an id. -/
def counted
    (s : SocketServer Worker)
    (number : Nat) : SocketServer Worker :=
  { s with alloc_id := idOf number }

@[simp] theorem slot_counted
    (s : SocketServer Worker)
    (number : Nat) :
    (counted s number).slot = s.slot :=
  rfl

@[simp] theorem alloc_id_counted
    (s : SocketServer Worker)
    (number : Nat) :
    (counted s number).alloc_id = idOf number :=
  rfl

section Numbers

theorem mod_idCount_lt
    (number : Nat) :
    number % idCount < 2 ^ 31 :=
  Nat.mod_lt _ (Nat.two_pow_pos 31)

theorem idOf_nonneg
    (number : Nat) :
    0 ≤ idOf number :=
  Int32.zero_le_ofNat_of_lt (mod_idCount_lt number)

/-- Ids agree when their numbers do, up to the number of ids. -/
theorem idOf_inj
    {first second : Nat} :
    idOf first = idOf second ↔ first % idCount = second % idCount := by
  constructor
  · intro same
    have sameInt := congrArg Int32.toInt same
    rw [idOf, idOf, Int32.toInt_ofNat_of_lt (mod_idCount_lt first),
      Int32.toInt_ofNat_of_lt (mod_idCount_lt second)] at sameInt
    exact Int.ofNat.inj sameInt
  · intro same
    rw [idOf, idOf, same]

/-- Every id has a number. -/
theorem exists_idOf
    {id : Int32}
    (nonneg : 0 ≤ id) :
    ∃ number, number < idCount ∧ id = idOf number := by
  refine ⟨id.toNatClampNeg, ?_, ?_⟩
  · exact Int32.toNatClampNeg_lt id
  · have small : id.toNatClampNeg < idCount := Int32.toNatClampNeg_lt id
    rw [idOf, Nat.mod_eq_of_lt small, Int32.ofNat_toNatClampNeg id nonneg]

/-- The slot of an id is its number, modulo the number of slots. -/
theorem hashId_idOf
    (number : Nat) :
    hashId (idOf number) = number % MAX_SOCKET := by
  have small := mod_idCount_lt number
  rw [hashId, idOf, Int32.toUInt32_ofNat', UInt32.toNat_ofNat',
    Nat.mod_eq_of_lt (Nat.lt_trans small (by decide))]
  exact Nat.mod_mod_of_dvd number (by decide)

/-- The number of an id, whatever its sign. -/
def numberOf (id : Int32) : Nat :=
  id.toUInt32.toNat % idCount

theorem numberOf_idOf
    (number : Nat) :
    numberOf (idOf number) = number % idCount := by
  rw [numberOf, idOf, Int32.toUInt32_ofNat', UInt32.toNat_ofNat']
  unfold idCount
  omega

theorem numberOf_add_one
    (id : Int32) :
    numberOf (id + 1) = (numberOf id + 1) % idCount := by
  have isOne : (1 : Int32).toUInt32.toNat = 1 := by decide
  rw [numberOf, numberOf, Int32.toUInt32_add, UInt32.toNat_add, isOne]
  unfold idCount
  omega

/-- The mask keeps the number and takes the sign away. -/
theorem idOf_numberOf
    (id : Int32) :
    idOf (numberOf id) = id &&& 0x7fffffff := by
  have isMask : (0x7fffffff : Int32).toUInt32.toNat = 2 ^ 31 - 1 := by decide
  apply Int32.toBitVec_inj.mp
  apply BitVec.eq_of_toNat_eq
  change (idOf (numberOf id)).toUInt32.toNat =
    (id &&& 0x7fffffff).toUInt32.toNat
  rw [Int32.toUInt32_and, UInt32.toNat_and, isMask,
    Nat.and_two_pow_sub_one_eq_mod, idOf, Int32.toUInt32_ofNat',
    UInt32.toNat_ofNat', numberOf]
  unfold idCount
  omega

/-- An id without a sign is that of its number. -/
theorem idOf_numberOf_of_nonneg
    {id : Int32}
    (nonneg : 0 ≤ id) :
    idOf (numberOf id) = id := by
  obtain ⟨number, small, rfl⟩ := exists_idOf nonneg
  rw [numberOf_idOf, Nat.mod_eq_of_lt small]

/-- The counter, one further, before and after its sign is looked at. -/
theorem id_add_one
    {id : Int32}
    {number : Nat}
    (isNumber : numberOf id = number % idCount) :
    if id + 1 < 0 then
      (id + 1) &&& 0x7fffffff = idOf (number + 1)
    else
      id + 1 = idOf (number + 1) := by
  have isNext : idOf (numberOf (id + 1)) = idOf (number + 1) := by
    rw [idOf_inj, numberOf_add_one, isNumber, Nat.mod_mod, Nat.mod_add_mod]
  split
  · next negative =>
      rw [← idOf_numberOf, isNext]
  · next nonneg =>
      rw [← isNext, idOf_numberOf_of_nonneg (Int32.not_lt.mp nonneg)]

end Numbers

section OneCall

/-- What a call does that returns an id. -/
structure TakesSlot
    (s : SocketServer Worker)
    (id : Int32)
    (s' : SocketServer Worker) : Prop where
  nonneg : 0 ≤ id
  free : (s.slot (hashId id)).type = .kSocketTypeInvalid
  reserved : (s'.slot (hashId id)).type = .kSocketTypeReserve
  stored : (s'.slot (hashId id)).id = id
  others : ∀ k, k ≠ hashId id → s'.slot k = s.slot k
  counter : s'.alloc_id = id

variable
    {s : SocketServer Worker}
    {input : OsAnswer}
    {number : Nat}

/-- The counter stands before the id of the number behind this one. -/
def StandsAt
    (s : SocketServer Worker)
    (number : Nat) : Prop :=
  numberOf s.alloc_id = number % idCount

theorem standsAt_counted
    (s : SocketServer Worker)
    (number : Nat) :
    StandsAt (counted s number) number :=
  numberOf_idOf number

/-- Every counter stands somewhere. -/
theorem standsAt_numberOf
    (s : SocketServer Worker) :
    StandsAt s (numberOf s.alloc_id) :=
  (Nat.mod_mod _ _).symm

/-- The counter goes one further, and a negative one loses its sign. -/
theorem alone_allocateId
    (stands : StandsAt s number)
    (after : Int32 → ServerAction Worker α) :
    Machine.Alone input
      (allocateId >>= after, s)
      (after (idOf (number + 1)), counted s (number + 1)) := by
  have next := id_add_one stands
  rw [allocateId, Program.bind_assoc]
  refine .act ?_
  split at next
  · next negative =>
      simp only [negative, ↓reduceIte]
      refine .act ?_
      simp only [next]
      exact .refl input _
  · next nonneg =>
      simp only [nonneg, ↓reduceIte, Program.pure_eq_done, Program.done_bind]
      rw [next]
      exact .refl input _

/-- A round that meets a taken slot. -/
theorem alone_round_taken
    (stands : StandsAt s number)
    {rounds i : Nat}
    (early : i < MAX_SOCKET)
    (taken :
      (s.slot ((number + 1) % MAX_SOCKET)).type ≠ .kSocketTypeInvalid) :
    Machine.Alone input
      (reserveIdLoop (rounds + 1) i, s)
      (reserveIdLoop rounds (i + 1), counted s (number + 1)) := by
  rw [← hashId_idOf] at taken
  rw [reserveIdLoop, if_neg (Nat.not_le.mpr early)]
  refine (alone_allocateId stands _).trans ?_
  simp only [atSlot_load]
  refine .ask ?_
  simp only [slot_counted, taken, ↓reduceIte]
  exact .refl input _

/-- A server after a call that returned an id. -/
def reservedAt
    (s : SocketServer Worker)
    (id : Int32) : SocketServer Worker :=
  let k := hashId id
  let reserved : Socket Worker :=
    { s.slot k with
      type := .kSocketTypeReserve
      incarnation := (s.slot k).incarnation + 1 }
  { s with
    alloc_id := id
    slot := Function.update s.slot k (reservedSocket id reserved)
    log := .reserved k ((s.slot k).incarnation + 1) :: s.log }

/-- A round that meets a free slot, and whose exchange does not fail. -/
theorem alone_round_free
    (stands : StandsAt s number)
    {rounds i : Nat}
    (exchanges : input.flag = true)
    (early : i < MAX_SOCKET)
    (isFree :
      (s.slot ((number + 1) % MAX_SOCKET)).type = .kSocketTypeInvalid) :
    Machine.Alone input
      (reserveIdLoop (rounds + 1) i, s)
      (.done (some (idOf (number + 1))), reservedAt s (idOf (number + 1))) := by
  rw [← hashId_idOf] at isFree
  rw [reserveIdLoop, if_neg (Nat.not_le.mpr early)]
  refine (alone_allocateId stands _).trans ?_
  simp only [atSlot_load]
  refine .ask ?_
  simp only [slot_counted, isFree, ↓reduceIte, reserveSlot]
  refine .act ?_
  simp only [slot_counted, isFree, exchanges, and_self, decide_true,
    ↓reduceIte, atSlot, store, Program.zoom_act]
  refine .act ?_
  simp only [SocketServer.put, SocketServer.view, SocketServer.note,
    Function.update_self, Function.update_idem, List.map_nil, List.nil_append,
    reservedSocket]
  exact .refl input _

/-- The server of a call that returned an id. -/
theorem takesSlot_reservedAt
    (isFree : (s.slot (hashId (idOf number))).type = .kSocketTypeInvalid) :
    TakesSlot s (idOf number) (reservedAt s (idOf number)) := by
  refine ⟨idOf_nonneg number, isFree, ?_, ?_, ?_, rfl⟩
  · simp [reservedAt, reservedSocket]
  · simp [reservedAt, reservedSocket]
  · intro k different
    simp [reservedAt, different]

end OneCall

section Coverage

/-- The slots of so many numbers behind this one are taken. -/
def AllTaken
    (s : SocketServer Worker)
    (number turns : Nat) : Prop :=
  ∀ turn < turns,
    (s.slot ((number + 1 + turn) % MAX_SOCKET)).type ≠ .kSocketTypeInvalid

variable
    {s : SocketServer Worker}
    {input : OsAnswer}
    {number : Nat}

theorem AllTaken.zero :
    AllTaken s number 0 :=
  fun turn early => absurd early (Nat.not_lt_zero turn)

theorem AllTaken.succ
    {turns : Nat}
    (later : AllTaken s (number + 1) turns)
    (taken :
      (s.slot ((number + 1) % MAX_SOCKET)).type ≠ .kSocketTypeInvalid) :
    AllTaken s number (turns + 1) := by
  intro turn early
  cases turn with
  | zero =>
      exact taken
  | succ turn =>
      rw [← Nat.add_assoc, Nat.add_right_comm]
      exact later turn (Nat.lt_of_succ_lt_succ early)

/--
The loop finds the first of the slots that are left to look at and are free, or
looks at all of them in vain.
-/
theorem alone_loop
    (exchanges : input.flag = true)
    {left i number rounds : Nat}
    (isLeft : i + left = MAX_SOCKET)
    (enough : left ≤ rounds) :
    AllTaken s number left ∧
      Machine.Alone input
        (reserveIdLoop (rounds + 1) i, counted s number)
        (.done none, counted s (number + left)) ∨
    ∃ turn < left,
      AllTaken s number turn ∧
        (s.slot ((number + 1 + turn) % MAX_SOCKET)).type =
          .kSocketTypeInvalid ∧
        Machine.Alone input
          (reserveIdLoop (rounds + 1) i, counted s number)
          (.done (some (idOf (number + 1 + turn))),
            reservedAt s (idOf (number + 1 + turn))) := by
  induction left generalizing i number rounds with
  | zero =>
      refine Or.inl ⟨.zero, ?_⟩
      rw [reserveIdLoop, if_pos (by omega)]
      exact .refl input _
  | succ left inductionHypothesis =>
      have early : i < MAX_SOCKET := by omega
      by_cases isFree :
          (s.slot ((number + 1) % MAX_SOCKET)).type = .kSocketTypeInvalid
      · exact Or.inr
          ⟨0, Nat.succ_pos left, .zero, isFree,
            alone_round_free (standsAt_counted s number) exchanges early
              isFree⟩
      · obtain ⟨rounds, rfl⟩ : ∃ fewer, rounds = fewer + 1 :=
          ⟨rounds - 1, by omega⟩
        have round :
            Machine.Alone input
              (reserveIdLoop (rounds + 1 + 1) i, counted s number)
              (reserveIdLoop (rounds + 1) (i + 1), counted s (number + 1)) :=
          alone_round_taken (standsAt_counted s number) early isFree
        have isLeft' : i + 1 + left = MAX_SOCKET := by omega
        have enough' : left ≤ rounds := by omega
        rcases inductionHypothesis isLeft' enough' with
          ⟨allTaken, ends⟩ | ⟨turn, inTime, allTaken, found, ends⟩
        · refine Or.inl ⟨allTaken.succ isFree, ?_⟩
          rw [Nat.add_comm left, ← Nat.add_assoc]
          exact round.trans ends
        · have isTurn :
              number + 1 + 1 + turn = number + 1 + (turn + 1) := by
            omega
          rw [isTurn] at found ends
          exact Or.inr
            ⟨turn + 1, by omega, allTaken.succ isFree, found,
              round.trans ends⟩

/-- As many consecutive numbers as there are slots have all the slots. -/
theorem exists_turn
    (number : Nat)
    {k : Nat}
    (inTable : k < MAX_SOCKET) :
    ∃ turn < MAX_SOCKET, (number + 1 + turn) % MAX_SOCKET = k := by
  obtain ⟨turn, inTime, here⟩ :=
    exists_scanned_of_early (by decide)
      (Nat.le_succ (number + 1 + MAX_SOCKET)) inTable
  rw [scanned_of_le (by omega)] at here
  exact ⟨turn, inTime, here⟩

/-- The number of slots is positive, so that a call looks at one at least. -/
theorem alone_reserveIdLoop
    (exchanges : input.flag = true)
    (stands : StandsAt s number)
    {rounds : Nat}
    (enough : MAX_SOCKET ≤ rounds) :
    AllTaken s number MAX_SOCKET ∧
      Machine.Alone input
        (reserveIdLoop (rounds + 1) 0, s)
        (.done none, counted s (number + MAX_SOCKET)) ∨
    ∃ turn < MAX_SOCKET,
      AllTaken s number turn ∧
        (s.slot ((number + 1 + turn) % MAX_SOCKET)).type =
          .kSocketTypeInvalid ∧
        Machine.Alone input
          (reserveIdLoop (rounds + 1) 0, s)
          (.done (some (idOf (number + 1 + turn))),
            reservedAt s (idOf (number + 1 + turn))) := by
  have someSlot : 0 < MAX_SOCKET := by decide
  by_cases isFree :
      (s.slot ((number + 1) % MAX_SOCKET)).type = .kSocketTypeInvalid
  · exact Or.inr
      ⟨0, someSlot, .zero, isFree,
        alone_round_free stands exchanges someSlot isFree⟩
  · obtain ⟨rounds, rfl⟩ : ∃ fewer, rounds = fewer + 1 :=
      ⟨rounds - 1, by omega⟩
    have round :
        Machine.Alone input
          (reserveIdLoop (rounds + 1 + 1) 0, s)
          (reserveIdLoop (rounds + 1) (0 + 1), counted s (number + 1)) :=
      alone_round_taken stands someSlot isFree
    have isLeft : 0 + 1 + (MAX_SOCKET - 1) = MAX_SOCKET := by omega
    have enough' : MAX_SOCKET - 1 ≤ rounds := by omega
    rcases alone_loop (s := s) exchanges isLeft enough' with
      ⟨allTaken, ends⟩ | ⟨turn, inTime, allTaken, found, ends⟩
    · have whole := allTaken.succ isFree
      rw [Nat.sub_add_cancel someSlot] at whole
      refine Or.inl ⟨whole, round.trans ?_⟩
      rw [Nat.add_assoc, Nat.add_sub_cancel' someSlot] at ends
      exact ends
    · have isTurn :
          number + 1 + 1 + turn = number + 1 + (turn + 1) := by
        omega
      rw [isTurn] at found ends
      exact Or.inr
        ⟨turn + 1, by omega, allTaken.succ isFree, found, round.trans ends⟩

/--
`ReserveId` alone: it ends with the first free slot that it meets, or without an
id when every slot is taken.  Either way the counter went on by at most as many
ids as there are slots.
-/
theorem alone_reserveId
    (exchanges : input.flag = true)
    (enough : MAX_SOCKET < input.rounds)
    (stands : StandsAt s number) :
    (∀ k < MAX_SOCKET, (s.slot k).type ≠ .kSocketTypeInvalid) ∧
      Machine.Alone input
        (reserveId, s)
        (.done none, counted s (number + MAX_SOCKET)) ∨
    ∃ turn < MAX_SOCKET,
      AllTaken s number turn ∧
        (s.slot (hashId (idOf (number + 1 + turn)))).type =
          .kSocketTypeInvalid ∧
        Machine.Alone input
          (reserveId, s)
          (.done (some (idOf (number + 1 + turn))),
            reservedAt s (idOf (number + 1 + turn))) := by
  obtain ⟨rounds, isRounds⟩ : ∃ fewer, input.rounds = fewer + 1 :=
    ⟨input.rounds - 1, by omega⟩
  have enough' : MAX_SOCKET ≤ rounds := by omega
  have enter
      {reached : ServerAction Worker (Option Int32) × SocketServer Worker}
      (later :
        Machine.Alone input (reserveIdLoop (rounds + 1) 0, s) reached) :
      Machine.Alone input (reserveId, s) reached := by
    refine .ask ?_
    change Machine.Alone input (reserveIdLoop input.rounds 0, _) _
    rw [isRounds]
    exact later
  rcases alone_reserveIdLoop exchanges stands enough' with
    ⟨allTaken, ends⟩ | ⟨turn, inTime, allTaken, found, ends⟩
  · refine Or.inl ⟨fun k inTable => ?_, enter ends⟩
    obtain ⟨turn, inTime, here⟩ := exists_turn number inTable
    rw [← here]
    exact allTaken turn inTime
  · refine Or.inr ⟨turn, inTime, allTaken, ?_, enter ends⟩
    rw [hashId_idOf]
    exact found

end Coverage

section Calls

/-- Every slot that is not free holds an id of that slot. -/
def Placed (s : SocketServer Worker) : Prop :=
  ∀ k < MAX_SOCKET,
    (s.slot k).type ≠ .kSocketTypeInvalid → hashId (s.slot k).id = k

/-- What a call of `ReserveId` returns and does; `none` is -1. -/
structure Reserves
    (s : SocketServer Worker)
    (result : Option Int32)
    (s' : SocketServer Worker) : Prop where
  none_iff :
    result = none ↔
      ∀ k < MAX_SOCKET, (s.slot k).type ≠ .kSocketTypeInvalid
  onNone : result = none → s'.slot = s.slot
  onSome : ∀ id, result = some id → TakesSlot s id s'
  fresh :
    ∀ id, result = some id →
      ∀ k < MAX_SOCKET,
        (s.slot k).type ≠ .kSocketTypeInvalid → (s.slot k).id ≠ id
  placed : Placed s'

theorem hashId_lt
    (id : Int32) :
    hashId id < MAX_SOCKET :=
  Nat.mod_lt _ (by decide)

variable
    {s : SocketServer Worker}
    {input : OsAnswer}

/-- The slot that a call takes holds its id, and the others what they held. -/
theorem TakesSlot.placed
    {id : Int32}
    {s' : SocketServer Worker}
    (takes : TakesSlot s id s')
    (placed : Placed s) :
    Placed s' := by
  intro k inTable taken
  by_cases here : k = hashId id
  · rw [here, takes.stored]
  · rw [takes.others k here] at taken ⊢
    exact placed k inTable taken

/-- A call by itself ends, and does what it is for. -/
theorem exists_reserves
    (exchanges : input.flag = true)
    (enough : MAX_SOCKET < input.rounds)
    (placed : Placed s) :
    ∃ result s',
      Machine.Alone input (reserveId, s) (.done result, s') ∧
        Reserves s result s' := by
  rcases alone_reserveId exchanges enough (standsAt_numberOf s) with
    ⟨allTaken, ends⟩ | ⟨turn, _, _, isFree, ends⟩
  · refine ⟨none, _, ends, ?_⟩
    constructor
    · exact ⟨fun _ => allTaken, fun _ => rfl⟩
    · exact fun _ => slot_counted s _
    · exact fun id impossible => absurd impossible.symm (Option.some_ne_none id)
    · exact fun id impossible => absurd impossible.symm (Option.some_ne_none id)
    · unfold Placed
      rw [slot_counted]
      exact placed
  · have takes := takesSlot_reservedAt isFree
    refine ⟨some _, _, ends, ?_⟩
    constructor
    · refine ⟨fun impossible => absurd impossible (Option.some_ne_none _), ?_⟩
      exact fun allTaken => absurd isFree (allTaken _ (hashId_lt _))
    · exact fun impossible => absurd impossible (Option.some_ne_none _)
    · rintro id ⟨⟩
      exact takes
    · rintro id ⟨⟩ k inTable taken same
      have here := placed k inTable taken
      rw [same] at here
      rw [← here] at taken
      exact taken isFree
    · exact takes.placed placed

end Calls

section Runs

/-- A call of `ReserveId` with its result, or anything else between calls. -/
inductive TableMove where
  | reserve (result : Option Int32)
  | other

/--
A call by itself, whose exchanges do not fail; what happens between calls leaves
the counter and the ids of the slots alone.
-/
def TableStep
    (s : SocketServer Worker) :
    TableMove → SocketServer Worker → Prop
  | .reserve result, s' =>
      ∃ input : OsAnswer,
        input.flag = true ∧ MAX_SOCKET < input.rounds ∧
          Machine.Alone input (reserveId, s) (.done result, s')
  | .other, s' =>
      s'.alloc_id = s.alloc_id ∧ ∀ k, (s'.slot k).id = (s.slot k).id

/-- How often a call incremented the counter: fewer times than there are ids. -/
def passed (s s' : SocketServer Worker) : Nat :=
  (s'.alloc_id.toNatClampNeg + idCount - s.alloc_id.toNatClampNeg) % idCount

/-- How often the calls of a run incremented the counter. -/
def incremented :
    List (SocketServer Worker × TableMove) → SocketServer Worker → Nat
  | [], _ => 0
  | (s, .reserve _) :: past, s' => passed s s' + incremented past s
  | (s, .other) :: past, _ => incremented past s

/-- The id that a step returned. -/
def TableMove.issued? : TableMove → Option Int32
  | .reserve result => result
  | .other => none

/-- The ids that a run returned, the last one first. -/
def issued (past : List (SocketServer Worker × TableMove)) : List Int32 :=
  past.filterMap fun step => step.2.issued?

/--
`SocketInvalid` rejects every id whose slot was reserved again.  The ids are
given with the last one first.
-/
def RejectsStale
    (ids : List Int32)
    (s : SocketServer Worker) : Prop :=
  ∀ later id earlier,
    ids = later ++ id :: earlier →
    (∃ again ∈ later, hashId again = hashId id) →
    ∀ input : OsAnswer,
      Machine.Alone input
        (atSlot (hashId id) (socketInvalid id), s) (.done true, s)

variable
    {s s' : SocketServer Worker}
    {number : Nat}

/-- What a call does to the counter and to the ids of the slots. -/
theorem reserve_step
    {result : Option Int32}
    (isCounter : s.alloc_id = idOf number)
    (step : TableStep s (.reserve result) s') :
    ∃ count,
      0 < count ∧ count ≤ MAX_SOCKET ∧
        s'.alloc_id = idOf (number + count) ∧
        (∀ id, result = some id → id = idOf (number + count)) ∧
        ∀ k,
          (s'.slot k).id =
            (result.filter fun id => hashId id = k).getD (s.slot k).id := by
  obtain ⟨input, exchanges, enough, ends⟩ := step
  have stands : StandsAt s number := by
    rw [StandsAt, isCounter, numberOf_idOf]
  rcases alone_reserveId exchanges enough stands with
    ⟨_, ends'⟩ | ⟨turn, inTime, _, isFree, ends'⟩
  · obtain ⟨rfl, rfl⟩ := ends.unique ends'
    refine ⟨MAX_SOCKET, by decide, le_rfl, alloc_id_counted s _, ?_, ?_⟩
    · exact fun id impossible => absurd impossible.symm (Option.some_ne_none id)
    · intro k
      rw [slot_counted]
      rfl
  · obtain ⟨rfl, rfl⟩ := ends.unique ends'
    have takes := takesSlot_reservedAt isFree
    have isNumber : number + 1 + turn = number + (turn + 1) := by omega
    rw [isNumber] at takes ⊢
    refine ⟨turn + 1, Nat.succ_pos turn, inTime, takes.counter, ?_, ?_⟩
    · exact fun id isId => (Option.some.inj isId).symm
    · intro k
      by_cases here : hashId (idOf (number + (turn + 1))) = k
      · rw [Option.filter_some, if_pos (by simpa using here), ← here]
        exact takes.stored
      · rw [Option.filter_some, if_neg (by simpa using here)]
        rw [takes.others k (Ne.symm here)]
        rfl

/-- The counter tells how often it was incremented. -/
theorem passed_eq
    {count : Nat}
    (isCounter : s.alloc_id = idOf number)
    (isNext : s'.alloc_id = idOf (number + count))
    (short : count < idCount) :
    passed s s' = count := by
  have value (number : Nat) :
      (idOf number).toNatClampNeg = number % idCount :=
    Int32.toNatClampNeg_ofNat_of_lt (mod_idCount_lt number)
  rw [passed, isCounter, isNext, value, value]
  unfold idCount at short ⊢
  omega

variable
    {initial final : SocketServer Worker}
    {past : List (SocketServer Worker × TableMove)}

/-- The ids of a run are those of increasing numbers, up to the increments. -/
theorem issued_numbers
    {start : Nat}
    (isCounter : initial.alloc_id = idOf start)
    (run : Run TableStep initial past final) :
    final.alloc_id = idOf (start + incremented past final) ∧
      ∃ numbers : List Nat,
        issued past = numbers.map (fun number => idOf (start + number)) ∧
          numbers.Pairwise (· > ·) ∧
          ∀ number ∈ numbers, number ≤ incremented past final := by
  induction run with
  | nil =>
      exact ⟨isCounter, [], rfl, List.Pairwise.nil, by simp⟩
  | @snoc past s s' move earlier taken inductionHypothesis =>
      obtain ⟨isCount, numbers, areIssued, decreasing, bounded⟩ :=
        inductionHypothesis
      cases move with
      | other =>
          exact ⟨taken.1.trans isCount, numbers, areIssued, decreasing, bounded⟩
      | reserve result =>
          obtain ⟨count, positive, short, isNext, isId, _⟩ :=
            reserve_step isCount taken
          have total :
              incremented ((s, .reserve result) :: past) s' =
                incremented past s + count := by
            rw [incremented,
              passed_eq isCount isNext (Nat.lt_of_le_of_lt short (by decide)),
              Nat.add_comm]
          rw [total, ← Nat.add_assoc]
          refine ⟨isNext, ?_⟩
          cases result with
          | none =>
              exact ⟨numbers, areIssued, decreasing, fun number member =>
                Nat.le_add_right_of_le (bounded number member)⟩
          | some id =>
              have here := isId id rfl
              rw [Nat.add_assoc] at here
              refine ⟨(incremented past s + count) :: numbers, ?_, ?_, ?_⟩
              · rw [List.map_cons, ← here, ← areIssued]
                rfl
              · refine List.Pairwise.cons (fun number member => ?_) decreasing
                exact Nat.lt_of_le_of_lt (bounded number member)
                  (Nat.lt_add_of_pos_right positive)
              · intro number member
                rcases List.mem_cons.mp member with rfl | isEarlier
                · exact Nat.le_refl _
                · exact Nat.le_add_right_of_le (bounded number isEarlier)

/-- A slot holds the last id that was issued for it. -/
theorem slot_id_of_issued
    (nonneg : 0 ≤ initial.alloc_id)
    (run : Run TableStep initial past final)
    {k : Nat}
    {id : Int32}
    (isLast : (issued past).find? (fun id => hashId id = k) = some id) :
    (final.slot k).id = id := by
  obtain ⟨start, _, isStart⟩ := exists_idOf nonneg
  induction run with
  | nil =>
      cases isLast
  | @snoc past s s' move earlier taken inductionHypothesis =>
      cases move with
      | other =>
          rw [taken.2 k]
          exact inductionHypothesis isLast
      | reserve result =>
          have isCount := (issued_numbers isStart earlier).1
          obtain ⟨_, _, _, _, _, slots⟩ := reserve_step isCount taken
          rw [slots k]
          cases result with
          | none =>
              exact inductionHypothesis isLast
          | some newest =>
              have areIssued :
                  issued ((s, .reserve (some newest)) :: past) =
                    newest :: issued past :=
                rfl
              rw [areIssued, List.find?_cons] at isLast
              rw [Option.filter_some]
              by_cases here : hashId newest = k
              · simp only [here, decide_true, Option.some.injEq] at isLast
                rw [if_pos (by simpa using here)]
                exact isLast
              · simp only [here, decide_false] at isLast
                rw [if_neg (by simpa using here)]
                exact inductionHypothesis isLast

/-- `SocketInvalid` looks at the id first. -/
theorem alone_socketInvalid
    {k : Nat}
    {id : Int32}
    (another : (s.slot k).id ≠ id)
    (input : OsAnswer) :
    Machine.Alone input
      (atSlot k (socketInvalid id), s) (.done true, s) := by
  unfold socketInvalid atSlot
  rw [Program.zoom_bind]
  change Machine.Alone input (atSlot k (load (·.id)) >>= _, s) _
  rw [atSlot_load]
  refine .ask ?_
  rw [if_pos another]
  exact .refl input _

/-- Different ids make `SocketInvalid` reject the ones of slots used again. -/
theorem rejectsStale_of_nodup
    (nonneg : 0 ≤ initial.alloc_id)
    (run : Run TableStep initial past final)
    (distinct : (issued past).Nodup) :
    RejectsStale (issued past) final := by
  rintro later id earlier areIssued ⟨again, member, sameSlot⟩ input
  refine alone_socketInvalid (fun same => ?_) input
  obtain ⟨last, isLast⟩ :
      ∃ last, later.find? (fun other => hashId other = hashId id) = some last :=
    Option.isSome_iff_exists.mp
      (List.find?_isSome.mpr ⟨again, member, by simpa using sameSlot⟩)
  have lastIssued :
      (issued past).find? (fun other => hashId other = hashId id) =
        some last := by
    rw [areIssued, List.find?_append, isLast]
    rfl
  rw [slot_id_of_issued nonneg run lastIssued] at same
  rw [areIssued, List.nodup_append] at distinct
  exact distinct.2.2 last (List.mem_of_find?_eq_some isLast) id
    List.mem_cons_self same

/--
`ReserveId` finds a free slot whenever there is one, and gives it an id that no
taken slot has; over a run with fewer increments than there are ids all ids are
different, and `SocketInvalid` rejects the ids of slots that are used again.
-/
theorem reserveId_correct
    {s : SocketServer Worker}
    (nonneg : 0 ≤ s.alloc_id)
    (placed : Placed s) :
    (∀ input : OsAnswer,
      input.flag = true →
      MAX_SOCKET < input.rounds →
        ∃ result s',
          Machine.Alone input (reserveId, s) (.done result, s') ∧
            Reserves s result s') ∧
      ∀ past final,
        Run TableStep s past final →
        incremented past final < 2 ^ 31 →
          (issued past).Nodup ∧ RejectsStale (issued past) final := by
  refine ⟨fun input exchanges enough => ?_, fun past final run few => ?_⟩
  · exact exists_reserves exchanges enough placed
  · obtain ⟨start, _, isStart⟩ := exists_idOf nonneg
    obtain ⟨_, numbers, areIssued, decreasing, bounded⟩ :=
      issued_numbers isStart run
    have distinct : (issued past).Nodup := by
      rw [areIssued]
      refine List.Nodup.map_on ?_ (decreasing.imp Nat.ne_of_gt)
      intro first firstMember second secondMember same
      have firstSmall := bounded first firstMember
      have secondSmall := bounded second secondMember
      have sameNumber := idOf_inj.mp same
      unfold idCount at sameNumber
      omega
    exact ⟨distinct, rejectsStale_of_nodup nonneg run distinct⟩

/-- A server without sockets that gave out the last id. -/
def lastServer : SocketServer Unit :=
  { blankServer with alloc_id := 0x7fffffff }

/-- A server whose slot 5 alone is free; it gave out the last id. -/
def crowdedServer : SocketServer Unit :=
  { lastServer with
    slot := fun k =>
      { blankSocket with
        id := idOf k
        type :=
          if k = 5 then .kSocketTypeInvalid else .kSocketTypeListen } }

/-- Slot 5 alone is free, and the others hold ids of their own. -/
structure OnlyFree (s : SocketServer Unit) : Prop where
  free : (s.slot 5).type = .kSocketTypeInvalid
  taken : ∀ k, k ≠ 5 → (s.slot k).type ≠ .kSocketTypeInvalid
  placed : Placed s

/-- A run that reserved slot 5 a number of times, the slot free again at its end. -/
def ReservedFive (times : Nat) : Prop :=
  ∃ past final,
    Run TableStep crowdedServer past final ∧
      OnlyFree final ∧
        0 ≤ final.alloc_id ∧
          (issued past).map hashId = List.replicate times 5 ∧
            incremented past final ≤ times * MAX_SOCKET

/-- The slot is reserved once more, and freed. -/
theorem ReservedFive.again
    {times : Nat}
    (reserved : ReservedFive times) :
    ReservedFive (times + 1) := by
  obtain ⟨past, s, run, only, nonneg, slots, few⟩ := reserved
  let input : OsAnswer :=
    { (default : OsAnswer) with flag := true, rounds := MAX_SOCKET + 1 }
  have succeeds : input.flag = true := rfl
  obtain ⟨result, t, ends, reserves⟩ :=
    exists_reserves (s := s) succeeds (Nat.lt_succ_self _) only.placed
  obtain ⟨id, rfl⟩ : ∃ id, result = some id := by
    refine Option.ne_none_iff_exists'.mp fun isNone => ?_
    exact reserves.none_iff.mp isNone 5 (by decide) only.free
  have takes := reserves.onSome id rfl
  have isFive : hashId id = 5 := by
    by_contra other
    exact only.taken _ other takes.free
  have step : TableStep s (.reserve (some id)) t :=
    ⟨_, rfl, Nat.lt_succ_self _, ends⟩
  let freed : SocketServer Unit :=
    { t with
      slot :=
        Function.update t.slot 5
          { t.slot 5 with type := .kSocketTypeInvalid } }
  have frees : TableStep t .other freed := by
    refine ⟨rfl, fun k => ?_⟩
    by_cases here : k = 5
    · simp [freed, here]
    · simp [freed, here]
  refine ⟨_, freed, (run.snoc step).snoc frees, ⟨?_, ?_, ?_⟩, ?_, ?_, ?_⟩
  · simp [freed]
  · intro k different
    have same : freed.slot k = s.slot k := by
      simp [freed, different, takes.others k (by rw [isFive]; exact different)]
    rw [same]
    exact only.taken k different
  · intro k inTable isTaken
    have different : k ≠ 5 := by
      rintro rfl
      simp [freed] at isTaken
    simp only [freed, Function.update_of_ne different] at isTaken ⊢
    exact reserves.placed k inTable isTaken
  · show 0 ≤ t.alloc_id
    rw [takes.counter]
    exact takes.nonneg
  · rw [List.replicate_succ, ← slots, ← isFive]
    rfl
  · obtain ⟨number, _, isNumber⟩ := exists_idOf nonneg
    obtain ⟨count, _, short, isNext, _⟩ := reserve_step isNumber step
    simp only [incremented]
    rw [passed_eq isNumber isNext (Nat.lt_of_le_of_lt short (by decide))]
    rw [Nat.succ_mul]
    omega

/-- The one free slot is reserved three times, each time under a new id. -/
theorem crowdedServer_reserves :
    ∃ past final,
      Run TableStep crowdedServer past final ∧
        (issued past).map hashId = [5, 5, 5] ∧
          (issued past).Nodup ∧ RejectsStale (issued past) final := by
  have placed : Placed crowdedServer := by
    intro k inTable _
    exact (hashId_idOf k).trans (Nat.mod_eq_of_lt inTable)
  have start : ReservedFive 0 :=
    ⟨[], crowdedServer, .nil,
      ⟨rfl, fun k different => by simp [crowdedServer, different], placed⟩,
      by decide, rfl, Nat.zero_le _⟩
  obtain ⟨past, final, run, _, _, slots, few⟩ := start.again.again.again
  refine ⟨past, final, run, slots, ?_⟩
  refine (reserveId_correct (by decide) placed).2 past final run ?_
  exact Nat.lt_of_le_of_lt few (by decide)

end Runs

end SocketReserve

end SkynetCpp
