import SkynetCpp.HarborStates
import SkynetCpp.RemoteSend

namespace SkynetCpp

open Foundation

/-!
# How long a global name may be

`_CopyName` cuts a name off behind 16 bytes, the `N` command is refused for a
name of 16 bytes or more.  A shorter name keeps its own key and gets its
messages out; a longer one does neither.
-/

/-- A name that `ServiceSendname` sends to another harbor. -/
structure IsGlobalName (addr : List UInt8) : Prop where
  nonempty : addr ≠ []
  /-- It is a string. -/
  noZero : 0 ∉ addr
  /-- It does not start with a colon. -/
  notHandle : addr.head? ≠ some 58
  /-- It does not start with a dot. -/
  notLocal : addr.head? ≠ some 46

/-- The command `N`, for a name. -/
def nameCommand (addr : List UInt8) : List UInt8 :=
  78 :: 32 :: addr

/-- Different names have different keys. -/
def OwnsKey (addr : List UInt8) : Prop :=
  ∀ other, IsGlobalName other → other ≠ addr →
    nameKey (copyName other) ≠ nameKey (copyName addr)

section Keys

variable
    {addr other : List UInt8}

/-- A copied name has the first 16 bytes of the name. -/
theorem copyName_eq
    (noZero : 0 ∉ addr) :
    copyName addr =
      addr.take kGlobalNameLength ++
        List.replicate
          (kGlobalNameLength - (addr.take kGlobalNameLength).length) 0 := by
  have noZeroTaken : 0 ∉ addr.take kGlobalNameLength :=
    fun member => noZero (List.take_subset _ _ member)
  have isFirst :
      copyName addr = copyName (addr.take kGlobalNameLength) := by
    unfold copyName
    rw [List.take_take, Nat.min_self]
  rw [isFirst]
  exact copyName_of_fits noZeroTaken (List.length_take_le _ _)

/-- The text of a copied name is its first 16 bytes. -/
theorem nameText_copyName
    (noZero : 0 ∉ addr) :
    nameText (copyName addr) = addr.take kGlobalNameLength := by
  have noZeroTaken : 0 ∉ addr.take kGlobalNameLength :=
    fun member => noZero (List.take_subset _ _ member)
  have isWhole : (copyName addr).take kGlobalNameLength = copyName addr := by
    apply List.take_of_length_le
    rw [copyName_eq noZero, List.length_append, List.length_replicate]
    have bound := List.length_take_le kGlobalNameLength addr
    omega
  have onlyZeros (count : Nat) :
      cString (List.replicate count 0) = [] := by
    cases count with
    | zero =>
        rfl
    | succ count =>
        simp [cString, List.replicate_succ]
  rw [nameText, isWhole, copyName_eq noZero,
    cString_append_of_not_mem noZeroTaken, onlyZeros, List.append_nil]

/-- Names have one key exactly when their first 16 bytes are the same. -/
theorem nameKey_copyName_iff
    (noZero : 0 ∉ addr)
    (otherNoZero : 0 ∉ other) :
    nameKey (copyName other) = nameKey (copyName addr) ↔
      other.take kGlobalNameLength = addr.take kGlobalNameLength := by
  constructor
  · intro sameKey
    have sameText := congrArg Prod.snd sameKey
    simpa only [nameKey, nameText_copyName noZero,
      nameText_copyName otherNoZero] using sameText
  · intro sameStart
    rw [copyName_eq noZero, copyName_eq otherNoZero, sameStart]

/-- A name has its key for itself when it is shorter than the key. -/
theorem ownsKey_iff
    (isName : IsGlobalName addr) :
    OwnsKey addr ↔ addr.length < kGlobalNameLength := by
  constructor
  · intro owns
    by_contra long
    -- One more byte behind the name is cut off again.
    let longer := addr ++ [97]
    have isLonger : IsGlobalName longer := by
      refine ⟨by simp [longer], by simp [longer, isName.noZero], ?_, ?_⟩
      · rw [List.head?_append_of_ne_nil _ isName.nonempty]
        exact isName.notHandle
      · rw [List.head?_append_of_ne_nil _ isName.nonempty]
        exact isName.notLocal
    refine owns longer isLonger (by simp [longer]) ?_
    rw [nameKey_copyName_iff isName.noZero isLonger.noZero]
    exact List.take_append_of_le_length (Nat.le_of_not_lt long)
  · intro short other isOther different sameKey
    rw [nameKey_copyName_iff isName.noZero isOther.noZero,
      List.take_of_length_le (Nat.le_of_lt short)] at sameKey
    have lengths := congrArg List.length sameKey
    rw [List.length_take] at lengths
    have otherShort : other.length ≤ kGlobalNameLength := by
      omega
    rw [List.take_of_length_le otherShort] at sameKey
    exact different sameKey

end Keys

namespace HarborService

variable
    {h h' : HarborService}
    {addr other : List UInt8}

/-- A state of a harbor service that was initialised and got messages. -/
def Reached (h : HarborService) : Prop :=
  ∃ harbor_id slave start past,
    harborInit harbor_id slave = some start ∧
      Run (Run.Steps next?) start past h

/--
Whenever the owner of a name binds it, the messages that wait under the key of
the name go to the owner, and none is left.
-/
def DispatchesTo (addr : List UInt8) : Prop :=
  ∀ h, Reached h → ∀ session source unknown,
    ∃ h' calls,
      h.mainloop (.harbor (nameCommand addr)) session source unknown =
          .ok (h', calls) ∧
        h'.nameMessages (copyName addr) = [] ∧
        (h.nameMessages (copyName addr) ≠ [] →
          Releases h source (h.nameMessages (copyName addr)) calls h')

/-- The messages of a name stay when another name is bound. -/
def StaysFor (addr : List UInt8) : Prop :=
  ∀ h, Reached h → ∀ other, IsGlobalName other → other ≠ addr →
    ∀ session source unknown h' calls,
      h.mainloop (.harbor (nameCommand other)) session source unknown =
          .ok (h', calls) →
        h'.nameMessages (copyName addr) = h.nameMessages (copyName addr)

/-- What a global name is for. -/
structure Served (addr : List UInt8) : Prop where
  dispatches : DispatchesTo addr
  owns : OwnsKey addr
  stays : StaysFor addr

/-- Every state that is reached is well-formed. -/
theorem Reached.wellFormed
    (reached : Reached h) :
    h.WellFormed := by
  obtain ⟨harbor_id, slave, start, past, initialised, run⟩ := reached
  have sound : h.Sound :=
    Run.invariant_of_step run (harborInit_sound initialised) sound_next h
      (by simp)
  exact sound.wellFormed

section Command

/-- The command `N` binds the padded name when its length is accepted. -/
theorem mainloop_nameCommand_eq
    (addr : List UInt8)
    (session : Int)
    (source : UInt32)
    (unknown : HarborUnknown) :
    h.mainloop (.harbor (nameCommand addr)) session source unknown =
      if ((nameCommand addr).length : Int) - 2 ≤ 0 ∨
          (kGlobalNameLength : Int) ≤ ((nameCommand addr).length : Int) - 2 then
        .ok (h, [])
      else
        h.updateName
          (addr ++ List.replicate (kGlobalNameLength - addr.length) 0)
          source :=
  rfl

/-- The command `N` for a name that is shorter than the key. -/
theorem mainloop_nameCommand
    (isName : IsGlobalName addr)
    (short : addr.length < kGlobalNameLength)
    (session : Int)
    (source : UInt32)
    (unknown : HarborUnknown) :
    h.mainloop (.harbor (nameCommand addr)) session source unknown =
      h.updateName (copyName addr) source := by
  have positive := List.length_pos_iff.mpr isName.nonempty
  have isLength : (nameCommand addr).length = addr.length + 2 := rfl
  rw [mainloop_nameCommand_eq, if_neg (by rw [isLength]; omega),
    copyName_of_fits isName.noZero (Nat.le_of_lt short)]

/-- The command `N` for a longer name does nothing. -/
theorem mainloop_longNameCommand
    (long : kGlobalNameLength ≤ addr.length)
    (session : Int)
    (source : UInt32)
    (unknown : HarborUnknown) :
    h.mainloop (.harbor (nameCommand addr)) session source unknown =
      .ok (h, []) := by
  have isLength : (nameCommand addr).length = addr.length + 2 := rfl
  rw [mainloop_nameCommand_eq, if_pos (by rw [isLength]; omega)]

/-- The messages of another key stay when a name is bound. -/
theorem staysFor
    (isName : IsGlobalName addr) :
    StaysFor addr := by
  intro h reached other isOther different session source unknown h' calls done
  by_cases short : other.length < kGlobalNameLength
  · rw [mainloop_nameCommand isOther short] at done
    obtain ⟨last, made, updated, names, _⟩ :=
      updateName_releases reached.wellFormed (copyName other) source
    rw [updated] at done
    cases done
    have otherKey : nameKey (copyName addr) ≠ nameKey (copyName other) :=
      (ownsKey_iff isOther).mpr short addr isName different.symm
    apply HarborRun.nameMessages_of_nameQueue
    rw [names, if_neg otherKey]
  · rw [mainloop_longNameCommand (Nat.le_of_not_lt short)] at done
    cases done
    rfl

/-- A message for a name, as the harbor service gets it. -/
def messageTo (addr : List UInt8) : HarborInput :=
  HarborRun.inputOf
    (.system
      { destination := { name := copyName addr, handle := 0 }
        message := some [1]
        sz := 1
        type := 3 })
    0x1000002

/-- A message may wait for any name. -/
theorem exists_waiting
    (addr : List UInt8) :
    ∃ h, Reached h ∧ h.nameMessages (copyName addr) ≠ [] := by
  let start := HarborRun.harborOne
  have initialised : harborInit 1 0x1000001 = some start := rfl
  have noRun : Run (Run.Steps next?) start [] start := Run.nil
  have fresh : Reached start := ⟨1, 0x1000001, start, [], initialised, noRun⟩
  have unbound : start.nameValue (copyName addr) = 0 := by
    simp [nameValue, hashSearch, start, HarborRun.harborOne]
  let sent :=
    start.remoteSendName 0x1000002 (copyName addr) (UInt32.ofInt 3) 0 [1] 1
  have awaits := remoteSendName_cases fresh.wellFormed 0x1000002 (copyName addr)
    (UInt32.ofInt 3) 0 [1] 1
  rw [if_pos unbound] at awaits
  have taken : Run.Steps next? start (messageTo addr) sent.2.1 := by
    apply next?_eq_some_iff.mpr
    exact ⟨sent.2.2, rfl⟩
  refine
    ⟨sent.2.1, ⟨1, 0x1000001, start, _, initialised, noRun.snoc taken⟩, ?_⟩
  obtain ⟨queue, _, contents, names⟩ := awaits.queued
  have isQueue : sent.2.1.nameQueue (copyName addr) = some queue := by
    have named := names (copyName addr)
    rw [if_pos rfl] at named
    exact named
  unfold nameMessages
  rw [isQueue]
  intro isEmpty
  rw [Option.map_some, Option.getD_some, contents] at isEmpty
  simp at isEmpty

/-- The owner of a name gets its messages when the name is shorter than a key. -/
theorem dispatchesTo_iff
    (isName : IsGlobalName addr) :
    DispatchesTo addr ↔ addr.length < kGlobalNameLength := by
  constructor
  · intro dispatches
    by_contra long
    obtain ⟨h, reached, waits⟩ := exists_waiting addr
    obtain ⟨h', calls, done, emptied, _⟩ :=
      dispatches h reached 0 0x2000001 .zero
    rw [mainloop_longNameCommand (Nat.le_of_not_lt long)] at done
    cases done
    exact waits emptied
  · intro short h reached session source unknown
    obtain ⟨h', calls, updated, names, released⟩ :=
      updateName_releases reached.wellFormed (copyName addr) source
    refine ⟨h', calls, ?_, ?_, ?_⟩
    · rw [mainloop_nameCommand isName short]
      exact updated
    · have isQueue := names (copyName addr)
      rw [if_pos rfl] at isQueue
      unfold nameMessages
      rw [isQueue]
      rfl
    · intro waits
      have hasQueue : h.nameQueue (copyName addr) ≠ none := by
        intro noQueue
        apply waits
        unfold nameMessages
        rw [noQueue]
        rfl
      rw [if_neg hasQueue] at released
      exact released

/-- A global name is served exactly when it is shorter than 16 bytes. -/
theorem served_iff
    (isName : IsGlobalName addr) :
    Served addr ↔ addr.length < kGlobalNameLength := by
  constructor
  · intro served
    exact (dispatchesTo_iff isName).mp served.dispatches
  · intro short
    exact
      ⟨(dispatchesTo_iff isName).mpr short, (ownsKey_iff isName).mpr short,
        staysFor isName⟩

/-- The name of one letter is served. -/
theorem letter_served :
    Served [97] := by
  have isName : IsGlobalName [97] :=
    ⟨by decide, by decide, by decide, by decide⟩
  exact (served_iff isName).mpr (by decide)

/-- A name of sixteen letters is not served. -/
theorem sixteenLetters_not_served :
    ¬ ∀ addr, IsGlobalName addr → Served addr := by
  intro allServed
  have isName : IsGlobalName (List.replicate 16 97) :=
    ⟨by decide, by decide, by decide, by decide⟩
  have short :=
    (dispatchesTo_iff isName).mp (allServed _ isName).dispatches
  exact absurd short (by decide)

end Command

end HarborService

end SkynetCpp
