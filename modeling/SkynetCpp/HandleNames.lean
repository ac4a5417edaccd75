import Mathlib.Data.String.Basic
import SkynetCpp.Foundation.Run
import SkynetCpp.Foundation.SortedTable
import SkynetCpp.Handle

namespace SkynetCpp

open Foundation

/-!
# Names of services

`HandleNamehandle`, and what the names resolve to over a run.  The search of
`HandleFindname` and the loops over the array are those of a sorted table.
-/

def kMaxSlotSize : Nat := 0x40000000

/--
The binary search of `HandleNamehandle`: where `begin` ends, or nothing when
the name is bound.
-/
def namehandleLoop
    (names : List HandleName)
    (name : String) : Nat → Int → Int → Option Int
  | 0, start, _ => some start
  | turns + 1, start, stop =>
      if start ≤ stop then
        let mid := (start + stop) / 2
        match names[mid.toNat]? with
        | none => some start
        | some entry =>
            if entry.name = name then none
            else if entry.name < name then
              namehandleLoop names name turns (mid + 1) stop
            else
              namehandleLoop names name turns start (mid - 1)
      else
        some start

/-- `kHandleStorage->name.resize(kHandleStorage->name.size() * 2)` when it is full. -/
def growNames (storage : HandleStorage) : Except Fault HandleStorage :=
  if storage.nameCount ≥ storage.name.length then
    if storage.name.length * 2 ≤ kMaxSlotSize then
      .ok
        { storage with
          name :=
            storage.name ++
              List.replicate storage.name.length { name := "", handle := 0 } }
    else
      .error (.assertion "kHandleStorage->name.size() * 2 <= kMaxSlotSize")
  else
    .ok storage

/-- The shifting loop of `HandleNamehandle`; `i` counts down to `begin`. -/
def shiftNames (start : Nat) : Nat → List HandleName → List HandleName
  | 0, name => name
  | i + 1, name =>
      if start < i + 1 then
        match name[i]? with
        | none => name
        | some entry => shiftNames start i (name.set (i + 1) entry)
      else
        name

/-- Write a name at its place. -/
def insertName
    (storage : HandleStorage)
    (start : Nat)
    (entry : HandleName) : HandleStorage :=
  { storage with
    name := (shiftNames start storage.nameCount storage.name).set start entry
    nameCount := storage.nameCount + 1 }

/-- `HandleNamehandle`. -/
def handleNamehandle
    (s : System)
    (handle : UInt32)
    (name : String) : Except Fault (String × System) :=
  match
    namehandleLoop s.storage.name name (s.storage.nameCount + 1)
      0 (s.storage.nameCount - 1) with
  | none => .ok ("", s)
  | some start =>
      match growNames s.storage with
      | .error fault => .error fault
      | .ok grown =>
          .ok (name,
            { s with
              storage :=
                insertName grown start.toNat { name := name, handle := handle } })

/-- The bound names: the first `name_count` entries. -/
def HandleStorage.bound (storage : HandleStorage) : List HandleName :=
  storage.name.take storage.nameCount

/-- The bound names are sorted, and the array has room for them. -/
structure HandleStorage.Named (storage : HandleStorage) : Prop where
  nonempty : 0 < storage.name.length
  room : storage.nameCount ≤ storage.name.length
  sorted : SortedBy HandleName.name storage.bound

/-- The entry of a bound name. -/
def HandleStorage.entry
    (storage : HandleStorage)
    (name : String) : Option HandleName :=
  lookup HandleName.name storage.bound name

section Search

/-- `HandleFindname` returns the handle of the entry that a binary search finds. -/
theorem findnameLoop_eq
    (names : List HandleName)
    (name : String)
    (turns : Nat)
    (start stop : Int) :
    findnameLoop names name turns start stop =
      match bisect HandleName.name names name turns start stop with
      | .found entry => entry.handle
      | .missing _ => 0 := by
  induction turns generalizing start stop with
  | zero =>
      rfl
  | succ turns inductionHypothesis =>
      unfold findnameLoop bisect
      by_cases remain : start ≤ stop
      · simp only [remain, ↓reduceIte]
        cases names[((start + stop) / 2).toNat]? with
        | none =>
            rfl
        | some entry =>
            by_cases same : entry.name = name
            · simp only [same, ↓reduceIte]
            · by_cases small : entry.name < name
              · simp only [same, small, ↓reduceIte, inductionHypothesis]
              · simp only [same, small, ↓reduceIte, inductionHypothesis]
      · simp only [remain, ↓reduceIte]

/-- `HandleNamehandle` inserts where a binary search finds nothing. -/
theorem namehandleLoop_eq
    (names : List HandleName)
    (name : String)
    (turns : Nat)
    (start stop : Int) :
    namehandleLoop names name turns start stop =
      match bisect HandleName.name names name turns start stop with
      | .found _ => none
      | .missing start => some start := by
  induction turns generalizing start stop with
  | zero =>
      rfl
  | succ turns inductionHypothesis =>
      unfold namehandleLoop bisect
      by_cases remain : start ≤ stop
      · simp only [remain, ↓reduceIte]
        cases names[((start + stop) / 2).toNat]? with
        | none =>
            rfl
        | some entry =>
            by_cases same : entry.name = name
            · simp only [same, ↓reduceIte]
            · by_cases small : entry.name < name
              · simp only [same, small, ↓reduceIte, inductionHypothesis]
              · simp only [same, small, ↓reduceIte, inductionHypothesis]
      · simp only [remain, ↓reduceIte]

theorem shiftNames_eq
    (start stop : Nat)
    (name : List HandleName) :
    shiftNames start stop name = moveUp start stop name := by
  induction stop generalizing name with
  | zero =>
      rfl
  | succ stop inductionHypothesis =>
      unfold shiftNames moveUp
      simp only [inductionHypothesis]
      cases name[stop]? with
      | none =>
          rfl
      | some entry =>
          rfl

theorem retireNames_eq
    (handle : UInt32)
    (turns i j : Nat)
    (name : List HandleName) :
    retireNames handle turns i j name =
      moveDown (fun entry => decide (entry.handle = handle))
        (fun entry => { entry with name := "" }) turns i j name := by
  induction turns generalizing i j name with
  | zero =>
      rfl
  | succ turns inductionHypothesis =>
      unfold retireNames moveDown
      cases name[i]? with
      | none =>
          rfl
      | some entry =>
          simp only [inductionHypothesis, decide_eq_true_eq]

end Search

namespace HandleStorage

variable
    {storage : HandleStorage}
    {start : Nat}

/-- A search ends at the entry of a bound name, or where the name belongs. -/
theorem Named.search
    (named : storage.Named)
    (name : String) :
    (∃ entry,
      bisect HandleName.name storage.name name (storage.nameCount + 1)
            0 (storage.nameCount - 1) =
          .found entry ∧
        storage.entry name = some entry) ∨
      ∃ start : Nat,
        bisect HandleName.name storage.name name (storage.nameCount + 1)
              0 (storage.nameCount - 1) =
            .missing start ∧
          storage.entry name = none ∧
          start ≤ storage.nameCount ∧
          (∀ entry ∈ storage.name.take start, entry.name < name) ∧
          ∀ entry ∈ storage.bound.drop start, name < entry.name :=
  bisect_cases named.sorted named.room name

/-- The bound names before a position and from there on. -/
theorem take_append_drop_bound
    (inside : start ≤ storage.nameCount) :
    storage.name.take start ++ storage.bound.drop start = storage.bound := by
  have isPrefix : storage.name.take start = storage.bound.take start := by
    rw [bound, List.take_take, Nat.min_eq_left inside]
  rw [isPrefix, List.take_append_drop]

/-- A written name stands between the names before and behind its place. -/
theorem bound_insertName
    (inside : start ≤ storage.nameCount)
    (room : storage.nameCount < storage.name.length)
    (entry : HandleName) :
    (insertName storage start entry).bound =
      storage.name.take start ++ entry :: storage.bound.drop start := by
  unfold insertName bound
  rw [shiftNames_eq]
  exact take_moveUp_set inside room entry

/-- A name that is written where it belongs keeps the names sorted. -/
theorem Named.insertName
    (named : storage.Named)
    (inside : start ≤ storage.nameCount)
    (room : storage.nameCount < storage.name.length)
    {entry : HandleName}
    (smaller : ∀ other ∈ storage.name.take start, other.name < entry.name)
    (greater : ∀ other ∈ storage.bound.drop start, entry.name < other.name) :
    (SkynetCpp.insertName storage start entry).Named where
  nonempty := by
    unfold SkynetCpp.insertName
    rw [List.length_set, shiftNames_eq, length_moveUp]
    exact named.nonempty
  room := by
    unfold SkynetCpp.insertName
    rw [List.length_set, shiftNames_eq, length_moveUp]
    exact room
  sorted := by
    rw [bound_insertName inside room]
    apply SortedBy.insert _ smaller greater
    rw [take_append_drop_bound inside]
    exact named.sorted

/-- A written name is bound, and the others are as before. -/
theorem entry_insertName
    (inside : start ≤ storage.nameCount)
    (room : storage.nameCount < storage.name.length)
    {entry : HandleName}
    (unbound : storage.entry entry.name = none)
    (name : String) :
    (insertName storage start entry).entry name =
      if name = entry.name then some entry else storage.entry name := by
  unfold HandleStorage.entry at unbound ⊢
  rw [← take_append_drop_bound inside] at unbound ⊢
  rw [bound_insertName inside room]
  exact lookup_insert unbound name

/-- Growing an array with entries makes room for one more and keeps the names. -/
theorem growNames_cases
    {grown : HandleStorage}
    (named : storage.Named)
    (returned : growNames storage = .ok grown) :
    grown.bound = storage.bound ∧ grown.nameCount = storage.nameCount ∧
      storage.nameCount < grown.name.length ∧
      ∃ added, grown.name = storage.name ++ added := by
  unfold growNames at returned
  split at returned
  · split at returned
    · injection returned with isGrown
      subst isGrown
      refine ⟨List.take_append_of_le_length named.room, rfl, ?_, _, rfl⟩
      have nonempty := named.nonempty
      have room := named.room
      rw [List.length_append, List.length_replicate]
      omega
    · cases returned
  · injection returned with isGrown
    subst isGrown
    exact ⟨rfl, rfl, by omega, [], (List.append_nil _).symm⟩

end HandleStorage

section Calls

variable
    {s : System}
    (named : s.storage.Named)

include named

/-- A bound name is found under its handle, and 0 stands for an unbound one. -/
theorem handleFindname_eq
    (name : String) :
    handleFindname s name =
      ((s.storage.entry name).map HandleName.handle).getD 0 := by
  unfold handleFindname
  rw [findnameLoop_eq]
  rcases named.search name with
    ⟨entry, searched, found⟩ | ⟨start, searched, missing, _⟩
  · rw [searched, found]
    rfl
  · rw [searched, missing]
    rfl

/-- Registering a bound name returns the empty string and changes nothing. -/
theorem handleNamehandle_of_bound
    (handle : UInt32)
    {name : String}
    {entry : HandleName}
    (bound : s.storage.entry name = some entry) :
    handleNamehandle s handle name = .ok ("", s) := by
  unfold handleNamehandle
  rw [namehandleLoop_eq]
  rcases named.search name with
    ⟨other, searched, _⟩ | ⟨start, searched, missing, _⟩
  · rw [searched]
  · rw [missing] at bound
    cases bound

/-- Registering an unbound name binds it. -/
theorem handleNamehandle_of_unbound
    {handle : UInt32}
    {name result : String}
    {s' : System}
    (unbound : s.storage.entry name = none)
    (returned : handleNamehandle s handle name = .ok (result, s')) :
    result = name ∧ s'.storage.Named ∧
      ∀ other,
        s'.storage.entry other =
          if other = name then some { name := name, handle := handle }
          else s.storage.entry other := by
  unfold handleNamehandle at returned
  rw [namehandleLoop_eq] at returned
  rcases named.search name with
    ⟨entry, searched, found⟩ | ⟨start, searched, _, inside, smaller, greater⟩
  · rw [found] at unbound
    cases unbound
  · rw [searched] at returned
    simp only at returned
    split at returned
    · cases returned
    · next grown grows =>
        obtain ⟨sameBound, sameCount, room, added, isName⟩ :=
          HandleStorage.growNames_cases named grows
        injection returned with returned
        injection returned with isResult isState
        subst isState
        have sameBefore : grown.name.take start = s.storage.name.take start := by
          rw [isName]
          exact List.take_append_of_le_length (Nat.le_trans inside named.room)
        have grownNamed : grown.Named :=
          { nonempty := by omega
            room := by omega
            sorted := sameBound ▸ named.sorted }
        have grownEntry (other : String) :
            grown.entry other = s.storage.entry other := by
          rw [HandleStorage.entry, sameBound]
          rfl
        rw [← sameCount] at inside room
        refine ⟨isResult.symm, ?_, ?_⟩
        · refine grownNamed.insertName inside room ?_ ?_
          · rw [sameBefore]
            exact smaller
          · rw [sameBound]
            exact greater
        · intro other
          rw [← grownEntry other]
          exact HandleStorage.entry_insertName inside room
            ((grownEntry name).trans unbound) other

omit named in
/-- A retirement unlinks the names of its handle and nothing else of the array. -/
theorem bound_unlinkAt
    (room : s.storage.nameCount ≤ s.storage.name.length)
    (handle : UInt32) :
    (unlinkAt s handle).storage.bound =
      s.storage.bound.filter fun entry => !decide (entry.handle = handle) := by
  unfold unlinkAt HandleStorage.bound
  simp only [retireNames_eq]
  exact take_moveDown (Nat.le_refl 0) (by omega)

omit named in
/-- Unlinking a handle binds no more names than before. -/
theorem room_unlinkAt
    (room : s.storage.nameCount ≤ s.storage.name.length)
    (handle : UInt32) :
    (unlinkAt s handle).storage.nameCount ≤
      (unlinkAt s handle).storage.name.length := by
  have atMost :
      (moveDown (fun entry => decide (entry.handle = handle))
          (fun entry => { entry with name := "" })
          s.storage.nameCount 0 0 s.storage.name).2 ≤
        0 + s.storage.nameCount :=
    moveDown_count_le ..
  unfold unlinkAt
  simp only [retireNames_eq, length_moveDown]
  omega

/-- The names stay sorted when those of a handle are unlinked. -/
theorem named_unlinkAt
    (handle : UInt32) :
    (unlinkAt s handle).storage.Named where
  nonempty := by
    unfold unlinkAt
    simp only [retireNames_eq, length_moveDown]
    exact named.nonempty
  room := room_unlinkAt named.room handle
  sorted := by
    rw [bound_unlinkAt named.room]
    exact named.sorted.filter _

omit named in
/-- A retirement that returns did nothing to the table, or unlinked the handle. -/
theorem handleRetire_storage
    {s' : System}
    {handle : UInt32}
    {result : Int}
    (returned : handleRetire s handle = .ok (result, s')) :
    result = 0 ∧ s'.storage = s.storage ∨
      result = 1 ∧ s'.storage = (unlinkAt s handle).storage := by
  unfold handleRetire handleUnlink at returned
  cases found : handleLookup s handle with
  | none =>
      simp only [found, Except.ok.injEq, Prod.mk.injEq] at returned
      exact Or.inl ⟨returned.1.symm, returned.2 ▸ rfl⟩
  | some ctx =>
      simp only [found] at returned
      split at returned
      · next inUse released release =>
          injection returned with returned
          injection returned with isResult isState
          refine Or.inr ⟨isResult.symm, ?_⟩
          rw [← isState]
          rcases contextRelease_cases release with
            ⟨_, _, isReleased⟩ | ⟨_, _, queues, _, isReleased⟩
          · rw [isReleased]
            rfl
          · rw [isReleased]
            rfl
      · cases returned

end Calls

/-- A call on the names, with what it returned. -/
inductive NameEvent where
  | named (handle : UInt32) (name result : String)
  | retired (handle : UInt32) (result : Int)
  deriving Repr, DecidableEq

/-- What a name stands for after a history of calls, latest first. -/
def binding : List NameEvent → String → Option UInt32
  | [], _ => none
  | .named handle name _ :: earlier, wanted =>
      if wanted = name then some ((binding earlier wanted).getD handle)
      else binding earlier wanted
  | .retired handle result :: earlier, wanted =>
      if result = 1 then
        (binding earlier wanted).filter fun bound => decide (bound ≠ handle)
      else
        binding earlier wanted

/--
A name was bound to a handle by a call that found it unbound, and the handle
has not been successfully retired since.
-/
def BoundTo
    (history : List NameEvent)
    (name : String)
    (handle : UInt32) : Prop :=
  ∃ later result earlier,
    history = later ++ .named handle name result :: earlier ∧
      binding earlier name = none ∧
      NameEvent.retired handle 1 ∉ later

/-- A binding lasts until its handle is retired. -/
theorem binding_append
    {earlier later : List NameEvent}
    {name : String}
    {handle : UInt32}
    (bound : binding earlier name = some handle)
    (kept : NameEvent.retired handle 1 ∉ later) :
    binding (later ++ earlier) name = some handle := by
  induction later with
  | nil =>
      exact bound
  | cons event later inductionHypothesis =>
      have before :=
        inductionHypothesis fun inLater => kept (List.mem_cons_of_mem _ inLater)
      cases event with
      | named other otherName result =>
          simp [binding, before]
      | retired other result =>
          simp only [List.cons_append, binding, before]
          by_cases success : result = 1
          · have different : handle ≠ other := by
              rintro rfl
              exact kept (success ▸ List.mem_cons_self ..)
            simp [success, different]
          · rw [if_neg success]

/-- A name stands for the handle that it was bound to. -/
theorem binding_eq_some_iff
    {history : List NameEvent}
    {name : String}
    {handle : UInt32} :
    binding history name = some handle ↔ BoundTo history name handle := by
  constructor
  · intro bound
    induction history with
    | nil =>
        cases bound
    | cons event earlier inductionHypothesis =>
        cases event with
        | named other otherName result =>
            by_cases same : name = otherName
            · subst same
              cases before : binding earlier name with
              | none =>
                  simp only [binding, before, ↓reduceIte, Option.getD_none,
                    Option.some.injEq] at bound
                  subst bound
                  exact ⟨[], result, earlier, rfl, before, List.not_mem_nil⟩
              | some first =>
                  simp only [binding, before, ↓reduceIte, Option.getD_some,
                    Option.some.injEq] at bound
                  subst bound
                  obtain ⟨later, given, first, isEarlier, unbound, kept⟩ :=
                    inductionHypothesis before
                  exact ⟨_ :: later, given, first, congrArg _ isEarlier,
                    unbound, by simpa using kept⟩
            · simp only [binding, same, ↓reduceIte] at bound
              obtain ⟨later, given, first, isEarlier, unbound, kept⟩ :=
                inductionHypothesis bound
              exact ⟨_ :: later, given, first, congrArg _ isEarlier, unbound,
                by simpa using kept⟩
        | retired other result =>
            have before : binding earlier name = some handle ∧
                NameEvent.retired handle 1 ≠ .retired other result := by
              simp only [binding] at bound
              by_cases success : result = 1
              · rw [if_pos success, Option.filter_eq_some_iff] at bound
                refine ⟨bound.1, ?_⟩
                intro same
                injection same with same
                exact of_decide_eq_true bound.2 same
              · rw [if_neg success] at bound
                refine ⟨bound, ?_⟩
                intro same
                injection same with _ same
                exact success same.symm
            obtain ⟨later, given, first, isEarlier, unbound, kept⟩ :=
              inductionHypothesis before.1
            exact ⟨_ :: later, given, first, congrArg _ isEarlier, unbound,
              fun inLater => (List.mem_cons.mp inLater).elim before.2 kept⟩
  · rintro ⟨later, result, earlier, rfl, unbound, kept⟩
    apply binding_append _ kept
    simp [binding, unbound]

/-- The node with the history of the calls on its names, latest first. -/
structure NameRun where
  system : System
  history : List NameEvent

/-- What may happen between two looks at the names. -/
inductive NameAction where
  | handleNamehandle (handle : UInt32) (name : String)
  | handleRetire (handle : UInt32)
  /-- Anything that leaves the names alone. -/
  | elsewhere

/-- One call on the names that returns, or something that leaves them alone. -/
inductive NameRun.Step : NameRun → NameAction → NameRun → Prop where
  | handleNamehandle
      {t : NameRun}
      {handle : UInt32}
      {name result : String}
      {s : System}
      (returned : SkynetCpp.handleNamehandle t.system handle name = .ok (result, s)) :
      Step t (.handleNamehandle handle name)
        { system := s
          history := .named handle name result :: t.history }
  | handleRetire
      {t : NameRun}
      {handle : UInt32}
      {result : Int}
      {s : System}
      (returned : SkynetCpp.handleRetire t.system handle = .ok (result, s)) :
      Step t (.handleRetire handle)
        { system := s
          history := .retired handle result :: t.history }
  | elsewhere
      {t : NameRun}
      {s : System}
      (sameCount : s.storage.nameCount = t.system.storage.nameCount)
      (sameName : s.storage.name = t.system.storage.name) :
      Step t .elsewhere { t with system := s }

/-- A node whose table was set up by `HandleInit` and names nothing yet. -/
structure NameRun.Fresh (t : NameRun) : Prop where
  count : t.system.storage.nameCount = (handleInit 0).nameCount
  name : t.system.storage.name = (handleInit 0).name
  history : t.history = []

/-- The names of a node are those that its history binds. -/
structure NameRun.Refines (t : NameRun) : Prop where
  named : t.system.storage.Named
  bound :
    ∀ name,
      (t.system.storage.entry name).map HandleName.handle =
        binding t.history name

/-- What the names of a node promise. -/
structure NameRun.Promise (t : NameRun) : Prop where
  sorted : SortedBy HandleName.name t.system.storage.bound
  findname :
    ∀ name handle,
      handleFindname t.system name = handle ↔
        BoundTo t.history name handle ∨
          handle = 0 ∧ ∀ other, ¬ BoundTo t.history name other
  registered :
    ∀ name bound,
      BoundTo t.history name bound →
        ∀ handle,
          SkynetCpp.handleNamehandle t.system handle name =
            .ok ("", t.system)
  retired :
    ∀ handle s,
      SkynetCpp.handleRetire t.system handle = .ok (1, s) →
        s.storage.bound =
          t.system.storage.bound.filter fun entry =>
            decide (entry.handle ≠ handle)

namespace NameRun

/-- A fresh table binds nothing. -/
theorem Fresh.refines
    {t : NameRun}
    (fresh : t.Fresh) :
    t.Refines := by
  have noneBound : t.system.storage.bound = [] := by
    unfold HandleStorage.bound
    rw [fresh.count]
    rfl
  constructor
  · constructor
    · rw [fresh.name]
      decide
    · rw [fresh.count]
      exact Nat.zero_le _
    · rw [noneBound]
      exact List.Pairwise.nil
  · intro name
    rw [HandleStorage.entry, noneBound, fresh.history]
    rfl

/-- Registering a name binds it in the table as in the history. -/
theorem Refines.handleNamehandle
    {t : NameRun}
    {handle : UInt32}
    {name result : String}
    {s : System}
    (refines : t.Refines)
    (returned : SkynetCpp.handleNamehandle t.system handle name = .ok (result, s)) :
    Refines
      { system := s
        history := .named handle name result :: t.history } := by
  cases bound : t.system.storage.entry name with
  | some entry =>
      rw [handleNamehandle_of_bound refines.named handle bound] at returned
      injection returned with returned
      injection returned with _ isState
      subst isState
      refine ⟨refines.named, fun other => ?_⟩
      by_cases same : other = name
      · subst same
        simp [binding, ← refines.bound, bound]
      · simpa [binding, same] using refines.bound other
  | none =>
      obtain ⟨_, named, entries⟩ :=
        handleNamehandle_of_unbound refines.named bound returned
      refine ⟨named, fun other => ?_⟩
      by_cases same : other = name
      · subst same
        simp [entries, binding, ← refines.bound, bound]
      · simpa [entries, binding, same] using refines.bound other

/-- A retirement takes the names of its handle out of the table as out of the history. -/
theorem Refines.handleRetire
    {t : NameRun}
    {handle : UInt32}
    {result : Int}
    {s : System}
    (refines : t.Refines)
    (returned : SkynetCpp.handleRetire t.system handle = .ok (result, s)) :
    Refines
      { system := s
        history := .retired handle result :: t.history } := by
  rcases handleRetire_storage returned with
    ⟨failed, same⟩ | ⟨succeeded, unlinked⟩
  · subst failed
    constructor
    · simpa [same] using refines.named
    · intro name
      simpa [binding, same] using refines.bound name
  · subst succeeded
    constructor
    · simpa [unlinked] using named_unlinkAt refines.named handle
    · intro name
      have kept :=
        refines.named.sorted.lookup_filter
          (fun entry => !decide (entry.handle = handle)) name
      simp only [binding, ↓reduceIte, ← refines.bound, unlinked,
        HandleStorage.entry, bound_unlinkAt refines.named.room, kept]
      cases lookup HandleName.name t.system.storage.bound name with
      | none =>
          rfl
      | some entry =>
          by_cases same : entry.handle = handle
          · simp [Option.filter, same]
          · simp [Option.filter, same]

/-- Every step keeps the table and the history together. -/
theorem Refines.step
    {t t' : NameRun}
    {action : NameAction}
    (refines : t.Refines)
    (taken : Step t action t') :
    t'.Refines := by
  cases taken with
  | handleNamehandle returned =>
      exact refines.handleNamehandle returned
  | handleRetire returned =>
      exact refines.handleRetire returned
  | @elsewhere s sameCount sameName =>
      have sameBound : s.storage.bound = t.system.storage.bound := by
        rw [HandleStorage.bound, sameCount, sameName]
        rfl
      obtain ⟨⟨nonempty, room, sorted⟩, bound⟩ := refines
      refine ⟨⟨?_, ?_, ?_⟩, fun name => ?_⟩
      · rwa [sameName]
      · rwa [sameCount, sameName]
      · rwa [sameBound]
      · rw [← bound name, HandleStorage.entry, sameBound]
        rfl

/-- A table that agrees with its history keeps the promises. -/
theorem Refines.promise
    {t : NameRun}
    (refines : t.Refines) :
    t.Promise where
  sorted := refines.named.sorted
  findname := by
    intro name handle
    simp only [handleFindname_eq refines.named, refines.bound,
      ← binding_eq_some_iff]
    cases binding t.history name with
    | none =>
        simp [eq_comm]
    | some bound =>
        simp
  registered := by
    intro name handle bound other
    rw [← binding_eq_some_iff, ← refines.bound, Option.map_eq_some_iff] at bound
    obtain ⟨entry, isEntry, _⟩ := bound
    exact handleNamehandle_of_bound refines.named other isEntry
  retired := by
    intro handle s returned
    rcases handleRetire_storage returned with
      ⟨failed, _⟩ | ⟨_, unlinked⟩
    · cases failed
    · rw [unlinked, bound_unlinkAt refines.named.room]
      simp

variable
    {initial final : NameRun}
    {past : List (NameRun × NameAction)}

/-- The names of a node keep their promises in every state of a run. -/
theorem promise_visited
    (fresh : initial.Fresh)
    (run : Run Step initial past final) :
    ∀ t ∈ Run.visited past final, t.Promise := by
  intro t member
  exact
    (Run.invariant_of_step run fresh.refines
      (fun refines taken => refines.step taken) t member).promise

/-- A node with one service, before any name is registered. -/
def solo : NameRun where
  system := soloSystem
  history := []

theorem solo_fresh : solo.Fresh :=
  ⟨rfl, rfl, rfl⟩

/-- The service registers a name and is found under it until it is retired. -/
theorem solo_promise :
    ∃ past final,
      Run Step solo past final ∧
        final.history =
          [.retired 1 1, .named 1 ".solo" ".solo"] ∧
        ∀ t ∈ Run.visited past final, t.Promise := by
  obtain ⟨past, final, run, history⟩ :
      ∃ past final,
        Run Step solo past final ∧
          final.history = [.retired 1 1, .named 1 ".solo" ".solo"] :=
    ⟨_, _, (Run.nil.snoc (.handleNamehandle rfl)).snoc (.handleRetire rfl), rfl⟩
  exact ⟨past, final, run, history, promise_visited solo_fresh run⟩

end NameRun

end SkynetCpp
