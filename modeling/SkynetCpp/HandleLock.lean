import SkynetCpp.HandleRetireall

namespace SkynetCpp

open Foundation HandleTable

/-!
# The lock of the handle storage

`handle.cpp` with the lock of its table, as one thread uses it.  The lock is not
reentrant, and a module's release function runs in the middle of `HandleRetire`,
where it may call `handle.cpp` again.
-/

namespace HandleLock

/-- What a thread holds of the lock. -/
inductive Held where
  | nothing
  | reading
  | writing
  deriving Repr, DecidableEq

/-- A call of `handle.cpp`. -/
inductive HandleCall where
  | handleRegister (ctx : ContextId)
  | handleRetire (handle : UInt32)
  | handleRetireall
  | handleGrab (handle : UInt32)
  | handleFindname (name : String)
  | handleNamehandle (handle : UInt32) (name : String)
  deriving Repr, DecidableEq

/-- What a call returns. -/
inductive Answer where
  | nothing
  | handle (handle : UInt32)
  | count (count : Int)
  | context (ctx : Option ContextId)
  | name (name : String)
  deriving Repr, DecidableEq

/-- A call that returned, with the table at its start and the lock at its end. -/
structure Returned where
  call : HandleCall
  storage : HandleStorage
  held : Held

/-- The node and its lock; the calls that returned are ghost state, latest first. -/
structure LockedSystem where
  system : System
  held : Held
  returns : List Returned

/-- Why a call does not return. -/
inductive Halt where
  | fault (fault : Fault)
  /-- The thread acquired the lock while it held it. -/
  | relocks
  deriving Repr, DecidableEq

abbrev Locked :=
  EStateM Halt LockedSystem

section Lock

/-- `rwlock_wlock`, by a thread that must not hold the lock. -/
def wlock : Locked Unit := fun s =>
  if s.held = .nothing then .ok () { s with held := .writing }
  else .error .relocks s

/-- `rwlock_wunlock`. -/
def wunlock : Locked Unit := fun s =>
  .ok () { s with held := .nothing }

/-- `rwlock_rlock`, by a thread that must not hold the lock. -/
def rlock : Locked Unit := fun s =>
  if s.held = .nothing then .ok () { s with held := .reading }
  else .error .relocks s

/-- `rwlock_runlock`. -/
def runlock : Locked Unit := fun s =>
  .ok () { s with held := .nothing }

/-- Code that leaves the lock alone. -/
def within
    {Result : Type}
    (code : System → Except Fault (Result × System)) : Locked Result := fun s =>
  match code s.system with
  | .ok (result, system) => .ok result { s with system := system }
  | .error fault => .error (.fault fault) s

end Lock

section Calls

/-- `HandleRegister`. -/
def handleRegister (ctx : ContextId) : Locked UInt32 := do
  wlock
  let handle ← within fun s => SkynetCpp.handleRegister s ctx
  wunlock
  return handle

/-- `Context::Release`; the module's release function runs for the last reference. -/
def contextRelease
    (moduleRelease : ContextId → Locked Unit)
    (ctx : ContextId) : Locked Bool := do
  let context ← within fun s => .ok (s.contexts ctx, contextUnref s ctx)
  if context.ref = 1 then
    if context.mod.release then
      moduleRelease ctx
      within fun s =>
        match messageQueueMarkRelease s.queues (s.contexts ctx).queue with
        | .ok queues => .ok ((), { s with queues := queues })
        | .error fault => .error fault
      within fun s =>
        .ok ((), { deleteContext s ctx with total := s.total - 1 })
      return false
    else
      throw (.fault (.exception "Module does not have an release function"))
  else
    return true

/-- `HandleRetire`; what it unlinked is released after the lock. -/
def handleRetire
    (moduleRelease : ContextId → Locked Unit)
    (handle : UInt32) : Locked Int := do
  wlock
  let found ← within fun s => .ok (handleUnlink s handle)
  wunlock
  match found with
  | some ctx =>
      let _ ← contextRelease moduleRelease ctx
      return 1
  | none => return 0

/--
A pass of `HandleRetireall` from a slot on: the number of occupied slots that it
met, added to the given one.  The size of the table is read again at every turn.
-/
def retireallPass
    (moduleRelease : ContextId → Locked Unit) : Nat → Nat → Nat → Locked Nat
  | 0, _, _ => throw (.fault .running)
  | turns + 1, i, n => do
      let size ← within fun s => .ok (s.storage.slot.length, s)
      if i < size then
        rlock
        let handle ← within fun s =>
          .ok ((s.storage.slotAt i).map fun ctx => (s.contexts ctx).handle, s)
        runlock
        match handle with
        | none => retireallPass moduleRelease turns (i + 1) n
        | some handle =>
            if handle ≠ 0 then
              let _ ← handleRetire moduleRelease handle
              retireallPass moduleRelease turns (i + 1) (n + 1)
            else
              retireallPass moduleRelease turns (i + 1) (n + 1)
      else
        return n

/-- `HandleRetireall`, with fuel for every pass. -/
def handleRetireall
    (moduleRelease : ContextId → Locked Unit)
    (fuel : Nat) : Nat → Locked Unit
  | 0 => throw (.fault .running)
  | passes + 1 => do
      let n ← retireallPass moduleRelease fuel 0 0
      if n = 0 then return ()
      handleRetireall moduleRelease fuel passes

/-- `HandleGrab`. -/
def handleGrab (handle : UInt32) : Locked (Option ContextId) := do
  rlock
  let result ← within fun s => .ok (SkynetCpp.handleGrab s handle)
  runlock
  return result

/-- `HandleFindname`. -/
def handleFindname (name : String) : Locked UInt32 := do
  rlock
  let handle ← within fun s => .ok (SkynetCpp.handleFindname s name, s)
  runlock
  return handle

/-- `HandleNamehandle`; the search returns at once when it meets the name. -/
def handleNamehandle
    (handle : UInt32)
    (name : String) : Locked String := do
  wlock
  let place ← within fun s =>
    .ok (namehandleLoop s.storage.name name (s.storage.nameCount + 1)
      0 (s.storage.nameCount - 1), s)
  match place with
  | none => return ""
  | some start =>
      within fun s =>
        match growNames s.storage with
        | .ok grown =>
            .ok ((),
              { s with
                storage :=
                  insertName grown start.toNat { name := name, handle := handle } })
        | .error fault => .error fault
      wunlock
      return name

/-- A call by its name, with fuel for the loops. -/
def run
    (moduleRelease : ContextId → Locked Unit)
    (fuel : Nat) : HandleCall → Locked Answer
  | .handleRegister ctx => Answer.handle <$> handleRegister ctx
  | .handleRetire handle => Answer.count <$> handleRetire moduleRelease handle
  | .handleRetireall =>
      (fun _ => Answer.nothing) <$> handleRetireall moduleRelease fuel fuel
  | .handleGrab handle => Answer.context <$> handleGrab handle
  | .handleFindname name => Answer.handle <$> handleFindname name
  | .handleNamehandle handle name =>
      Answer.name <$> handleNamehandle handle name

/-- A call that is noted when it returns. -/
def perform
    (moduleRelease : ContextId → Locked Unit)
    (fuel : Nat)
    (call : HandleCall) : Locked Answer := fun s =>
  match run moduleRelease fuel call s with
  | .ok answer t =>
      .ok answer
        { t with
          returns :=
            { call := call, storage := s.system.storage, held := t.held } ::
              t.returns }
  | .error halt t => .error halt t

end Calls

section Modules

/--
What a module's release function does: calls of `handle.cpp`, releases of
contexts that it grabbed, and changes to anything but the handle storage.
-/
inductive Behaviour where
  | done
  | call (call : HandleCall) (next : Answer → Behaviour)
  | contextRelease (ctx : ContextId) (next : Bool → Behaviour)
  | elsewhere (change : System → System) (next : Behaviour)

/-- Run the code of a release function. -/
def behave
    (moduleRelease : ContextId → Locked Unit)
    (fuel : Nat) : Behaviour → Locked Unit
  | .done => return ()
  | .call call next => do
      let answer ← perform moduleRelease fuel call
      behave moduleRelease fuel (next answer)
  | .contextRelease ctx next => do
      let inUse ← contextRelease moduleRelease ctx
      behave moduleRelease fuel (next inUse)
  | .elsewhere change next => do
      within fun s => .ok ((), { change s with storage := s.storage })
      behave moduleRelease fuel next

/--
The release functions of the modules, which may bring about further releases, so
many of them within each other.
-/
def moduleRelease
    (modules : System → ContextId → Behaviour)
    (fuel : Nat) : Nat → ContextId → Locked Unit
  | 0, _ => throw (.fault .running)
  | depth + 1, ctx => fun s =>
      behave (moduleRelease modules fuel depth) fuel (modules s.system ctx) s

/-- A module whose release function calls nothing. -/
def quiet : System → ContextId → Behaviour :=
  fun _ _ => .done

end Modules

/-- The call was a `HandleNamehandle` of a name that was bound. -/
def Returned.BindsAgain (r : Returned) : Prop :=
  match r.call with
  | .handleNamehandle _ name => ∃ entry ∈ r.storage.bound, entry.name = name
  | _ => False

/-- The state in which code returns or halts. -/
def ending {Result : Type} : EStateM.Result Halt LockedSystem Result → LockedSystem
  | .ok _ t => t
  | .error _ t => t

/--
The lock is never acquired by a thread that holds it, no exception leaves it
held, and no call returns with it held.
-/
structure KeepsLock
    {Result : Type}
    (outcome : EStateM.Result Halt LockedSystem Result) : Prop where
  acquires : ∀ t, outcome ≠ .error .relocks t
  throws :
    ∀ what t,
      outcome = .error (.fault (.exception what)) t → t.held = .nothing
  returns : ∀ r ∈ (ending outcome).returns, r.held = .nothing

/-- No call that returned was a `HandleNamehandle` of a bound name. -/
def NamesFresh
    {Result : Type}
    (outcome : EStateM.Result Halt LockedSystem Result) : Prop :=
  ∀ r ∈ (ending outcome).returns, ¬ r.BindsAgain

section Judgement

/-- Every call so far gave the lock back, and none bound a name again. -/
def Clean (s : LockedSystem) : Prop :=
  ∀ r ∈ s.returns, r.held = .nothing ∧ ¬ r.BindsAgain

/-- The lock is free, and was free whenever a call returned. -/
structure Good (s : LockedSystem) : Prop where
  free : s.held = .nothing
  named : s.system.storage.Named
  clean : Clean s

/-- A call bound a name again and kept the lock, which is held ever since. -/
structure Bad (s : LockedSystem) : Prop where
  held : s.held ≠ .nothing
  kept : ∃ r ∈ s.returns, r.held ≠ .nothing
  again : ∃ r ∈ s.returns, r.BindsAgain

/-- An outcome in which exactly the calls that bind a name again keep the lock. -/
def Accounted
    {Result : Type} : EStateM.Result Halt LockedSystem Result → Prop
  | .ok _ t => Good t ∨ Bad t
  | .error halt t =>
      Bad t ∨
        Clean t ∧ halt ≠ .relocks ∧
          ∀ what, halt = .fault (.exception what) → t.held = .nothing

/-- Code keeps account from good states, and mends nothing from bad ones. -/
structure Judged
    {Result : Type}
    (code : Locked Result) : Prop where
  good : ∀ s, Good s → Accounted (code s)
  bad : ∀ s, Bad s → Bad (ending (code s))

variable
    {Result Next : Type}

theorem bind_apply
    (code : Locked Result)
    (next : Result → Locked Next)
    (s : LockedSystem) :
    (code >>= next) s =
      match code s with
      | .ok result t => next result t
      | .error halt t => .error halt t := by
  show EStateM.bind code next s = _
  unfold EStateM.bind
  cases code s with
  | ok result t =>
      rfl
  | error halt t =>
      rfl

theorem Judged.pure (result : Result) : Judged (pure result : Locked Result) :=
  ⟨fun _ good => Or.inl good, fun _ bad => bad⟩

theorem Judged.bind
    {code : Locked Result}
    {next : Result → Locked Next}
    (judged : Judged code)
    (after : ∀ result, Judged (next result)) :
    Judged (code >>= next) := by
  constructor
  · intro s good
    have accounted := judged.good s good
    rw [bind_apply]
    cases outcome : code s with
    | ok result t =>
        rw [outcome] at accounted
        rcases accounted with stillGood | bad
        · exact (after result).good t stillGood
        · have stays := (after result).bad t bad
          dsimp only
          cases later : next result t with
          | ok final u =>
              rw [later] at stays
              exact Or.inr stays
          | error halt u =>
              rw [later] at stays
              exact Or.inl stays
    | error halt t =>
        rw [outcome] at accounted
        exact accounted
  · intro s bad
    have stays := judged.bad s bad
    rw [bind_apply]
    cases outcome : code s with
    | ok result t =>
        rw [outcome] at stays
        exact (after result).bad t stays
    | error halt t =>
        rw [outcome] at stays
        exact stays

theorem Judged.map
    {code : Locked Result}
    (judged : Judged code)
    (change : Result → Next) :
    Judged (change <$> code) :=
  judged.bind fun result => Judged.pure (change result)

/-- A fault halts the thread, and an exception leaves a free lock free. -/
theorem Judged.throw (fault : Fault) :
    Judged (throw (.fault fault) : Locked Result) := by
  constructor
  · intro s good
    right
    exact ⟨good.clean, by simp, fun _ _ => good.free⟩
  · intro s bad
    exact bad

/-- Code outside the lock that leaves the names alone. -/
theorem Judged.within
    {code : System → Except Fault (Result × System)}
    (sameStorage :
      ∀ s result t, code s = .ok (result, t) → t.storage = s.storage) :
    Judged (within code) := by
  constructor
  · intro s good
    unfold HandleLock.within
    cases returned : code s.system with
    | ok produced =>
        obtain ⟨result, system⟩ := produced
        left
        refine ⟨good.free, ?_, good.clean⟩
        rw [sameStorage s.system result system returned]
        exact good.named
    | error fault =>
        right
        exact ⟨good.clean, by simp, fun _ _ => good.free⟩
  · intro s bad
    unfold HandleLock.within
    cases code s.system with
    | ok produced =>
        exact ⟨bad.held, bad.kept, bad.again⟩
    | error fault =>
        exact bad

/-- In a bad state the lock cannot be acquired. -/
theorem bad_wlock
    {s : LockedSystem}
    (bad : Bad s)
    (next : Unit → Locked Result) :
    Bad (ending ((wlock >>= next) s)) := by
  rw [bind_apply]
  unfold wlock
  rw [if_neg bad.held]
  exact bad

theorem bad_rlock
    {s : LockedSystem}
    (bad : Bad s)
    (next : Unit → Locked Result) :
    Bad (ending ((rlock >>= next) s)) := by
  rw [bind_apply]
  unfold rlock
  rw [if_neg bad.held]
  exact bad

/-- A section that writes under the lock and never throws there. -/
theorem Judged.writing
    {code : System → Except Fault (Result × System)}
    {next : Result → Locked Next}
    (named :
      ∀ s result t,
        s.storage.Named → code s = .ok (result, t) → t.storage.Named)
    (noThrow : ∀ s what, code s ≠ .error (.exception what))
    (after : ∀ result, Judged (next result)) :
    Judged (do
      wlock
      let result ← HandleLock.within code
      wunlock
      next result) := by
  constructor
  · intro s good
    rw [bind_apply, wlock, if_pos good.free]
    dsimp only
    rw [bind_apply, HandleLock.within]
    dsimp only
    cases returned : code s.system with
    | ok produced =>
        obtain ⟨result, system⟩ := produced
        apply (after result).good
        exact ⟨rfl, named s.system result system good.named returned, good.clean⟩
    | error fault =>
        right
        refine ⟨good.clean, by simp, fun what isException => ?_⟩
        injection isException with isException
        exact absurd (isException ▸ returned) (noThrow s.system what)
  · intro s bad
    exact bad_wlock bad _

/-- A section that reads under the lock, which cannot fail. -/
theorem Judged.reading
    {code : System → Result × System}
    {next : Result → Locked Next}
    (sameStorage : ∀ s, (code s).2.storage = s.storage)
    (after : ∀ result, Judged (next result)) :
    Judged (do
      rlock
      let result ← HandleLock.within fun s => .ok (code s)
      runlock
      next result) := by
  constructor
  · intro s good
    rw [bind_apply, rlock, if_pos good.free]
    apply (after (code s.system).1).good
    refine ⟨rfl, ?_, good.clean⟩
    show (code s.system).2.storage.Named
    rw [sameStorage]
    exact good.named
  · intro s bad
    exact bad_rlock bad _

end Judgement

section Calls

/-- The growth of the table fails by an assertion only. -/
theorem growSlots_noThrow
    (s : System)
    (what : String) :
    growSlots s ≠ .error (.exception what) := by
  have rehashes
      (slots newSlot : List (Option ContextId)) :
      rehash s slots newSlot ≠ .error (.exception what) := by
    induction slots generalizing newSlot with
    | nil =>
        simp [rehash]
    | cons slot rest inductionHypothesis =>
        cases slot with
        | none =>
            exact inductionHypothesis newSlot
        | some ctx =>
            unfold rehash
            dsimp only
            split
            · exact inductionHypothesis _
            · simp
  unfold growSlots
  dsimp only
  split
  · split
    · simp
    · next fault fails =>
        intro isException
        injection isException with isException
        exact rehashes _ _ (isException ▸ fails)
  · simp

/-- A registration fails by an assertion only, or does not end. -/
theorem handleRegister_noThrow
    (s : System)
    (ctx : ContextId)
    (what : String) :
    SkynetCpp.handleRegister s ctx ≠ .error (.exception what) := by
  unfold SkynetCpp.handleRegister
  generalize 26 = turns
  induction turns generalizing s with
  | zero =>
      simp [registerLoop]
  | succ turns inductionHypothesis =>
      unfold registerLoop
      split
      · simp
      · split
        · exact inductionHypothesis _
        · next fault grows =>
            intro isException
            injection isException with isException
            exact growSlots_noThrow s what (isException ▸ grows)

/-- A registration leaves the names alone. -/
theorem handleRegister_names
    {s registered : System}
    {ctx : ContextId}
    {handle : UInt32}
    (returned : SkynetCpp.handleRegister s ctx = .ok (handle, registered)) :
    registered.storage.name = s.storage.name ∧
      registered.storage.nameCount = s.storage.nameCount := by
  apply handleRegister_induction returned
  · intro t found _ _ isRegistered
    rw [isRegistered]
    exact ⟨rfl, rfl⟩
  · intro t grown grows inductionHypothesis
    obtain ⟨newSlot, -, -, rfl⟩ := growSlots_rehashes grows
    exact inductionHypothesis

/-- A registration keeps the names sorted. -/
theorem named_handleRegister
    {s registered : System}
    {ctx : ContextId}
    {handle : UInt32}
    (named : s.storage.Named)
    (returned : SkynetCpp.handleRegister s ctx = .ok (handle, registered)) :
    registered.storage.Named := by
  obtain ⟨sameName, sameCount⟩ := handleRegister_names returned
  obtain ⟨nonempty, room, sorted⟩ := named
  refine ⟨?_, ?_, ?_⟩
  · rwa [sameName]
  · rwa [sameName, sameCount]
  · rwa [HandleStorage.bound, sameName, sameCount]

theorem Judged.handleRegister (ctx : ContextId) :
    Judged (handleRegister ctx) := by
  apply Judged.writing
  · intro s handle t named returned
    exact named_handleRegister named returned
  · intro s what
    exact handleRegister_noThrow s ctx what
  · exact Judged.pure

theorem Judged.handleGrab (handle : UInt32) :
    Judged (handleGrab handle) := by
  apply Judged.reading
  · intro s
    unfold SkynetCpp.handleGrab
    split <;> rfl
  · exact Judged.pure

theorem Judged.handleFindname (name : String) :
    Judged (handleFindname name) := by
  apply Judged.reading
  · intro s
    rfl
  · exact Judged.pure

variable
    {onRelease : ContextId → Locked Unit}
    (releases : ∀ ctx, Judged (onRelease ctx))

include releases

theorem Judged.contextRelease (ctx : ContextId) :
    Judged (contextRelease onRelease ctx) := by
  apply Judged.bind
  · apply Judged.within
    intro s context t returned
    cases returned
    rfl
  · intro context
    split
    · split
      · apply (releases ctx).bind
        intro released
        apply Judged.bind
        · apply Judged.within
          intro s result t returned
          split at returned
          · cases returned
            rfl
          · cases returned
        · intro marked
          apply Judged.bind
          · apply Judged.within
            intro s result t returned
            cases returned
            rfl
          · intro deleted
            exact Judged.pure false
      · exact Judged.throw _
    · exact Judged.pure true

theorem Judged.handleRetire (handle : UInt32) :
    Judged (handleRetire onRelease handle) := by
  apply Judged.writing
  · intro s found t named returned
    cases lookup : handleLookup s handle with
    | none =>
        simp only [handleUnlink, lookup, Except.ok.injEq, Prod.mk.injEq] at returned
        rw [← returned.2]
        exact named
    | some ctx =>
        simp only [handleUnlink, lookup, Except.ok.injEq, Prod.mk.injEq] at returned
        rw [← returned.2]
        exact named_unlinkAt named handle
  · intro s what
    simp
  · intro found
    cases found with
    | none =>
        exact Judged.pure 0
    | some ctx =>
        exact (Judged.contextRelease releases ctx).bind fun _ => Judged.pure 1

theorem Judged.retireallPass (turns i n : Nat) :
    Judged (retireallPass onRelease turns i n) := by
  induction turns generalizing i n with
  | zero =>
      exact Judged.throw _
  | succ turns inductionHypothesis =>
      unfold HandleLock.retireallPass
      apply Judged.bind
      · apply Judged.within
        intro s size t returned
        cases returned
        rfl
      · intro size
        split
        · apply Judged.reading
          · intro s
            rfl
          · intro handle
            cases handle with
            | none =>
                exact inductionHypothesis (i + 1) n
            | some handle =>
                dsimp only
                split
                · apply (Judged.handleRetire releases handle).bind
                  intro result
                  exact inductionHypothesis (i + 1) (n + 1)
                · exact inductionHypothesis (i + 1) (n + 1)
        · exact Judged.pure n

theorem Judged.handleRetireall (fuel passes : Nat) :
    Judged (handleRetireall onRelease fuel passes) := by
  induction passes with
  | zero =>
      exact Judged.throw _
  | succ passes inductionHypothesis =>
      unfold HandleLock.handleRetireall
      apply (Judged.retireallPass releases fuel 0 0).bind
      intro n
      split
      · exact Judged.pure ()
      · exact inductionHypothesis

end Calls

section Naming

variable
    {s : LockedSystem}
    {handle : UInt32}
    {name : String}

/-- A name is bound when the table has an entry for it. -/
theorem bound_iff
    {storage : HandleStorage} :
    (∃ entry ∈ storage.bound, entry.name = name) ↔
      storage.entry name ≠ none := by
  rw [HandleStorage.entry, lookup, Ne, List.find?_eq_none]
  simp

/-- A bound name is met under the lock, which is never given back. -/
theorem handleNamehandle_of_bound
    (good : Good s)
    (bound : ∃ entry ∈ s.system.storage.bound, entry.name = name) :
    handleNamehandle handle name s =
      .ok "" { s with held := .writing } := by
  obtain ⟨entry, found⟩ := Option.ne_none_iff_exists'.mp (bound_iff.mp bound)
  have searched :
      namehandleLoop s.system.storage.name name
          (s.system.storage.nameCount + 1)
          0 (s.system.storage.nameCount - 1) = none := by
    rw [namehandleLoop_eq]
    rcases good.named.search name with ⟨other, searched, _⟩ | ⟨_, _, missing, _⟩
    · rw [searched]
    · rw [found] at missing
      cases missing
  unfold handleNamehandle
  rw [bind_apply, wlock, if_pos good.free]
  dsimp only
  rw [bind_apply, within]
  dsimp only
  rw [searched]
  rfl

/-- An unbound name is entered under the lock, which is given back. -/
theorem handleNamehandle_of_unbound
    (good : Good s)
    (unbound : ¬ ∃ entry ∈ s.system.storage.bound, entry.name = name) :
    (∃ t,
      handleNamehandle handle name s = .ok name t ∧ Good t ∧
        t.returns = s.returns) ∨
      ∃ expression t,
        handleNamehandle handle name s =
            .error (.fault (.assertion expression)) t ∧
          t.returns = s.returns := by
  rw [bound_iff, not_not] at unbound
  obtain ⟨start, searched⟩ :
      ∃ start : Nat,
        namehandleLoop s.system.storage.name name
            (s.system.storage.nameCount + 1)
            0 (s.system.storage.nameCount - 1) = some (start : Int) := by
    rw [namehandleLoop_eq]
    rcases good.named.search name with ⟨_, _, found⟩ | ⟨start, searched, _⟩
    · rw [unbound] at found
      cases found
    · exact ⟨start, by rw [searched]⟩
  unfold handleNamehandle
  rw [bind_apply, wlock, if_pos good.free]
  dsimp only
  rw [bind_apply, within]
  dsimp only
  rw [searched]
  dsimp only
  rw [bind_apply, within]
  dsimp only
  cases grows : growNames s.system.storage with
  | ok grown =>
      left
      have returned :
          SkynetCpp.handleNamehandle s.system handle name =
            .ok (name,
              { s.system with
                storage :=
                  insertName grown start
                    { name := name, handle := handle } }) := by
        unfold SkynetCpp.handleNamehandle
        rw [searched]
        dsimp only
        rw [grows]
        rfl
      obtain ⟨_, named, _⟩ :=
        SkynetCpp.handleNamehandle_of_unbound good.named unbound returned
      exact ⟨_, rfl, ⟨rfl, named, good.clean⟩, rfl⟩
  | error fault =>
      right
      unfold growNames at grows
      split at grows
      · split at grows
        · cases grows
        · injection grows with isFault
          subst isFault
          exact ⟨_, _, rfl, rfl⟩
      · cases grows

end Naming

section Behaviours

variable
    {modules : System → ContextId → Behaviour}
    {fuel : Nat}

/-- A call that binds no name is noted with the lock as it leaves it. -/
theorem Judged.noted
    {onRelease : ContextId → Locked Unit}
    {call : HandleCall}
    (judged : Judged (run onRelease fuel call))
    (bindsNothing :
      ∀ storage held,
        ¬ Returned.BindsAgain
          { call := call, storage := storage, held := held }) :
    Judged (perform onRelease fuel call) := by
  constructor
  · intro s good
    have accounted := judged.good s good
    unfold perform
    cases outcome : run onRelease fuel call s with
    | ok answer t =>
        rw [outcome] at accounted
        rcases accounted with stillGood | bad
        · left
          refine ⟨stillGood.free, stillGood.named, ?_⟩
          intro r member
          rcases List.mem_cons.mp member with isLast | isEarlier
          · rw [isLast]
            exact ⟨stillGood.free, bindsNothing _ _⟩
          · exact stillGood.clean r isEarlier
        · right
          obtain ⟨held, ⟨r, member, kept⟩, other, isMember, again⟩ := bad
          exact ⟨held, ⟨r, List.mem_cons_of_mem _ member, kept⟩,
            other, List.mem_cons_of_mem _ isMember, again⟩
    | error halt t =>
        rw [outcome] at accounted
        exact accounted
  · intro s bad
    have stays := judged.bad s bad
    unfold perform
    cases outcome : run onRelease fuel call s with
    | ok answer t =>
        rw [outcome] at stays
        obtain ⟨held, ⟨r, member, kept⟩, other, isMember, again⟩ := stays
        exact ⟨held, ⟨r, List.mem_cons_of_mem _ member, kept⟩,
          other, List.mem_cons_of_mem _ isMember, again⟩
    | error halt t =>
        rw [outcome] at stays
        exact stays

/-- A call that names a handle keeps the lock exactly when the name is bound. -/
theorem Judged.names
    {onRelease : ContextId → Locked Unit}
    (handle : UInt32)
    (name : String) :
    Judged (perform onRelease fuel (.handleNamehandle handle name)) := by
  have runs (s : LockedSystem) :
      run onRelease fuel (.handleNamehandle handle name) s =
        (handleNamehandle handle name >>= fun result =>
          Pure.pure (Answer.name result)) s :=
    rfl
  constructor
  · intro s good
    unfold perform
    rw [runs, bind_apply]
    by_cases bound : ∃ entry ∈ s.system.storage.bound, entry.name = name
    · rw [handleNamehandle_of_bound good bound]
      right
      refine ⟨by simp, ⟨_, List.mem_cons_self .., by simp⟩, ?_⟩
      exact ⟨_, List.mem_cons_self .., bound⟩
    · rcases @handleNamehandle_of_unbound s handle name good bound with
        ⟨t, returned, stillGood, sameReturns⟩ |
        ⟨expression, t, fails, sameReturns⟩
      · rw [returned]
        left
        refine ⟨stillGood.free, stillGood.named, ?_⟩
        intro r member
        rcases List.mem_cons.mp member with isLast | isEarlier
        · rw [isLast]
          exact ⟨stillGood.free, bound⟩
        · exact stillGood.clean r isEarlier
      · rw [fails]
        right
        refine ⟨?_, by simp, by simp⟩
        intro r member
        rw [sameReturns] at member
        exact good.clean r member
  · intro s bad
    unfold perform
    rw [runs, bind_apply, handleNamehandle, bind_apply, wlock, if_neg bad.held]
    exact bad

variable
    {onRelease : ContextId → Locked Unit}
    (releases : ∀ ctx, Judged (onRelease ctx))

include releases

/-- One case for every call. -/
theorem Judged.perform (call : HandleCall) :
    Judged (perform onRelease fuel call) := by
  cases call with
  | handleRegister ctx =>
      exact Judged.noted ((Judged.handleRegister ctx).map _) fun _ _ => id
  | handleRetire handle =>
      exact Judged.noted ((Judged.handleRetire releases handle).map _)
        fun _ _ => id
  | handleRetireall =>
      exact Judged.noted ((Judged.handleRetireall releases fuel fuel).map _)
        fun _ _ => id
  | handleGrab handle =>
      exact Judged.noted ((Judged.handleGrab handle).map _) fun _ _ => id
  | handleFindname name =>
      exact Judged.noted ((Judged.handleFindname name).map _) fun _ _ => id
  | handleNamehandle handle name =>
      exact Judged.names handle name

/-- One case for everything that a release function can do. -/
theorem Judged.behave (behaviour : Behaviour) :
    Judged (behave onRelease fuel behaviour) := by
  induction behaviour with
  | done =>
      exact Judged.pure ()
  | call call next inductionHypothesis =>
      exact (Judged.perform releases call).bind inductionHypothesis
  | contextRelease ctx next inductionHypothesis =>
      exact (Judged.contextRelease releases ctx).bind inductionHypothesis
  | elsewhere change next inductionHypothesis =>
      apply Judged.bind
      · apply Judged.within
        intro s result t returned
        cases returned
        rfl
      · intro changed
        exact inductionHypothesis

omit releases in
/-- Releases within releases, to any depth. -/
theorem Judged.nested
    (depth : Nat)
    (ctx : ContextId) :
    Judged (moduleRelease modules fuel depth ctx) := by
  induction depth generalizing ctx with
  | zero =>
      exact Judged.throw _
  | succ depth inductionHypothesis =>
      constructor
      · intro s good
        exact (Judged.behave inductionHypothesis (modules s.system ctx)).good s good
      · intro s bad
        exact (Judged.behave inductionHypothesis (modules s.system ctx)).bad s bad

end Behaviours

section Refinement

variable
    {Result Next : Type}
    {s t : LockedSystem}

theorem bind_eq_ok
    {code : Locked Result}
    {next : Result → Locked Next}
    {final : Next} :
    (code >>= next) s = .ok final t ↔
      ∃ result u, code s = .ok result u ∧ next result u = .ok final t := by
  rw [bind_apply]
  cases code s with
  | ok result u =>
      simp
  | error halt u =>
      simp

theorem wlock_eq_ok
    (locked : wlock s = .ok () t) :
    t.system = s.system := by
  unfold wlock at locked
  split at locked
  · cases locked
    rfl
  · cases locked

theorem within_eq_ok
    {code : System → Except Fault (Result × System)}
    {result : Result} :
    within code s = .ok result t ↔
      ∃ system,
        code s.system = .ok (result, system) ∧
          { s with system := system } = t := by
  unfold within
  cases code s.system with
  | ok produced =>
      obtain ⟨first, system⟩ := produced
      simp
  | error fault =>
      simp

/-- With the lock, `HandleRegister` does what it does without. -/
theorem handleRegister_refines
    {ctx : ContextId}
    {handle : UInt32}
    (returned : handleRegister ctx s = .ok handle t) :
    SkynetCpp.handleRegister s.system ctx = .ok (handle, t.system) := by
  simp only [handleRegister, bind_eq_ok, within_eq_ok] at returned
  obtain ⟨_, locked, isLocked, _, _, ⟨system, registers, rfl⟩, _, _, unlocked,
    final⟩ := returned
  cases unlocked
  cases final
  rw [← wlock_eq_ok isLocked]
  exact registers

/-- With the lock, `HandleNamehandle` does what it does without. -/
theorem handleNamehandle_refines
    {handle : UInt32}
    {name result : String}
    (returned : handleNamehandle handle name s = .ok result t) :
    SkynetCpp.handleNamehandle s.system handle name =
      .ok (result, t.system) := by
  simp only [handleNamehandle, bind_eq_ok, within_eq_ok] at returned
  obtain ⟨_, locked, isLocked, place, _, ⟨system, searches, rfl⟩, later⟩ := returned
  injection searches with searches
  simp only [Prod.mk.injEq] at searches
  obtain ⟨isPlace, isSystem⟩ := searches
  rw [wlock_eq_ok isLocked] at isPlace isSystem
  subst isSystem
  unfold SkynetCpp.handleNamehandle
  rw [isPlace]
  cases place with
  | none =>
      cases later
      rfl
  | some start =>
      simp only [bind_eq_ok, within_eq_ok] at later
      obtain ⟨_, _, ⟨_, inserts, rfl⟩, _, _, unlocked, final⟩ := later
      cases unlocked
      cases final
      cases grows : growNames s.system.storage with
      | error fault =>
          rw [grows] at inserts
          cases inserts
      | ok grown =>
          rw [grows] at inserts
          cases inserts
          rfl

/-- Between quiet modules `Context::Release` does what it does without the lock. -/
theorem contextRelease_refines
    {fuel depth : Nat}
    {ctx : ContextId}
    {inUse : Bool}
    (returned :
      contextRelease (moduleRelease quiet fuel (depth + 1)) ctx s =
        .ok inUse t) :
    SkynetCpp.contextRelease s.system ctx = .ok (inUse, t.system) := by
  simp only [contextRelease, bind_eq_ok, within_eq_ok] at returned
  obtain ⟨context, _, ⟨system, drops, rfl⟩, later⟩ := returned
  cases drops
  unfold SkynetCpp.contextRelease
  split at later
  · next isLast =>
      rw [if_pos isLast]
      split at later
      · next hasRelease =>
          simp only [bind_eq_ok, within_eq_ok] at later
          obtain ⟨_, _, released, _, _, ⟨_, marks, rfl⟩, _, _,
            ⟨_, deletes, rfl⟩, final⟩ := later
          cases released
          cases deletes
          cases final
          rw [if_pos hasRelease]
          simp only [contextUnref, System.modify_contexts_self,
            System.modify_queues] at marks
          cases marked :
              messageQueueMarkRelease s.system.queues
                (s.system.contexts ctx).queue with
          | error fault =>
              simp [marked] at marks
          | ok queues =>
              simp only [marked, Except.ok.injEq, Prod.mk.injEq] at marks
              rw [← marks.2]
              rfl
      · cases later
  · next notLast =>
      rw [if_neg notLast]
      cases later
      rfl

/-- Between quiet modules `HandleRetire` does what it does without the lock. -/
theorem handleRetire_refines
    {fuel depth : Nat}
    {handle : UInt32}
    {result : Int}
    (returned :
      handleRetire (moduleRelease quiet fuel (depth + 1)) handle s =
        .ok result t) :
    SkynetCpp.handleRetire s.system handle = .ok (result, t.system) := by
  simp only [handleRetire, bind_eq_ok, within_eq_ok] at returned
  obtain ⟨_, locked, isLocked, found, _, ⟨system, unlinks, rfl⟩, _, _, unlocked,
    later⟩ := returned
  cases unlocked
  injection unlinks with unlinks
  rw [wlock_eq_ok isLocked] at unlinks
  unfold SkynetCpp.handleRetire
  rw [unlinks]
  cases found with
  | none =>
      cases later
      rfl
  | some ctx =>
      simp only [bind_eq_ok] at later
      obtain ⟨inUse, _, releases, final⟩ := later
      cases final
      have released := contextRelease_refines releases
      dsimp only at released ⊢
      rw [released]

end Refinement

section Runs

variable
    {modules : System → ContextId → Behaviour}
    {fuel depth : Nat}

/-- A thread that does not hold the lock. -/
def enter (s : System) : LockedSystem where
  system := s
  held := .nothing
  returns := []

/-- An outcome keeps the lock exactly when the account says so. -/
theorem Accounted.keepsLock_iff
    {Result : Type}
    {outcome : EStateM.Result Halt LockedSystem Result}
    (accounted : Accounted outcome) :
    KeepsLock outcome ↔ NamesFresh outcome := by
  have ofBad
      (bad : Bad (ending outcome)) :
      KeepsLock outcome ↔ NamesFresh outcome := by
    obtain ⟨_, ⟨kept, isKept, held⟩, again, isAgain, bindsAgain⟩ := bad
    constructor
    · intro keeps
      exact absurd (keeps.returns kept isKept) held
    · intro fresh
      exact absurd bindsAgain (fresh again isAgain)
  cases outcome with
  | ok result t =>
      rcases accounted with good | bad
      · refine iff_of_true ⟨by simp, by simp, ?_⟩ ?_
        · exact fun r member => (good.clean r member).1
        · exact fun r member => (good.clean r member).2
      · exact ofBad bad
  | error halt t =>
      rcases accounted with bad | ⟨clean, notRelocks, throws⟩
      · exact ofBad bad
      · refine iff_of_true ⟨?_, ?_, ?_⟩ ?_
        · intro u isHalt
          injection isHalt with isHalt
          exact notRelocks isHalt
        · intro what u isHalt
          injection isHalt with isHalt isState
          exact isState ▸ throws what isHalt
        · exact fun r member => (clean r member).1
        · exact fun r member => (clean r member).2

/-- A call by any thread that gives the lock back, or a step that is none. -/
inductive Step
    (modules : System → ContextId → Behaviour)
    (fuel depth : Nat)
    (s : System) : Option HandleCall → System → Prop where
  | call
      {call : HandleCall}
      {answer : Answer}
      {t : LockedSystem}
      (returned :
        perform (moduleRelease modules fuel depth) fuel call (enter s) =
          .ok answer t)
      (free : t.held = .nothing) :
      Step modules fuel depth s (some call) t.system
  | elsewhere
      {t : System}
      (sameStorage : t.storage = s.storage) :
      Step modules fuel depth s none t

theorem good_enter
    {s : System}
    (named : s.storage.Named) :
    Good (enter s) :=
  ⟨rfl, named, fun _ member => nomatch member⟩

/-- The table of `HandleInit` names nothing. -/
theorem named_handleInit (harbor : UInt32) :
    (handleInit harbor).Named :=
  ⟨Nat.succ_pos _, Nat.zero_le _, List.Pairwise.nil⟩

/-- Calls with the release functions of the modules keep account. -/
theorem perform_judged
    (modules : System → ContextId → Behaviour)
    (fuel depth : Nat)
    (call : HandleCall) :
    Judged (perform (moduleRelease modules fuel depth) fuel call) :=
  Judged.perform (Judged.nested depth) call

variable
    {initial final : System}
    {past : List (System × Option HandleCall)}
    {harbor : UInt32}

/-- The names are sorted in every reachable table. -/
theorem named_of_run
    (initialised : initial.storage = handleInit harbor)
    (run : Run (Step modules fuel depth) initial past final) :
    final.storage.Named := by
  induction run with
  | nil =>
      rw [initialised]
      exact named_handleInit harbor
  | snoc earlier taken inductionHypothesis =>
      cases taken with
      | @call call answer t returned free =>
          have accounted :=
            (perform_judged modules fuel depth call).good _
              (good_enter inductionHypothesis)
          rw [returned] at accounted
          rcases accounted with good | bad
          · exact good.named
          · exact absurd free bad.held
      | elsewhere sameStorage =>
          rw [sameStorage]
          exact inductionHypothesis

/--
From every reachable table, a call keeps to the lock exactly when neither it nor
a call that a release function makes meanwhile binds a bound name again.
-/
theorem perform_keepsLock_iff
    (initialised : initial.storage = handleInit harbor)
    (run : Run (Step modules fuel depth) initial past final)
    (call : HandleCall) :
    KeepsLock
        (perform (moduleRelease modules fuel depth) fuel call (enter final)) ↔
      NamesFresh
        (perform (moduleRelease modules fuel depth) fuel call (enter final)) := by
  have good := good_enter (named_of_run initialised run)
  have accounted := (perform_judged modules fuel depth call).good _ good
  exact accounted.keepsLock_iff

/-- A started node on which one name is registered. -/
def namedSystem : System :=
  { bareSystem with
    storage :=
      { handleInit 0 with
        nameCount := 1
        name := [{ name := ".solo", handle := 1 }, { name := "", handle := 0 }] } }

theorem bareSystem_names :
    Run (Step quiet 8 1) bareSystem
      [(bareSystem, some (.handleNamehandle 1 ".solo"))] namedSystem := by
  have taken :
      Step quiet 8 1 bareSystem (some (.handleNamehandle 1 ".solo"))
        namedSystem :=
    .call (t := { enter namedSystem with returns := _ }) rfl rfl
  exact .snoc .nil taken

/-- A second name is registered, and the lock is given back. -/
theorem namedSystem_keepsLock :
    ∃ past,
      Run (Step quiet 8 1) bareSystem past namedSystem ∧
        KeepsLock
          (perform (moduleRelease quiet 8 1) 8
            (.handleNamehandle 2 ".other") (enter namedSystem)) := by
  refine ⟨_, bareSystem_names, ?_⟩
  have initialised : bareSystem.storage = handleInit 0 := rfl
  rw [perform_keepsLock_iff initialised bareSystem_names]
  intro r member bindsAgain
  have isLast :
      r =
        { call := .handleNamehandle 2 ".other"
          storage := namedSystem.storage
          held := .nothing } :=
    List.mem_singleton.mp member
  subst isLast
  obtain ⟨entry, isBound, isName⟩ := bindsAgain
  have isSolo : entry = { name := ".solo", handle := 1 } :=
    List.mem_singleton.mp isBound
  rw [isSolo] at isName
  exact absurd isName (by decide)

/-- Registering the name again returns with the lock, and blocks the next call. -/
theorem registered_again_holds_lock :
    (∃ t,
      perform (moduleRelease quiet 8 1) 8
          (.handleNamehandle 2 ".solo") (enter namedSystem) =
        .ok (.name "") t ∧
      t.held = .writing ∧
      handleFindname ".solo" t = .error .relocks t) ∧
      ¬ ∀ initial past final harbor call,
        initial.storage = handleInit harbor →
          Run (Step quiet 8 1) initial past final →
            KeepsLock
              (perform (moduleRelease quiet 8 1) 8 call (enter final)) := by
  refine ⟨⟨_, rfl, rfl, rfl⟩, fun holds => ?_⟩
  have keeps :=
    holds bareSystem _ namedSystem 0 (.handleNamehandle 2 ".solo") rfl
      bareSystem_names
  have gaveBack := keeps.returns _ (List.mem_singleton_self _)
  cases gaveBack

end Runs

end HandleLock

end SkynetCpp
