import Mathlib.Data.Fintype.Basic
import Mathlib.Data.List.Nodup
import Mathlib.Logic.Function.Basic
import SkynetCpp.Foundation.Run

namespace SkynetCpp

open Foundation

/-!
# Threads in `Modules::Query`

`module.cpp`.  A thread that misses a name enters the section between
`spinlock_init` and `spinlock_unlock`; every operation on the lock, every access
to the map and every `TryOpenSO` is one step.  `spinlock_init` opens the lock and
never waits for it.
-/

/-- The bytes of a `std::string`. -/
abbrev ModuleName := List UInt8

def kMaxModuleType : Int := 32

/-- `struct Module`, as `TryOpenSO` fills it; a function may be null. -/
structure LoadedModule where
  name_ : ModuleName
  module_ : Nat
  create : Option Nat
  init : Option Nat
  release : Option Nat
  signal : Option Nat

/-- What `dlopen` answers: the text of `dlerror`, or a handle with its `dlsym`. -/
inductive Dlopen where
  | failed (dlerror : List UInt8)
  | opened (dl : Nat) (dlsym : List UInt8 → Option Nat)

/-- What `TryOpenSO` throws. -/
inductive Thrown where
  | runtimeError (what : List UInt8)
  | outOfRange
  deriving DecidableEq

/-- `GetAPI`; `substr(3)` throws when the name is shorter. -/
def getAPI
    (name : ModuleName)
    (dlsym : List UInt8 → Option Nat)
    (apiName : String) : Except Thrown (Option Nat) :=
  if name.length < 3 then
    .error .outOfRange
  else
    .ok (dlsym (name.drop 3 ++ apiName.toUTF8.toList))

/-- `Modules::TryOpenSO`. -/
def tryOpenSO
    (path : List UInt8)
    (name : ModuleName)
    (dlopen : List UInt8 → Dlopen) : Except Thrown LoadedModule :=
  match dlopen (path ++ "/".toUTF8.toList ++ name ++ ".so".toUTF8.toList) with
  | .failed dlerror =>
      .error (.runtimeError
        ("Can't open ".toUTF8.toList ++ name ++ ":".toUTF8.toList ++ dlerror))
  | .opened dl dlsym => do
      let create ← getAPI name dlsym "_create"
      let init ← getAPI name dlsym "_init"
      let release ← getAPI name dlsym "_release"
      let signal ← getAPI name dlsym "_signal"
      .ok
        { name_ := name
          module_ := dl
          create := create
          init := init
          release := release
          signal := signal }

/-- `class Modules`; the map is the list of its entries. -/
structure Modules where
  count_ : Int
  lock : Bool
  path_ : List UInt8
  modules_ : List (ModuleName × LoadedModule)

namespace Modules

/-- The keys of the map. -/
def keys (m : Modules) : List ModuleName :=
  m.modules_.map Prod.fst

/-- `modules_.find`: an iterator is known by its key, none is `end()`. -/
def find
    (m : Modules)
    (name : ModuleName) : Option ModuleName :=
  if name ∈ m.keys then some name else none

/-- `modules_[name] = mod` and `count_++`. -/
def store
    (m : Modules)
    (name : ModuleName)
    (mod : LoadedModule) : Modules :=
  { m with
    modules_ :=
      if name ∈ m.keys then
        m.modules_.map fun entry =>
          if entry.1 = name then (name, mod) else entry
      else
        m.modules_ ++ [(name, mod)]
    count_ := m.count_ + 1 }

/-- `SkynetModuleInit`. -/
def start (path : List UInt8) : Modules where
  count_ := 0
  lock := false
  path_ := path
  modules_ := []

end Modules

/-- How a call of `Query` ended. -/
inductive QueryResult where
  /-- The address of the entry with this key. -/
  | entry (key : ModuleName)
  | thrown (what : Thrown)
  /-- `end()` was dereferenced. -/
  | endDereferenced
  deriving DecidableEq

/-- Where a thread is in `Query`: which step is its next. -/
inductive QueryPlace where
  | outside
  /-- The first `find`. -/
  | called (name : ModuleName)
  /-- `spinlock_init`. -/
  | missed (name : ModuleName)
  /-- The second `find`, with the test of `count_`. -/
  | entered (name : ModuleName)
  /-- `TryOpenSO`. -/
  | opening (name : ModuleName)
  /-- The assignment to `modules_` and `count_++`. -/
  | opened (name : ModuleName) (mod : LoadedModule)
  /-- The third `find`. -/
  | stored (name : ModuleName)
  /-- `spinlock_unlock`. -/
  | leaving (name : ModuleName) (it : Option ModuleName)
  /-- `return &it->second`. -/
  | left (name : ModuleName) (it : Option ModuleName)

/-- A thread that opened the lock and has yet to unlock it. -/
def QueryPlace.inSection : QueryPlace → Bool
  | .entered _ | .opening _ | .opened _ _ | .stored _ | .leaving _ _ => true
  | .outside | .called _ | .missed _ | .left _ _ => false

/--
The modules and the place of every thread, with the names that were loaded and
the results of the calls that ended.
-/
structure QueryState (Thread : Type) where
  modules : Modules
  place : Thread → QueryPlace
  loads : List ModuleName
  results : List (ModuleName × QueryResult)

/-- What happens next: a call, or one step of a call. -/
inductive QueryAction (Thread : Type) where
  | query (thread : Thread) (name : ModuleName)
  | advance (thread : Thread) (dlopen : List UInt8 → Dlopen)

namespace QueryState

variable
    {Thread : Type}
    [DecidableEq Thread]

/-- Put a thread elsewhere. -/
def move
    (s : QueryState Thread)
    (thread : Thread)
    (place : QueryPlace) : QueryState Thread :=
  { s with place := Function.update s.place thread place }

/-- A call ends. -/
def finish
    (s : QueryState Thread)
    (thread : Thread)
    (name : ModuleName)
    (result : QueryResult) : QueryState Thread :=
  { s.move thread .outside with results := (name, result) :: s.results }

/-- `Modules::Query`, step by step. -/
def next?
    (s : QueryState Thread) :
    QueryAction Thread → Option (QueryState Thread)
  | .query thread name =>
      match s.place thread with
      | .outside => some (s.move thread (.called name))
      | _ => none
  | .advance thread dlopen =>
      match s.place thread with
      | .outside => none
      | .called name =>
          match s.modules.find name with
          | some it => some (s.move thread (.left name (some it)))
          | none => some (s.move thread (.missed name))
      | .missed name =>
          some
            { s.move thread (.entered name) with
              modules := { s.modules with lock := false } }
      | .entered name =>
          let it := s.modules.find name
          if it = none ∧ s.modules.count_ < kMaxModuleType then
            some (s.move thread (.opening name))
          else
            some (s.move thread (.leaving name it))
      | .opening name =>
          match tryOpenSO s.modules.path_ name dlopen with
          | .ok mod =>
              some
                { s.move thread (.opened name mod) with
                  loads := name :: s.loads }
          | .error what => some (s.finish thread name (.thrown what))
      | .opened name mod =>
          some
            { s.move thread (.stored name) with
              modules := s.modules.store name mod }
      | .stored name =>
          some (s.move thread (.leaving name (s.modules.find name)))
      | .leaving name it =>
          some
            { s.move thread (.left name it) with
              modules := { s.modules with lock := false } }
      | .left name it =>
          match it with
          | some key => some (s.finish thread name (.entry key))
          | none => some (s.finish thread name .endDereferenced)

/-- No thread is in a call, and nothing was loaded. -/
def start (path : List UInt8) : QueryState Thread where
  modules := .start path
  place := fun _ => .outside
  loads := []
  results := []

/-- A result that a caller of `Query` may see. -/
def Answers
    (m : Modules)
    (name : ModuleName) : QueryResult → Prop
  | .entry key => key = name ∧ name ∈ m.keys
  | .thrown what => ∃ dlopen, tryOpenSO m.path_ name dlopen = .error what
  | .endDereferenced => False

/-- What `Query` promises in every state. -/
structure Promise (s : QueryState Thread) : Prop where
  exclusive :
    ∀ first second,
      (s.place first).inSection → (s.place second).inSection → first = second
  once : s.loads.Nodup
  count : s.modules.count_ = s.modules.modules_.length
  bound : s.modules.count_ ≤ kMaxModuleType
  answers : ∀ ended ∈ s.results, Answers s.modules ended.1 ended.2
  free : (∀ thread, (s.place thread).inSection = false) → s.modules.lock = false

/--
A thread opens the lock only while no other thread is in the section, and a call
returns only when its name is in the table.
-/
def Orderly
    (s : QueryState Thread) : QueryAction Thread → Prop
  | .query _ _ => True
  | .advance thread _ =>
      match s.place thread with
      | .missed _ =>
          ∀ other, other ≠ thread → (s.place other).inSection = false
      | .left name _ => name ∈ s.modules.keys
      | _ => True

/-- What a thread knows of the table at its place. -/
def Known (m : Modules) : QueryPlace → Prop
  | .opening name | .opened name _ =>
      name ∉ m.keys ∧ m.count_ < kMaxModuleType
  | .stored name => name ∈ m.keys
  | .leaving name it | .left name it =>
      it = m.find name ∧ (it = none → kMaxModuleType ≤ m.count_)
  | .outside | .called _ | .missed _ | .entered _ => True

/-- One thread is in the section, and every thread knows the table. -/
structure Held (s : QueryState Thread) : Prop where
  exclusive :
    ∀ first second,
      (s.place first).inSection → (s.place second).inSection → first = second
  known : ∀ thread, Known s.modules (s.place thread)
  once : s.loads.Nodup
  pending :
    ∀ name ∈ s.loads,
      name ∈ s.modules.keys ∨ ∃ thread mod, s.place thread = .opened name mod
  keys : s.modules.keys.Nodup
  count : s.modules.count_ = s.modules.modules_.length
  bound : s.modules.count_ ≤ kMaxModuleType
  answers : ∀ ended ∈ s.results, Answers s.modules ended.1 ended.2
  free : s.modules.lock = false

section Table

variable
    {m : Modules}
    {name other : ModuleName}
    {mod : LoadedModule}
    {place : QueryPlace}

theorem find_of_mem
    (member : name ∈ m.keys) :
    m.find name = some name :=
  if_pos member

theorem find_of_not_mem
    (missing : name ∉ m.keys) :
    m.find name = none :=
  if_neg missing

/-- An iterator is that of its key. -/
theorem find_eq_some_iff :
    m.find name = some other ↔ name ∈ m.keys ∧ name = other := by
  unfold Modules.find
  split <;> simp_all

/-- A new name is stored behind the other entries. -/
theorem store_of_not_mem
    (missing : name ∉ m.keys) :
    m.store name mod =
      { m with
        modules_ := m.modules_ ++ [(name, mod)]
        count_ := m.count_ + 1 } := by
  rw [Modules.store, if_neg missing]

theorem keys_store
    (missing : name ∉ m.keys) :
    (m.store name mod).keys = m.keys ++ [name] := by
  rw [store_of_not_mem missing, Modules.keys, List.map_append]
  rfl

theorem Answers.congr
    {m' : Modules}
    {result : QueryResult}
    (answers : Answers m name result)
    (samePath : m'.path_ = m.path_)
    (kept : ∀ key ∈ m.keys, key ∈ m'.keys) :
    Answers m' name result := by
  cases result with
  | entry key =>
      exact ⟨answers.1, kept _ answers.2⟩
  | thrown what =>
      obtain ⟨dlopen, failed⟩ := answers
      exact ⟨dlopen, samePath ▸ failed⟩
  | endDereferenced =>
      exact answers

/--
A thread outside the section keeps what it knows when a name is stored: the
table was not full.
-/
theorem Known.store
    (known : Known m place)
    (outside : place.inSection = false)
    (missing : name ∉ m.keys)
    (room : m.count_ < kMaxModuleType) :
    Known (m.store name mod) place := by
  cases place with
  | left wanted it =>
      obtain ⟨isFound, full⟩ := known
      cases it with
      | none =>
          exact absurd room (Int.not_lt.mpr (full rfl))
      | some key =>
          obtain ⟨member, isKey⟩ := find_eq_some_iff.mp isFound.symm
          refine ⟨(find_eq_some_iff.mpr ⟨?_, isKey⟩).symm, nofun⟩
          rw [keys_store missing]
          exact List.mem_append_left _ member
  | outside | called | missed =>
      trivial
  | entered | opening | opened | stored | leaving =>
      cases outside

end Table

section Steps

variable
    {s : QueryState Thread}
    {thread : Thread}
    {place : QueryPlace}

@[simp] theorem move_modules :
    (s.move thread place).modules = s.modules :=
  rfl

@[simp] theorem move_place_self :
    (s.move thread place).place thread = place :=
  Function.update_self ..

theorem move_place_of_ne
    {other : Thread}
    (different : other ≠ thread) :
    (s.move thread place).place other = s.place other :=
  Function.update_of_ne different ..

/-- A thread moves into the section, or within it, when no other is there. -/
theorem exclusive_update
    (exclusive :
      ∀ first second,
        (s.place first).inSection → (s.place second).inSection → first = second)
    (alone :
      place.inSection →
        ∀ other, other ≠ thread → (s.place other).inSection = false) :
    ∀ first second,
      (Function.update s.place thread place first).inSection →
        (Function.update s.place thread place second).inSection →
          first = second := by
  intro first second isFirst isSecond
  by_cases sameFirst : first = thread
  · by_cases sameSecond : second = thread
    · rw [sameFirst, sameSecond]
    · rw [sameFirst, Function.update_self] at isFirst
      rw [Function.update_of_ne sameSecond, alone isFirst second sameSecond]
        at isSecond
      cases isSecond
  · rw [Function.update_of_ne sameFirst] at isFirst
    by_cases sameSecond : second = thread
    · rw [sameSecond, Function.update_self] at isSecond
      rw [alone isSecond first sameFirst] at isFirst
      cases isFirst
    · rw [Function.update_of_ne sameSecond] at isSecond
      exact exclusive first second isFirst isSecond

omit [DecidableEq Thread] in
/-- The only thread in the section. -/
theorem Held.alone
    (held : s.Held)
    (inside : (s.place thread).inSection) :
    ∀ other, other ≠ thread → (s.place other).inSection = false := by
  intro other different
  cases isThere : (s.place other).inSection with
  | false =>
      rfl
  | true =>
      exact absurd (held.exclusive other thread isThere inside) different

/-- A step that changes neither the table nor what was loaded. -/
theorem Held.moved
    (held : s.Held)
    {results : List (ModuleName × QueryResult)}
    (notOpened : ∀ name mod, s.place thread ≠ .opened name mod)
    (alone :
      place.inSection →
        ∀ other, other ≠ thread → (s.place other).inSection = false)
    (known : Known s.modules place)
    (answers : ∀ ended ∈ results, Answers s.modules ended.1 ended.2) :
    Held { s.move thread place with results := results } where
  exclusive := exclusive_update held.exclusive alone
  known := by
    intro other
    by_cases same : other = thread
    · subst same
      simpa using known
    · simpa [move_place_of_ne same] using held.known other
  once := held.once
  pending := by
    intro name member
    rcases held.pending name member with stored | ⟨other, mod, isOpened⟩
    · exact Or.inl stored
    · have different : other ≠ thread := by
        rintro rfl
        exact notOpened name mod isOpened
      exact Or.inr ⟨other, mod, (move_place_of_ne different).trans isOpened⟩
  keys := held.keys
  count := held.count
  bound := held.bound
  answers := answers
  free := held.free

omit [DecidableEq Thread] in
/-- Opening the lock once more changes nothing. -/
theorem Held.setLock
    (held : s.Held) :
    Held { s with modules := { s.modules with lock := false } } := by
  have same : { s.modules with lock := false } = s.modules := by
    rw [← held.free]
  rw [same]
  exact held

/-- A name that was neither stored nor loaded before is loaded. -/
theorem Held.load
    (held : s.Held)
    {name : ModuleName}
    (isOpening : s.place thread = .opening name)
    (mod : LoadedModule) :
    Held
      { s.move thread (.opened name mod) with loads := name :: s.loads } := by
  have inside : (s.place thread).inSection := by
    rw [isOpening]
    rfl
  have known := held.known thread
  rw [isOpening] at known
  have moved :
      Held { s.move thread (.opened name mod) with results := s.results } :=
    held.moved (fun _ _ => by rw [isOpening]; exact QueryPlace.noConfusion)
      (fun _ => held.alone inside) known held.answers
  refine { moved with once := ?_, pending := ?_ }
  · refine List.nodup_cons.mpr ⟨fun loaded => ?_, held.once⟩
    rcases held.pending name loaded with stored | ⟨other, _, isOpened⟩
    · exact known.1 stored
    · have same : other = thread :=
        held.exclusive other thread (by rw [isOpened]; rfl) inside
      rw [same, isOpening] at isOpened
      cases isOpened
  · intro wanted member
    rcases List.mem_cons.mp member with isName | isEarlier
    · subst isName
      exact Or.inr ⟨thread, mod, move_place_self⟩
    · exact moved.pending wanted isEarlier

/-- A loaded name is stored. -/
theorem Held.store
    (held : s.Held)
    {name : ModuleName}
    {mod : LoadedModule}
    (isOpened : s.place thread = .opened name mod) :
    Held
      { s.move thread (.stored name) with
        modules := s.modules.store name mod } := by
  have inside : (s.place thread).inSection := by
    rw [isOpened]
    rfl
  obtain ⟨missing, room⟩ : Known s.modules (.opened name mod) :=
    isOpened ▸ held.known thread
  have isKeys : (s.modules.store name mod).keys = s.modules.keys ++ [name] :=
    keys_store missing
  have kept : ∀ key ∈ s.modules.keys, key ∈ (s.modules.store name mod).keys := by
    intro key member
    rw [isKeys]
    exact List.mem_append_left _ member
  have isMember : name ∈ (s.modules.store name mod).keys := by
    rw [isKeys]
    exact List.mem_append_right _ (List.mem_singleton_self name)
  constructor
  · exact exclusive_update held.exclusive fun _ => held.alone inside
  · intro other
    by_cases same : other = thread
    · subst same
      simp only [move_place_self]
      exact isMember
    · simpa [move_place_of_ne same] using
        (held.known other).store (held.alone inside other same) missing room
  · exact held.once
  · intro wanted loaded
    rcases held.pending wanted loaded with stored | ⟨other, otherMod, isOther⟩
    · exact Or.inl (kept wanted stored)
    · have same : other = thread :=
        held.exclusive other thread (by rw [isOther]; rfl) inside
      rw [same, isOpened] at isOther
      cases isOther
      exact Or.inl isMember
  · change (s.modules.store name mod).keys.Nodup
    rw [isKeys, ← List.concat_eq_append]
    exact held.keys.concat missing
  · have isCount := held.count
    simp only [store_of_not_mem missing, List.length_append,
      List.length_singleton]
    omega
  · simp only [store_of_not_mem missing]
    omega
  · intro ended member
    refine (held.answers ended member).congr ?_ kept
    rw [store_of_not_mem missing]
  · simp only [store_of_not_mem missing]
    exact held.free

variable
    {s' : QueryState Thread}
    {action : QueryAction Thread}

/-- Orderly steps keep one thread in the section and the table known. -/
theorem Held.step
    (held : s.Held)
    (orderly : s.Orderly action)
    (taken : s.next? action = some s') :
    s'.Held := by
  cases action with
  | query thread name =>
      simp only [next?] at taken
      split at taken
      · next isOutside =>
          injection taken with isNext
          subst isNext
          exact
            held.moved (fun _ _ => by rw [isOutside]; exact nofun) nofun trivial
              held.answers
      · cases taken
  | advance thread dlopen =>
      have known := held.known thread
      simp only [next?] at taken
      simp only [Orderly] at orderly
      cases isPlace : s.place thread with
      | outside =>
          rw [isPlace] at taken
          cases taken
      | called name =>
          simp only [isPlace] at taken
          have notOpened : ∀ name mod, s.place thread ≠ .opened name mod := by
            rw [isPlace]
            exact nofun
          split at taken
          · next it found =>
              injection taken with isNext
              subst isNext
              exact held.moved notOpened nofun ⟨found.symm, nofun⟩ held.answers
          · injection taken with isNext
            subst isNext
            exact held.moved notOpened nofun trivial held.answers
      | missed name =>
          simp only [isPlace, Option.some.injEq] at taken orderly
          subst taken
          have moved :
              Held { s.move thread (.entered name) with results := s.results } :=
            held.moved (fun _ _ => by rw [isPlace]; exact nofun)
              (fun _ => orderly) trivial held.answers
          exact moved.setLock
      | entered name =>
          have inside : (s.place thread).inSection := by
            rw [isPlace]
            rfl
          have notOpened : ∀ name mod, s.place thread ≠ .opened name mod := by
            rw [isPlace]
            exact nofun
          simp only [isPlace] at taken
          split at taken
          · next isOpen =>
              injection taken with isNext
              subst isNext
              have missing : name ∉ s.modules.keys := by
                intro member
                rw [find_of_mem member] at isOpen
                cases isOpen.1
              exact
                held.moved notOpened (fun _ => held.alone inside)
                  ⟨missing, isOpen.2⟩ held.answers
          · next isClosed =>
              injection taken with isNext
              subst isNext
              exact
                held.moved notOpened (fun _ => held.alone inside)
                  ⟨rfl, fun isEnd =>
                    Int.not_lt.mp fun room => isClosed ⟨isEnd, room⟩⟩
                  held.answers
      | opening name =>
          simp only [isPlace] at taken
          split at taken
          · next mod _ =>
              injection taken with isNext
              subst isNext
              exact held.load isPlace mod
          · next what failed =>
              injection taken with isNext
              subst isNext
              exact
                held.moved (fun _ _ => by rw [isPlace]; exact nofun) nofun
                  trivial
                  (List.forall_mem_cons.mpr ⟨⟨dlopen, failed⟩, held.answers⟩)
      | opened name mod =>
          simp only [isPlace, Option.some.injEq] at taken
          subst taken
          exact held.store isPlace
      | stored name =>
          have inside : (s.place thread).inSection := by
            rw [isPlace]
            rfl
          rw [isPlace] at known
          simp only [isPlace, Option.some.injEq] at taken
          subst taken
          have isMember : name ∈ s.modules.keys := known
          exact
            held.moved (fun _ _ => by rw [isPlace]; exact nofun)
              (fun _ => held.alone inside)
              ⟨rfl, fun isEnd => by
                rw [find_of_mem isMember] at isEnd
                cases isEnd⟩
              held.answers
      | leaving name it =>
          rw [isPlace] at known
          simp only [isPlace, Option.some.injEq] at taken
          subst taken
          have moved :
              Held { s.move thread (.left name it) with results := s.results } :=
            held.moved (fun _ _ => by rw [isPlace]; exact nofun) nofun known
              held.answers
          exact moved.setLock
      | left name it =>
          rw [isPlace] at known
          simp only [isPlace] at taken orderly
          obtain ⟨isFound, _⟩ := known
          rw [find_of_mem orderly] at isFound
          subst isFound
          simp only [Option.some.injEq] at taken
          subst taken
          exact
            held.moved (fun _ _ => by rw [isPlace]; exact nofun) nofun trivial
              (List.forall_mem_cons.mpr ⟨⟨rfl, orderly⟩, held.answers⟩)

omit [DecidableEq Thread] in
theorem Held.promise
    (held : s.Held) :
    s.Promise where
  exclusive := held.exclusive
  once := held.once
  count := held.count
  bound := held.bound
  answers := held.answers
  free := fun _ => held.free

/--
A thread that opens the lock beside another one is the second in the section,
and a call whose name is not in the table dereferences `end()`.
-/
theorem Held.orderly_of_promise
    (held : s.Held)
    (taken : s.next? action = some s')
    (promise : s'.Promise) :
    s.Orderly action := by
  cases action with
  | query thread name =>
      trivial
  | advance thread dlopen =>
      have known := held.known thread
      simp only [next?] at taken
      simp only [Orderly]
      cases isPlace : s.place thread with
      | missed name =>
          simp only [isPlace, Option.some.injEq] at taken
          subst taken
          intro other different
          cases isThere : (s.place other).inSection with
          | false =>
              rfl
          | true =>
              refine absurd (promise.exclusive other thread ?_ ?_) different
              · simpa only [move_place_of_ne different] using isThere
              · simp only [move_place_self, QueryPlace.inSection]
      | left name it =>
          rw [isPlace] at known
          simp only [isPlace] at taken
          obtain ⟨isFound, _⟩ := known
          by_contra missing
          rw [find_of_not_mem missing] at isFound
          subst isFound
          simp only [Option.some.injEq] at taken
          subst taken
          exact promise.answers (name, .endDereferenced) (List.mem_cons_self ..)
      | outside | called | entered | opening | opened | stored | leaving =>
          trivial

end Steps

omit [DecidableEq Thread] in
theorem start_held
    (path : List UInt8) :
    (start path : QueryState Thread).Held where
  exclusive := fun _ _ inside => by cases inside
  known := fun _ => trivial
  once := List.nodup_nil
  pending := nofun
  keys := List.nodup_nil
  count := rfl
  bound := by simp [start, Modules.start, kMaxModuleType]
  answers := nofun
  free := rfl

variable
    {path : List UInt8}
    {past : List (QueryState Thread × QueryAction Thread)}
    {final : QueryState Thread}

/--
`Query` keeps its promises in every state of a run exactly when no thread opens
the lock while another is in the section and no call ends without its name.
-/
theorem query_promise_iff
    (run : Run (Run.Steps next?) (start path) past final) :
    (∀ s ∈ Run.visited past final, s.Promise) ↔
      ∀ s action, (s, action) ∈ past → s.Orderly action :=
  run.property_visited_iff (start_held path)
    (fun held orderly taken => held.step orderly taken)
    Held.promise
    (fun held taken promise => held.orderly_of_promise taken promise)

section Logger

/-- The module name `logger`. -/
def loggerName : ModuleName :=
  [108, 111, 103, 103, 101, 114]

/-- A file that can be opened, with all four functions. -/
def openFile (_ : List UInt8) : Dlopen :=
  .opened 1 fun _ => some 2

instance
    [Fintype Thread]
    (s : QueryState Thread) :
    (action : QueryAction Thread) → Decidable (s.Orderly action)
  | .query _ _ => isTrue trivial
  | .advance thread _ =>
      match isPlace : s.place thread with
      | .missed _ =>
          decidable_of_iff
            (∀ other, other ≠ thread → (s.place other).inSection = false) <| by
            simp [Orderly, isPlace]
      | .left name _ =>
          decidable_of_iff (name ∈ s.modules.keys) <| by
            simp [Orderly, isPlace]
      | .outside | .called _ | .entered _ | .opening _ | .opened .. | .stored _
      | .leaving .. =>
          isTrue (by simp [Orderly, isPlace])

/--
Both threads miss `logger`; one loads it, and the other enters the section when
the first has left it, and finds the entry there.
-/
theorem loggerInTurn_promise :
    ∃ past final,
      Run (Run.Steps next?) (start [46] : QueryState Bool) past final ∧
        final.results =
          [(loggerName, .entry loggerName), (loggerName, .entry loggerName)] ∧
        final.loads = [loggerName] ∧
        final.modules.count_ = 1 ∧
        ∀ s ∈ Run.visited past final, s.Promise := by
  obtain ⟨past, final, run, checked⟩ :=
    Run.exists_of_recorded (start [46]) next?
      ([.query true loggerName, .query false loggerName,
          .advance true openFile, .advance false openFile] ++
        (List.replicate 7 (.advance true openFile) ++
          List.replicate 4 (.advance false openFile)))
      (fun past final =>
        past.all (fun step => decide (step.1.Orderly step.2)) &&
          decide
            (final.results =
                [(loggerName, .entry loggerName),
                  (loggerName, .entry loggerName)] ∧
              final.loads = [loggerName] ∧ final.modules.count_ = 1))
      (by decide)
  simp only [Bool.and_eq_true, List.all_eq_true, decide_eq_true_eq] at checked
  obtain ⟨orderly, results, loads, count⟩ := checked
  exact
    ⟨past, final, run, results, loads, count,
      (query_promise_iff run).mpr fun s action member =>
        orderly (s, action) member⟩

/-- Two threads that miss `logger` both load it. -/
theorem loggerTwice_not_promise :
    ∃ past final,
      Run (Run.Steps next?) (start [46] : QueryState Bool) past final ∧
        final.loads = [loggerName, loggerName] ∧
        final.modules.count_ = 2 ∧
        final.modules.modules_.length = 1 ∧
        ¬ final.Promise := by
  let both : List (QueryAction Bool) :=
    [.advance true openFile, .advance false openFile]
  obtain ⟨past, final, run, checked⟩ :=
    Run.exists_of_replay (start [46]) next?
      (.query true loggerName :: .query false loggerName ::
        (both ++ both ++ both ++ both ++ both))
      (fun s =>
        decide (s.loads = [loggerName, loggerName]) &&
          decide (s.modules.count_ = 2) &&
          decide (s.modules.modules_.length = 1))
      (by decide)
  simp only [Bool.and_eq_true, decide_eq_true_eq] at checked
  obtain ⟨⟨isTwice, isCount⟩, isLength⟩ := checked
  refine ⟨past, final, run, isTwice, isCount, isLength, ?_⟩
  intro promise
  have once := promise.once
  rw [isTwice] at once
  exact absurd once (by decide)

end Logger

end QueryState

end SkynetCpp
