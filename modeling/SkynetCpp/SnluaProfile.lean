import Mathlib.Algebra.Field.Rat
import Mathlib.Algebra.Order.Field.Basic
import Mathlib.Algebra.Order.Ring.Rat
import Mathlib.Logic.Function.Basic
import SkynetCpp.Foundation.Run

namespace SkynetCpp.SnluaProfile

open Foundation

/-!
# The profile of Lua coroutines

`coroutine.resume` and `coroutine.wrap` of a service also take the time of the
coroutine, once `profile.start` was called for it.  Two tables are kept: when
the coroutine was last resumed, and what it has taken before.  What
`profile.stop` returns is compared with a stopwatch for every coroutine, that
runs while a call of `timing_resume` for the coroutine is open.  What Lua does
in such a call is left open, but for the calls of the library that come from it.
-/

variable {Coroutine Number : Type}

section Clock

/-- `struct timespec`. -/
structure Timespec where
  tv_sec : Nat
  tv_nsec : Nat
  deriving Repr, DecidableEq

variable
    [Add Number] [Sub Number] [Div Number] [NatCast Number]
    [LT Number] [DecidableLT Number]

/-- `get_time`; a number is a `double` in the source. -/
def getTime (ti : Timespec) : Number :=
  ((ti.tv_sec % 0x10000 : Nat) : Number) +
    (ti.tv_nsec : Number) / ((1000000000 : Nat) : Number)

/-- `diff_time` at the time `ti`. -/
def diffTime
    (start : Number)
    (ti : Timespec) : Number :=
  let now := getTime ti
  if now < start then now + ((0x10000 : Nat) : Number) - start
  else now - start

end Clock

/-- What happens next, with the readings of the clock that are made. -/
inductive Label (Coroutine : Type) where
  /-- `timing_resume` comes to `auxresume`. -/
  | resume (co : Coroutine) (ti : Timespec)
  /-- `timing_resume` from which the library is not called, as when it is refused. -/
  | refuse (co : Coroutine) (ti later : Timespec)
  /-- `auxresume` returns to the `timing_resume` that was called last. -/
  | leave (ti : Timespec)
  /-- `profile.start` -/
  | start (co : Coroutine) (ti : Timespec)
  /-- `profile.stop` -/
  | stop (co : Coroutine) (ti : Timespec)
  deriving Repr, DecidableEq

/-- The tables that the functions share as upvalues, and the calls that are open. -/
structure State (Coroutine Number : Type) where
  /--
  The coroutines of the open `timing_resume` calls, the last one first, above
  the main coroutine, which is not resumed.
  -/
  calls : List Coroutine
  startTime : Coroutine → Option Number
  totalTime : Coroutine → Option Number
  /-- What `profile.stop` has returned for which coroutine, the last first. -/
  returned : List (Coroutine × Number)

section Code

variable
    [DecidableEq Coroutine]
    [Zero Number] [Add Number] [Sub Number] [Div Number] [NatCast Number]
    [LT Number] [DecidableLT Number]

/-- A service before `profile.start`. -/
def initial (main : Coroutine) : State Coroutine Number where
  calls := [main]
  startTime := fun _ => none
  totalTime := fun _ => none
  returned := []

namespace State

/-- `timing_total`; `lua_tonumber` of nil is 0. -/
def timingTotal
    (s : State Coroutine Number)
    (co : Coroutine) : Number :=
  (s.totalTime co).getD 0

/-- `timing_resume` before `auxresume`. -/
def timingResume
    (s : State Coroutine Number)
    (co : Coroutine)
    (ti : Timespec) : State Coroutine Number :=
  match s.startTime co with
  | none => s
  | some _ =>
      { s with startTime := Function.update s.startTime co (some (getTime ti)) }

/-- `timing_resume` behind `auxresume`. -/
def timingYield
    (s : State Coroutine Number)
    (co : Coroutine)
    (ti : Timespec) : State Coroutine Number :=
  match s.startTime co with
  | none => s
  | some startTime =>
      { s with
        totalTime :=
          Function.update s.totalTime co
            (some (s.timingTotal co + diffTime startTime ti)) }

/-- `lstart`, which raises an error when it was called before. -/
def lstart
    (s : State Coroutine Number)
    (co : Coroutine)
    (ti : Timespec) : State Coroutine Number :=
  match s.startTime co with
  | some _ => s
  | none =>
      { s with
        totalTime := Function.update s.totalTime co (some 0)
        startTime := Function.update s.startTime co (some (getTime ti)) }

/-- `lstop`, which raises an error when `lstart` was not called before. -/
def lstop
    (s : State Coroutine Number)
    (co : Coroutine)
    (ti : Timespec) : State Coroutine Number :=
  match s.startTime co with
  | none => s
  | some startTime =>
      { s with
        startTime := Function.update s.startTime co none
        totalTime := Function.update s.totalTime co none
        returned :=
          (co, s.timingTotal co + diffTime startTime ti) :: s.returned }

end State

/-- One call of the library, or the end of one. -/
def next?
    (s : State Coroutine Number) :
    Label Coroutine → Option (State Coroutine Number)
  | .resume co ti =>
      some { s.timingResume co ti with calls := co :: s.calls }
  | .refuse co ti later =>
      some ((s.timingResume co ti).timingYield co later)
  | .leave ti =>
      match s.calls with
      | co :: back :: rest =>
          some { s.timingYield co ti with calls := back :: rest }
      | _ => none
  | .start co ti => some (s.lstart co ti)
  | .stop co ti => some (s.lstop co ti)

/--
A coroutine is stopped while a call for it is open, and none is resumed once
more meanwhile, unless it has no profile and is refused.
-/
def Label.IsSensible
    (s : State Coroutine Number) : Label Coroutine → Prop
  | .resume co _ => co ∉ s.calls
  | .refuse co _ _ => (s.startTime co).isNone ∨ co ∉ s.calls
  | .stop co _ => (s.startTime co).isNone ∨ co ∈ s.calls
  | _ => True

instance (s : State Coroutine Number) :
    (label : Label Coroutine) → Decidable (label.IsSensible s)
  | .resume _ _ => inferInstanceAs (Decidable (¬ _))
  | .refuse _ _ _ => inferInstanceAs (Decidable (_ ∨ ¬ _))
  | .stop _ _ => inferInstanceAs (Decidable (_ ∨ _))
  | .leave _ | .start _ _ => inferInstanceAs (Decidable True)

end Code

section Stopwatches

/-- A stopwatch: the times that it ran, the last one first, and since when it runs. -/
structure Stopwatch where
  windows : List (Timespec × Timespec)
  since : Option Timespec
  deriving Repr, DecidableEq

namespace Stopwatch

/-- Let a stopwatch run. -/
def run
    (ti : Timespec)
    (watch : Stopwatch) : Stopwatch :=
  { watch with since := some ti }

/-- Hold a stopwatch, if it runs. -/
def hold
    (ti : Timespec)
    (watch : Stopwatch) : Stopwatch where
  windows :=
    match watch.since with
    | none => watch.windows
    | some since => (since, ti) :: watch.windows
  since := none

end Stopwatch

/-- The open calls with the stopwatches, and what these have shown in the end. -/
structure Watched (Coroutine : Type) where
  calls : List Coroutine
  watch : Coroutine → Option Stopwatch
  shown : List (Coroutine × List (Timespec × Timespec))

variable [DecidableEq Coroutine]

namespace Watched

/-- No coroutine has a stopwatch at first. -/
def initial (main : Coroutine) : Watched Coroutine where
  calls := [main]
  watch := fun _ => none
  shown := []

/--
What the profile is for: a stopwatch runs while a call for the coroutine is
open, and that of the main coroutine always.
-/
def follow
    (w : Watched Coroutine) : Label Coroutine → Watched Coroutine
  | .resume co ti =>
      { w with
        calls := co :: w.calls
        watch := Function.update w.watch co ((w.watch co).map (.run ti)) }
  | .refuse co ti later =>
      { w with
        watch :=
          Function.update w.watch co
            ((w.watch co).map fun watch => (watch.run ti).hold later) }
  | .leave ti =>
      match w.calls with
      | co :: back :: rest =>
          { w with
            calls := back :: rest
            watch :=
              Function.update w.watch co ((w.watch co).map (.hold ti)) }
      | _ => w
  | .start co ti =>
      match w.watch co with
      | some _ => w
      | none =>
          { w with
            watch :=
              Function.update w.watch co
                (some
                  { windows := []
                    since := if co ∈ w.calls then some ti else none }) }
  | .stop co ti =>
      match w.watch co with
      | none => w
      | some watch =>
          { w with
            watch := Function.update w.watch co none
            shown := (co, (watch.hold ti).windows) :: w.shown }

/-- The stopwatches after some events, the last one first. -/
def after
    (main : Coroutine)
    (labels : List (Label Coroutine)) : Watched Coroutine :=
  labels.foldr (fun label w => w.follow label) (initial main)

end Watched

end Stopwatches

section Tables

variable
    [DecidableEq Coroutine]
    [Zero Number] [Add Number] [Sub Number] [Div Number] [NatCast Number]
    [LT Number] [DecidableLT Number]

/-- What the differences of some readings add up to, the last ones first. -/
def taken (windows : List (Timespec × Timespec)) : Number :=
  windows.foldr
    (fun window total => total + diffTime (getTime window.1) window.2) 0

/-- The entries of a coroutine say what its stopwatch shows. -/
inductive Shows (called : Prop) :
    Option Number → Option Number → Option Stopwatch → Prop where
  | off
      (total : Option Number) :
      Shows called none total none
  | runs
      (windows : List (Timespec × Timespec))
      (since : Timespec)
      (isCalled : called) :
      Shows called (some (getTime since)) (some (taken windows))
        (some ⟨windows, some since⟩)
  | held
      (windows : List (Timespec × Timespec))
      (start : Number)
      (notCalled : ¬ called) :
      Shows called (some start) (some (taken windows)) (some ⟨windows, none⟩)

variable
    {s s' : State Coroutine Number}
    {co : Coroutine}
    {watch : Option Stopwatch}
    {ti : Timespec}

theorem Shows.congr
    {called called' : Prop}
    {start total : Option Number}
    (shows : Shows called start total watch)
    (same : called' ↔ called) :
    Shows called' start total watch := by
  rwa [same]

/-- Without a start there is nothing to show. -/
theorem Shows.off_of
    {called called' : Prop}
    {start total : Option Number}
    (shows : Shows called start total watch)
    (isOff : start = none) :
    Shows called' start total watch := by
  cases shows with
  | off total => exact .off total
  | runs windows since isCalled => cases isOff
  | held windows start notCalled => cases isOff

/-- A coroutine has no stopwatch when it was not started. -/
theorem Shows.eq_none_iff
    {called : Prop}
    {start total : Option Number}
    (shows : Shows called start total watch) :
    watch = none ↔ start = none := by
  cases shows <;> simp

/-- The stopwatch of a coroutine with an open call runs. -/
theorem Shows.of_called
    {called : Prop}
    {start : Number}
    {total : Option Number}
    (shows : Shows called (some start) total watch)
    (isCalled : called) :
    ∃ windows since,
      start = getTime since ∧
        total = some (taken windows) ∧
        watch = some ⟨windows, some since⟩ := by
  cases shows with
  | runs windows since isCalled => exact ⟨windows, since, rfl, rfl, rfl⟩
  | held windows start notCalled => exact absurd isCalled notCalled

/-- Before `auxresume` a stopwatch starts to run. -/
theorem timingResume_shows
    {called : Prop}
    (ti : Timespec)
    (shows : Shows called (s.startTime co) (s.totalTime co) watch) :
    Shows True ((s.timingResume co ti).startTime co)
      ((s.timingResume co ti).totalTime co) (watch.map (.run ti)) := by
  unfold State.timingResume
  cases startTime : s.startTime co with
  | none =>
      rw [startTime] at shows
      cases shows
      simp only [startTime, Option.map_none]
      exact .off _
  | some start =>
      rw [startTime] at shows
      generalize s.totalTime co = total at shows ⊢
      simp only [Function.update_self]
      cases shows with
      | runs windows since isCalled => exact .runs windows ti trivial
      | held windows start notCalled => exact .runs windows ti trivial

/-- Behind `auxresume` a stopwatch is held. -/
theorem timingYield_shows
    (ti : Timespec)
    (shows : Shows True (s.startTime co) (s.totalTime co) watch) :
    Shows False ((s.timingYield co ti).startTime co)
      ((s.timingYield co ti).totalTime co) (watch.map (.hold ti)) := by
  unfold State.timingYield State.timingTotal
  cases startTime : s.startTime co with
  | none =>
      rw [startTime] at shows
      cases shows
      simp only [startTime, Option.map_none]
      exact .off _
  | some start =>
      rw [startTime] at shows
      generalize s.totalTime co = total at shows ⊢
      simp only [Function.update_self, startTime]
      cases shows with
      | runs windows since isCalled =>
          exact .held ((since, ti) :: windows) _ (fun isFalse => isFalse)
      | held windows start notCalled => exact absurd trivial notCalled

/-- Only the entries of one coroutine change. -/
structure Changes
    (co : Coroutine)
    (s s' : State Coroutine Number) : Prop where
  calls : s'.calls = s.calls
  startTime : ∀ other, other ≠ co → s'.startTime other = s.startTime other
  totalTime : ∀ other, other ≠ co → s'.totalTime other = s.totalTime other
  returned : s'.returned = s.returned

omit [DecidableEq Coroutine] [Zero Number] [Add Number] [Sub Number]
  [Div Number] [NatCast Number] [LT Number] [DecidableLT Number] in
theorem Changes.trans
    {s'' : State Coroutine Number}
    (first : Changes co s s')
    (second : Changes co s' s'') :
    Changes co s s'' where
  calls := second.calls.trans first.calls
  startTime := fun other different =>
    (second.startTime other different).trans (first.startTime other different)
  totalTime := fun other different =>
    (second.totalTime other different).trans (first.totalTime other different)
  returned := second.returned.trans first.returned

omit [Zero Number] [Sub Number] [LT Number] [DecidableLT Number] in
theorem timingResume_changes
    (s : State Coroutine Number)
    (co : Coroutine)
    (ti : Timespec) :
    Changes co s (s.timingResume co ti) := by
  unfold State.timingResume
  split
  · exact ⟨rfl, fun _ _ => rfl, fun _ _ => rfl, rfl⟩
  · exact
      ⟨rfl, fun _ different => Function.update_of_ne different _ _,
        fun _ _ => rfl, rfl⟩

theorem timingYield_changes
    (s : State Coroutine Number)
    (co : Coroutine)
    (ti : Timespec) :
    Changes co s (s.timingYield co ti) := by
  unfold State.timingYield
  split
  · exact ⟨rfl, fun _ _ => rfl, fun _ _ => rfl, rfl⟩
  · exact
      ⟨rfl, fun _ _ => rfl,
        fun _ different => Function.update_of_ne different _ _, rfl⟩

/-- What the service keeps is what the stopwatches show. -/
structure Matches
    (s : State Coroutine Number)
    (w : Watched Coroutine) : Prop where
  calls : s.calls = w.calls
  nodup : s.calls.Nodup
  shows :
    ∀ co, Shows (co ∈ s.calls) (s.startTime co) (s.totalTime co) (w.watch co)
  returned :
    s.returned = w.shown.map fun shown => (shown.1, taken shown.2)

variable {w w' : Watched Coroutine}

omit [DecidableEq Coroutine] in
theorem matches_initial
    (main : Coroutine) :
    Matches (initial main : State Coroutine Number) (.initial main) where
  calls := rfl
  nodup := by simp [initial]
  shows := fun _ => .off none
  returned := rfl

/-- A change of the entries and the stopwatch of one coroutine. -/
theorem Matches.change
    (isMatched : Matches s w)
    (co : Coroutine)
    (calls : s'.calls = w'.calls)
    (nodup : s'.calls.Nodup)
    (others : ∀ other, other ≠ co → (other ∈ s'.calls ↔ other ∈ s.calls))
    (startTime : ∀ other, other ≠ co → s'.startTime other = s.startTime other)
    (totalTime : ∀ other, other ≠ co → s'.totalTime other = s.totalTime other)
    (watches : ∀ other, other ≠ co → w'.watch other = w.watch other)
    (own :
      Shows (co ∈ s'.calls) (s'.startTime co) (s'.totalTime co) (w'.watch co))
    (returned :
      s'.returned = w'.shown.map fun shown => (shown.1, taken shown.2)) :
    Matches s' w' where
  calls := calls
  nodup := nodup
  shows := by
    intro other
    by_cases isSame : other = co
    · subst isSame
      exact own
    · rw [startTime other isSame, totalTime other isSame,
        watches other isSame, others other isSame]
      exact isMatched.shows other
  returned := returned

/-- A call for a coroutine is opened, and its stopwatch starts. -/
theorem Matches.resume
    (isMatched : Matches s w)
    (closed : co ∉ s.calls) :
    Matches { s.timingResume co ti with calls := co :: s.calls }
      (w.follow (.resume co ti)) := by
  have changes := timingResume_changes s co ti
  refine
    isMatched.change co (congrArg (co :: ·) isMatched.calls)
      (List.nodup_cons.mpr ⟨closed, isMatched.nodup⟩) ?_ changes.startTime
      changes.totalTime
      (fun _ different => Function.update_of_ne different _ _) ?_
      (changes.returned.trans isMatched.returned)
  · intro other different
    simp [different]
  · have shows := timingResume_shows ti (isMatched.shows co)
    simpa [Watched.follow] using shows

/-- A call for a coroutine is opened and closed, which takes some time. -/
theorem Matches.refuse
    {later : Timespec}
    (isMatched : Matches s w)
    (sensible : (s.startTime co).isNone ∨ co ∉ s.calls) :
    Matches ((s.timingResume co ti).timingYield co later)
      (w.follow (.refuse co ti later)) := by
  have changes :=
    (timingResume_changes s co ti).trans (timingYield_changes _ co later)
  refine
    isMatched.change co (changes.calls.trans isMatched.calls)
      (changes.calls ▸ isMatched.nodup)
      (fun _ _ => by rw [changes.calls]) changes.startTime changes.totalTime
      (fun _ different => Function.update_of_ne different _ _) ?_
      (changes.returned.trans isMatched.returned)
  have shows :=
    timingYield_shows later (timingResume_shows ti (isMatched.shows co))
  have isShown :
      (w.follow (.refuse co ti later)).watch co =
        ((w.watch co).map (.run ti)).map (.hold later) := by
    simp [Watched.follow, Function.comp_def]
  rw [isShown, changes.calls]
  rcases sensible with isOff | closed
  · rw [Option.isNone_iff_eq_none] at isOff
    refine shows.off_of ?_
    simp [State.timingResume, State.timingYield, isOff]
  · exact shows.congr (iff_of_false closed not_false)

/-- The last call is closed, and the stopwatch of its coroutine is held. -/
theorem Matches.leave
    {back : Coroutine}
    {rest : List Coroutine}
    (isMatched : Matches s w)
    (isOpen : s.calls = co :: back :: rest) :
    Matches { s.timingYield co ti with calls := back :: rest }
      (w.follow (.leave ti)) := by
  have changes := timingYield_changes s co ti
  have nodup := isMatched.nodup
  rw [isOpen, List.nodup_cons] at nodup
  have shows :=
    (isMatched.shows co).congr (iff_of_true trivial (by simp [isOpen]))
  have isFollowed :
      w.follow (.leave ti) =
        { w with
          calls := back :: rest
          watch :=
            Function.update w.watch co ((w.watch co).map (.hold ti)) } := by
    simp only [Watched.follow, ← isMatched.calls, isOpen]
  rw [isFollowed]
  refine
    isMatched.change co rfl nodup.2 ?_ changes.startTime changes.totalTime
      (fun _ different => Function.update_of_ne different _ _) ?_
      (changes.returned.trans isMatched.returned)
  · intro other different
    rw [isOpen, List.mem_cons (a := other) (b := co), or_iff_right different]
  · have isHeld := timingYield_shows ti shows
    simpa only [Function.update_self] using
      isHeld.congr (iff_of_false nodup.1 not_false)

/-- A coroutine gets a stopwatch, that runs at once if a call is open. -/
theorem Matches.start
    (isMatched : Matches s w) :
    Matches (s.lstart co ti) (w.follow (.start co ti)) := by
  have shows := isMatched.shows co
  cases startTime : s.startTime co with
  | some start =>
      obtain ⟨watch, isOn⟩ :=
        Option.ne_none_iff_exists'.mp
          (shows.eq_none_iff.not.mpr (startTime ▸ Option.some_ne_none start))
      simpa [State.lstart, startTime, Watched.follow, isOn] using isMatched
  | none =>
      have isOff := shows.eq_none_iff.mpr startTime
      simp only [State.lstart, startTime, Watched.follow, isOff]
      refine
        isMatched.change co isMatched.calls isMatched.nodup
          (fun _ _ => Iff.rfl)
          (fun _ different => Function.update_of_ne different _ _)
          (fun _ different => Function.update_of_ne different _ _)
          (fun _ different => Function.update_of_ne different _ _) ?_
          isMatched.returned
      simp only [Function.update_self, ← isMatched.calls]
      by_cases isCalled : co ∈ s.calls
      · rw [if_pos isCalled]
        exact .runs [] ti isCalled
      · rw [if_neg isCalled]
        exact .held [] _ isCalled

/-- What is returned while a call is open is what the stopwatch shows. -/
theorem Matches.stop
    (isMatched : Matches s w)
    (sensible : (s.startTime co).isNone ∨ co ∈ s.calls) :
    Matches (s.lstop co ti) (w.follow (.stop co ti)) := by
  have shows := isMatched.shows co
  cases startTime : s.startTime co with
  | none =>
      have isOff := shows.eq_none_iff.mpr startTime
      simpa [State.lstop, startTime, Watched.follow, isOff] using isMatched
  | some start =>
      have isCalled : co ∈ s.calls := by
        simpa [startTime] using sensible
      rw [startTime] at shows
      obtain ⟨windows, since, isSince, isTotal, isWatch⟩ :=
        shows.of_called isCalled
      simp only [State.lstop, startTime, Watched.follow, isWatch]
      refine
        isMatched.change co isMatched.calls isMatched.nodup
          (fun _ _ => Iff.rfl)
          (fun _ different => Function.update_of_ne different _ _)
          (fun _ different => Function.update_of_ne different _ _)
          (fun _ different => Function.update_of_ne different _ _) ?_ ?_
      · simp only [Function.update_self]
        exact .off none
      · rw [List.map_cons, ← isMatched.returned, State.timingTotal, isTotal,
          isSince]
        rfl

/-- The service and the stopwatches go on alike. -/
theorem Matches.step
    {label : Label Coroutine}
    (isMatched : Matches s w)
    (sensible : label.IsSensible s)
    (moved : next? s label = some s') :
    Matches s' (w.follow label) := by
  cases label with
  | resume co ti =>
      cases moved
      exact isMatched.resume sensible
  | refuse co ti later =>
      cases moved
      exact isMatched.refuse sensible
  | leave ti =>
      simp only [next?] at moved
      split at moved
      · next isOpen =>
          cases moved
          exact isMatched.leave isOpen
      · cases moved
  | start co ti =>
      cases moved
      exact isMatched.start
  | stop co ti =>
      cases moved
      exact isMatched.stop sensible

variable
    {main : Coroutine}
    {past : List (State Coroutine Number × Label Coroutine)}
    {final : State Coroutine Number}

/-- After a whole run the service keeps what the stopwatches show. -/
theorem matches_of_run
    (run : Run (Run.Steps next?) (initial main) past final)
    (sensible : ∀ s label, (s, label) ∈ past → label.IsSensible s) :
    Matches final (Watched.after main (past.map Prod.snd)) :=
  run.followed (matches_initial main)
    (fun isMatched isSensible moved => isMatched.step isSensible moved)
    (fun member => sensible _ _ member)

/--
However the calls nest, `profile.stop` returns what the stopwatch of the
coroutine has measured since `profile.start`.
-/
theorem stop_returns
    (run : Run (Run.Steps next?) (initial main) past final)
    (sensible : ∀ s label, (s, label) ∈ past → label.IsSensible s) :
    final.returned =
      (Watched.after main (past.map Prod.snd)).shown.map fun shown =>
        (shown.1, taken shown.2) :=
  (matches_of_run run sensible).returned

end Tables

/-- A coroutine that resumes another one, yields, and is stopped when it is back. -/
theorem stop_returns_nested :
    ∃ past final,
      Run (Run.Steps next?) (initial 0 : State (Fin 3) Int) past final ∧
        final.returned = [(1, 8)] ∧
        final.returned =
          (Watched.after 0 (past.map Prod.snd)).shown.map fun shown =>
            (shown.1, taken shown.2) := by
  obtain ⟨past, final, run, sensible, isReturned⟩ :=
    Run.exists_of_checked (initial 0 : State (Fin 3) Int) next?
      [.start 1 ⟨0, 0⟩, .resume 1 ⟨1, 0⟩, .resume 2 ⟨2, 0⟩,
        .leave ⟨5, 0⟩, .leave ⟨7, 0⟩, .resume 1 ⟨10, 0⟩,
        .stop 1 ⟨12, 0⟩]
      (fun s label _ => decide (label.IsSensible s))
      (fun s => s.returned = [(1, 8)])
      (by decide)
  refine
    ⟨past, final, run, of_decide_eq_true isReturned, stop_returns run ?_⟩
  intro s label member
  obtain ⟨next, -, isTaken⟩ := run.exists_next member
  exact of_decide_eq_true (sensible s label next member isTaken)

/-- Resuming a coroutine that runs is refused, and loses what it took before. -/
example :
    (Run.replay next? (initial 0 : State (Fin 2) Int)
        [.start 1 ⟨0, 0⟩, .resume 1 ⟨1, 0⟩, .refuse 1 ⟨6, 0⟩ ⟨6, 0⟩,
          .stop 1 ⟨7, 0⟩]).map State.returned =
      some [(1, 1)] := by
  decide

section Exact

/-- A time in nanoseconds. -/
def Timespec.nanoseconds (ti : Timespec) : Nat :=
  ti.tv_sec * 1000000000 + ti.tv_nsec

/-- The clock has gone forward between two readings, by less than `0x10000` seconds. -/
structure Fits (window : Timespec × Timespec) : Prop where
  since : window.1.tv_nsec < 1000000000
  till : window.2.tv_nsec < 1000000000
  forward : window.1.nanoseconds ≤ window.2.nanoseconds
  short :
    window.2.nanoseconds < window.1.nanoseconds + 0x10000 * 1000000000

/-- The nanoseconds between the readings. -/
def elapsed (windows : List (Timespec × Timespec)) : Nat :=
  (windows.map fun window =>
    window.2.nanoseconds - window.1.nanoseconds).sum

variable [Field Number] [LinearOrder Number] [IsStrictOrderedRing Number]

/-- A reading is the time modulo `0x10000` seconds. -/
theorem getTime_eq
    {ti : Timespec}
    (bounded : ti.tv_nsec < 1000000000) :
    (getTime ti : Number) =
      ((ti.nanoseconds % (0x10000 * 1000000000) : Nat) : Number) /
        ((1000000000 : Nat) : Number) := by
  have split :
      ti.nanoseconds % (0x10000 * 1000000000) =
        ti.tv_sec % 0x10000 * 1000000000 + ti.tv_nsec := by
    unfold Timespec.nanoseconds
    omega
  rw [split, Nat.cast_add, Nat.cast_mul, add_div, mul_div_cancel_right₀]
  · rfl
  · norm_num

/-- What the clock shows modulo `0x10000` seconds is enough for the difference. -/
theorem diffTime_eq
    {window : Timespec × Timespec}
    (fits : Fits window) :
    diffTime (getTime window.1 : Number) window.2 =
      ((window.2.nanoseconds - window.1.nanoseconds : Nat) : Number) /
        ((1000000000 : Nat) : Number) := by
  obtain ⟨since, till, forward, short⟩ := fits
  have positive : (0 : Number) < ((1000000000 : Nat) : Number) := by norm_num
  unfold diffTime
  simp only [getTime_eq since, getTime_eq till,
    div_lt_div_iff_of_pos_right positive, Nat.cast_lt]
  split
  · next wrapped =>
      have difference :
          window.2.nanoseconds % (0x10000 * 1000000000) +
              0x10000 * 1000000000 =
            window.1.nanoseconds % (0x10000 * 1000000000) +
              (window.2.nanoseconds - window.1.nanoseconds) := by
        omega
      have cast := congrArg (Nat.cast : Nat → Number) difference
      rw [Nat.cast_add, Nat.cast_add, Nat.cast_mul] at cast
      rw [div_add' _ _ _ positive.ne', cast, ← sub_div, add_sub_cancel_left]
  · next ordered =>
      have difference :
          window.2.nanoseconds % (0x10000 * 1000000000) =
            window.1.nanoseconds % (0x10000 * 1000000000) +
              (window.2.nanoseconds - window.1.nanoseconds) := by
        omega
      rw [difference, Nat.cast_add, ← sub_div, add_sub_cancel_left]

/-- The windows add up to the time that passed in them. -/
theorem taken_eq
    {windows : List (Timespec × Timespec)}
    (fits : ∀ window ∈ windows, Fits window) :
    (taken windows : Number) =
      (elapsed windows : Number) / ((1000000000 : Nat) : Number) := by
  induction windows with
  | nil =>
      simp [taken, elapsed]
  | cons window windows inductionHypothesis =>
      have rest :=
        inductionHypothesis fun other member =>
          fits other (List.mem_cons_of_mem _ member)
      have first :
          diffTime (getTime window.1 : Number) window.2 =
            ((window.2.nanoseconds - window.1.nanoseconds : Nat) : Number) /
              ((1000000000 : Nat) : Number) :=
        diffTime_eq (fits window List.mem_cons_self)
      calc (taken (window :: windows) : Number)
          = taken windows + diffTime (getTime window.1) window.2 := rfl
        _ = (elapsed (window :: windows) : Number) /
              ((1000000000 : Nat) : Number) := by
            rw [rest, first, ← add_div, ← Nat.cast_add]
            simp only [elapsed, List.map_cons, List.sum_cons, Nat.add_comm]

/--
Where numbers are exact, `profile.stop` returns the time for which calls for
the coroutine were open since `profile.start`, in seconds.
-/
theorem stop_returns_elapsed
    [DecidableEq Coroutine]
    {main : Coroutine}
    {past : List (State Coroutine Number × Label Coroutine)}
    {final : State Coroutine Number}
    (run : Run (Run.Steps next?) (initial main) past final)
    (sensible : ∀ s label, (s, label) ∈ past → label.IsSensible s)
    (fits :
      ∀ shown ∈ (Watched.after main (past.map Prod.snd)).shown,
        ∀ window ∈ shown.2, Fits window) :
    final.returned =
      (Watched.after main (past.map Prod.snd)).shown.map fun shown =>
        (shown.1,
          (elapsed shown.2 : Number) / ((1000000000 : Nat) : Number)) := by
  have isMatched : Matches final (Watched.after main (past.map Prod.snd)) :=
    matches_of_run run sensible
  rw [isMatched.returned]
  refine List.map_congr_left fun shown member => ?_
  rw [taken_eq (fits shown member)]

end Exact

/-- A coroutine that is resumed twice, the first time while the seconds wrap around. -/
theorem stop_returns_elapsed_wrapped :
    ∃ past final,
      Run (Run.Steps next?) (initial 0 : State (Fin 3) Rat) past final ∧
        final.returned = [(1, 9 / 10)] ∧
        final.returned =
          (Watched.after 0 (past.map Prod.snd)).shown.map fun shown =>
            (shown.1, (elapsed shown.2 : Rat) / ((1000000000 : Nat) : Rat)) := by
  let labels : List (Label (Fin 3)) :=
    [.start 1 ⟨65535, 500000000⟩, .resume 1 ⟨65535, 600000000⟩,
      .resume 2 ⟨65535, 700000000⟩, .leave ⟨65536, 100000000⟩,
      .leave ⟨65536, 200000000⟩, .resume 1 ⟨65537, 0⟩,
      .stop 1 ⟨65537, 300000000⟩]
  have checked :
      (Run.trace next? [] (initial 0 : State (Fin 3) Rat) labels).any
        (fun traced =>
          traced.1.all (fun step => decide (step.2.IsSensible step.1)) &&
            decide (traced.1.map Prod.snd = labels.reverse) &&
            decide (traced.2.returned = [(1, 9 / 10)])) = true := by
    decide +kernel
  obtain ⟨⟨past, final⟩, traced, isChecked⟩ := (Option.any_eq_true _ _).mp checked
  simp only [Bool.and_eq_true, List.all_eq_true, decide_eq_true_eq] at isChecked
  obtain ⟨⟨sensible, isLabels⟩, isReturned⟩ := isChecked
  have run := Run.extend_of_trace _ .nil traced
  have isShown :
      (Watched.after 0 (past.map Prod.snd)).shown =
        [(1,
          [(⟨65537, 0⟩, ⟨65537, 300000000⟩),
            (⟨65535, 600000000⟩, ⟨65536, 200000000⟩)])] := by
    rw [isLabels]
    rfl
  have fits :
      ∀ shown ∈ (Watched.after 0 (past.map Prod.snd)).shown,
        ∀ window ∈ shown.2, Fits window := by
    rw [isShown]
    simp only [List.forall_mem_singleton, List.forall_mem_cons]
    exact
      ⟨⟨by decide, by decide, by decide, by decide⟩,
        ⟨by decide, by decide, by decide, by decide⟩⟩
  have returned :=
    stop_returns_elapsed run (fun s label => sensible (s, label)) fits
  exact ⟨past, final, run, isReturned, returned⟩

end SkynetCpp.SnluaProfile
