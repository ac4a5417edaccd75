import SkynetCpp.Locality
import SkynetCpp.RuntimeFrame

namespace SkynetCpp

open Foundation

/-!
# What becomes of a message

`MessageQueue::Pop` removes nothing, and `MessageDispatch` hands its own local
variable to the callback.  Over a whole run of the node, a message that is in a
queue stays there, and no callback gets it.
-/

/-- The queues that there were have all their messages, and perhaps more. -/
structure Accumulates (s s' : System) : Prop where
  nextQueue : s.nextQueue ≤ s'.nextQueue
  messages :
    ∀ queue < s.nextQueue,
      (s.queues.mq queue).messageQueue <+: (s'.queues.mq queue).messageQueue

theorem Accumulates.of_queues
    {s s' : System}
    (sameQueues : s'.queues = s.queues)
    (sameNext : s'.nextQueue = s.nextQueue) :
    Accumulates s s' where
  nextQueue := by rw [sameNext]
  messages := by
    intro queue _
    rw [sameQueues]

/-- No section takes a message out of a queue. -/
theorem keptBySections_accumulates : KeptBySections Accumulates where
  refl := fun _ => .of_queues rfl rfl
  trans := fun first second =>
    { nextQueue := first.nextQueue.trans second.nextQueue
      messages := fun queue isOld =>
        (first.messages queue isOld).trans
          (second.messages queue (isOld.trans_le first.nextQueue)) }
  context := fun _ _ _ => .of_queues rfl rfl
  queues := fun _ _ kept =>
    { nextQueue := Nat.le_refl _
      messages := fun queue isOld => kept queue (Nat.ne_of_lt isOld) }
  storage := fun _ _ => .of_queues rfl rfl
  allocate := fun _ _ _ atLeast =>
    { nextQueue := atLeast
      messages := fun _ _ => List.prefix_rfl }
  total := fun _ _ => .of_queues rfl rfl
  logger := fun _ => .of_queues rfl rfl

/-- The turns of a `MessageDispatch` in progress. -/
def Frame.turns : Frame → Option Turns
  | .dispatchPop turns => some turns
  | .dispatchLength turns => some turns
  | .dispatchTurn turns => some turns
  | .callback turns => some turns
  | .dispatchBack turns _ => some turns
  | _ => none

/-- A message, or what is left of it when its data were dropped. -/
def IsLeftOf (msg garbage : Message) : Prop :=
  msg = garbage ∨ msg = { garbage with data := none }

theorem IsLeftOf.trans
    {msg kept garbage : Message}
    (left : IsLeftOf msg kept)
    (keeps : IsLeftOf kept garbage) :
    IsLeftOf msg garbage := by
  rcases left with rfl | rfl <;> rcases keeps with rfl | rfl
  · exact .inl rfl
  · exact .inr rfl
  · exact .inr rfl
  · exact .inr rfl

/--
The only frame with turns is the only one that replaces the old frame.  Its turns
are the first ones of a `MessageDispatch`, with its local variable, or those of
the old frame.
-/
def TurnsFrom
    (frame : Frame)
    (garbage : Message)
    (frames : List Frame) : Prop :=
  ∀ new ∈ frames, ∀ turns,
    new.turns = some turns →
      frames = [new] ∧
        ((∃ queue weight,
            frame = .messageDispatch (some queue) weight ∧
              turns.msg = garbage) ∨
          ∃ old, frame.turns = some old ∧ IsLeftOf turns.msg old.msg)

theorem turnsFrom_of_none
    {frame : Frame}
    {garbage : Message}
    {frames : List Frame}
    (none : ∀ new ∈ frames, new.turns = none) :
    TurnsFrom frame garbage frames := by
  intro new member turns isTurns
  rw [none new member] at isTurns
  cases isTurns

theorem turnsFrom_singleton
    {frame new : Frame}
    {garbage : Message}
    {old turns : Turns}
    (had : frame.turns = some old)
    (has : new.turns = some turns)
    (left : IsLeftOf turns.msg old.msg) :
    TurnsFrom frame garbage [new] := by
  intro other member turns' isTurns
  have isNew := List.mem_singleton.mp member
  rw [isNew, has] at isTurns
  injection isTurns with isTurns
  subst isTurns
  exact ⟨by rw [isNew], .inr ⟨old, had, left⟩⟩

/-- A section passes its turns on, or starts them with the uninitialised local. -/
theorem Frame.advance_turns
    {frame : Frame}
    {unknown : Unknown}
    {s s' : System}
    {frames : List Frame}
    (advanced : frame.advance unknown s = .ok (frames, s')) :
    TurnsFrom frame unknown.garbage frames := by
  have of_ok
      {frames' : List Frame}
      {t : System}
      (returned :
        (.ok (frames', t) : Except Fault (List Frame × System)) =
          .ok (frames, s'))
      (turnsFrom : TurnsFrom frame unknown.garbage frames') :
      TurnsFrom frame unknown.garbage frames := by
    injection returned with returned
    injection returned with isFrames
    exact isFrames ▸ turnsFrom
  have quiet {frames' : List Frame}
      (none : ∀ new ∈ frames', new.turns = none) :
      TurnsFrom frame unknown.garbage frames' :=
    turnsFrom_of_none none
  cases frame with
  | contextPush handle msg =>
      simp only [Frame.advance] at advanced
      split at advanced
      all_goals
        exact of_ok advanced (quiet (by simp [Frame.turns]))
  | pushGrabbed ctx msg =>
      simp only [Frame.advance, bind_eq_ok_iff] at advanced
      obtain ⟨_, _, advanced⟩ := advanced
      exact of_ok advanced (quiet (by simp [Frame.turns]))
  | release ctx =>
      simp only [Frame.advance, bind_eq_ok_iff] at advanced
      obtain ⟨⟨_, _⟩, _, advanced⟩ := advanced
      exact of_ok advanced (quiet (by simp))
  | delete ctx =>
      exact of_ok advanced (quiet (by simp))
  | endless handle =>
      simp only [Frame.advance] at advanced
      split at advanced
      all_goals
        exact of_ok advanced (quiet (by simp [Frame.turns]))
  | grab handle =>
      simp only [Frame.advance] at advanced
      split at advanced
      all_goals
        exact of_ok advanced (quiet (by simp [Frame.turns]))
  | grabbed ctx =>
      exact of_ok advanced (quiet (by simp [Frame.turns]))
  | handleRetire handle =>
      simp only [Frame.advance] at advanced
      split at advanced
      all_goals
        exact of_ok advanced (quiet (by simp [Frame.turns]))
  | skynetError handle text =>
      simp only [Frame.advance] at advanced
      split at advanced
      · exact of_ok advanced (quiet (by simp))
      · split at advanced
        all_goals
          exact of_ok advanced (quiet (by simp [Frame.turns]))
  | newContext request =>
      simp only [Frame.advance, bind_eq_ok_iff] at advanced
      obtain ⟨_, _, ⟨_, _⟩, _, advanced⟩ := advanced
      exact of_ok advanced (quiet (by simp [Frame.turns]))
  | constructed ctx mod request =>
      simp only [Frame.advance, bind_eq_ok_iff] at advanced
      obtain ⟨_, _, advanced⟩ := advanced
      split at advanced
      · exact of_ok advanced (quiet (by simp [Frame.turns]))
      · cases advanced
  | initialising ctx queue request =>
      simp only [Frame.advance] at advanced
      split at advanced
      all_goals
        exact of_ok advanced (quiet (by simp [Frame.turns]))
  | launchRelease ctx queue request =>
      simp only [Frame.advance, bind_eq_ok_iff] at advanced
      obtain ⟨⟨_, _⟩, _, advanced⟩ := advanced
      split at advanced
      all_goals
        exact of_ok advanced (quiet (by simp [Frame.turns]))
  | launchPush queue =>
      simp only [Frame.advance, bind_eq_ok_iff] at advanced
      obtain ⟨_, _, advanced⟩ := advanced
      exact of_ok advanced (quiet (by simp))
  | launchFailed ctx queue =>
      simp only [Frame.advance, bind_eq_ok_iff] at advanced
      obtain ⟨⟨_, _⟩, _, advanced⟩ := advanced
      exact of_ok advanced (quiet (by simp [Frame.turns]))
  | queueRelease queue handle =>
      simp only [Frame.advance] at advanced
      split at advanced
      · exact of_ok advanced (quiet (by simp [Frame.turns]))
      · simp only [bind_eq_ok_iff] at advanced
        obtain ⟨_, _, advanced⟩ := advanced
        exact of_ok advanced (quiet (by simp))
  | draining queue handle =>
      simp only [Frame.advance] at advanced
      split at advanced
      · simp only [bind_eq_ok_iff] at advanced
        obtain ⟨dropping, drops, advanced⟩ := advanced
        refine of_ok advanced (quiet ?_)
        rcases dropMessage_cases drops with rfl | ⟨error, rfl⟩
        all_goals
          simp [Frame.turns]
      · split at advanced
        · exact of_ok advanced (quiet (by simp))
        · cases advanced
  | messageDispatch queue weight =>
      cases queue with
      | none =>
          simp only [Frame.advance, bind_eq_ok_iff] at advanced
          obtain ⟨⟨_, _⟩, _, advanced⟩ := advanced
          exact of_ok advanced (quiet (by simp [Frame.turns]))
      | some queue =>
          simp only [Frame.advance] at advanced
          split at advanced
          · exact of_ok advanced (quiet (by simp [Frame.turns]))
          · refine of_ok advanced ?_
            intro new member turns isTurns
            have isNew := List.mem_singleton.mp member
            rw [isNew] at isTurns
            injection isTurns with isTurns
            exact ⟨by rw [isNew], .inl ⟨_, _, rfl, by rw [← isTurns]⟩⟩
  | dispatchPop turns =>
      simp only [Frame.advance] at advanced
      split at advanced
      · split at advanced
        · exact of_ok advanced (quiet (by simp [Frame.turns]))
        · split at advanced
          all_goals
            exact of_ok advanced (turnsFrom_singleton rfl rfl (.inl rfl))
      · split at advanced
        · simp only [bind_eq_ok_iff] at advanced
          obtain ⟨⟨next, _⟩, _, advanced⟩ := advanced
          cases next with
          | none =>
              exact of_ok advanced (quiet (by simp [Frame.turns]))
          | some next =>
              exact of_ok advanced (turnsFrom_singleton rfl rfl (.inl rfl))
        · cases advanced
  | dispatchLength turns =>
      exact of_ok advanced (turnsFrom_singleton rfl rfl (.inl rfl))
  | dispatchTurn turns =>
      simp only [Frame.advance] at advanced
      split at advanced
      · exact of_ok advanced (turnsFrom_singleton rfl rfl (.inr rfl))
      · split at advanced
        · exact of_ok advanced (turnsFrom_singleton rfl rfl (.inl rfl))
        · cases advanced
  | callback turns =>
      refine of_ok advanced (turnsFrom_singleton rfl rfl ?_)
      dsimp only
      split
      · exact .inr rfl
      · exact .inl rfl
  | dispatchBack turns next =>
      simp only [Frame.advance, bind_eq_ok_iff] at advanced
      obtain ⟨_, _, advanced⟩ := advanced
      exact of_ok advanced (quiet (by simp [Frame.turns]))
  | dispatchNext weight =>
      simp only [Frame.advance, bind_eq_ok_iff] at advanced
      obtain ⟨⟨_, _⟩, _, advanced⟩ := advanced
      exact of_ok advanced (quiet (by simp [Frame.turns]))

section Runs

variable {Thread : Type}

/-- Above these frames the thread is in the loop of a `MessageDispatch`. -/
def Dispatching
    (rt : Runtime Thread)
    (thread : Thread)
    (below : List Frame) : Prop :=
  ∃ above frame,
    rt.stackOf thread = above ++ frame :: below ∧ frame.turns ≠ none

/--
The message is what the local variable of the `MessageDispatch` above these
frames happened to hold when it was called; the call has not returned since.
-/
def IsGarbage
    (past : List (Runtime Thread × (Thread × Action)))
    (thread : Thread)
    (below : List Frame)
    (msg : Message) : Prop :=
  ∃ later rt unknown earlier queue weight,
    past = later ++ (rt, (thread, Action.advance unknown)) :: earlier ∧
      rt.stackOf thread = .messageDispatch (some queue) weight :: below ∧
      (∀ step ∈ later, Dispatching step.1 thread below) ∧
      IsLeftOf msg unknown.garbage

theorem IsGarbage.later
    {past : List (Runtime Thread × (Thread × Action))}
    {thread : Thread}
    {below : List Frame}
    {msg kept : Message}
    (garbage : IsGarbage past thread below kept)
    (left : IsLeftOf msg kept)
    (step : Runtime Thread × (Thread × Action))
    (dispatching : Dispatching step.1 thread below) :
    IsGarbage (step :: past) thread below msg := by
  obtain ⟨later, rt, unknown, earlier, queue, weight, isPast, started, since,
    keeps⟩ := garbage
  refine ⟨step :: later, rt, unknown, earlier, queue, weight, ?_, started, ?_,
    left.trans keeps⟩
  · rw [isPast]
    rfl
  · exact List.forall_mem_cons.mpr ⟨dispatching, since⟩

/-- The turns in progress in a thread go round with garbage. -/
def TurnsGarbage
    (past : List (Runtime Thread × (Thread × Action)))
    (rt : Runtime Thread) : Prop :=
  ∀ thread above frame below turns,
    rt.stackOf thread = above ++ frame :: below →
      frame.turns = some turns → IsGarbage past thread below turns.msg

/-- Turns that were there before a step go on with their garbage. -/
theorem TurnsGarbage.later
    {past : List (Runtime Thread × (Thread × Action))}
    {rt : Runtime Thread}
    {thread : Thread}
    {above below : List Frame}
    {frame : Frame}
    {turns : Turns}
    (garbage : TurnsGarbage past rt)
    (isStack : rt.stackOf thread = above ++ frame :: below)
    (isTurns : frame.turns = some turns)
    (label : Thread × Action) :
    IsGarbage ((rt, label) :: past) thread below turns.msg := by
  have inTurns : frame.turns ≠ none := by
    rw [isTurns]
    exact Option.some_ne_none turns
  exact
    (garbage thread above frame below turns isStack isTurns).later (.inl rfl) _
      ⟨above, frame, isStack, inTurns⟩

variable [DecidableEq Thread]

/-- A thread that gets another stack has turns from its old one or new garbage. -/
theorem TurnsGarbage.update
    {past : List (Runtime Thread × (Thread × Action))}
    {rt rt' : Runtime Thread}
    {label : Thread × Action}
    {thread : Thread}
    {stack : List Frame}
    (garbage : TurnsGarbage past rt)
    (isStack : rt'.stackOf = Function.update rt.stackOf thread stack)
    (fresh :
      ∀ above frame below turns,
        stack = above ++ frame :: below →
          frame.turns = some turns →
            IsGarbage ((rt, label) :: past) thread below turns.msg) :
    TurnsGarbage ((rt, label) :: past) rt' := by
  intro other above frame below turns isSplit isTurns
  rw [isStack] at isSplit
  by_cases isThread : other = thread
  · subst isThread
    rw [Function.update_self] at isSplit
    exact fresh above frame below turns isSplit isTurns
  · rw [Function.update_of_ne isThread] at isSplit
    exact garbage.later isSplit isTurns label

/-- A frame put on top of a stack brings no turns of its own. -/
theorem TurnsGarbage.push
    {past : List (Runtime Thread × (Thread × Action))}
    {rt rt' : Runtime Thread}
    {label : Thread × Action}
    {thread : Thread}
    {top : Frame}
    (garbage : TurnsGarbage past rt)
    (isStack :
      rt'.stackOf =
        Function.update rt.stackOf thread (top :: rt.stackOf thread))
    (none : top.turns = none) :
    TurnsGarbage ((rt, label) :: past) rt' := by
  refine garbage.update isStack fun above frame below turns isSplit isTurns => ?_
  cases above with
  | nil =>
      injection isSplit with isTop
      rw [← isTop, none] at isTurns
      cases isTurns
  | cons _ above =>
      injection isSplit with _ isOld
      exact garbage.later isOld isTurns label

/-- Every step of every thread leaves garbage in the turns. -/
theorem TurnsGarbage.step
    {past : List (Runtime Thread × (Thread × Action))}
    {rt rt' : Runtime Thread}
    {label : Thread × Action}
    (garbage : TurnsGarbage past rt)
    (taken : rt.next? label = some rt') :
    TurnsGarbage ((rt, label) :: past) rt' := by
  obtain ⟨thread, action⟩ := label
  cases action with
  | advance unknown =>
      obtain ⟨top, rest, frames, s, isTop, advanced, isState⟩ :=
        Runtime.next?_advance taken
      rw [isState]
      refine garbage.update rfl fun above frame below turns isSplit isTurns => ?_
      rcases List.append_eq_append_iff.mp isSplit with
        ⟨upper, _, isRest⟩ | ⟨lower, isFrames, isBelow⟩
      · -- the frame was below the one that the step replaced
        have isOld : rt.stackOf thread = (top :: upper) ++ frame :: below := by
          rw [isTop, isRest]
          rfl
        exact garbage.later isOld isTurns _
      · cases lower with
        | nil =>
            have isOld : rt.stackOf thread = [top] ++ frame :: below := by
              rw [isTop, isBelow]
              rfl
            exact garbage.later isOld isTurns _
        | cons new lower =>
            injection isBelow with isNew isBelow
            subst isNew
            obtain ⟨isOnly, isFirst | ⟨old, had, left⟩⟩ :=
              top.advance_turns advanced frame (by simp [isFrames]) turns isTurns
            all_goals
              rw [isFrames] at isOnly
              have lengths := congrArg List.length isOnly
              simp only [List.length_append, List.length_cons, List.length_nil]
                at lengths
              have noneLower : lower = [] :=
                List.length_eq_zero_iff.mp (by omega)
              rw [noneLower] at isBelow
              have isRest : below = rest := isBelow
            · obtain ⟨queue, weight, isDispatch, isGarbage⟩ := isFirst
              exact ⟨[], rt, unknown, past, queue, weight, rfl,
                by rw [isTop, isDispatch, isRest],
                fun _ member => (nomatch member), .inl isGarbage⟩
            · have isOld : rt.stackOf thread = [] ++ top :: below := by
                rw [isTop, isRest]
                rfl
              have inTurns : top.turns ≠ none := by
                rw [had]
                exact Option.some_ne_none old
              exact
                (garbage thread [] top below old isOld had).later left _
                  ⟨[], top, isOld, inTurns⟩
  | call operation =>
      obtain ⟨_, isOperation, isState⟩ := Runtime.next?_call taken
      rw [isState]
      refine garbage.push rfl ?_
      cases operation <;> first | rfl | cases isOperation
  | serviceCallback cb =>
      obtain ⟨ctx, _, isState⟩ := Runtime.next?_serviceCallback taken
      rw [isState]
      intro other above frame below turns isSplit isTurns
      exact garbage.later isSplit isTurns _
  | harborStart =>
      simp only [Runtime.next?] at taken
      split at taken
      · injection taken with isState
        rw [← isState]
        intro other above frame below turns isSplit isTurns
        exact garbage.later isSplit isTurns _
      · cases taken
  | harborExit =>
      simp only [Runtime.next?] at taken
      split at taken
      · split at taken
        · injection taken with isState
          rw [← isState]
          exact garbage.push rfl rfl
        · cases taken
      · cases taken

variable
    {initial final : Runtime Thread}
    {past : List (Runtime Thread × (Thread × Action))}

theorem turnsGarbage_of_run
    (run : Run (Run.Steps Runtime.next?) initial past final)
    (idle : ∀ thread, initial.stackOf thread = []) :
    TurnsGarbage past final := by
  induction run with
  | nil =>
      intro thread above frame below turns isSplit
      rw [idle thread] at isSplit
      simp at isSplit
  | snoc earlier taken inductionHypothesis =>
      exact inductionHypothesis.step taken

/--
However many threads run, and whatever they do: a message in a queue stays in it
for good, and what `MessageDispatch` hands to a callback is never a message from
a queue but its local variable, as that call found it on the stack.
-/
theorem messages_undelivered
    (run : Run (Run.Steps Runtime.next?) initial past final)
    (idle : ∀ thread, initial.stackOf thread = []) :
    ((Run.visited past final).Pairwise fun later earlier =>
        Accumulates earlier.system later.system) ∧
      ∀ thread above turns below,
        final.stackOf thread = above ++ .callback turns :: below →
          IsGarbage past thread below turns.msg := by
  refine ⟨?_, ?_⟩
  · exact run.pairwise_visited keptBySections_accumulates.trans
      keptBySections_accumulates.next
  · intro thread above turns below isStack
    exact turnsGarbage_of_run run idle thread above (.callback turns) below turns
      isStack rfl

end Runs

/-- A message that comes while its service is dispatched, and garbage. -/
theorem message_undelivered :
    ∃ past final,
      Run (Run.Steps Runtime.next?) (threadsOf Bool soloSystem) past final ∧
        ((Run.visited past final).Pairwise fun later earlier =>
          Accumulates earlier.system later.system) ∧
        (final.system.queues.mq 0).messageQueue =
          [{ source := 7, session := 1, data := none, sz := 0 }] ∧
        ∃ turns,
          final.stackOf false = [.callback turns] ∧
            IsGarbage past false [] turns.msg ∧ turns.msg.source = 9 := by
  let unknown : Unknown :=
    { Locality.quietUnknown with
      garbage := { source := 9, session := 0, data := none, sz := 0 } }
  obtain ⟨past, final, run, checks⟩ :=
    Run.exists_of_replay (threadsOf Bool soloSystem) Runtime.next?
      [(false, .call (.messageDispatch (some 0) 0)), (false, .advance unknown),
        (false, .advance unknown),
        (true,
          .call
            (.contextPush 1 { source := 7, session := 1, data := none, sz := 0 })),
        (true, .advance unknown), (true, .advance unknown),
        (false, .advance unknown), (false, .advance unknown)]
      (fun rt =>
        (rt.system.queues.mq 0).messageQueue =
            [{ source := 7, session := 1, data := none, sz := 0 }] ∧
          rt.stackOf false =
            [.callback
              { ctx := 0
                queue := 0
                weight := 0
                i := 0
                n := 1
                msg := { source := 9, session := 0, data := none, sz := 0 } }])
      (by decide +kernel)
  obtain ⟨stays, calls⟩ := of_decide_eq_true checks
  obtain ⟨accumulates, garbage⟩ := messages_undelivered run fun _ => rfl
  exact
    ⟨past, final, run, accumulates, stays, _, calls,
      garbage false [] _ [] calls, rfl⟩

end SkynetCpp
