import SkynetCpp.SocketWorkers

namespace SkynetCpp

open Foundation

/-!
# Reports that are never made

`ForceClose` and `CloseRead` assign a null pointer to a string before they come
to their end, and whatever returns `kSocketClose` calls one of them first.  So
no function returns it, and no `Poll` does.  A `kSocketWarning` is not returned
either: `SendSocket` and `SendBuffer_` assign the null pointer themselves.
-/

variable {Worker α β : Type}

/-- What `Poll` returned. -/
def Happening.polled? : Happening Worker → Option (Report × SocketMessage)
  | .polled report message => some (report, message)
  | _ => none

namespace SocketServer

/-- What `Poll` returned so far, latest first. -/
def polls (s : SocketServer Worker) : List (Report × SocketMessage) :=
  s.log.filterMap Happening.polled?

/-- Every incarnation of a socket is reported to be closed at most once. -/
def ClosedOnce (s : SocketServer Worker) : Prop :=
  ∀ about,
    (s.polls.countP fun poll =>
      poll.1 = .kSocketClose ∧ poll.2.about = about) ≤ 1

/-- After its close was reported, nothing is heard of a socket's traffic. -/
def QuietAfterClose (s : SocketServer Worker) : Prop :=
  ∀ later message earlier,
    s.polls = later ++ (.kSocketClose, message) :: earlier →
      ∀ poll ∈ later,
        poll.2.about = message.about →
          poll.1 ≠ .kSocketData ∧ poll.1 ≠ .kSocketUDP ∧
            poll.1 ≠ .kSocketOpen ∧ poll.1 ≠ .kSocketAccept

/-- No `Poll` returned `kSocketClose`. -/
def Unclosed (s : SocketServer Worker) : Prop :=
  ∀ poll ∈ s.polls, poll.1 ≠ .kSocketClose

theorem Unclosed.closedOnce
    {s : SocketServer Worker}
    (isUnclosed : s.Unclosed) : s.ClosedOnce := by
  intro about
  have none :
      (s.polls.countP fun poll =>
        poll.1 = .kSocketClose ∧ poll.2.about = about) = 0 := by
    rw [List.countP_eq_zero]
    intro poll member
    simp [isUnclosed poll member]
  omega

theorem Unclosed.quietAfterClose
    {s : SocketServer Worker}
    (isUnclosed : s.Unclosed) : s.QuietAfterClose := by
  intro later message earlier split
  refine absurd rfl (isUnclosed (.kSocketClose, message) ?_)
  rw [split]
  exact List.mem_append_right _ List.mem_cons_self

end SocketServer

section Sockets

/-- An outcome that is neither a report of a close nor a warning. -/
def Outcome.Survivable (outcome : Outcome) : Prop :=
  ∀ report message,
    outcome = some (report, message) →
      report ≠ .kSocketClose ∧ report ≠ .kSocketWarning

/-- Code on a socket that returns neither a close nor a warning. -/
abbrev Surviving (action : SocketAction Worker Outcome) : Prop :=
  action.Within (fun _ _ => True) Outcome.Survivable

namespace Surviving

section Rules

theorem none : Surviving (Pure.pure none : SocketAction Worker Outcome) :=
  fun _ _ => nofun

theorem ends
    {report : Report}
    {message : SocketMessage}
    (isOther : report ≠ .kSocketClose ∧ report ≠ .kSocketWarning) :
    Surviving
      (Pure.pure (Option.some (report, message)) :
        SocketAction Worker Outcome) := by
  rintro _ _ ⟨⟩
  exact isOther

/-- What was run before does not matter. -/
theorem after
    {first : SocketAction Worker α}
    {rest : α → SocketAction Worker Outcome}
    (surviving : ∀ result, Surviving (rest result)) :
    Surviving (first >>= rest) :=
  .bind (.any first) fun result _ => surviving result

theorem ite
    {condition : Prop}
    [Decidable condition]
    {first second : SocketAction Worker Outcome}
    (onFirst : Surviving first)
    (onSecond : Surviving second) :
    Surviving (if condition then first else second) :=
  Program.Within.ite (fun _ => onFirst) (fun _ => onSecond)

theorem report
    {action : SocketAction Worker SocketMessage}
    {report : Report}
    (isOther : report ≠ .kSocketClose ∧ report ≠ .kSocketWarning) :
    Surviving (do return Option.some (report, ← action)) :=
  after fun _ => ends isOther

theorem reportError
    (err : String) :
    Surviving (SkynetCpp.reportError err : SocketAction Worker Outcome) :=
  report (by decide)

/-- Nothing is run behind `ForceClose`. -/
theorem forceClose
    (count : Nat)
    {rest : SocketMessage → SocketAction Worker Outcome} :
    Surviving (SkynetCpp.forceClose count >>= rest) := by
  unfold SkynetCpp.forceClose
  rw [Program.bind_assoc]
  exact nullData_ends _ _

/-- Nothing is run behind `CloseRead`. -/
theorem closeRead
    {rest : SocketMessage → SocketAction Worker Outcome} :
    Surviving (SkynetCpp.closeRead >>= rest) := by
  unfold SkynetCpp.closeRead
  simp only [Program.bind_assoc]
  exact after fun _ => after fun _ => nullData_ends _ _

end Rules

section Writing

theorem closeWrite
    (count : Nat) :
    Surviving (SkynetCpp.closeWrite count : SocketAction Worker Outcome) :=
  after fun _ => ite (forceClose count) <|
    after fun _ => ite (forceClose count) <| ite (report (by decide)) <|
      after fun _ => after fun _ => after fun _ => reportError _

theorem sendListTCPLoop
    (priority : Priority)
    (count nodes : Nat) :
    Surviving
      (SkynetCpp.sendListTCPLoop priority count nodes :
        SocketAction Worker Outcome) := by
  induction nodes with
  | zero =>
      exact none
  | succ nodes inductionHypothesis =>
      refine after fun written => ?_
      cases written
      · exact none
      · exact inductionHypothesis
      · exact none
      · exact closeWrite count

theorem sendListUDPLoop
    (priority : Priority)
    (nodes : Nat) :
    Surviving
      (SkynetCpp.sendListUDPLoop priority nodes :
        SocketAction Worker Outcome) := by
  induction nodes with
  | zero =>
      exact none
  | succ nodes inductionHypothesis =>
      refine after fun written => ?_
      cases written
      · exact none
      · exact inductionHypothesis
      · exact none
      · exact none

theorem sentBuffer
    (count : Nat) :
    Surviving (SkynetCpp.sentBuffer count : SocketAction Worker Outcome) :=
  after fun _ => after fun _ => after fun _ =>
    ite (forceClose count) <| after fun _ =>
      ite (reportError _) <| after fun _ =>
        ite (after fun _ => nullData_ends _ _) none

theorem afterList
    (outcome : Outcome)
    {rest : SocketAction Worker Outcome}
    (goesOn : Surviving rest) :
    Surviving (SkynetCpp.afterList outcome rest) := by
  cases outcome with
  | none =>
      exact goesOn
  | some outcome =>
      obtain ⟨report, message⟩ := outcome
      cases report
      case kSocketErr => exact ends (by decide)
      all_goals exact none

theorem sendBuffer :
    Surviving (SkynetCpp.sendBuffer : SocketAction Worker Outcome) := by
  have sentLow :
      Surviving (SkynetCpp.sentLow 1 : SocketAction Worker Outcome) :=
    after fun _ => ite (after fun _ => none) <|
      after fun _ => ite (sentBuffer 1) none
  have sentHigh :
      Surviving (SkynetCpp.sentHigh 1 : SocketAction Worker Outcome) :=
    after fun _ => ite
      (after fun _ => ite (sentBuffer 1) <|
        after fun outcome => afterList outcome sentLow)
      none
  have sent :
      Surviving (SkynetCpp.sendBuffer_ 1 : SocketAction Worker Outcome) :=
    after fun _ => after fun _ => after fun outcome =>
      afterList outcome sentHigh
  refine after fun _ => ite (after fun _ => ?_) none
  exact Program.Within.bind sent fun _ survives =>
    .bind (.any _) fun _ _ => survives

theorem warnSocket :
    Surviving (SkynetCpp.warnSocket : SocketAction Worker Outcome) :=
  after fun _ => after fun _ => ite (after fun _ => nullData_ends _ _) none

theorem sendSocket
    (request : RequestSend Buffer)
    (priority : Priority)
    (address : Option (List UInt8)) :
    Surviving
      (SkynetCpp.sendSocket request priority address :
        SocketAction Worker Outcome) := by
  have enabled :
      Surviving (do
        if ← enableWrite true then
          return ← SkynetCpp.reportError "enable write failed"
        SkynetCpp.warnSocket : SocketAction Worker Outcome) :=
    after fun _ => ite (reportError _) warnSocket
  have onEmpty :
      Surviving
        (sendSocketEmpty request priority address :
          SocketAction Worker Outcome) :=
    after fun _ => ite (after fun _ => enabled) <|
      after fun _ => ite (after fun _ => enabled) none
  have onMore :
      Surviving
        (sendSocketMore request priority address :
          SocketAction Worker Outcome) :=
    after fun _ => ite (after fun _ => after fun _ => warnSocket) <|
      after fun _ => warnSocket
  exact
    after fun _ => ite none <| after fun _ => ite none <| ite none <|
      ite none <| after fun _ => ite none <| ite none <|
        after fun _ => ite onEmpty onMore

theorem sendRequested
    (request : RequestSend Buffer)
    (priority : Priority) :
    Surviving
      (SkynetCpp.sendRequested request priority :
        SocketAction Worker Outcome) :=
  Program.Within.bind (sendSocket request priority Option.none)
    fun _ survives => .bind (.any _) fun _ _ => survives

end Writing

section Requests

theorem listenSocket
    (id fd : Int32)
    (opaqueValue : UInt64) :
    Surviving
      (SkynetCpp.listenSocket id fd opaqueValue :
        SocketAction Worker Outcome) := by
  refine after fun _ => ite (after fun _ => after fun name => ?_) ?_
  · obtain ⟨named, text, port⟩ := name
    refine ite ?_ (after fun _ => report (by decide))
    cases text
    · exact after fun _ => report (by decide)
    · exact report (by decide)
  · exact after fun _ => after fun _ => ends (by decide)

theorem bindSocket
    (id fd : Int32)
    (opaqueValue : UInt64) :
    Surviving
      (SkynetCpp.bindSocket id fd opaqueValue :
        SocketAction Worker Outcome) :=
  after fun _ => ite (after fun _ => report (by decide)) (report (by decide))

theorem closeSocket
    (id shutdown : Int32) :
    Surviving
      (SkynetCpp.closeSocket id shutdown : SocketAction Worker Outcome) :=
  after fun _ => ite none <| after fun _ => after fun _ =>
    ite (forceClose 0) <| after fun _ => ite none closeRead

theorem setUDPAddress
    (id : Int32)
    (address : List UInt8) :
    Surviving
      (SkynetCpp.setUDPAddress id address : SocketAction Worker Outcome) :=
  after fun _ => ite none <| after fun _ => ite (reportError _) <|
    after fun _ => after fun _ => after fun _ => none

/-- A request to epoll that may fail, of a socket that a request names. -/
theorem enabled
    {invalid failed : SocketAction Worker Bool}
    (err : String) :
    Surviving (do
      if ← invalid then return Option.none
      if ← failed then return ← SkynetCpp.reportError err
      return Option.none) :=
  after fun _ => ite none <| after fun _ => ite (reportError _) none

end Requests

section Events

theorem forwardMessageTCP
    (count : Nat) :
    Surviving
      (SkynetCpp.forwardMessageTCP count : SocketAction Worker Outcome) := by
  have atEnd :
      Surviving (forwardEnd count : SocketAction Worker Outcome) :=
    after fun _ => after fun _ => ite
      (after fun _ => ite (forceClose count) none) <|
      after fun _ => ite none <| ite (forceClose count) closeRead
  have data (sz n : Int32) (bytes : List UInt8) :
      Surviving (forwardData sz n bytes : SocketAction Worker Outcome) :=
    after fun _ => ite none <| after fun _ =>
      ite (after fun _ => ends (by decide)) <|
        ite (after fun _ => ends (by decide)) (ends (by decide))
  exact after fun sz => after fun _ =>
    ite (ite none <| after fun _ => reportError _) <| ite atEnd (data _ _ _)

theorem forwardMessageUDP
    (count : Nat) :
    Surviving
      (SkynetCpp.forwardMessageUDP count : SocketAction Worker Outcome) :=
  after fun _ => ite (ite none <| after fun _ => forceClose count) <|
    after fun _ => ite none (report (by decide))

theorem reportConnect :
    Surviving (SkynetCpp.reportConnect : SocketAction Worker Outcome) := by
  refine after fun _ => ite (after fun _ => forceClose 0) ?_
  refine after fun _ => after fun _ => after fun _ =>
    ite (forceClose 0) (after fun text => ?_)
  cases text
  · exact nullData_ends _ _
  · exact ends (by decide)

theorem pollEof :
    Surviving (SkynetCpp.pollEof : SocketAction Worker Outcome) :=
  after fun _ => forceClose 0

end Events

end Surviving

end Sockets

section Server

/-- A step behind which a close was reported only if one was before. -/
def Tacit (s s' : SocketServer Worker) : Prop :=
  s.Unclosed → s'.Unclosed

instance : Std.Refl (@Tacit Worker) where
  refl _ := id

/-- No happening on a socket is a return of `Poll`. -/
theorem polled?_happening
    (k incarnation : Nat)
    (note : SocketNote) :
    Happening.polled? (note.happening k incarnation : Happening Worker) =
      none := by
  cases note <;> rfl

@[simp] theorem put_polls
    (k : Nat)
    (part : SocketView Worker)
    (s : SocketServer Worker) :
    (s.put k part).polls = s.polls := by
  have noPolls :
      (part.notes.map fun note =>
            (note.happening k (s.slot k).incarnation :
              Happening Worker)).filterMap
          Happening.polled? = [] := by
    rw [List.filterMap_eq_nil_iff]
    intro happening member
    obtain ⟨note, _, rfl⟩ := List.mem_map.mp member
    exact polled?_happening ..
  simp only [SocketServer.polls, SocketServer.put, List.filterMap_append,
    noPolls, List.nil_append]

theorem Tacit.samePolls
    {s s' : SocketServer Worker}
    (samePolls : s'.polls = s.polls) : Tacit s s' := by
  unfold Tacit SocketServer.Unclosed
  rw [samePolls]
  exact id

theorem WorkerStep.tacit
    {s s' : SocketServer Worker}
    (step : WorkerStep s s') : Tacit s s' := by
  cases step with
  | onSlot k borrows =>
      exact .samePolls (put_polls ..)
  | note happening isCall =>
      refine .samePolls ?_
      cases happening <;> first | rfl | cases isCall
  | nothing | reserve | allocate | request =>
      exact .samePolls rfl

/-- Code that reports no close. -/
abbrev Quieting (action : ServerAction Worker α) : Prop :=
  action.Follows Tacit

/-- Code that reports no close, and returns neither that nor a warning. -/
abbrev Returning (action : ServerAction Worker Outcome) : Prop :=
  action.Within Tacit Outcome.Survivable

theorem Surviving.atSlot
    {action : SocketAction Worker Outcome}
    (surviving : Surviving action)
    (k : Nat) :
    Returning (SkynetCpp.atSlot k action) := by
  refine (Program.Within.zoom surviving _ _).mono ?_ fun _ survives => survives
  rintro s s' ⟨part, -, rfl⟩
  exact .samePolls (put_polls ..)

namespace Quieting

theorem atSlot
    (k : Nat)
    (action : SocketAction Worker α) :
    Quieting (SkynetCpp.atSlot k action) := by
  refine (Program.Within.zoom (.any action) _ _).mono ?_ fun _ => id
  rintro s s' ⟨part, -, rfl⟩
  exact .samePolls (put_polls ..)

/-- A step that leaves the log alone. -/
theorem same
    {value : OsAnswer → SocketServer Worker → α}
    {next : OsAnswer → SocketServer Worker → SocketServer Worker}
    (samePolls : ∀ input s, (next input s).polls = s.polls) :
    Quieting (Program.act value next) :=
  .act fun input s => .samePolls (samePolls input s)

theorem takeRequest :
    Quieting (SkynetCpp.takeRequest : ServerAction Worker _) := by
  refine .attempt fun s s' taken => ?_
  split at taken
  · cases taken
  · cases taken
    exact .samePolls rfl

theorem clearClosedEvent
    (message : SocketMessage)
    (type : Report) :
    Quieting (SkynetCpp.clearClosedEvent message type :
      ServerAction Worker Unit) := by
  have loop (rounds : Nat) :
      ∀ i,
        Quieting
          (clearClosedEventLoop message.id rounds i :
            ServerAction Worker Unit) := by
    induction rounds with
    | zero =>
        exact fun _ => .pure _
    | succ rounds inductionHypothesis =>
        refine fun i => .bind (.ask _) fun found => ?_
        cases found with
        | none =>
            exact inductionHypothesis _
        | some j =>
            exact .bind (atSlot j _) fun _ =>
              .ite (same fun _ _ => rfl) (inductionHypothesis _)
  exact .ite (.bind (.ask _) fun range => loop _ _) (.pure _)

theorem pollReturn
    {outcome : Outcome}
    (survives : outcome.Survivable) :
    Quieting (SkynetCpp.pollReturn outcome : ServerAction Worker Unit) := by
  cases outcome with
  | none =>
      exact .pure _
  | some outcome =>
      obtain ⟨report, message⟩ := outcome
      refine .act fun _ s isUnclosed poll member => ?_
      rcases List.mem_cons.mp member with rfl | earlier
      · rintro rfl
        exact (survives _ message rfl).1 rfl
      · exact isUnclosed poll earlier

theorem fetchEvent :
    Quieting (SkynetCpp.fetchEvent : ServerAction Worker _) := by
  refine same fun _ s => ?_
  dsimp only
  split
  · rfl
  · split <;> rfl

end Quieting

namespace Returning

theorem none : Returning (Pure.pure none : ServerAction Worker Outcome) :=
  fun _ => nofun

theorem after
    {first : ServerAction Worker α}
    {rest : α → ServerAction Worker Outcome}
    (quieting : Quieting first)
    (returning : ∀ result, Returning (rest result)) :
    Returning (first >>= rest) :=
  .bind quieting fun result _ => returning result

theorem ite
    {condition : Prop}
    [Decidable condition]
    {first second : ServerAction Worker Outcome}
    (onFirst : Returning first)
    (onSecond : Returning second) :
    Returning (if condition then first else second) :=
  Program.Within.ite (fun _ => onFirst) (fun _ => onSecond)

theorem handleRequest
    (request : SocketRequest Buffer) :
    Returning
      (serverThread.handleRequest request : ServerAction Worker Outcome) := by
  cases request with
  | resume | connect =>
      -- nothing is run behind `data = nullptr`
      trivial
  | pause | triggerWrite =>
      exact Surviving.atSlot (.enabled _) _
  | bind id fd opaqueValue =>
      exact (Surviving.bindSocket _ _ _).atSlot _
  | listen id fd opaqueValue =>
      exact (Surviving.listenSocket _ _ _).atSlot _
  | close id shutdown =>
      exact (Surviving.closeSocket _ _).atSlot _
  | exit =>
      exact nullData_ends _ _
  | send request | sendLow request =>
      exact (Surviving.sendRequested request _).atSlot _
  | sendUdp request address =>
      exact (Surviving.sendSocket request _ _).atSlot _
  | setUdp id address =>
      exact (Surviving.setUDPAddress _ _).atSlot _
  | setOpt | udp =>
      exact after (.atSlot _ _) fun _ => none
  | unknown =>
      exact none

theorem reportAccept
    (k : Nat) :
    Returning (SkynetCpp.reportAccept k : ServerAction Worker Outcome) := by
  have reserved :
      Quieting (reserveId : ServerAction Worker (Option Int32)) :=
    Working.reserveId.mono fun _ _ step => step.tacit
  refine after (.ask _) fun _ => ite (ite ?_ none) ?_
  · have reported :
        Surviving (do SkynetCpp.reportError (← strerror) :
          SocketAction Worker Outcome) :=
      .after fun _ => .reportError _
    have replaced : Quieting (replaceSpare : ServerAction Worker Unit) :=
      .bind (.ask _) fun _ => .ite (Quieting.same fun _ s => rfl) (.pure _)
    exact .bind (reported.atSlot k) fun _ survives =>
      .bind replaced fun _ _ => survives
  · refine after reserved fun id => ?_
    cases id with
    | none =>
        exact none
    | some id =>
        refine after (.atSlot _ _) fun _ => after (.atSlot _ _) fun _ =>
          ite (after (.atSlot _ _) fun _ => nullData_ends _ _) none

theorem pollAfterRead
    (index : Nat)
    (event : Event)
    {outcome : Outcome}
    (survives : outcome.Survivable) :
    Returning
      (SkynetCpp.pollAfterRead index event outcome :
        ServerAction Worker Outcome) := by
  have returned :
      Returning (do
        let type := outcome.map Prod.fst
        if event.write ∧ type ≠ some .kSocketClose ∧
            type ≠ some .kSocketErr then
          putBackWrite index
        return outcome : ServerAction Worker Outcome) :=
    ite (after (Quieting.same fun _ _ => rfl) fun _ => survives) survives
  cases outcome with
  | none =>
      exact returned
  | some outcome =>
      obtain ⟨report, message⟩ := outcome
      cases report
      case kSocketMore | kSocketUDP =>
        refine after (Quieting.same fun _ _ => rfl) fun _ => ?_
        rintro _ _ ⟨⟩
        decide
      all_goals exact returned

theorem pollEvent
    (index k : Nat)
    (event : Event)
    (type : SocketType) :
    Returning
      (serverThread.pollEvent index k event type :
        ServerAction Worker Outcome) := by
  have read :
      Returning
        (serverThread.pollRead index k event : ServerAction Worker Outcome) := by
    have forwarded :
        Surviving (do
          if (← load (·.protocol)) = .TCP then
            SkynetCpp.forwardMessageTCP 0
          else SkynetCpp.forwardMessageUDP 0 :
          SocketAction Worker Outcome) :=
      .after fun _ => .ite (.forwardMessageTCP 0) (.forwardMessageUDP 0)
    exact .bind (forwarded.atSlot k) fun _ survives =>
      pollAfterRead index event survives
  have flags :
      Returning
        (serverThread.pollFlags index k event : ServerAction Worker Outcome) :=
    ite read <| ite (Surviving.sendBuffer.atSlot k) <|
      ite (Surviving.atSlot (.after fun _ => .reportError _) k) <|
        ite (Surviving.pollEof.atSlot k) none
  cases type
  case kSocketTypeConnecting => exact Surviving.reportConnect.atSlot k
  case kSocketTypeListen => exact reportAccept k
  case kSocketTypeInvalid => exact none
  all_goals exact flags

end Returning

/-- A round of `Poll` reports no close. -/
theorem Quieting.pollRound :
    Quieting (SkynetCpp.pollRound : ServerAction Worker Unit) := by
  have events :
      Quieting (serverThread.pollEvents : ServerAction Worker Unit) := by
    refine .bind (.ask _) fun _ =>
      .bind (.orM (.pure _) (same fun _ _ => rfl)) fun _ =>
        .ite (.bind fetchEvent fun fetched => ?_) (.pure _)
    obtain ⟨index, event, type⟩ := fetched
    dsimp only
    split
    · exact .pure _
    · exact Program.Within.bind (Returning.pollEvent _ _ _ _)
        fun _ survives => pollReturn survives
  have requested :
      Quieting (serverThread.pollRequest : ServerAction Worker Unit) := by
    have handled :
        Returning (serverThread.ctrlCmd : ServerAction Worker Outcome) :=
      .after takeRequest Returning.handleRequest
    refine Program.Within.bind handled fun outcome survives => ?_
    cases outcome with
    | none =>
        exact Program.Follows.pure ()
    | some outcome =>
        exact Program.Follows.bind (clearClosedEvent _ _)
          fun _ => pollReturn survives
  refine .bind (.ask _) fun _ => .ite (.bind (.ask _) fun _ => ?_) events
  exact .ite requested (.bind (same fun _ _ => rfl) fun _ => events)

end Server

end SkynetCpp
