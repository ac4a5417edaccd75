import SkynetCpp.Foundation.Outcome
import SkynetCpp.SocketRuns

namespace SkynetCpp

open Foundation

/-!
# Warnings that much is waiting

`SendSocket` is to warn when `wb_size` has reached `WARNING_SIZE`, and then when
it has reached twice as much as for the last warning; `SendBuffer_` is to say
that all was sent, and forgets the warnings.  Both assign a null pointer to a
string on the way, and the process ends there instead of the warning.
-/

variable {Worker : Type}

section Sizes

/-- So many bytes are waiting that `SendSocket` is to warn. -/
def Socket.Exceeds (sock : Socket Worker) : Prop :=
  WARNING_SIZE ≤ sock.wb_size ∧ sock.warn_size ≤ sock.wb_size

/-- `SendSocket` comes to its end exactly where it has nothing to warn of. -/
theorem warnSocket_yields_iff
    {v v' : SocketView Worker}
    {outcome : Outcome} :
    warnSocket.Yields v outcome v' ↔
      ¬ v.sock.Exceeds ∧ outcome = none ∧ v' = v := by
  have never
      {middle : SocketView Worker}
      {after : MessageData → SocketAction Worker Outcome} :
      ¬ (nullData >>= after).Yields middle outcome v' :=
    fun yields => nomatch yields
  unfold warnSocket load
  simp only [Program.yields_bind, Program.yields_ask]
  constructor
  · rintro ⟨_, _, ⟨_, rfl, rfl⟩, _, _, ⟨_, rfl, rfl⟩, later⟩
    split at later
    · obtain ⟨_, _, _, crashes⟩ := Program.yields_bind.mp later
      exact (never crashes).elim
    · next few =>
        exact ⟨few, Program.yields_pure.mp later⟩
  · rintro ⟨few, rfl, rfl⟩
    unfold Socket.Exceeds at few
    refine ⟨_, _, ⟨default, rfl, rfl⟩, _, _, ⟨default, rfl, rfl⟩, ?_⟩
    rw [if_neg few]
    exact .done

/-- And it comes to a crash only where it has something to warn of. -/
theorem warnSocket_crashes
    {given : OsAnswer → Prop}
    {v : SocketView Worker}
    (crashes : warnSocket.Crashes given v) :
    v.sock.Exceeds := by
  obtain ⟨_, -, crashes⟩ := crashes.of_ask
  obtain ⟨_, -, crashes⟩ := crashes.of_ask
  dsimp only at crashes
  split at crashes
  · next exceeds =>
      exact exceeds
  · exact (Program.not_crashes_pure _ crashes).elim

end Sizes

section Reports

/-- The `ud` of a `kSocketWarning`. -/
def warningUd : Outcome → Option Int32
  | some (.kSocketWarning, message) => some message.ud
  | _ => none

/-- What ends without a crash is no warning. -/
theorem Outcome.Survivable.noWarning
    {outcome : Outcome}
    (survives : outcome.Survivable) :
    warningUd outcome = none := by
  unfold warningUd
  split
  · next message =>
      exact absurd rfl (survives _ message rfl).2
  · rfl

/-- Code on a socket that comes to its end returned no warning. -/
theorem noWarning_of_surviving
    {action : SocketAction Worker Outcome}
    {v v' : SocketView Worker}
    {outcome : Outcome}
    (surviving : Surviving action)
    (yields : action.Yields v outcome v') :
    warningUd outcome = none :=
  Outcome.Survivable.noWarning
    (Program.Within.of_yields surviving (fun _ => trivial) (fun _ _ _ _ _ => trivial)
      yields).2

end Reports

section Runs

/-- Both write lists are empty. -/
def Socket.Empty (sock : Socket Worker) : Prop :=
  sock.high = [] ∧ sock.low = []

instance (sock : Socket Worker) : Decidable sock.Empty :=
  inferInstanceAs (Decidable (_ ∧ _))

/-- A socket, and the warnings since its lists were empty. -/
structure WarningState (Worker : Type) where
  view : SocketView Worker
  warnings : Nat

/-- What the socket thread does with a socket that is written to. -/
inductive WarningMove where
  | send
      (request : RequestSend Buffer)
      (priority : Priority)
      (udp_address : Option (List UInt8))
  | drain
  /-- Anything else that leaves the lists and the sizes as they are. -/
  | other

/-- The warnings are counted until the lists are empty. -/
def WarningState.after
    (s : WarningState Worker)
    (outcome : Outcome)
    (v' : SocketView Worker) : WarningState Worker where
  view := v'
  warnings :=
    if v'.sock.Empty then 0
    else if (warningUd outcome).any (0 < ·) then s.warnings + 1
    else s.warnings

/-- The lists and the sizes of a socket are the same. -/
structure KeepsLeft (v v' : SocketView Worker) : Prop where
  high : v'.sock.high = v.sock.high
  low : v'.sock.low = v.sock.low
  wb_size : v'.sock.wb_size = v.sock.wb_size
  warn_size : v'.sock.warn_size = v.sock.warn_size

/-- A step on a socket, from which the process goes on. -/
inductive WarningStep :
    WarningState Worker → WarningMove × Outcome → WarningState Worker →
      Prop where
  | send
      {s : WarningState Worker}
      {v' : SocketView Worker}
      {request : RequestSend Buffer}
      {priority : Priority}
      {udp_address : Option (List UInt8)}
      {outcome : Outcome}
      (yields :
        (sendSocket request priority udp_address).Yields s.view outcome v') :
      WarningStep s (.send request priority udp_address, outcome)
        (s.after outcome v')
  | drain
      {s : WarningState Worker}
      {v' : SocketView Worker}
      {outcome : Outcome}
      (yields : sendBuffer.Yields s.view outcome v') :
      WarningStep s (.drain, outcome) (s.after outcome v')
  | other
      {s : WarningState Worker}
      {v' : SocketView Worker}
      (keeps : KeepsLeft s.view v') :
      WarningStep s (.other, none) (s.after none v')

/-- The lists are empty, and the socket was not closed. -/
structure WarningState.Drained (s : WarningState Worker) : Prop where
  isEmpty : s.view.sock.Empty
  isOpen : s.view.sock.type ≠ .kSocketTypeInvalid

/-- What a step says, after so many warnings. -/
structure WarnsRightly
    (s : WarningState Worker)
    (label : WarningMove × Outcome)
    (s' : WarningState Worker) : Prop where
  rises :
    ∀ ud, warningUd label.2 = some ud → 0 < ud →
      WARNING_SIZE.toInt * 2 ^ s.warnings ≤ s'.view.sock.wb_size.toInt
  drains :
    label.1 = .drain → s'.Drained →
      warningUd label.2 = if s.warnings = 0 then none else some 0
  once : warningUd label.2 = some 0 → label.1 = .drain ∧ s'.Drained

variable
    {s s' initial final : WarningState Worker}
    {label : WarningMove × Outcome}
    {past : List (WarningState Worker × (WarningMove × Outcome))}

/-- A step that the process survives raises no warning. -/
theorem WarningStep.noWarning
    (step : WarningStep s label s') :
    warningUd label.2 = none := by
  cases step with
  | send yields =>
      exact noWarning_of_surviving (.sendSocket _ _ _) yields
  | drain yields =>
      exact noWarning_of_surviving .sendBuffer yields
  | other =>
      rfl

/-- So none is counted. -/
theorem WarningStep.warnings
    (step : WarningStep s label s')
    (unwarned : s.warnings = 0) :
    s'.warnings = 0 := by
  have counted
      {outcome : Outcome}
      {v' : SocketView Worker}
      (noWarning : warningUd outcome = none) :
      (s.after outcome v').warnings = 0 := by
    simp only [WarningState.after, noWarning, unwarned, Option.any_none]
    split <;> rfl
  have noWarning := step.noWarning
  cases step with
  | send | drain | other =>
      exact counted noWarning

/-- What is said of warnings holds of a step before which there was none. -/
theorem WarningStep.warnsRightly
    (step : WarningStep s label s')
    (unwarned : s.warnings = 0) :
    WarnsRightly s label s' := by
  have noWarning := step.noWarning
  refine ⟨fun ud isWarning => ?_, fun _ _ => ?_, fun isZero => ?_⟩
  · cases noWarning.symm.trans isWarning
  · rw [if_pos unwarned]
    exact noWarning
  · cases noWarning.symm.trans isZero

/-- A connected TCP socket with bytes to send. -/
def leftSocket
    (dw_buffer : Buffer)
    (high : List WriteBuffer)
    (wb_size : Int64)
    (notes : List SocketNote) : WarningState Unit where
  view :=
    { index := 1
      sock :=
        { (blankSocket : Socket Unit) with
          id := 1, type := .kSocketTypeConnected, high := high,
          wb_size := wb_size, dw_buffer := dw_buffer, dw_size := 5 }
      c_str := fun object => ⟨some object, 16⟩
      notes := notes }
  warnings := 0

/-- Answers by which the seventh step of `SendBuffer`, `write`, takes bytes. -/
def writeTakes (n : Int) : List OsAnswer :=
  List.replicate 6 default ++
    { (default : OsAnswer) with result := n } :: List.replicate 12 default

end Runs

end SkynetCpp
