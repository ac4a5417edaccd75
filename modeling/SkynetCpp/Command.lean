import SkynetCpp.HandleNames
import SkynetCpp.Launch

namespace SkynetCpp

/-!
# Commands on names and handles

The commands of `command.cpp` that write or read names and the text of
handles, with `SkynetQueryname` and the address of `ServiceSendname`.  Each
has its own way of reading a text, so that they can be compared.
-/

section Texts

/-- `find_first_of(' ')`; nothing stands for `npos`. -/
def findSpace (text : String) : Option Nat :=
  text.toList.findIdx? (· = ' ')

/-- `substr(0, pos - 1)`; for no position, or the first, the count exceeds any length. -/
def substrBefore
    (text : String) : Option Nat → String
  | none => text
  | some 0 => text
  | some (pos + 1) => String.ofList (text.toList.take pos)

/-- `substr(pos + 1)`; `npos + 1` is 0. -/
def substrBehind
    (text : String) : Option Nat → String
  | none => text
  | some pos => String.ofList (text.toList.drop (pos + 1))

/-- `isspace`. -/
def isSpaceChar (c : Char) : Bool :=
  c = ' ' ∨ 9 ≤ c.toNat ∧ c.toNat ≤ 13

/-- The value of a hexadecimal digit. -/
def hexDigit (c : Char) : Option Nat :=
  if '0' ≤ c ∧ c ≤ '9' then some (c.toNat - '0'.toNat)
  else if 'a' ≤ c ∧ c ≤ 'f' then some (c.toNat - 'a'.toNat + 10)
  else if 'A' ≤ c ∧ c ≤ 'F' then some (c.toNat - 'A'.toNat + 10)
  else none

/-- The value of the leading hexadecimal digits, if there are any. -/
def hexDigits : List Char → Option Nat → Option Nat
  | [], value => value
  | c :: rest, value =>
      match hexDigit c with
      | some digit => hexDigits rest (some (value.getD 0 * 16 + digit))
      | none => value

/-- The digits behind an optional `0x`, which needs a digit behind it. -/
def hexNumber : List Char → Option Nat
  | '0' :: x :: rest =>
      if x = 'x' ∨ x = 'X' then
        some ((hexDigits rest none).getD 0)
      else
        hexDigits ('0' :: x :: rest) none
  | text => hexDigits text none

/-- What `strtoul` reads in base 16: whether there is a minus sign, and the number. -/
def hexPrefix (text : List Char) : Option (Bool × Nat) :=
  match text.dropWhile isSpaceChar with
  | '-' :: rest => (hexNumber rest).map (true, ·)
  | '+' :: rest => (hexNumber rest).map (false, ·)
  | rest => (hexNumber rest).map (false, ·)

/-- A number that was read, as an `unsigned long`. -/
def signedLong : Bool × Nat → UInt64
  | (true, value) => 0 - UInt64.ofNat value
  | (false, value) => UInt64.ofNat value

/-- `strtoul(text, NULL, 16)`. -/
def strtoul (text : List Char) : UInt64 :=
  match hexPrefix text with
  | none => 0
  | some number =>
      if number.2 < 2 ^ 64 then signedLong number else 0xffffffffffffffff

/-- `std::stoul(text, nullptr, 16)`. -/
def stoul (text : List Char) : Except Fault UInt64 :=
  match hexPrefix text with
  | none => .error (.exception "stoul")
  | some number =>
      if number.2 < 2 ^ 64 then
        .ok (signedLong number)
      else
        .error (.exception "stoul")

/-- `std::to_string`. -/
def handleText (handle : UInt32) : String :=
  toString handle.toNat

/--
`ID2Hex`.  Its parameter points to a `std::string` and is indexed like an
array of characters: every index is a string of its own.
-/
def id2Hex
    (str : Nat → String)
    (id : UInt32) : Nat → String
  | 0 => ":"
  | 9 => "\x00"
  | i =>
      if i < 9 then
        String.singleton
          ("0123456789ABCDEF".toList.getD
            ((id >>> (UInt32.ofNat (8 - i) * 4)) &&& 0xf).toNat '0')
      else
        str i

end Texts

/-- `CmdRegister`. -/
def cmdRegister
    (s : System)
    (ctx : ContextId)
    (param : String) : Except Fault (String × System) :=
  let handle := (s.contexts ctx).handle
  if param = "" then
    .ok (handleText handle, s)
  else if param.toList.head? = some '.' then
    handleNamehandle s handle param
  else
    return ("",
      ← skynetError s handle ("Can't register global name " ++ param ++ " in C"))

/-- `CmdQuery`. -/
def cmdQuery
    (s : System)
    (param : String) : String :=
  if param.toList.head? = some '.' then
    let handle := handleFindname s param
    if handle ≠ 0 then handleText handle else ""
  else
    ""

/-- `CmdName`. -/
def cmdName
    (s : System)
    (ctx : ContextId)
    (param : String) : Except Fault (String × System) :=
  let pos := findSpace param
  let name := substrBefore param pos
  match (substrBehind param pos).toList with
  | ':' :: digits => do
      let handle_id ← stoul digits
      if handle_id.toUInt32 = 0 then
        .ok ("", s)
      else if name.toList.head? = some '.' then
        handleNamehandle s (s.contexts ctx).handle name
      else
        return ("",
          ← skynetError s (s.contexts ctx).handle
            ("Can't set global name " ++ name ++ " in C"))
  | _ => .ok ("", s)

/-- `ToHandle`. -/
def toHandle
    (s : System)
    (ctx : ContextId)
    (param : String) : Except Fault (UInt32 × System) :=
  match param.toList with
  | ':' :: digits => do
      let value ← stoul digits
      .ok (value.toUInt32, s)
  | '.' :: name => .ok (handleFindname s (String.ofList name), s)
  | _ => return (0, ← skynetError s (s.contexts ctx).handle param)

/-- `CmdLaunch`, for the modules that `Modules::Query` finds. -/
def cmdLaunch
    (modules : String → Option Module)
    (inst : Bool)
    (stack : Nat → Option Message)
    (fuel : Nat)
    (init : ContextId → System → Except Fault (Int × System))
    (memory : Nat → String)
    (s : System)
    (param : String) : Except Fault (String × System) := do
  let pos := findSpace param
  let name := substrBefore param pos
  let request : LaunchRequest :=
    { name := name
      param := substrBehind param pos
      mod := modules name
      inst := inst }
  match ← newContext request stack fuel init s with
  | (none, s) => .ok ("", s)
  | (some ctx, s) => .ok (id2Hex memory (s.contexts ctx).handle 0, s)

/-- `CmdMonitor`, with the handle that `SetMonitorExit` stored. -/
def cmdMonitor
    (monitor_exit : UInt32)
    (s : System)
    (ctx : ContextId)
    (param : String) : Except Fault (String × UInt32 × System) :=
  if param = "" ∨ param.toList.head? = some '\x00' then
    .ok (if monitor_exit ≠ 0 then handleText monitor_exit else "",
      monitor_exit, s)
  else do
    let (handle, s) ← toHandle s ctx param
    .ok ("", handle, s)

/-- `SkynetQueryname`. -/
def skynetQueryname
    (s : System)
    (ctx : ContextId)
    (name : String) : Except Fault (UInt32 × System) :=
  match name.toList with
  | ':' :: digits => do
      let value ← stoul digits
      .ok (value.toUInt32, s)
  | '.' :: _ => .ok (0, s)
  | _ =>
      return (0,
        ← skynetError s (s.contexts ctx).handle
          ("Don't support query global name " ++ name))

/-- Where `ServiceSendname` sends to. -/
inductive SendnameDestination where
  | handle (des : UInt32)
  /-- A local name that is not bound. -/
  | unbound
  | remote
  deriving Repr, DecidableEq

/-- The destination that `ServiceSendname` reads off an address. -/
def sendnameDestination
    (s : System)
    (addr : String) : SendnameDestination :=
  match addr.toList with
  | ':' :: digits => .handle (strtoul digits).toUInt32
  | '.' :: name =>
      let des := handleFindname s (String.ofList name)
      if des = 0 then .unbound else .handle des
  | _ => .remote

/--
`ServiceSendname`.  A message to a global name is written through a pointer
that was never set.
-/
def serviceSendname
    (s : System)
    (ctx : ContextId)
    (source : UInt32)
    (addr : String)
    (type : UInt32)
    (session : Int)
    (data : Option Payload)
    (sz : UInt64) : Except Fault (Int × System) :=
  let source := if source = 0 then (s.contexts ctx).handle else source
  match sendnameDestination s addr with
  | .handle des => serviceSend s (some ctx) source des type session data sz
  | .unbound => .ok (-1, s)
  | .remote =>
      if sz &&& kMessageTypeMask ≠ sz then
        .ok (-2, s)
      else do
        let _ ← filterArgs s (some ctx) type session data sz
        .error .nullPointer

/-- Every way of resolving a local name gives the handle. -/
structure Resolves
    (s : System)
    (ctx : ContextId)
    (name : String)
    (handle : UInt32) : Prop where
  query : cmdQuery s ("." ++ name) = handleText handle
  toHandle : ∃ s', SkynetCpp.toHandle s ctx ("." ++ name) = .ok (handle, s')
  sendname : sendnameDestination s ("." ++ name) = .handle handle
  queryname :
    ∃ s', skynetQueryname s ctx ("." ++ name) = .ok (handle, s')

/-- Every reader of handles reads the handle from a text. -/
structure HandleReadsBack
    (s : System)
    (ctx : ContextId)
    (text : String)
    (handle : UInt32) : Prop where
  toHandle : ∃ s', SkynetCpp.toHandle s ctx text = .ok (handle, s')
  queryname : ∃ s', skynetQueryname s ctx text = .ok (handle, s')
  sendname : sendnameDestination s text = .handle handle

section Names

variable
    (s : System)
    (ctx : ContextId)
    (name : String)

@[simp] theorem toList_localName :
    ("." ++ name).toList = '.' :: name.toList := by
  simp [String.toList_append]

/-- `QUERY` looks a local name up with its dot, as `REG` binds it. -/
theorem cmdQuery_localName :
    cmdQuery s ("." ++ name) =
      if handleFindname s ("." ++ name) ≠ 0 then
        handleText (handleFindname s ("." ++ name))
      else
        "" := by
  unfold cmdQuery
  rw [toList_localName]
  rfl

/-- `ToHandle` looks a local name up without its dot. -/
theorem toHandle_localName :
    toHandle s ctx ("." ++ name) = .ok (handleFindname s name, s) := by
  unfold toHandle
  rw [toList_localName]
  simp

/-- `ServiceSendname` looks a local name up without its dot. -/
theorem sendnameDestination_localName :
    sendnameDestination s ("." ++ name) =
      if handleFindname s name = 0 then .unbound
      else .handle (handleFindname s name) := by
  unfold sendnameDestination
  rw [toList_localName]
  simp

/-- `SkynetQueryname` finds no local name. -/
theorem skynetQueryname_localName :
    skynetQueryname s ctx ("." ++ name) = .ok (0, s) := by
  unfold skynetQueryname
  rw [toList_localName]
  rfl

/-- No local name resolves to a service everywhere. -/
theorem not_resolves
    {handle : UInt32}
    (nonzero : handle ≠ 0) :
    ¬ Resolves s ctx name handle := by
  rintro ⟨_, _, _, s', found⟩
  rw [skynetQueryname_localName] at found
  injection found with found
  injection found with isZero _
  exact nonzero isZero.symm

end Names

section Texts

variable
    (s : System)
    (ctx : ContextId)

/-- A decimal number starts with a digit. -/
theorem exists_digit_handleText
    (handle : UInt32) :
    ∃ c rest, (handleText handle).toList = c :: rest ∧ c.isDigit := by
  have digits : ∀ c ∈ (handleText handle).toList, c.isDigit := by
    intro c member
    apply Nat.isDigit_of_mem_toDigits (b := 10) (by decide) (by decide)
    simpa [handleText] using member
  cases isText : (handleText handle).toList with
  | nil =>
      have isEmpty : Nat.repr handle.toNat = "" :=
        String.toList_inj.mp (isText.trans rfl)
      exact (Nat.repr_ne_empty isEmpty).elim
  | cons c rest =>
      exact ⟨c, rest, rfl, digits c (by simp [isText])⟩

/-- `ToHandle` reads no handle from a decimal number. -/
theorem toHandle_handleText
    {s' : System}
    {handle found : UInt32}
    (returned : toHandle s ctx (handleText handle) = .ok (found, s')) :
    found = 0 := by
  obtain ⟨c, rest, isText, isDigit⟩ := exists_digit_handleText handle
  unfold toHandle at returned
  rw [isText] at returned
  split at returned
  · next isColon =>
      cases isColon
      cases isDigit
  · next isDot =>
      cases isDot
      cases isDigit
  · simp only [bind_eq_ok_iff] at returned
    obtain ⟨t, _, isResult⟩ := returned
    injection isResult with isResult
    injection isResult with isZero _
    exact isZero.symm

/-- A decimal number is not read back. -/
theorem not_handleReadsBack_handleText
    {handle : UInt32}
    (nonzero : handle ≠ 0) :
    ¬ HandleReadsBack s ctx (handleText handle) handle := by
  rintro ⟨⟨s', found⟩, _, _⟩
  exact nonzero (toHandle_handleText s ctx found)

/-- The text that `LAUNCH` returns is not read back. -/
theorem not_handleReadsBack_colon
    (handle : UInt32) :
    ¬ HandleReadsBack s ctx ":" handle := by
  rintro ⟨⟨s', found⟩, _, _⟩
  cases found

end Texts

/--
What the commands promise about one name of one service: the names it
registers resolve, and the texts it is given are read back.
-/
structure NamesAgree
    (s : System)
    (ctx : ContextId)
    (name : String) : Prop where
  register :
    ∀ result s',
      cmdRegister s ctx ("." ++ name) = .ok (result, s') → result ≠ "" →
        Resolves s' ctx name (s.contexts ctx).handle
  name :
    ∀ caller digits result s', digits.length = 8 →
      stoul digits.toList = .ok (s.contexts ctx).handle.toUInt64 →
        cmdName s caller ("." ++ name ++ " :" ++ digits) = .ok (result, s') →
          result ≠ "" →
            Resolves s' ctx name (s.contexts ctx).handle
  registerText :
    ∀ text s',
      cmdRegister s ctx "" = .ok (text, s') →
        HandleReadsBack s' ctx text (s.contexts ctx).handle
  queryText :
    ∀ param,
      cmdQuery s param ≠ "" →
        HandleReadsBack s ctx (cmdQuery s param) (handleFindname s param)
  launchText :
    ∀ modules inst stack fuel init memory param launched text s',
      newContext
            { name := substrBefore param (findSpace param)
              param := substrBehind param (findSpace param)
              mod := modules (substrBefore param (findSpace param))
              inst := inst }
            stack fuel init s =
          .ok (some launched, s') →
        cmdLaunch modules inst stack fuel init memory s param =
            .ok (text, s') →
          HandleReadsBack s' ctx text (s'.contexts launched).handle
  monitorText :
    ∀ monitor_exit text stored s',
      cmdMonitor monitor_exit s ctx "" = .ok (text, stored, s') → text ≠ "" →
        HandleReadsBack s' ctx text monitor_exit

/--
A registered name never resolves everywhere, and no text of a handle that a
command returns is read back, whatever the service and the name.
-/
theorem not_namesAgree
    (s : System)
    (ctx : ContextId)
    (name : String)
    (service : (s.contexts ctx).handle ≠ 0) :
    (∀ s', ¬ Resolves s' ctx name (s.contexts ctx).handle) ∧
      (∀ s' handle, handle ≠ 0 → ¬ HandleReadsBack s' ctx (handleText handle) handle) ∧
      (∀ s' memory handle,
        ¬ HandleReadsBack s' ctx (id2Hex memory handle 0) handle) ∧
      ¬ NamesAgree s ctx name := by
  refine ⟨?_, ?_, ?_, ?_⟩
  · intro s'
    exact not_resolves s' ctx name service
  · intro s' handle nonzero
    exact not_handleReadsBack_handleText s' ctx nonzero
  · intro s' memory handle
    exact not_handleReadsBack_colon s' ctx handle
  · intro agree
    exact not_handleReadsBack_handleText s ctx service (agree.registerText _ s rfl)

/-- The service of the one-service node, with the name `.a`. -/
theorem solo_not_namesAgree :
    (∀ s', ¬ Resolves s' 0 "a" (soloSystem.contexts 0).handle) ∧
      ¬ NamesAgree soloSystem 0 "a" := by
  have never := not_namesAgree soloSystem 0 "a" (by decide)
  exact ⟨never.1, never.2.2.2⟩

/-- The registered name `.a` is unknown to `SkynetQueryname` and `ToHandle`. -/
theorem registered_not_resolved :
    ∃ s',
      cmdRegister soloSystem 0 ".a" = .ok (".a", s') ∧
        cmdQuery s' ".a" = "1" ∧
        (toHandle s' 0 ".a").map Prod.fst = .ok 0 ∧
        (skynetQueryname s' 0 ".a").map Prod.fst = .ok 0 ∧
        sendnameDestination s' ".a" = .unbound ∧
        ¬ NamesAgree soloSystem 0 "a" := by
  refine ⟨_, rfl, rfl, rfl, rfl, rfl, fun agree => ?_⟩
  exact not_resolves _ 0 "a" (by decide) (agree.register ".a" _ rfl (by decide))

end SkynetCpp
