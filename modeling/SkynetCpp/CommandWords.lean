import SkynetCpp.Command
import SkynetCpp.CommandTimeout

namespace SkynetCpp

/-!
# Commands of two words

`LAUNCH`, `SETENV`, `NAME` and `SIGNAL` split their parameter by hand.  Each
definition here is what a command passes on, so that the words can be compared
with those of the parameter.
-/

section Words

/-- What `CmdLaunch` asks of `NewContext`. -/
def launchRequest
    (modules : String → Option Module)
    (inst : Bool)
    (param : String) : LaunchRequest :=
  let pos := findSpace param
  { name := substrBefore param pos
    param := substrBehind param pos
    mod := modules (substrBefore param pos)
    inst := inst }

/-- What `CmdSetEnv` passes to `SetEnv`, if it calls it. -/
def setEnvCall (param : String) : Option (String × String) :=
  match findSpace param with
  | none => none
  | some pos =>
      some (substrBefore param (some pos), substrBehind param (some pos))

/-- The name and the text of the handle that `CmdName` works on. -/
def nameWords (param : String) : String × String :=
  let pos := findSpace param
  (substrBefore param pos, substrBehind param pos)

/-- `CmdName` behind the two words. -/
def nameHandle
    (s : System)
    (ctx : ContextId)
    (words : String × String) : Except Fault (String × System) :=
  match words.2.toList with
  | ':' :: digits => do
      let handle_id ← stoul digits
      if handle_id.toUInt32 = 0 then
        .ok ("", s)
      else if words.1.toList.head? = some '.' then
        handleNamehandle s (s.contexts ctx).handle words.1
      else
        return ("",
          ← skynetError s (s.contexts ctx).handle
            ("Can't set global name " ++ words.1 ++ " in C"))
  | _ => .ok ("", s)

/-- The value of the leading digits of a base, if there are any. -/
def digitsOfBase (base : Nat) : List Char → Option Nat → Option Nat
  | [], value => value
  | c :: rest, value =>
      match hexDigit c with
      | some digit =>
          if digit < base then
            digitsOfBase base rest (some (value.getD 0 * base + digit))
          else
            value
      | none => value

/-- The digits behind an optional `0x` or `0`, which tells the base. -/
def numberOfAnyBase : List Char → Option Nat
  | '0' :: x :: rest =>
      if x = 'x' ∨ x = 'X' then
        some ((digitsOfBase 16 rest none).getD 0)
      else
        digitsOfBase 8 ('0' :: x :: rest) none
  | text => digitsOfBase 10 text none

/-- `std::stoi(text, nullptr, 0)`. -/
def stoi (text : List Char) : Except Fault Int :=
  let number : Option Int :=
    match text.dropWhile isSpaceChar with
    | '-' :: rest => (numberOfAnyBase rest).map fun value => -(value : Int)
    | '+' :: rest => (numberOfAnyBase rest).map fun value => (value : Int)
    | rest => (numberOfAnyBase rest).map fun value => (value : Int)
  match number with
  | none => .error (.exception "stoi")
  | some value =>
      if -2 ^ 31 ≤ value ∧ value < 2 ^ 31 then
        .ok value
      else
        .error (.exception "stoi")

/-- The number in a text; an empty text stands for 0. -/
def signalNumber (text : String) : Except Fault Int :=
  if text ≠ "" then stoi text.toList else .ok 0

/-- The handle that `ToHandle` finds. -/
def resolved
    (s : System)
    (param : String) : Except Fault UInt32 :=
  match param.toList with
  | ':' :: digits => (stoul digits).map UInt64.toUInt32
  | '.' :: name => .ok (handleFindname s (String.ofList name))
  | _ => .ok 0

/--
`CmdSignal`; `moduleSignal` is `ModuleSignal` on the module and the instance of
a context.
-/
def cmdSignal
    (moduleSignal : ContextId → Int → System → Except Fault System)
    (s : System)
    (ctx : ContextId)
    (param : String) : Except Fault (String × System) := do
  let (handle, s) ← toHandle s ctx param
  if handle = 0 then
    .ok ("", s)
  else
    match handleGrab s handle with
    | (none, s) => .ok ("", s)
    | (some new_ctx, s) => do
        let sig ← signalNumber (substrBehind param (findSpace param))
        let s ← moduleSignal new_ctx sig s
        let (_, s) ← contextRelease s new_ctx
        .ok ("", s)

end Words

section Commands

variable
    (s : System)
    (ctx : ContextId)
    (param : String)

/-- `CmdLaunch` is `NewContext` on the request. -/
theorem cmdLaunch_request
    (modules : String → Option Module)
    (inst : Bool)
    (stack : Nat → Option Message)
    (fuel : Nat)
    (init : ContextId → System → Except Fault (Int × System))
    (memory : Nat → String) :
    cmdLaunch modules inst stack fuel init memory s param =
      (do
        match ← newContext (launchRequest modules inst param) stack fuel init s
        with
        | (none, s) => .ok ("", s)
        | (some ctx, s) =>
            .ok (id2Hex memory (s.contexts ctx).handle 0, s)) :=
  rfl

/-- `CmdName` works on its two words. -/
theorem cmdName_words :
    cmdName s ctx param = nameHandle s ctx (nameWords param) :=
  rfl

/-- What `ToHandle` returns. -/
theorem toHandle_resolved
    {handle : UInt32}
    {s' : System}
    (returned : toHandle s ctx param = .ok (handle, s')) :
    resolved s param = .ok handle := by
  unfold toHandle at returned
  split at returned
  · next digits isColon =>
      obtain ⟨value, isValue, isResult⟩ := bind_eq_ok_iff.mp returned
      cases isResult
      rw [resolved, isColon]
      simp only [isValue]
      rfl
  · next name isDot =>
      cases returned
      rw [resolved, isDot]
      rfl
  · next notColon notDot =>
      obtain ⟨after, _, isResult⟩ := bind_eq_ok_iff.mp returned
      cases isResult
      unfold resolved
      split
      · next digits isColon =>
          exact (notColon digits isColon).elim
      · next name isDot =>
          exact (notDot name isDot).elim
      · rfl

/-- `CmdSignal` on a service that the parameter resolves to. -/
theorem cmdSignal_target
    (moduleSignal : ContextId → Int → System → Except Fault System)
    {handle : UInt32}
    {target : ContextId}
    {s' : System}
    (isHandle : toHandle s ctx param = .ok (handle, s'))
    (nonzero : handle ≠ 0)
    (found : handleLookup s' handle = some target) :
    resolved s param = .ok handle ∧
      cmdSignal moduleSignal s ctx param =
        (do
          let sig ← signalNumber (substrBehind param (findSpace param))
          let s ← moduleSignal target sig (contextGrab s' target)
          let (_, s) ← contextRelease s target
          .ok ("", s)) := by
  refine ⟨toHandle_resolved s ctx param isHandle, ?_⟩
  have isGrabbed :
      handleGrab s' handle = (some target, contextGrab s' target) := by
    rw [handleGrab, found]
  unfold cmdSignal
  rw [isHandle]
  simp only [bind, Except.bind, if_neg nonzero, isGrabbed]

end Commands

/-- A command with its words; no second word stands for no space. -/
inductive WordRequest where
  | launch (w r : String)
  | launchAlone (w : String)
  | setEnv (w r : String)
  | name (w r : String)
  | signal (w r : String)
  | signalAlone (w : String)
  deriving Repr, DecidableEq

namespace WordRequest

/-- The first word. -/
def word : WordRequest → String
  | .launch w _ | .launchAlone w | .setEnv w _ | .name w _ | .signal w _
  | .signalAlone w => w

/-- The first word is a word. -/
def WellFormed (request : WordRequest) : Prop :=
  request.word ≠ "" ∧ ' ' ∉ request.word.toList

/-- The command works on the words that it was given. -/
def Meets
    (s : System)
    (modules : String → Option Module)
    (inst : Bool) : WordRequest → Prop
  | .launch w r =>
      (launchRequest modules inst (w ++ " " ++ r)).name = w ∧
        (launchRequest modules inst (w ++ " " ++ r)).param = r
  | .launchAlone w =>
      (launchRequest modules inst w).name = w ∧
        (launchRequest modules inst w).param = ""
  | .setEnv w r => setEnvCall (w ++ " " ++ r) = some (w, r)
  | .name w r => nameWords (w ++ " " ++ r) = (w, r)
  | .signal w r =>
      let param := w ++ " " ++ r
      resolved s param = resolved s w ∧
        signalNumber (substrBehind param (findSpace param)) = signalNumber r
  | .signalAlone w =>
      ∀ handle target, resolved s w = .ok handle → handle ≠ 0 →
        handleLookup s handle = some target →
          signalNumber (substrBehind w (findSpace w)) = .ok 0

/-- When the command works on these words. -/
def Condition (s : System) : WordRequest → Prop
  | .signal w r =>
      match w.toList with
      | ':' :: digits =>
          (∃ c ∈ digits, isSpaceChar c = false) ∨
            ∀ value, stoul r.toList ≠ .ok value
      | '.' :: letters =>
          handleFindname s (String.ofList letters ++ " " ++ r) =
            handleFindname s (String.ofList letters)
      | _ => True
  | .signalAlone w =>
      ∀ handle, resolved s w = .ok handle → handle ≠ 0 →
        handleLookup s handle = none
  | _ => False

end WordRequest

section Splitting

variable {w : String}

/-- The characters of two words. -/
theorem toList_words
    (w r : String) :
    (w ++ " " ++ r).toList = w.toList ++ ' ' :: r.toList := by
  simp [String.toList_append]

/-- A word has no space. -/
theorem findSpace_alone
    (noSpace : ' ' ∉ w.toList) :
    findSpace w = none := by
  rw [findSpace, List.findIdx?_eq_none_iff]
  intro c member
  simp only [decide_eq_false_iff_not]
  intro isSpace
  exact noSpace (isSpace ▸ member)

/-- The first space is behind the first word. -/
theorem findSpace_word
    (noSpace : ' ' ∉ w.toList)
    (r : String) :
    findSpace (w ++ " " ++ r) = some w.toList.length := by
  have alone := findSpace_alone noSpace
  rw [findSpace] at alone ⊢
  rw [toList_words, List.findIdx?_append, alone]
  simp [List.findIdx?_cons]

/-- The last character of the first word is cut off. -/
theorem substrBefore_word
    (notEmpty : w ≠ "")
    (r : String) :
    (substrBefore (w ++ " " ++ r) (some w.toList.length)).toList =
      w.toList.dropLast := by
  cases isLength : w.toList.length with
  | zero =>
      exact (notEmpty
        (String.toList_inj.mp (List.length_eq_zero_iff.mp isLength))).elim
  | succ count =>
      have inFront : count ≤ w.toList.length := by omega
      rw [substrBefore, String.toList_ofList, toList_words,
        List.take_append_of_le_length inFront, List.dropLast_eq_take, isLength]
      rfl

/-- What is behind the first space is the rest. -/
theorem substrBehind_word
    (w r : String) :
    substrBehind (w ++ " " ++ r) (some w.toList.length) = r := by
  have isRest :
      (w.toList ++ ' ' :: r.toList).drop (w.toList.length + 1) = r.toList := by
    rw [← List.drop_drop, List.drop_left, List.drop_one, List.tail_cons]
  rw [substrBehind, toList_words, isRest, String.ofList_toList]

/-- The word that is cut is another one. -/
theorem substrBefore_ne
    (notEmpty : w ≠ "")
    (r : String) :
    substrBefore (w ++ " " ++ r) (some w.toList.length) ≠ w := by
  intro same
  have cut := congrArg (List.length ∘ String.toList) same
  have some : w.toList ≠ [] := fun isEmpty =>
    notEmpty (String.toList_inj.mp isEmpty)
  have positive := List.length_pos_iff.mpr some
  simp only [Function.comp, substrBefore_word notEmpty,
    List.length_dropLast] at cut
  omega

end Splitting

section Numbers

variable
    {digits : List Char}
    {r : List Char}

/-- Hexadecimal digits end at a space. -/
theorem hexDigits_space
    (digits r : List Char)
    (value : Option Nat) :
    hexDigits (digits ++ ' ' :: r) value = hexDigits digits value := by
  induction digits generalizing value with
  | nil =>
      rfl
  | cons c rest inductionHypothesis =>
      rw [List.cons_append, hexDigits, hexDigits]
      cases hexDigit c with
      | none =>
          rfl
      | some digit =>
          exact inductionHypothesis _

/-- A number that does not start with a zero has no prefix. -/
theorem hexNumber_of_ne
    {c : Char}
    (notZero : c ≠ '0')
    (rest : List Char) :
    hexNumber (c :: rest) = hexDigits (c :: rest) none := by
  unfold hexNumber
  split
  · next isZero =>
      injection isZero with isZero
      exact (notZero isZero).elim
  · rfl

/-- A hexadecimal number ends at a space. -/
theorem hexNumber_space
    (digits r : List Char) :
    hexNumber (digits ++ ' ' :: r) = hexNumber digits := by
  match digits with
  | [] =>
      rfl
  | c :: rest =>
      by_cases isZero : c = '0'
      · subst isZero
        cases rest with
        | nil =>
            rfl
        | cons x rest =>
            simp only [List.cons_append, hexNumber]
            split
            · rw [hexDigits_space]
            · exact hexDigits_space ('0' :: x :: rest) r none
      · rw [List.cons_append, hexNumber_of_ne isZero, hexNumber_of_ne isZero]
        exact hexDigits_space (c :: rest) r none

/-- White space in front of a number is skipped. -/
theorem hexPrefix_cons
    {c : Char}
    (isSpace : isSpaceChar c = true)
    (rest : List Char) :
    hexPrefix (c :: rest) = hexPrefix rest := by
  unfold hexPrefix
  rw [List.dropWhile_cons_of_pos isSpace]

/-- A number starts with a sign or with its digits. -/
theorem hexPrefix_of_not_space
    {c : Char}
    (notSpace : isSpaceChar c = false)
    (rest : List Char) :
    hexPrefix (c :: rest) =
      if c = '-' then (hexNumber rest).map (true, ·)
      else if c = '+' then (hexNumber rest).map (false, ·)
      else (hexNumber (c :: rest)).map (false, ·) := by
  unfold hexPrefix
  rw [List.dropWhile_cons_of_neg (by rw [notSpace]; decide)]
  split
  · next isMinus =>
      cases isMinus
      rfl
  · next isPlus =>
      cases isPlus
      rfl
  · next notMinus notPlus =>
      rw [if_neg fun isMinus => notMinus rest (by rw [isMinus]),
        if_neg fun isPlus => notPlus rest (by rw [isPlus])]

/-- What is read in base 16 ends at a space behind something to read. -/
theorem hexPrefix_space
    (readable : ∃ c ∈ digits, isSpaceChar c = false)
    (r : List Char) :
    hexPrefix (digits ++ ' ' :: r) = hexPrefix digits := by
  induction digits with
  | nil =>
      obtain ⟨c, member, _⟩ := readable
      cases member
  | cons c rest inductionHypothesis =>
      cases isSpace : isSpaceChar c with
      | true =>
          rw [List.cons_append, hexPrefix_cons isSpace, hexPrefix_cons isSpace]
          apply inductionHypothesis
          obtain ⟨other, member, notSpace⟩ := readable
          rcases List.mem_cons.mp member with isFirst | inRest
          · rw [isFirst, isSpace] at notSpace
            cases notSpace
          · exact ⟨other, inRest, notSpace⟩
      | false =>
          have whole := hexNumber_space (c :: rest) r
          rw [List.cons_append] at whole ⊢
          rw [hexPrefix_of_not_space isSpace, hexPrefix_of_not_space isSpace,
            hexNumber_space, whole]

/-- White space only is no number. -/
theorem hexPrefix_of_spaces
    (spaces : ∀ c ∈ digits, isSpaceChar c = true)
    (text : List Char) :
    hexPrefix (digits ++ text) = hexPrefix text := by
  induction digits with
  | nil =>
      rfl
  | cons c rest inductionHypothesis =>
      rw [List.cons_append, hexPrefix_cons (spaces c (List.mem_cons_self ..))]
      exact inductionHypothesis fun other member =>
        spaces other (List.mem_cons_of_mem c member)

/-- Behind white space only, `stoul` reads what follows. -/
theorem stoul_of_spaces
    (spaces : ∀ c ∈ digits, isSpaceChar c = true)
    (r : List Char) :
    stoul (digits ++ ' ' :: r) = stoul r := by
  unfold stoul
  rw [hexPrefix_of_spaces spaces, hexPrefix_cons (by decide)]

/-- `stoul` reads nothing from white space. -/
theorem stoul_spaces
    (spaces : ∀ c ∈ digits, isSpaceChar c = true) :
    stoul digits = .error (.exception "stoul") := by
  have isNothing : hexPrefix digits = none := by
    have same := hexPrefix_of_spaces spaces []
    rw [List.append_nil] at same
    rw [same]
    rfl
  unfold stoul
  rw [isNothing]

/--
`ToHandle` reads the number of a word from both words, unless there is nothing
to read in the first one.
-/
theorem stoul_words_iff
    (digits r : List Char) :
    (stoul (digits ++ ' ' :: r)).map UInt64.toUInt32 =
        (stoul digits).map UInt64.toUInt32 ↔
      (∃ c ∈ digits, isSpaceChar c = false) ∨
        ∀ value, stoul r ≠ .ok value := by
  by_cases readable : ∃ c ∈ digits, isSpaceChar c = false
  · have same : stoul (digits ++ ' ' :: r) = stoul digits := by
      unfold stoul
      rw [hexPrefix_space readable]
    rw [same]
    exact ⟨fun _ => Or.inl readable, fun _ => rfl⟩
  · have spaces : ∀ c ∈ digits, isSpaceChar c = true := by
      intro c member
      by_contra notSpace
      exact readable ⟨c, member, by simpa using notSpace⟩
    rw [stoul_of_spaces spaces, stoul_spaces spaces]
    constructor
    · intro same
      refine Or.inr fun value isValue => ?_
      rw [isValue] at same
      cases same
    · rintro (isReadable | unreadable)
      · exact (readable isReadable).elim
      · cases isRead : stoul r with
        | ok value =>
            exact (unreadable value isRead).elim
        | error fault =>
            have isStoul : fault = .exception "stoul" := by
              unfold stoul at isRead
              split at isRead
              · cases isRead
                rfl
              · split at isRead
                · cases isRead
                · cases isRead
                  rfl
            rw [isStoul]

end Numbers

section Requests

variable
    {s : System}
    {modules : String → Option Module}
    {inst : Bool}
    {w : String}

/-- A word that names a service is no number. -/
theorem signalNumber_of_resolved
    {handle : UInt32}
    (isHandle : resolved s w = .ok handle)
    (nonzero : handle ≠ 0) :
    signalNumber w = .error (.exception "stoi") := by
  have read :
      (∃ rest, w.toList = ':' :: rest) ∨ ∃ rest, w.toList = '.' :: rest := by
    unfold resolved at isHandle
    split at isHandle
    · next digits isColon =>
        exact Or.inl ⟨digits, isColon⟩
    · next letters isDot =>
        exact Or.inr ⟨letters, isDot⟩
    · injection isHandle with isZero
      exact (nonzero isZero.symm).elim
  have notEmpty : w ≠ "" := by
    intro isEmpty
    subst isEmpty
    rcases read with ⟨rest, isText⟩ | ⟨rest, isText⟩ <;> cases isText
  rw [signalNumber, if_pos notEmpty]
  rcases read with ⟨rest, isText⟩ | ⟨rest, isText⟩
  · rw [isText]
    rfl
  · rw [isText]
    rfl

/-- Other words resolve to no service. -/
theorem resolved_other
    (s : System)
    {text : String}
    {c : Char}
    {rest : List Char}
    (isText : text.toList = c :: rest)
    (notColon : c ≠ ':')
    (notDot : c ≠ '.') :
    resolved s text = .ok 0 := by
  unfold resolved
  rw [isText]
  split
  · next isColon =>
      injection isColon with isColon
      exact (notColon isColon).elim
  · next isDot =>
      injection isDot with isDot
      exact (notDot isDot).elim
  · rfl

/-- `SIGNAL` resolves both words as it would resolve the first one. -/
theorem resolved_words_iff
    (s : System)
    {w : String}
    (notEmpty : w ≠ "")
    (r : String) :
    resolved s (w ++ " " ++ r) = resolved s w ↔
      (WordRequest.signal w r).Condition s := by
  cases isText : w.toList with
  | nil =>
      exact (notEmpty (String.toList_inj.mp isText)).elim
  | cons c rest =>
      have areWords :
          (w ++ " " ++ r).toList = c :: (rest ++ ' ' :: r.toList) := by
        rw [toList_words, isText, List.cons_append]
      by_cases isColon : c = ':'
      · subst isColon
        simp only [resolved, areWords, isText, WordRequest.Condition]
        exact stoul_words_iff rest r.toList
      · by_cases isDot : c = '.'
        · subst isDot
          simp only [resolved, areWords, isText, WordRequest.Condition]
          have joined :
              String.ofList (rest ++ ' ' :: r.toList) =
                String.ofList rest ++ " " ++ r := by
            rw [← String.toList_inj, toList_words, String.toList_ofList,
              String.toList_ofList]
          simp only [joined, Except.ok.injEq]
        · rw [resolved_other s areWords isColon isDot,
            resolved_other s isText isColon isDot]
          simp only [WordRequest.Condition, isText, true_iff]
          split
          · next isColon' =>
              injection isColon' with isColon'
              exact (isColon isColon').elim
          · next isDot' =>
              injection isDot' with isDot'
              exact (isDot isDot').elim
          · trivial

/--
The commands work on the words that they are given in exactly these cases: never
for `LAUNCH`, `SETENV` and `NAME`, for `SIGNAL` with two words when both together
resolve as the first one does, and for `SIGNAL` with one word when it resolves to
no service.
-/
theorem wordRequest_meets_iff
    (s : System)
    (modules : String → Option Module)
    (inst : Bool)
    {request : WordRequest}
    (wellFormed : request.WellFormed) :
    request.Meets s modules inst ↔ request.Condition s := by
  obtain ⟨notEmpty, noSpace⟩ := wellFormed
  cases request with
  | launch w r =>
      have cut := findSpace_word (w := w) noSpace r
      simp only [WordRequest.Meets, WordRequest.Condition, launchRequest, cut,
        iff_false]
      exact fun meets => substrBefore_ne (w := w) notEmpty r meets.1
  | launchAlone w =>
      have alone := findSpace_alone (w := w) noSpace
      simp only [WordRequest.Meets, WordRequest.Condition, launchRequest, alone,
        iff_false]
      exact fun meets => notEmpty meets.2
  | setEnv w r =>
      have cut := findSpace_word (w := w) noSpace r
      simp only [WordRequest.Meets, WordRequest.Condition, setEnvCall, cut,
        iff_false]
      intro meets
      injection meets with meets
      injection meets with isWord _
      exact substrBefore_ne (w := w) notEmpty r isWord
  | name w r =>
      have cut := findSpace_word (w := w) noSpace r
      simp only [WordRequest.Meets, WordRequest.Condition, nameWords, cut,
        iff_false]
      intro meets
      injection meets with isWord _
      exact substrBefore_ne (w := w) notEmpty r isWord
  | signal w r =>
      have cut := findSpace_word (w := w) noSpace r
      rw [← resolved_words_iff s (w := w) notEmpty r]
      simp only [WordRequest.Meets, cut, substrBehind_word, and_true]
  | signalAlone w =>
      have alone := findSpace_alone (w := w) noSpace
      have whole : substrBehind w none = w := rfl
      simp only [WordRequest.Meets, WordRequest.Condition, alone, whole]
      constructor
      · intro meets handle isHandle nonzero
        cases lookup : handleLookup s handle with
        | none =>
            rfl
        | some target =>
            have isZero := meets handle target isHandle nonzero lookup
            rw [signalNumber_of_resolved isHandle nonzero] at isZero
            cases isZero
      · intro noService handle target isHandle nonzero found
        rw [noService handle isHandle nonzero] at found
        cases found

/-- `SIGNAL :1 5` reaches the service with handle 1. -/
theorem signal_meets :
    (WordRequest.signal ":1" "5").Meets soloSystem (fun _ => none) false := by
  have wellFormed : (WordRequest.signal ":1" "5").WellFormed :=
    ⟨by decide, by decide⟩
  exact
    (wordRequest_meets_iff soloSystem (fun _ => none) false wellFormed).mpr
      (Or.inl ⟨'1', by decide, by decide⟩)

/-- `LAUNCH logger a` launches the module `logge`. -/
theorem launch_not_meets :
    (launchRequest (fun _ => none) false "logger a").name = "logge" ∧
      setEnvCall "key value" = some ("ke", "value") ∧
        nameWords ".name :1" = (".nam", ":1") ∧
        signalNumber (substrBehind ":1" (findSpace ":1")) =
            .error (.exception "stoi") ∧
        ¬ (WordRequest.launch "logger" "a").Meets soloSystem (fun _ => none)
            false := by
  have isLaunched :
      (launchRequest (fun _ => none) false "logger a").name = "logge" := by
    decide
  refine ⟨isLaunched, by decide, by decide, by decide, fun meets => ?_⟩
  have isWord : "logge" = "logger" := isLaunched.symm.trans meets.1
  revert isWord
  decide

end Requests

end SkynetCpp
