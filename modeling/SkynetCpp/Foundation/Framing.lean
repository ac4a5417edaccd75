import Mathlib.Data.List.Basic

namespace Foundation

/-!
# Length-prefixed frames

A stream is a sequence of frames, each with a header of a fixed size that
gives the length of the body behind it.  Every stream is in exactly one way a
list of whole frames and a rest without one, and a receiver that keeps the
rest and goes on with the next chunk finds the frames of the whole stream.
-/

section Lists

/-- The first element of a list without a property. -/
theorem exists_first_not
    {Element : Type}
    {property : Element → Prop}
    {elements : List Element}
    (someNot : ¬ ∀ element ∈ elements, property element) :
    ∃ done element later,
      elements = done ++ element :: later ∧
        (∀ other ∈ done, property other) ∧ ¬ property element := by
  induction elements with
  | nil =>
      simp at someNot
  | cons element elements inductionHypothesis =>
      by_cases holds : property element
      · have laterNot : ¬ ∀ other ∈ elements, property other := by
          intro allHold
          apply someNot
          simpa [holds] using allHold
        obtain ⟨done, other, later, isSplit, doneHold, notHolds⟩ :=
          inductionHypothesis laterNot
        refine ⟨element :: done, other, later, by rw [isSplit]; rfl, ?_, notHolds⟩
        simpa [holds] using doneHold
      · exact ⟨[], element, elements, rfl, by simp, holds⟩

/-- An element of two lists in a row is in the first or in the second one. -/
theorem append_eq_append_cons
    {Element : Type}
    {first second done later : List Element}
    {element : Element}
    (isSplit : first ++ second = done ++ element :: later) :
    (∃ more, first = done ++ element :: more) ∨
      ∃ more, done = first ++ more ∧ second = more ++ element :: later := by
  rcases List.append_eq_append_iff.mp isSplit with
    ⟨more, isDone, isSecond⟩ | ⟨more, isFirst, isLater⟩
  · exact Or.inr ⟨more, isDone, isSecond⟩
  · cases more with
    | nil =>
        refine Or.inr ⟨[], ?_, ?_⟩
        · simpa using isFirst.symm
        · simpa using isLater.symm
    | cons other more =>
        obtain ⟨rfl, _⟩ := List.cons.inj isLater
        exact Or.inl ⟨more, isFirst⟩

end Lists

/-- A header size and the body length that a header announces. -/
structure Framing (Byte : Type) where
  headerSize : Nat
  bodyLength : List Byte → Nat
  positive : 0 < headerSize

/-- A frame: a header and a body of the announced length. -/
structure WireFrame
    {Byte : Type}
    (framing : Framing Byte) where
  header : List Byte
  body : List Byte
  header_length : header.length = framing.headerSize
  body_length : body.length = framing.bodyLength header

variable
    {Byte : Type}
    {framing : Framing Byte}

/-- The bytes of a frame in the stream. -/
def WireFrame.bytes (frame : WireFrame framing) : List Byte :=
  frame.header ++ frame.body

/-- A frame takes at least the bytes of its header. -/
theorem WireFrame.bytes_ne_nil
    (frame : WireFrame framing) :
    frame.bytes ≠ [] := by
  intro isEmpty
  have isZero := congrArg List.length isEmpty
  have positive := framing.positive
  rw [WireFrame.bytes, List.length_append, frame.header_length,
    List.length_nil] at isZero
  omega

namespace Framing

/-- A rest that does not start with a whole frame. -/
def Incomplete
    (framing : Framing Byte)
    (rest : List Byte) : Prop :=
  framing.headerSize ≤ rest.length →
    rest.length - framing.headerSize <
      framing.bodyLength (rest.take framing.headerSize)

/-- A stream is these whole frames and this incomplete rest. -/
structure Splits
    (framing : Framing Byte)
    (stream : List Byte)
    (frames : List (WireFrame framing))
    (rest : List Byte) : Prop where
  stream_eq : stream = frames.flatMap WireFrame.bytes ++ rest
  incomplete : framing.Incomplete rest

/-- The empty stream has no frame. -/
theorem incomplete_nil :
    framing.Incomplete [] := by
  intro atLeast
  have positive := framing.positive
  simp only [List.length_nil, Nat.le_zero] at atLeast
  omega

/-- A stream that starts with a whole frame is not incomplete. -/
theorem not_incomplete_frame_append
    (frame : WireFrame framing)
    (later : List Byte) :
    ¬ framing.Incomplete (frame.bytes ++ later) := by
  intro incomplete
  have short := incomplete (by
    rw [WireFrame.bytes, List.length_append, List.length_append,
      frame.header_length]
    omega)
  have isHeader :
      (frame.bytes ++ later).take framing.headerSize = frame.header := by
    rw [WireFrame.bytes, List.append_assoc, ← frame.header_length,
      List.take_left]
  rw [isHeader, ← frame.body_length, WireFrame.bytes, List.length_append,
    List.length_append, frame.header_length] at short
  omega

/-- The first frame of a stream is determined by the stream. -/
theorem frame_append_injective
    {first second : WireFrame framing}
    {laterFirst laterSecond : List Byte}
    (same : first.bytes ++ laterFirst = second.bytes ++ laterSecond) :
    first = second ∧ laterFirst = laterSecond := by
  rw [WireFrame.bytes, WireFrame.bytes, List.append_assoc, List.append_assoc] at same
  obtain ⟨sameHeader, sameLater⟩ :=
    List.append_inj same (by rw [first.header_length, second.header_length])
  obtain ⟨sameBody, sameRest⟩ :=
    List.append_inj sameLater
      (by rw [first.body_length, second.body_length, sameHeader])
  refine ⟨?_, sameRest⟩
  cases first
  cases second
  simp only at sameHeader sameBody
  subst sameHeader
  subst sameBody
  rfl

/-- A stream splits in one way only. -/
theorem Splits.unique
    {stream rest otherRest : List Byte}
    {frames otherFrames : List (WireFrame framing)}
    (splits : framing.Splits stream frames rest)
    (others : framing.Splits stream otherFrames otherRest) :
    frames = otherFrames ∧ rest = otherRest := by
  have same := splits.stream_eq.symm.trans others.stream_eq
  have incomplete := splits.incomplete
  have otherIncomplete := others.incomplete
  clear splits others
  induction frames generalizing otherFrames with
  | nil =>
      cases otherFrames with
      | nil =>
          exact ⟨rfl, same⟩
      | cons frame later =>
          simp only [List.flatMap_nil, List.nil_append, List.flatMap_cons,
            List.append_assoc] at same
          rw [same] at incomplete
          exact (not_incomplete_frame_append frame _ incomplete).elim
  | cons frame later inductionHypothesis =>
      cases otherFrames with
      | nil =>
          simp only [List.flatMap_nil, List.nil_append, List.flatMap_cons,
            List.append_assoc] at same
          rw [← same] at otherIncomplete
          exact (not_incomplete_frame_append frame _ otherIncomplete).elim
      | cons otherFrame otherLater =>
          simp only [List.flatMap_cons, List.append_assoc] at same
          obtain ⟨sameFrame, sameLater⟩ := frame_append_injective same
          obtain ⟨sameFrames, sameRest⟩ := inductionHypothesis sameLater
          exact ⟨by rw [sameFrame, sameFrames], sameRest⟩

/-- A stream that is not incomplete starts with a whole frame. -/
theorem exists_frame_append
    {stream : List Byte}
    (complete : ¬ framing.Incomplete stream) :
    ∃ (frame : WireFrame framing) (later : List Byte),
      stream = frame.bytes ++ later := by
  simp only [Incomplete, Classical.not_imp, Nat.not_lt] at complete
  obtain ⟨hasHeader, hasBody⟩ := complete
  let header := stream.take framing.headerSize
  let behind := stream.drop framing.headerSize
  refine
    ⟨{ header := header
       body := behind.take (framing.bodyLength header)
       header_length := by simp [header, hasHeader]
       body_length := by
        rw [List.length_take, List.length_drop]
        exact Nat.min_eq_left hasBody },
      behind.drop (framing.bodyLength header), ?_⟩
  rw [WireFrame.bytes, List.append_assoc, List.take_append_drop,
    List.take_append_drop]

/-- Every stream splits into whole frames and a rest. -/
theorem exists_splits
    (framing : Framing Byte)
    (stream : List Byte) :
    ∃ frames rest, framing.Splits stream frames rest := by
  induction isLength : stream.length using Nat.strongRecOn
    generalizing stream with
  | ind length inductionHypothesis =>
      by_cases incomplete : framing.Incomplete stream
      · exact ⟨[], stream, rfl, incomplete⟩
      · obtain ⟨frame, later, isStream⟩ := exists_frame_append incomplete
        have nonempty := List.length_pos_iff.mpr frame.bytes_ne_nil
        have shorter : later.length < length := by
          rw [← isLength, isStream, List.length_append]
          omega
        obtain ⟨frames, rest, splits⟩ :=
          inductionHypothesis later.length shorter later rfl
        refine ⟨frame :: frames, rest, ?_, splits.incomplete⟩
        rw [isStream, splits.stream_eq, List.flatMap_cons, List.append_assoc]

/-- Going on with the rest and the next chunk splits the whole stream. -/
theorem Splits.append
    {stream chunk rest rest' : List Byte}
    {frames frames' : List (WireFrame framing)}
    (earlier : framing.Splits stream frames rest)
    (later : framing.Splits (rest ++ chunk) frames' rest') :
    framing.Splits (stream ++ chunk) (frames ++ frames') rest' := by
  refine ⟨?_, later.incomplete⟩
  rw [earlier.stream_eq, List.append_assoc, later.stream_eq,
    List.flatMap_append, List.append_assoc]

/-- The frames of a stream are those of its first part and of what follows. -/
theorem Splits.exists_append
    {stream chunk rest rest' : List Byte}
    {frames all : List (WireFrame framing)}
    (earlier : framing.Splits stream frames rest)
    (whole : framing.Splits (stream ++ chunk) all rest') :
    ∃ frames',
      all = frames ++ frames' ∧
        framing.Splits (rest ++ chunk) frames' rest' := by
  obtain ⟨frames', rest'', later⟩ := framing.exists_splits (rest ++ chunk)
  obtain ⟨sameFrames, sameRest⟩ := whole.unique (earlier.append later)
  subst sameRest
  exact ⟨frames', sameFrames, later⟩

/-- An incomplete first part of a stream ends inside of its first frame. -/
theorem Incomplete.length_lt
    {rest chunk behind : List Byte}
    {frame : WireFrame framing}
    (incomplete : framing.Incomplete rest)
    (isData : rest ++ chunk = frame.bytes ++ behind) :
    rest.length < frame.bytes.length := by
  by_contra long
  have enough := Nat.le_of_not_lt long
  have isFirst := congrArg (List.take frame.bytes.length) isData
  rw [List.take_append_of_le_length enough, List.take_left] at isFirst
  have isRest := List.take_append_drop frame.bytes.length rest
  rw [isFirst] at isRest
  rw [← isRest] at incomplete
  exact not_incomplete_frame_append frame _ incomplete

/-- A rest is incomplete when it is a proper part of one frame. -/
theorem incomplete_of_prefix
    {frame : WireFrame framing}
    {rest more : List Byte}
    (isPart : rest ++ more = frame.bytes)
    (proper : more ≠ []) :
    framing.Incomplete rest := by
  intro atLeast
  have isHeader : rest.take framing.headerSize = frame.header := by
    have same := congrArg (List.take framing.headerSize) isPart
    rw [List.take_append_of_le_length atLeast, WireFrame.bytes,
      ← frame.header_length, List.take_left, frame.header_length] at same
    exact same
  have lengths := congrArg List.length isPart
  have positive := List.length_pos_iff.mpr proper
  rw [WireFrame.bytes, List.length_append, List.length_append,
    frame.header_length, frame.body_length] at lengths
  rw [isHeader]
  omega

end Framing

end Foundation
