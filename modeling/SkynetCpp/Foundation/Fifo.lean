namespace Foundation.Fifo

/-!
# First-in first-out queues

The abstract queue is a list: a push appends, a pop takes the head, a length
query counts.  An implementation refines it along a sequence of calls when
every call gives the abstract response and leaves the abstract contents.
Conservation is proved for the abstract queue: what was popped, followed by
what is still queued, is what was pushed.
-/

/-- The calls that a FIFO queue answers. -/
inductive Call (α : Type) where
  | push (item : α)
  | pop
  | length
  deriving Repr, DecidableEq

/-- The responses that a FIFO queue gives. -/
inductive Response (α : Type) where
  | pushed
  | popped (item : Option α)
  | counted (count : Int)
  deriving Repr, DecidableEq

/-- The item that a call adds to the queue. -/
def Call.item? {α : Type} : Call α → Option α
  | .push item => some item
  | _ => none

/-- The item that a response hands out of the queue. -/
def Response.item? {α : Type} : Response α → Option α
  | .popped item => item
  | _ => none

variable {α : Type}

/-- One call on the queued items. -/
def apply : List α → Call α → Response α × List α
  | items, .push item => (.pushed, items ++ [item])
  | [], .pop => (.popped none, [])
  | item :: rest, .pop => (.popped (some item), rest)
  | items, .length => (.counted items.length, items)

/-- A sequence of calls on the queued items. -/
def run : List α → List (Call α) → List (Response α) × List α
  | items, [] => ([], items)
  | items, call :: rest =>
      let answered := apply items call
      let later := run answered.2 rest
      (answered.1 :: later.1, later.2)

/-- One call conserves items: queued and pushed is popped and queued. -/
theorem apply_conserves
    (items : List α)
    (call : Call α) :
    items ++ call.item?.toList =
      (apply items call).1.item?.toList ++ (apply items call).2 := by
  cases call with
  | push item =>
      simp [apply, Call.item?, Response.item?]
  | pop =>
      cases items <;> simp [apply, Call.item?, Response.item?]
  | length =>
      simp [apply, Call.item?, Response.item?]

private theorem filterMap_cons_toList
    {β γ : Type}
    (extract : β → Option γ)
    (head : β)
    (tail : List β) :
    (head :: tail).filterMap extract =
      (extract head).toList ++ tail.filterMap extract := by
  cases shape : extract head <;> simp [shape]

/--
No item is lost, invented or reordered: the items queued at the start,
followed by the items pushed, are the items popped, followed by the items
still queued.
-/
theorem run_conserves
    (items : List α)
    (calls : List (Call α)) :
    items ++ calls.filterMap Call.item? =
      (run items calls).1.filterMap Response.item? ++ (run items calls).2 := by
  induction calls generalizing items with
  | nil =>
      simp [run]
  | cons call rest inductionHypothesis =>
      have here := apply_conserves items call
      have later := inductionHypothesis (apply items call).2
      simp only [run, filterMap_cons_toList, List.append_assoc]
      rw [← later, ← List.append_assoc, here, List.append_assoc]

/-- Starting empty, the `k`-th item popped is the `k`-th item pushed. -/
theorem run_popped_prefix
    (calls : List (Call α)) :
    (run [] calls).1.filterMap Response.item? <+:
      calls.filterMap Call.item? := by
  refine ⟨(run [] calls).2, ?_⟩
  simpa using (run_conserves [] calls).symm

/-- Starting empty, the items queued are those pushed and not popped. -/
theorem run_queued
    (calls : List (Call α)) :
    (run [] calls).2 =
      (calls.filterMap Call.item?).drop
        ((run [] calls).1.filterMap Response.item?).length := by
  have conserved := run_conserves [] calls
  rw [List.nil_append] at conserved
  rw [conserved, List.drop_left]

section Refinement

variable
    {State Input Fault : Type}
    (contents : State → List α)
    (perform : State → Input → Except Fault (Response α × State))
    (abstract : Input → Call α)

/-- Every call of the sequence is the abstract queue's call on the contents. -/
def Refines : State → List Input → Prop
  | _, [] => True
  | state, input :: rest =>
      ∃ response next,
        perform state input = .ok (response, next) ∧
          (response, contents next) =
            apply (contents state) (abstract input) ∧
          Refines next rest

/-- The responses of an implementation along a sequence of calls. -/
def responses : State → List Input → List (Response α)
  | _, [] => []
  | state, input :: rest =>
      match perform state input with
      | .ok (response, next) => response :: responses next rest
      | .error _ => []

/-- The state that an implementation reaches along a sequence of calls. -/
def reached : State → List Input → State
  | state, [] => state
  | state, input :: rest =>
      match perform state input with
      | .ok (_, next) => reached next rest
      | .error _ => state

/-- A refining implementation answers as the abstract queue does. -/
theorem responses_of_refines
    {state : State}
    {inputs : List Input}
    (refines : Refines contents perform abstract state inputs) :
    responses perform state inputs =
      (run (contents state) (inputs.map abstract)).1 := by
  induction inputs generalizing state with
  | nil =>
      rfl
  | cons input rest inductionHypothesis =>
      obtain ⟨response, next, performed, same, later⟩ := refines
      simp only [responses, performed, List.map_cons, run]
      rw [inductionHypothesis later, ← same]

/-- A refining implementation ends with what the abstract queue holds. -/
theorem contents_reached
    {state : State}
    {inputs : List Input}
    (refines : Refines contents perform abstract state inputs) :
    contents (reached perform state inputs) =
      (run (contents state) (inputs.map abstract)).2 := by
  induction inputs generalizing state with
  | nil =>
      rfl
  | cons input rest inductionHypothesis =>
      obtain ⟨response, next, performed, same, later⟩ := refines
      simp only [reached, performed, List.map_cons, run]
      rw [inductionHypothesis later, ← same]

end Refinement

end Foundation.Fifo
