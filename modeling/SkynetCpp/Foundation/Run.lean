namespace Foundation

/-!
# Runs of a labelled transition system

A run records the state in which every step was taken together with the
label of the step, most recent step first.  Invariants are proved once here:
an invariant that every *guarded* step preserves holds along every run whose
steps all meet the guard.  When in addition an unguarded step out of the
invariant always breaks the property, the guard describes exactly the runs
along which the property holds.
-/

/-- A finite run: the steps taken, most recent first, and the state reached. -/
inductive Run
    {State Label : Type}
    (step : State → Label → State → Prop)
    (initial : State) :
    List (State × Label) → State → Prop where
  | nil :
      Run step initial [] initial
  | snoc
      {past : List (State × Label)}
      {state next : State}
      {label : Label}
      (earlier : Run step initial past state)
      (taken : step state label next) :
      Run step initial ((state, label) :: past) next

namespace Run

variable {State Label : Type}

/-- Every state a run goes through, the last one first. -/
def visited
    (past : List (State × Label))
    (final : State) : List State :=
  final :: past.map Prod.fst

@[simp] theorem mem_visited
    {past : List (State × Label)}
    {final state : State} :
    state ∈ visited past final ↔
      state = final ∨ ∃ label, (state, label) ∈ past := by
  simp [visited]

variable
    {step : State → Label → State → Prop}
    {initial final : State}
    {past : List (State × Label)}
    {invariant property : State → Prop}
    {guard : State → Label → Prop}

/-- A run goes through the state it starts from. -/
theorem initial_mem_visited
    (run : Run step initial past final) :
    initial ∈ visited past final := by
  induction run with
  | nil =>
      simp
  | snoc earlier taken inductionHypothesis =>
      exact List.mem_cons_of_mem _ inductionHypothesis

/-- A run goes through the state that each of its steps led to. -/
theorem exists_next
    (run : Run step initial past final)
    {state : State}
    {label : Label}
    (member : (state, label) ∈ past) :
    ∃ next ∈ visited past final, step state label next := by
  induction run with
  | nil =>
      cases member
  | @snoc past last next other earlier taken inductionHypothesis =>
      rcases List.mem_cons.mp member with isLast | isEarlier
      · injection isLast with sameState sameLabel
        rw [sameState, sameLabel]
        exact ⟨next, by simp, taken⟩
      · obtain ⟨later, wasVisited, moved⟩ := inductionHypothesis isEarlier
        exact ⟨later, List.mem_cons_of_mem _ wasVisited, moved⟩

/-- A guarded invariant holds in every state of a guarded run. -/
theorem invariant_visited
    (run : Run step initial past final)
    (start : invariant initial)
    (preserved :
      ∀ {state label next},
        invariant state →
        guard state label →
        step state label next →
        invariant next)
    (guarded :
      ∀ {state label}, (state, label) ∈ past → guard state label) :
    ∀ state ∈ visited past final, invariant state := by
  induction run with
  | nil =>
      intro state member
      simp only [visited, List.map_nil, List.mem_singleton] at member
      subst member
      exact start
  | @snoc past last next label earlier taken inductionHypothesis =>
      have earlierHolds :=
        inductionHypothesis
          (fun member => guarded (List.mem_cons_of_mem _ member))
      have lastHolds : invariant last :=
        earlierHolds last (by simp)
      intro state member
      simp only [visited, List.map_cons, List.mem_cons] at member
      rcases member with isFinal | isLast | isEarlier
      · subst isFinal
        exact preserved lastHolds (guarded (by simp)) taken
      · subst isLast
        exact lastHolds
      · exact earlierHolds state (by simp [visited, isEarlier])

/-- An invariant of every step holds in every state of every run. -/
theorem invariant_of_step
    (run : Run step initial past final)
    (start : invariant initial)
    (preserved :
      ∀ {state label next},
        invariant state →
        step state label next →
        invariant next) :
    ∀ state ∈ visited past final, invariant state :=
  invariant_visited
    run start
    (fun holds _ taken => preserved holds taken)
    (fun _ => trivial)

/-- What every step keeps, every later state of a run keeps of every earlier one. -/
theorem pairwise_visited
    {kept : State → State → Prop}
    (run : Run step initial past final)
    (trans :
      ∀ {first second third},
        kept first second → kept second third → kept first third)
    (keeps :
      ∀ {state label next}, step state label next → kept state next) :
    (visited past final).Pairwise fun later earlier => kept earlier later := by
  induction run with
  | nil =>
      exact List.pairwise_singleton _ _
  | snoc earlier taken inductionHypothesis =>
      obtain ⟨last, _⟩ := List.pairwise_cons.mp inductionHypothesis
      refine List.pairwise_cons.mpr ⟨fun state member => ?_, inductionHypothesis⟩
      rcases List.mem_cons.mp member with isLast | wasVisited
      · rw [isLast]
        exact keeps taken
      · exact trans (last state wasVisited) (keeps taken)

/--
When guarded steps preserve the invariant, the invariant gives the property,
and every unguarded step out of the invariant breaks the property, the
property holds along a run exactly when all its steps meet the guard.
-/
theorem property_visited_iff
    (run : Run step initial past final)
    (start : invariant initial)
    (preserved :
      ∀ {state label next},
        invariant state →
        guard state label →
        step state label next →
        invariant next)
    (sound : ∀ {state}, invariant state → property state)
    (exactGuard :
      ∀ {state label next},
        invariant state →
        step state label next →
        property next →
        guard state label) :
    (∀ state ∈ visited past final, property state) ↔
      ∀ state label, (state, label) ∈ past → guard state label := by
  constructor
  · intro holds
    induction run with
    | nil =>
        intro state label member
        simp at member
    | @snoc past last next taken earlier moved inductionHypothesis =>
        have earlierGuarded :=
          inductionHypothesis (fun state member =>
            holds state (by
              simp only [visited, List.map_cons, List.mem_cons] at member ⊢
              exact Or.inr member))
        have lastHolds : invariant last :=
          invariant_visited earlier start preserved
            (fun member => earlierGuarded _ _ member) last (by simp)
        intro state label member
        rcases List.mem_cons.mp member with isLast | isEarlier
        · injection isLast with sameState sameLabel
          subst sameState
          subst sameLabel
          exact exactGuard lastHolds moved (holds next (by simp))
        · exact earlierGuarded state label isEarlier
  · intro guarded state member
    exact sound
      (invariant_visited run start preserved
        (fun inPast => guarded _ _ inPast) state member)

/-- A run whose steps all meet a condition is a run of the steps that do. -/
theorem restrict
    (run : Run step initial past final)
    (guarded :
      ∀ state label, (state, label) ∈ past → guard state label) :
    Run (fun state label next => guard state label ∧ step state label next)
      initial past final := by
  induction run with
  | nil =>
      exact .nil
  | @snoc past last next label earlier taken inductionHypothesis =>
      exact
        (inductionHypothesis fun state label member =>
          guarded state label (List.mem_cons_of_mem _ member)).snoc
          ⟨guarded last label (by simp), taken⟩

/--
What is computed from the labels alone stays related to the state, when every
guarded step keeps the two related.
-/
theorem followed
    {Follower : Type}
    {follow : Follower → Label → Follower}
    {follower : Follower}
    {related : State → Follower → Prop}
    (run : Run step initial past final)
    (start : related initial follower)
    (kept :
      ∀ {state label next follower},
        related state follower →
        guard state label →
        step state label next →
        related next (follow follower label))
    (guarded :
      ∀ {state label}, (state, label) ∈ past → guard state label) :
    related final
      ((past.map Prod.snd).foldr
        (fun label follower => follow follower label) follower) := by
  induction run with
  | nil =>
      exact start
  | snoc earlier taken inductionHypothesis =>
      exact
        kept
          (inductionHypothesis
            (fun member => guarded (List.mem_cons_of_mem _ member)))
          (guarded (by simp)) taken

section Replay

variable (next? : State → Label → Option State)

/-- The step relation of a transition function. -/
def Steps (state : State) (label : Label) (next : State) : Prop :=
  next? state label = some next

/-- Take the steps of a list of labels, first label first. -/
def replay : State → List Label → Option State
  | state, [] => some state
  | state, label :: rest =>
      match next? state label with
      | some next => replay next rest
      | none => none

variable {next?}

/-- A list of labels may be replayed in two parts. -/
theorem replay_append
    (state : State)
    (labels rest : List Label) :
    replay next? state (labels ++ rest) =
      (replay next? state labels).bind fun reached =>
        replay next? reached rest := by
  induction labels generalizing state with
  | nil =>
      rfl
  | cons label labels inductionHypothesis =>
      rw [List.cons_append, replay, replay]
      cases next? state label with
      | none => rfl
      | some next => exact inductionHypothesis next

/-- A replay that reaches a state extends a run to that state. -/
theorem extend_of_replay
    {state : State}
    {labels : List Label}
    (run : Run (Steps next?) initial past state)
    (replayed : replay next? state labels = some final) :
    ∃ past, Run (Steps next?) initial past final := by
  induction labels generalizing past state with
  | nil =>
      simp only [replay, Option.some.injEq] at replayed
      subst replayed
      exact ⟨past, run⟩
  | cons label rest inductionHypothesis =>
      unfold replay at replayed
      cases taken : next? state label with
      | none =>
          simp [taken] at replayed
      | some next =>
          simp only [taken] at replayed
          exact inductionHypothesis (run.snoc taken) replayed

variable (initial next?)

/-- A replay that ends in a checked state is a run to such a state. -/
theorem exists_of_replay
    (labels : List Label)
    (check : State → Bool)
    (checked : (replay next? initial labels).any check = true) :
    ∃ past final,
      Run (Steps next?) initial past final ∧ check final = true := by
  cases replayed : replay next? initial labels with
  | none =>
      simp [replayed] at checked
  | some final =>
      obtain ⟨past, run⟩ := extend_of_replay .nil replayed
      exact ⟨past, final, run, by simpa [replayed] using checked⟩

/-- Take the steps of a list of labels, and record them. -/
def trace
    (past : List (State × Label))
    (state : State) :
    List Label → Option (List (State × Label) × State)
  | [] => some (past, state)
  | label :: rest =>
      match next? state label with
      | some next => trace ((state, label) :: past) next rest
      | none => none

variable {next?}

/-- What was recorded extends a run. -/
theorem extend_of_trace
    {state : State}
    {labels : List Label}
    {later : List (State × Label)}
    (run : Run (Steps next?) initial past state)
    (traced : trace next? past state labels = some (later, final)) :
    Run (Steps next?) initial later final := by
  induction labels generalizing past state with
  | nil =>
      simp only [trace, Option.some.injEq, Prod.mk.injEq] at traced
      obtain ⟨rfl, rfl⟩ := traced
      exact run
  | cons label rest inductionHypothesis =>
      unfold trace at traced
      cases taken : next? state label with
      | none =>
          simp [taken] at traced
      | some next =>
          simp only [taken] at traced
          exact inductionHypothesis (run.snoc taken) traced

variable (next?) in
/-- A run that passed every check of a family, from its recorded steps. -/
theorem exists_of_recorded_all
    {Index : Type}
    [Inhabited Index]
    (labels : List Label)
    (check : Index → List (State × Label) → State → Bool)
    (checked :
      ∀ i,
        (trace next? [] initial labels).any
          (fun traced => check i traced.1 traced.2) = true) :
    ∃ past final,
      Run (Steps next?) initial past final ∧
        ∀ i, check i past final = true := by
  cases traced : trace next? [] initial labels with
  | none =>
      simp [traced] at checked
  | some reached =>
      obtain ⟨past, final⟩ := reached
      simp only [traced, Option.any_some] at checked
      exact ⟨past, final, extend_of_trace initial .nil traced, checked⟩

variable (next?) in
/-- A run that was checked as a whole, from its recorded steps. -/
theorem exists_of_recorded
    (labels : List Label)
    (check : List (State × Label) → State → Bool)
    (checked :
      (trace next? [] initial labels).any
        (fun traced => check traced.1 traced.2) = true) :
    ∃ past final,
      Run (Steps next?) initial past final ∧ check past final = true := by
  obtain ⟨past, final, run, isChecked⟩ :=
    exists_of_recorded_all initial next? labels (fun _ : Unit => check)
      fun _ => checked
  exact ⟨past, final, run, isChecked ()⟩

variable (next?) in
/-- A run whose steps and whose last state were checked. -/
theorem exists_of_trace
    (labels : List Label)
    (guarded : State → Bool)
    (check : State → Bool)
    (checked :
      (trace next? [] initial labels).any
        (fun traced =>
          traced.1.all (fun step => guarded step.1) && check traced.2) =
        true) :
    ∃ past final,
      Run (Steps next?) initial past final ∧
        (∀ state label, (state, label) ∈ past → guarded state = true) ∧
        check final = true := by
  obtain ⟨past, final, run, both⟩ :=
    exists_of_recorded initial next? labels
      (fun past final =>
        past.all (fun step => guarded step.1) && check final) checked
  simp only [Bool.and_eq_true, List.all_eq_true] at both
  exact
    ⟨past, final, run, fun state label member => both.1 (state, label) member,
      both.2⟩

/-- Take the steps of a list of labels, as long as each is checked. -/
def checked
    (next? : State → Label → Option State)
    (guarded : State → Label → State → Bool) :
    State → List Label → Option State
  | state, [] => some state
  | state, label :: rest =>
      match next? state label with
      | some next =>
          if guarded state label next then checked next? guarded next rest
          else none
      | none => none

/-- Checked steps extend a run whose steps were checked. -/
theorem extend_of_checked
    {guarded : State → Label → State → Bool}
    {state : State}
    {labels : List Label}
    (run : Run (Steps next?) initial past state)
    (isGuarded :
      ∀ state label next,
        (state, label) ∈ past →
          next? state label = some next → guarded state label next = true)
    (reached : checked next? guarded state labels = some final) :
    ∃ past,
      Run (Steps next?) initial past final ∧
        ∀ state label next,
          (state, label) ∈ past →
            next? state label = some next →
              guarded state label next = true := by
  induction labels generalizing past state with
  | nil =>
      simp only [checked, Option.some.injEq] at reached
      subst reached
      exact ⟨past, run, isGuarded⟩
  | cons label rest inductionHypothesis =>
      unfold checked at reached
      cases taken : next? state label with
      | none =>
          simp [taken] at reached
      | some next =>
          simp only [taken, Option.ite_none_right_eq_some] at reached
          refine inductionHypothesis (run.snoc taken) ?_ reached.2
          intro earlier other following member moved
          rcases List.mem_cons.mp member with isLast | isEarlier
          · cases isLast
            cases taken.symm.trans moved
            exact reached.1
          · exact isGuarded earlier other following isEarlier moved

variable (next?) in
/-- A run whose steps and whose last state were checked. -/
theorem exists_of_checked
    (labels : List Label)
    (guarded : State → Label → State → Bool)
    (check : State → Bool)
    (isChecked :
      (checked next? guarded initial labels).any check = true) :
    ∃ past final,
      Run (Steps next?) initial past final ∧
        (∀ state label next,
          (state, label) ∈ past →
            next? state label = some next →
              guarded state label next = true) ∧
        check final = true := by
  cases reached : checked next? guarded initial labels with
  | none =>
      simp [reached] at isChecked
  | some final =>
      obtain ⟨past, run, isGuarded⟩ :=
        extend_of_checked initial .nil (by simp) reached
      exact ⟨past, final, run, isGuarded, by simpa [reached] using isChecked⟩

end Replay

end Run

end Foundation
