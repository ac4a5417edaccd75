namespace Foundation

/-!
# Agendas

An agenda keeps items with the tick at which they are due.  Scheduling puts
an item a positive delay ahead; a tick advances the clock and hands over the
items due at the new time, in the order in which they were scheduled.
-/

/-- A clock and the items that are due later, in scheduling order. -/
structure Agenda (Item : Type) where
  now : Nat
  pending : List (Nat × Item)
  deriving Repr, DecidableEq

namespace Agenda

variable {Item : Type}

/-- The calls that an agenda answers. -/
inductive Call (Item : Type) where
  | schedule (delay : Nat) (item : Item)
  | tick
  deriving Repr, DecidableEq

/-- Put an item a delay ahead of the clock. -/
def schedule
    (agenda : Agenda Item)
    (delay : Nat)
    (item : Item) : Agenda Item :=
  { agenda with
    pending := agenda.pending ++ [(agenda.now + delay, item)] }

/-- The items that a tick hands over. -/
def batch (agenda : Agenda Item) : List Item :=
  (agenda.pending.filter fun entry => entry.1 = agenda.now + 1).map Prod.snd

/-- The agenda after a tick. -/
def tick (agenda : Agenda Item) : Agenda Item where
  now := agenda.now + 1
  pending := agenda.pending.filter fun entry => entry.1 ≠ agenda.now + 1

/-- The batches handed over by the ticks of a sequence of calls. -/
def batches : Agenda Item → List (Call Item) → List (List Item)
  | _, [] => []
  | agenda, .schedule delay item :: rest =>
      batches (agenda.schedule delay item) rest
  | agenda, .tick :: rest =>
      agenda.batch :: batches agenda.tick rest

/-- Every scheduled item with the tick at which it is due, counting from `now`. -/
def scheduled : Nat → List (Call Item) → List (Nat × Item)
  | _, [] => []
  | now, .schedule delay item :: rest =>
      (now + delay, item) :: scheduled now rest
  | now, .tick :: rest => scheduled (now + 1) rest

/-- Every delay of a sequence of calls is positive. -/
def Positive : List (Call Item) → Prop
  | [] => True
  | .schedule delay _ :: rest => 0 < delay ∧ Positive rest
  | .tick :: rest => Positive rest

/-- The number of ticks of a sequence of calls. -/
def ticks : List (Call Item) → Nat
  | [] => 0
  | .schedule .. :: rest => ticks rest
  | .tick :: rest => ticks rest + 1

/-- With positive delays everything scheduled is due later. -/
theorem lt_of_mem_scheduled
    {now : Nat}
    {calls : List (Call Item)}
    (positive : Positive calls)
    {entry : Nat × Item}
    (member : entry ∈ scheduled now calls) :
    now < entry.1 := by
  induction calls generalizing now with
  | nil =>
      simp [scheduled] at member
  | cons call rest inductionHypothesis =>
      cases call with
      | schedule delay item =>
          simp only [scheduled, List.mem_cons] at member
          rcases member with isHead | inRest
          · subst isHead
            exact Nat.lt_add_of_pos_right positive.1
          · exact inductionHypothesis positive.2 inRest
      | tick =>
          have inLater : entry ∈ scheduled (now + 1) rest := member
          exact Nat.lt_of_succ_lt (inductionHypothesis positive inLater)

/--
The `k`-th tick from now hands over exactly the items due then, pending or
scheduled meanwhile, in scheduling order.
-/
theorem getElem?_batches
    {agenda : Agenda Item}
    {calls : List (Call Item)}
    (positive : Positive calls)
    {k : Nat}
    {handed : List Item}
    (found : (batches agenda calls)[k]? = some handed) :
    handed =
      ((agenda.pending ++ scheduled agenda.now calls).filter
        fun entry => entry.1 = agenda.now + (k + 1)).map Prod.snd := by
  induction calls generalizing agenda k with
  | nil =>
      simp [batches] at found
  | cons call rest inductionHypothesis =>
      cases call with
      | schedule delay item =>
          have foundLater :
              (batches (agenda.schedule delay item) rest)[k]? =
                some handed :=
            found
          have later := inductionHypothesis positive.2 foundLater
          simp only [schedule, List.append_assoc] at later
          exact later
      | tick =>
          have nothingDue :
              (scheduled (agenda.now + 1) rest).filter
                (fun entry => entry.1 = agenda.now + 1) = [] := by
            simp only [List.filter_eq_nil_iff, decide_eq_true_eq]
            intro entry member isDue
            have laterPositive : Positive rest := positive
            have late := lt_of_mem_scheduled laterPositive member
            exact absurd isDue (Nat.ne_of_gt late)
          cases k with
          | zero =>
              simp only [batches, List.getElem?_cons_zero,
                Option.some.injEq] at found
              simp [← found, batch, scheduled, nothingDue]
          | succ k =>
              have foundLater :
                  (batches agenda.tick rest)[k]? = some handed := by
                simpa [batches] using found
              have later := inductionHypothesis positive foundLater
              have sameTime :
                  agenda.now + 1 + (k + 1) = agenda.now + (k + 1 + 1) := by
                omega
              have stillPending :
                  (agenda.tick.pending.filter
                      fun entry => entry.1 = agenda.now + (k + 1 + 1)) =
                    agenda.pending.filter
                      fun entry => entry.1 = agenda.now + (k + 1 + 1) := by
                simp only [tick, List.filter_filter]
                apply List.filter_congr
                intro entry _
                by_cases isDue : entry.1 = agenda.now + (k + 1 + 1)
                · simp [isDue]
                · simp [isDue]
              rw [later]
              simp only [List.filter_append, tick, scheduled, sameTime]
              rw [← stillPending]
              rfl

/-- Appending calls schedules later calls after the ticks of earlier ones. -/
theorem scheduled_append
    (now : Nat)
    (earlier later : List (Call Item)) :
    scheduled now (earlier ++ later) =
      scheduled now earlier ++ scheduled (now + ticks earlier) later := by
  induction earlier generalizing now with
  | nil =>
      rfl
  | cons call rest inductionHypothesis =>
      cases call with
      | schedule delay item =>
          simp [scheduled, ticks, inductionHypothesis]
      | tick =>
          simp [scheduled, ticks, inductionHypothesis, Nat.add_assoc,
            Nat.add_comm 1]

/-- The items scheduled by a sequence of calls. -/
def items : List (Call Item) → List Item
  | [] => []
  | .schedule _ item :: rest => item :: items rest
  | .tick :: rest => items rest

theorem map_snd_scheduled
    (now : Nat)
    (calls : List (Call Item)) :
    (scheduled now calls).map Prod.snd = items calls := by
  induction calls generalizing now with
  | nil =>
      rfl
  | cons call rest inductionHypothesis =>
      cases call <;> simp [scheduled, items, inductionHypothesis]

theorem items_append
    (earlier later : List (Call Item)) :
    items (earlier ++ later) = items earlier ++ items later := by
  rw [← map_snd_scheduled 0, scheduled_append, List.map_append,
    map_snd_scheduled, map_snd_scheduled]

/-- An item that is not in a list is not among its filtered entries. -/
private theorem count_filter_eq_zero
    [DecidableEq Item]
    {entries : List (Nat × Item)}
    {item : Item}
    (absent : item ∉ entries.map Prod.snd)
    (keep : Nat × Item → Bool) :
    ((entries.filter keep).map Prod.snd).count item = 0 := by
  rw [List.count_eq_zero]
  intro member
  obtain ⟨entry, inFilter, isItem⟩ := List.mem_map.mp member
  exact absent (List.mem_map.mpr
    ⟨entry, (List.mem_filter.mp inFilter).1, isItem⟩)

/--
Starting from an agenda with nothing pending, an item that is scheduled once
is handed over exactly once: by the tick that its delay names.
-/
theorem count_batches
    [DecidableEq Item]
    {now : Nat}
    {earlier later : List (Call Item)}
    {delay : Nat}
    {item : Item}
    (positive : Positive (earlier ++ .schedule delay item :: later))
    (once : (items (earlier ++ .schedule delay item :: later)).Nodup)
    {k : Nat}
    {handed : List Item}
    (found :
      (batches ⟨now, []⟩ (earlier ++ .schedule delay item :: later))[k]? =
        some handed) :
    handed.count item = if k + 1 = ticks earlier + delay then 1 else 0 := by
  have parts := once
  rw [items_append, items, List.nodup_append] at parts
  obtain ⟨-, lateNodup, apart⟩ := parts
  have notEarlier : item ∉ items earlier := by
    intro member
    exact apart item member item (by simp) rfl
  have notLater : item ∉ items later := (List.nodup_cons.mp lateNodup).1
  rw [← map_snd_scheduled now] at notEarlier
  rw [← map_snd_scheduled (now + ticks earlier)] at notLater
  rw [getElem?_batches positive found, List.nil_append, scheduled_append,
    List.filter_append, List.map_append, List.count_append,
    count_filter_eq_zero notEarlier, scheduled, List.filter_cons]
  by_cases isDue : k + 1 = ticks earlier + delay
  · have due : now + ticks earlier + delay = now + (k + 1) := by omega
    simp only [due, decide_true, ↓reduceIte, List.map_cons, isDue,
      List.count_cons_self, Nat.zero_add]
    rw [count_filter_eq_zero notLater]
  · have notDue : now + ticks earlier + delay ≠ now + (k + 1) := by omega
    simp only [notDue, decide_false, Bool.false_eq_true, ↓reduceIte, isDue,
      Nat.zero_add]
    rw [count_filter_eq_zero notLater]

section Order

/-- The agenda after a sequence of calls. -/
def after : Agenda Item → List (Call Item) → Agenda Item
  | agenda, [] => agenda
  | agenda, .schedule delay item :: rest => after (agenda.schedule delay item) rest
  | agenda, .tick :: rest => after agenda.tick rest

theorem batches_append
    (agenda : Agenda Item)
    (earlier later : List (Call Item)) :
    batches agenda (earlier ++ later) =
      batches agenda earlier ++ batches (agenda.after earlier) later := by
  induction earlier generalizing agenda with
  | nil =>
      rfl
  | cons call rest inductionHypothesis =>
      cases call with
      | schedule delay item =>
          exact inductionHypothesis (agenda.schedule delay item)
      | tick =>
          exact congrArg (agenda.batch :: ·) (inductionHypothesis agenda.tick)

/-- What a sequence of calls hands over or leaves was pending or is scheduled by it. -/
theorem mem_of_mem_flatten_batches
    {agenda : Agenda Item}
    {calls : List (Call Item)}
    {item : Item}
    (member :
      item ∈ (batches agenda calls).flatten ∨
        item ∈ (agenda.after calls).pending.map Prod.snd) :
    item ∈ agenda.pending.map Prod.snd ∨ item ∈ items calls := by
  induction calls generalizing agenda with
  | nil =>
      exact Or.inl (member.resolve_left (by simp [batches]))
  | cons call rest inductionHypothesis =>
      cases call with
      | schedule delay other =>
          rcases inductionHypothesis member with pending | later
          · rw [schedule, List.map_append, List.mem_append] at pending
            rcases pending with old | isNew
            · exact Or.inl old
            · simp only [List.map_cons, List.map_nil, List.mem_singleton] at isNew
              exact Or.inr (isNew ▸ List.mem_cons_self)
          · exact Or.inr (List.mem_cons_of_mem _ later)
      | tick =>
          have ofFilter
              {keep : Nat × Item → Bool}
              (kept : item ∈ (agenda.pending.filter keep).map Prod.snd) :
              item ∈ agenda.pending.map Prod.snd := by
            obtain ⟨entry, inFilter, isItem⟩ := List.mem_map.mp kept
            exact List.mem_map.mpr
              ⟨entry, (List.mem_filter.mp inFilter).1, isItem⟩
          simp only [batches, List.flatten_cons, List.mem_append] at member
          rcases member with (now | handed) | left
          · exact Or.inl (ofFilter now)
          · exact (inductionHypothesis (Or.inl handed)).imp_left ofFilter
          · exact (inductionHypothesis (Or.inr left)).imp_left ofFilter

/-- A list that does not hold an element lies before each of its occurrences. -/
private theorem append_of_not_mem
    {front rest before after : List Item}
    {item : Item}
    (same : front ++ rest = before ++ item :: after)
    (absent : item ∉ front) :
    ∃ between, before = front ++ between ∧ rest = between ++ item :: after := by
  rcases List.append_eq_append_iff.mp same with
    ⟨between, isBefore, isRest⟩ | ⟨overlap, isFront, isTail⟩
  · exact ⟨between, isBefore, isRest⟩
  · cases overlap with
    | nil =>
        rw [List.append_nil] at isFront
        rw [List.nil_append] at isTail
        exact ⟨[], by rw [isFront, List.append_nil], isTail.symm⟩
    | cons other overlap =>
        injection isTail with isItem
        rw [isFront, isItem] at absent
        exact absurd (by simp) absent

/--
Of two items pending for the same tick, the one that was scheduled first is
handed over first.
-/
theorem mem_before_of_pending
    {agenda : Agenda Item}
    {calls : List (Call Item)}
    {ahead behind : List (Nat × Item)}
    {due : Nat}
    {first second : Item}
    (shape : agenda.pending = ahead ++ (due, second) :: behind)
    (isAhead : (due, first) ∈ ahead)
    (notAhead : second ∉ ahead.map Prod.snd)
    (notBehind : second ∉ behind.map Prod.snd)
    (notLater : second ∉ items calls)
    {before after : List Item}
    (handed : (batches agenda calls).flatten = before ++ second :: after) :
    first ∈ before := by
  induction calls generalizing agenda ahead behind before with
  | nil =>
      simp [batches] at handed
  | cons call rest inductionHypothesis =>
      cases call with
      | schedule delay item =>
          simp only [items, List.mem_cons, not_or] at notLater
          have shapeLater :
              (agenda.schedule delay item).pending =
                ahead ++ (due, second) ::
                  (behind ++ [(agenda.now + delay, item)]) := by
            simp [schedule, shape]
          refine inductionHypothesis shapeLater isAhead notAhead ?_
            notLater.2 handed
          simpa [notLater.1] using notBehind
      | tick =>
          have notKept
              {entries : List (Nat × Item)}
              {keep : Nat × Item → Bool}
              (absent : second ∉ entries.map Prod.snd) :
              second ∉ (entries.filter keep).map Prod.snd := by
            intro kept
            obtain ⟨entry, inFilter, isItem⟩ := List.mem_map.mp kept
            exact absent (List.mem_map.mpr
              ⟨entry, (List.mem_filter.mp inFilter).1, isItem⟩)
          simp only [batches, List.flatten_cons] at handed
          by_cases isDue : due = agenda.now + 1
          · -- both are handed over now
            rw [batch, shape, List.filter_append, List.map_append,
              List.append_assoc] at handed
            obtain ⟨between, isBefore, _⟩ :=
              append_of_not_mem handed (notKept notAhead)
            rw [isBefore]
            refine List.mem_append_left _
              (List.mem_map.mpr ⟨(due, first), ?_, rfl⟩)
            exact List.mem_filter.mpr ⟨isAhead, by simpa using isDue⟩
          · -- both stay pending
            have batched : second ∉ agenda.batch := by
              rw [batch, shape, List.filter_append, List.map_append,
                List.filter_cons_of_neg (by simpa using isDue)]
              rw [List.mem_append, not_or]
              exact ⟨notKept notAhead, notKept notBehind⟩
            obtain ⟨between, isBefore, later⟩ :=
              append_of_not_mem handed batched
            have shapeLater :
                agenda.tick.pending =
                  ahead.filter (fun entry => entry.1 ≠ agenda.now + 1) ++
                    (due, second) ::
                      behind.filter fun entry => entry.1 ≠ agenda.now + 1 := by
              rw [tick, shape, List.filter_append,
                List.filter_cons_of_pos (by simpa using isDue)]
            rw [isBefore]
            refine List.mem_append_right _
              (inductionHypothesis shapeLater ?_ (notKept notAhead)
                (notKept notBehind) notLater later)
            exact List.mem_filter.mpr ⟨isAhead, by simpa using isDue⟩

/--
An item that is scheduled for the tick at which another one is pending is handed
over behind it.
-/
theorem mem_before_of_schedule
    {now : Nat}
    {earlier later : List (Call Item)}
    {delay : Nat}
    {first second : Item}
    (notEarlier : second ∉ items earlier)
    (notLater : second ∉ items later)
    (pending :
      ((after ⟨now, []⟩ earlier).now + delay, first) ∈
        (after ⟨now, []⟩ earlier).pending)
    {before after : List Item}
    (handed :
      (batches ⟨now, []⟩ (earlier ++ .schedule delay second :: later)).flatten =
        before ++ second :: after) :
    first ∈ before := by
  have unknown
      (member :
        second ∈ (batches ⟨now, []⟩ earlier).flatten ∨
          second ∈ (Agenda.after ⟨now, []⟩ earlier).pending.map Prod.snd) :
      False := by
    rcases mem_of_mem_flatten_batches member with wasPending | wasScheduled
    · cases wasPending
    · exact notEarlier wasScheduled
  rw [batches_append, List.flatten_append] at handed
  obtain ⟨between, isBefore, rest⟩ :=
    append_of_not_mem handed fun member => unknown (Or.inl member)
  rw [isBefore]
  exact List.mem_append_right _
    (mem_before_of_pending rfl pending
      (fun member => unknown (Or.inr member)) List.not_mem_nil notLater rest)

end Order

end Agenda

end Foundation
