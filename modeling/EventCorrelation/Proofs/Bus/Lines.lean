import EventCorrelation.Bus.Run

/-!
# Lines of reports, move by move

What one move of a producer can do to one of its lines, said once and for all, and what follows for
the reports of the line: each of them is accounted for, none is discarded without need, and a drain
that has to end gets there.
-/

namespace EventCorrelation

namespace ReportLine

variable {α β : Type} {line next : ReportLine α} {reports : List α} {mayReport : Bool}

theorem map_push (read : α → β) (report : α) (line : ReportLine α) :
    (line.push report).map read = (line.map read).push (read report) := by
  unfold push
  rw [show (line.map read).isAbandoned = line.isAbandoned from rfl,
    show (line.map read).waiting.length = line.waiting.length from List.length_map _,
    show (line.map read).capacity = line.capacity from rfl]
  split
  · rfl
  · simp [map]

theorem map_start? (read : α → β) (line : ReportLine α) :
    (line.map read).start? = line.start?.map (map read) := by
  cases drain : line.drain <;> simp [start?, map, drain]

theorem map_requestStop (read : α → β) (line : ReportLine α) :
    (line.map read).requestStop = line.requestStop.map read := by
  cases drain : line.drain <;> simp [requestStop, map, drain]

theorem map_step? (read : α → β) (mayReport : Bool) (line : ReportLine α) :
    (line.map read).step? mayReport = (line.step? mayReport).map (map read) := by
  cases drain : line.drain with
  | notStarted | ended => simp [step?, map, drain]
  | running drained stopping =>
    cases waiting : line.waiting with
    | cons head rest => simp [step?, map, drain, waiting]
    | nil => cases stopping <;> cases mayReport <;> simp [step?, map, drain, waiting]

theorem map_settle (read : α → β) (mayReport : Bool) (line : ReportLine α) :
    (line.map read).settle mayReport = (line.settle mayReport).map read := by
  have along (fuel : Nat) (line : ReportLine α) :
      (line.map read).run mayReport fuel = (line.run mayReport fuel).map read := by
    induction fuel generalizing line with
    | zero => rfl
    | succ fuel ih =>
      rw [run, run, map_step?]
      cases line.step? mayReport with
      | none => rfl
      | some next => exact ih next
  rw [settle, settle, show (line.map read).waiting.length = line.waiting.length from List.length_map _]
  exact along _ line

/-- A running drain takes the first report that waits; if none does, it may have to end. -/
theorem step?_running (mayReport : Bool) {count : Nat} {stopping : Bool}
    (running : line.drain = .running count stopping) :
    (∃ head rest, line.waiting = head :: rest ∧ line.step? mayReport =
      some { line with waiting := rest, drain := .running (count + 1) stopping }) ∨
    (line.waiting = [] ∧ line.step? mayReport =
      if stopping || !mayReport then some { line with drain := .ended count } else none) := by
  cases waiting : line.waiting with
  | cons head rest => exact .inl ⟨head, rest, rfl, by simp [step?, running, waiting]⟩
  | nil => exact .inr ⟨rfl, by simp [step?, running, waiting]⟩

/-- A drain that has to end consumes all that waits. -/
theorem result?_run {count : Nat} {stopping : Bool}
    (running : line.drain = .running count stopping) (mustEnd : (stopping || !mayReport) = true)
    {fuel : Nat} (enough : line.waiting.length < fuel) :
    (line.run mayReport fuel).result? = some (count + line.waiting.length) := by
  induction fuel generalizing line count with
  | zero => cases enough
  | succ fuel ih =>
    rw [run]
    rcases step?_running mayReport running with
      ⟨head, rest, waiting, steps⟩ | ⟨waiting, steps⟩
    · rw [waiting, List.length_cons] at enough
      rw [steps, waiting, List.length_cons]
      have later : (run mayReport fuel
          { line with waiting := rest, drain := .running (count + 1) stopping }).result? =
            some (count + 1 + rest.length) :=
        ih rfl (Nat.lt_of_succ_lt_succ enough)
      rwa [Nat.add_assoc, Nat.add_comm 1] at later
    · rw [steps, if_pos mustEnd, waiting]
      cases fuel <;> rfl

theorem Accounts.length_eq (accounts : line.Accounts reports) :
    reports.length = line.taken + line.discarded := by
  obtain ⟨consumed, lost, dealt, counted, discarded⟩ := accounts
  rw [dealt.length_eq, List.length_append, counted, discarded]
  rfl

end ReportLine

/-- What a move does to the line of the reports of a kind, which brings it these reports. -/
inductive ReportLine.Change (kind : ReportKind) (mayReport : Bool) (line : ReportLine Report) :
    ProducerMove → List Report → ReportLine Report → Prop where
  | aside {move : ProducerMove} (noStep : move ≠ .stepDrain kind) :
    Change kind mayReport line move [] line
  | discarded {move : ProducerMove} (report : Report) (noStep : move ≠ .stepDrain kind)
      (reports : mayReport = true)
      (refused : (∃ count, line.drain = .ended count) ∨ line.capacity ≤ line.waiting.length) :
    Change kind mayReport line move [report] { line with discarded := line.discarded + 1 }
  | queued {move : ProducerMove} (report : Report) (noStep : move ≠ .stepDrain kind)
      (attended : ∀ count, line.drain ≠ .ended count)
      (room : line.waiting.length < line.capacity) :
    Change kind mayReport line move [report] { line with waiting := line.waiting ++ [report] }
  | started (waits : line.drain = .notStarted) :
    Change kind mayReport line (.startDrain kind) [] { line with drain := .running 0 false }
  | told (count : Nat) (stopping : Bool) (running : line.drain = .running count stopping) :
    Change kind mayReport line (.requestStop kind) [] { line with drain := .running count true }
  | consumed (count : Nat) (stopping : Bool) (head : Report) (rest : List Report)
      (running : line.drain = .running count stopping) (waiting : line.waiting = head :: rest) :
    Change kind mayReport line (.stepDrain kind) []
      { line with waiting := rest, drain := .running (count + 1) stopping }
  | ended (count : Nat) (stopping : Bool) (running : line.drain = .running count stopping)
      (waiting : line.waiting = []) (mustEnd : (stopping || !mayReport) = true) :
    Change kind mayReport line (.stepDrain kind) [] { line with drain := .ended count }
  | stuck (stays : ∀ count stopping, line.drain = .running count stopping →
      (stopping || !mayReport) = false) :
    Change kind mayReport line (.stepDrain kind) [] line

namespace ReportLine

variable {kind : ReportKind} {mayReport : Bool} {line next : ReportLine Report}
  {move : ProducerMove} {due reports : List Report}

theorem change_push (noStep : move ≠ .stepDrain kind) (reports : mayReport = true)
    (report : Report) (line : ReportLine Report) :
    Change kind mayReport line move [report] (line.push report) := by
  unfold push
  split
  · next refused =>
    refine .discarded report noStep reports ?_
    rw [Bool.or_eq_true, decide_eq_true_eq] at refused
    rcases refused with abandoned | full
    · left
      unfold isAbandoned at abandoned
      split at abandoned
      · next count drain => exact ⟨count, drain⟩
      · cases abandoned
    · exact .inr full
  · next taken =>
    rw [Bool.or_eq_true, decide_eq_true_eq, not_or, Nat.not_le] at taken
    refine .queued report noStep (fun count drain => taken.1 ?_) taken.2
    rw [isAbandoned, drain]

theorem change_start (starts : line.start? = some next) :
    Change kind mayReport line (.startDrain kind) [] next := by
  unfold start? at starts
  split at starts
  · next waits =>
    cases starts
    exact .started waits
  · cases starts

theorem change_requestStop (kind : ReportKind) (mayReport : Bool) (line : ReportLine Report) :
    Change kind mayReport line (.requestStop kind) [] line.requestStop := by
  unfold requestStop
  split
  · next count stopping running => exact .told count stopping running
  · exact .aside nofun

theorem change_step (kind : ReportKind) (mayReport : Bool) (line : ReportLine Report) :
    Change kind mayReport line (.stepDrain kind) [] ((line.step? mayReport).getD line) := by
  cases drain : line.drain with
  | notStarted | ended =>
    rw [step?, drain]
    exact .stuck fun _ _ running => by cases drain.symm.trans running
  | running count stopping =>
    rcases step?_running mayReport drain with
      ⟨head, rest, waiting, steps⟩ | ⟨waiting, steps⟩
    · rw [steps]
      exact .consumed count stopping head rest drain waiting
    · rw [steps]
      split
      · next mustEnd => exact .ended count stopping drain waiting mustEnd
      · next mayWait =>
        refine .stuck fun _ _ running => ?_
        cases drain.symm.trans running
        rwa [Bool.not_eq_true] at mayWait

/-- The reports that a move brings are accounted for. -/
theorem Accounts.change (accounts : line.Accounts reports)
    (change : Change kind mayReport line move due next) : next.Accounts (reports ++ due) := by
  obtain ⟨consumed, lost, dealt, counted, discarded⟩ := accounts
  cases change with
  | aside | stuck =>
    rw [List.append_nil]
    exact ⟨consumed, lost, dealt, counted, discarded⟩
  | discarded report =>
    refine ⟨consumed, lost ++ [report], ?_, counted, ?_⟩
    · have dealtAll := dealt.append (.all_right [report])
      rwa [List.append_nil] at dealtAll
    · rw [List.length_append, discarded]
      rfl
  | queued report =>
    refine ⟨consumed, lost, ?_, counted, discarded⟩
    have dealtAll := dealt.append (.all_left [report])
    rwa [List.append_assoc, List.append_nil] at dealtAll
  | started waits =>
    rw [List.append_nil]
    exact ⟨consumed, lost, dealt, by rw [counted, drained, waits]; rfl, discarded⟩
  | told count stopping running =>
    rw [List.append_nil]
    exact ⟨consumed, lost, dealt, by rw [counted, drained, running]; rfl, discarded⟩
  | consumed count stopping head rest running waiting =>
    rw [List.append_nil]
    rw [waiting] at dealt
    refine ⟨consumed ++ [head], lost, by rwa [List.append_assoc], ?_, discarded⟩
    rw [List.length_append, counted, drained, running]
    rfl
  | ended count stopping running =>
    rw [List.append_nil]
    exact ⟨consumed, lost, dealt, by rw [counted, drained, running]; rfl, discarded⟩

/-- A report that was not discarded stays taken. -/
theorem taken_le_change (change : Change kind mayReport line move due next) :
    line.taken ≤ next.taken := by
  cases change with
  | aside | discarded | stuck => exact Nat.le_refl _
  | queued => simp [taken, drained]
  | started waits => simp [taken, drained, waits]
  | told count stopping running => simp [taken, drained, running]
  | consumed count stopping head rest running waiting =>
    simp only [taken, drained, running, waiting, List.length_cons]
    omega
  | ended count stopping running => simp [taken, drained, running]

theorem ended_change {count : Nat} (ended : line.drain = .ended count)
    (change : Change kind mayReport line move due next) : next.drain = .ended count := by
  cases change with
  | aside | discarded | queued | stuck => exact ended
  | started waits => cases ended.symm.trans waits
  | told count stopping running => cases ended.symm.trans running
  | consumed count stopping head rest running => cases ended.symm.trans running
  | ended count stopping running => cases ended.symm.trans running

theorem refused_of_discarded (change : Change kind mayReport line move due next)
    (more : line.discarded < next.discarded) :
    mayReport = true ∧
      ((∃ count, line.drain = .ended count) ∨ line.capacity ≤ line.waiting.length) := by
  cases change with
  | discarded report noStep reports refused => exact ⟨reports, refused⟩
  | aside | queued | started | told | consumed | ended | stuck =>
    exact absurd more (Nat.lt_irrefl _)

/-- A drain that has to end comes nearer to its end by every step. -/
theorem running_change {count : Nat} {stopping : Bool}
    (running : line.drain = .running count stopping) (mustEnd : (stopping || !mayReport) = true)
    (change : Change kind mayReport line move due next) :
    (∃ countNow stoppingNow, next.drain = .running countNow stoppingNow ∧
      (stopping = true → stoppingNow = true) ∧
      next.waiting.length + [move].count (.stepDrain kind) ≤ line.waiting.length + due.length) ∨
    ∃ countNow, next.drain = .ended countNow := by
  cases change with
  | aside noStep =>
    refine .inl ⟨count, stopping, running, id, ?_⟩
    simp [noStep]
  | discarded report noStep =>
    refine .inl ⟨count, stopping, running, id, ?_⟩
    simp [noStep]
  | queued report noStep =>
    refine .inl ⟨count, stopping, running, id, ?_⟩
    simp [noStep]
  | started waits => cases running.symm.trans waits
  | told => exact .inl ⟨_, true, rfl, fun _ => rfl, by simp⟩
  | consumed countNow stoppingNow head rest stillRunning waiting =>
    cases running.symm.trans stillRunning
    refine .inl ⟨count + 1, stopping, rfl, id, ?_⟩
    rw [waiting]
    simp
  | ended countNow => exact .inr ⟨countNow, rfl⟩
  | stuck stays =>
    rw [stays count stopping running] at mustEnd
    cases mustEnd

/-- A drain that is told to stop and runs is stopping; nothing else changes. -/
theorem requestStop_started (started : line.drain ≠ .notStarted) :
    line.requestStop.drain ≠ .notStarted ∧ line.requestStop.taken = line.taken ∧
      ∀ count stopping, line.requestStop.drain = .running count stopping → stopping = true := by
  cases drain : line.drain with
  | notStarted => exact absurd drain started
  | running count stopping => simp [requestStop, drain, taken, drained]
  | ended count => simp [requestStop, drain]

/-- What holds of a line between any two moves, given whether its drain has been told to stop and
whether the producer is closed. -/
structure Sound (capacity : Nat) (told closed : Prop) (line : ReportLine Report) : Prop where
  capacity : line.capacity = max capacity 1
  room : line.waiting.length ≤ line.capacity
  emptied : ∀ count, line.drain = .ended count → line.waiting = []
  stopping : ∀ count, line.drain = .running count true → told
  ended : ∀ count, line.drain = .ended count → told ∨ closed

theorem Sound.change {capacity : Nat} {told closed toldNow closedNow : Prop}
    (sound : Sound capacity told closed line) (change : Change kind mayReport line move due next)
    (stillTold : told → toldNow) (nowTold : move = .requestStop kind → toldNow)
    (stillClosed : closed → closedNow) (nowClosed : mayReport = false → closedNow) :
    Sound capacity toldNow closedNow next := by
  have ended (count : Nat) (drain : line.drain = .ended count) : toldNow ∨ closedNow :=
    (sound.ended count drain).imp stillTold stillClosed
  have stopping (count : Nat) (drain : line.drain = .running count true) : toldNow :=
    stillTold (sound.stopping count drain)
  cases change with
  | aside | stuck => exact ⟨sound.capacity, sound.room, sound.emptied, stopping, ended⟩
  | discarded => exact ⟨sound.capacity, sound.room, sound.emptied, stopping, ended⟩
  | queued report noStep attended room =>
    refine ⟨sound.capacity, ?_, ?_, stopping, ended⟩
    · rw [List.length_append]
      exact room
    · exact fun count drain => absurd drain (attended count)
  | started => exact ⟨sound.capacity, sound.room, nofun, nofun, nofun⟩
  | told => exact ⟨sound.capacity, sound.room, nofun, fun _ _ => nowTold rfl, nofun⟩
  | consumed count stops head rest running waiting =>
    refine ⟨sound.capacity, ?_, nofun, ?_, nofun⟩
    · have room := sound.room
      rw [waiting] at room
      exact Nat.le_of_succ_le room
    · rintro _ ⟨⟩
      exact stopping count running
  | ended count stops running waiting mustEnd =>
    refine ⟨sound.capacity, sound.room, fun _ _ => waiting, nofun, fun _ _ => ?_⟩
    cases stops with
    | true => exact .inl (stopping count running)
    | false => exact .inr (nowClosed (by simpa using mustEnd))

/-- What an ended drain has consumed is all that was not discarded. -/
theorem Sound.result?_eq {capacity count : Nat} {told closed : Prop}
    (sound : Sound capacity told closed line) (result : line.result? = some count) :
    count = line.taken := by
  unfold result? at result
  split at result
  · next drain =>
    cases result
    rw [taken, drained, drain, sound.emptied _ drain]
    rfl
  · cases result

/-- A drain that has to end will have consumed all that was not discarded. -/
theorem Sound.result?_settle {capacity : Nat} {told closed : Prop}
    (sound : Sound capacity told closed line) (started : line.drain ≠ .notStarted)
    (mustEnd : ∀ count stopping, line.drain = .running count stopping →
      (stopping || !mayReport) = true) :
    (line.settle mayReport).result? = some line.taken := by
  cases drain : line.drain with
  | notStarted => exact absurd drain started
  | running count stopping =>
    rw [settle, result?_run drain (mustEnd count stopping drain) (Nat.lt_succ_self _), taken,
      drained, drain]
  | ended count =>
    have nothing : line.step? mayReport = none := by rw [step?, drain]
    rw [settle, run, nothing, taken, drained, drain, sound.emptied count drain]
    simp [result?, drain]

end ReportLine

end EventCorrelation
