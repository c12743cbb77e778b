import EventCorrelation.DealtOut
import EventCorrelation.Proofs.Consumer.Marking

/-!
# What is cut short

A record that was handed to the worker is marked unless its call was cut short, and a call is cut
short only when the member notices its flag while the worker is at it. A write that leaves the flag
lowered does that as well: the member goes on with its next session, and marks past the record.
-/

namespace EventCorrelation

namespace MemberEvent

theorem handed?_of_notWork (event : MemberEvent) (notWork : event.isWork = false) :
    event.handed? = none := by
  cases event with
  | handed | handled | marked => cases notWork
  | asked | began | ended | released | stopped => rfl

theorem marked?_of_notWork (event : MemberEvent) (notWork : event.isWork = false) :
    event.marked? = none := by
  cases event with
  | handed | handled | marked => cases notWork
  | asked | began | ended | released | stopped => rfl

end MemberEvent

namespace WorkProgress

variable {first last : WorkProgress} {events : List MemberEvent}

@[simp]
theorem unmarked_away : unmarked .away = [] := rfl

@[simp]
theorem unmarked_free : unmarked .free = [] := rfl

/-- The worker is free when a session has been asked for. -/
theorem eq_free_of_asked (moved : first.next? .asked = some last) : last = .free := by
  simp only [next?, Option.ite_none_left_eq_some, Option.some.injEq] at moved
  exact moved.2.symm

/-- A request for the next session is where an open record is dropped, so a history may have fewer
marks than calls, but never more. -/
theorem marked_length_le (ran : events.foldlM next? first = some last) :
    (events.filterMap MemberEvent.marked?).length + last.unmarked.length ≤
      first.unmarked.length + (events.filterMap MemberEvent.handed?).length := by
  induction events generalizing first with
  | nil =>
    cases ran
    simp
  | cons event rest ih =>
    rw [List.foldlM_cons] at ran
    obtain ⟨next, moved, ranRest⟩ := Option.bind_eq_some_iff.mp ran
    have restPart := ih ranRest
    rw [filterMap_cons_toList, filterMap_cons_toList, List.length_append, List.length_append]
    by_cases request : event = .asked
    · subst request
      obtain rfl := eq_free_of_asked moved
      simp [MemberEvent.handed?, MemberEvent.marked?] at restPart ⊢
      omega
    · have headPart := congrArg List.length (unmarked_next moved request)
      rw [List.length_append, List.length_append] at headPart
      omega

/-- If nothing that was handed out is unmarked, apart from what is open at the end, then no session
has left anything open. -/
theorem earlierSessionsMarked (ran : events.foldlM next? first = some last)
    (balanced : first.unmarked.length + (events.filterMap MemberEvent.handed?).length ≤
      (events.filterMap MemberEvent.marked?).length + last.unmarked.length) :
    EarlierSessionsMarked events := by
  rintro earlier session later rfl noRequest
  rw [List.foldlM_append] at ran
  obtain ⟨closed, ranSession, ranLater⟩ := Option.bind_eq_some_iff.mp ran
  rw [List.foldlM_append] at ranSession
  obtain ⟨before, ranEarlier, ranSession⟩ := Option.bind_eq_some_iff.mp ranSession
  have earlierPart := marked_length_le ranEarlier
  rw [List.foldlM_cons] at ranSession ranLater
  obtain ⟨opened, asked, ranSession⟩ := Option.bind_eq_some_iff.mp ranSession
  obtain ⟨reopened, askedAgain, ranLater⟩ := Option.bind_eq_some_iff.mp ranLater
  obtain rfl := eq_free_of_asked asked
  obtain rfl := eq_free_of_asked askedAgain
  have laterPart := marked_length_le ranLater
  have balance : session.filterMap MemberEvent.handed? =
      session.filterMap MemberEvent.marked? ++ closed.unmarked :=
    handed_eq_marked_append ranSession noRequest
  have noneOpen : closed.unmarked = [] := by
    rw [← List.length_eq_zero_iff]
    have lengths := congrArg List.length balance
    simp only [List.filterMap_append, filterMap_cons_toList, List.length_append] at balanced lengths
    simp [MemberEvent.handed?, MemberEvent.marked?] at balanced laterPart
    omega
  rw [balance, noneOpen, List.append_nil]

end WorkProgress

section Requests

variable {history : List MemberEvent}

theorem exists_last_request (asked : .asked ∈ history) :
    ∃ earlier events, history = earlier ++ .asked :: events ∧ .asked ∉ events := by
  induction history using List.reverseRecOn with
  | nil => cases asked
  | append_singleton before last ih =>
    by_cases isLast : last = .asked
    · exact ⟨before, [], by rw [isLast], List.not_mem_nil⟩
    · have earlierAsked : .asked ∈ before := by
        rcases List.mem_append.mp asked with inside | atEnd
        · exact inside
        · exact absurd (List.mem_singleton.mp atEnd).symm isLast
      obtain ⟨earlier, events, rfl, noRequest⟩ := ih earlierAsked
      refine ⟨earlier, events ++ [last], by simp, ?_⟩
      intro inside
      rcases List.mem_append.mp inside with among | atEnd
      · exact noRequest among
      · exact isLast (List.mem_singleton.mp atEnd).symm

theorem EarlierSessionsMarked.of_append {more : List MemberEvent}
    (marked : EarlierSessionsMarked (history ++ more)) : EarlierSessionsMarked history := by
  rintro earlier events later rfl noRequest
  exact marked earlier events (later ++ more) (by simp) noRequest

/-- At a request, all sessions so far are earlier ones. -/
theorem handed_eq_marked (marked : EarlierSessionsMarked (history ++ [.asked]))
    {last : WorkProgress} (ran : history.foldlM WorkProgress.next? .away = some last) :
    history.filterMap MemberEvent.handed? = history.filterMap MemberEvent.marked? := by
  -- The history ends with its last session; what stands before that ends at a request as well.
  induction length : history.length using Nat.strongRecOn generalizing history last with
  | ind _ ih =>
  subst length
  by_cases asked : .asked ∈ history
  · obtain ⟨earlier, events, rfl, noRequest⟩ := exists_last_request asked
    have session := marked earlier events [] (by simp) noRequest
    rw [List.foldlM_append] at ran
    obtain ⟨before, ranEarlier, -⟩ := Option.bind_eq_some_iff.mp ran
    have whole : (earlier ++ [.asked]) ++ (events ++ [.asked]) =
        earlier ++ .asked :: events ++ [.asked] := by simp
    have markedBefore : EarlierSessionsMarked (earlier ++ [.asked]) := .of_append (whole ▸ marked)
    have sessionsBefore := ih earlier.length (by simp) markedBefore ranEarlier rfl
    rw [List.filterMap_append, List.filterMap_append, sessionsBefore]
    exact congrArg _ session.symm
  · have noWork := WorkProgress.away_of_noRequest ran asked
    have noneHanded : history.filterMap MemberEvent.handed? = [] :=
      List.filterMap_eq_nil_iff.mpr fun event member => event.handed?_of_notWork (noWork event member)
    have noneMarked : history.filterMap MemberEvent.marked? = [] :=
      List.filterMap_eq_nil_iff.mpr fun event member => event.marked?_of_notWork (noWork event member)
    rw [noneHanded, noneMarked]

end Requests

namespace Member

variable {ω : Type} {work : Record → ω → Bool × ω} {member next : Member ω} {cut : List Record}

/-- What can have become of the records of a member by one move, which cuts calls short. -/
inductive Handling (member next : Member ω) (cut : List Record) : Prop where
  | aside (handed : next.handed = member.handed) (marked : next.marked = member.marked)
      (inHand : member.phase.inHand = cut ++ next.phase.inHand)
  | handed (record : Record) (noCut : cut = [])
      (handed : next.handed = member.handed ++ [record]) (marked : next.marked = member.marked)
      (inHand : member.phase.inHand = [] ∧ next.phase.inHand = [record])
  | marked (record : Record) (noCut : cut = [])
      (handed : next.handed = member.handed) (marked : next.marked = member.marked ++ [record])
      (inHand : member.phase.inHand = [record] ∧ next.phase.inHand = [])

theorem handed_eq_of_history {events : List MemberEvent}
    (history : next.history = member.history ++ events) :
    next.handed = member.handed ++ events.filterMap MemberEvent.handed? := by
  rw [Member.handed, history, List.filterMap_append]
  rfl

theorem marked_eq_of_history {events : List MemberEvent}
    (history : next.history = member.history ++ events) :
    next.marked = member.marked ++ events.filterMap MemberEvent.marked? := by
  rw [Member.marked, history, List.filterMap_append]
  rfl

/-- A move that does not take the member away from a call. -/
theorem handling_of_effect (effect : Effect work member next)
    (stays : member.phase.inHand = [] ∨ next.phase = member.phase) : Handling member next [] := by
  cases effect with
  | aside events history isAside phase sessions worker =>
    have noneHanded : events.filterMap MemberEvent.handed? = [] :=
      List.filterMap_eq_nil_iff.mpr fun event isEvent =>
        event.handed?_of_notWork (isAside event isEvent).1
    have noneMarked : events.filterMap MemberEvent.marked? = [] :=
      List.filterMap_eq_nil_iff.mpr fun event isEvent =>
        event.marked?_of_notWork (isAside event isEvent).1
    refine .aside ?_ ?_ ?_
    · rw [handed_eq_of_history history, noneHanded, List.append_nil]
    · rw [marked_eq_of_history history, noneMarked, List.append_nil]
    · rcases phase with same | elsewhere
      · rw [same]
        rfl
      · rcases stays with nothing | same
        · rw [nothing]
          simp only [List.mem_cons, List.not_mem_nil, or_false] at elsewhere
          rcases elsewhere with reached | reached | reached <;> (rw [reached]; rfl)
        · rw [same]
          rfl
  | asked history sessions worker =>
    refine .aside ?_ ?_ ?_
    · exact (handed_eq_of_history history).trans (List.append_nil _)
    · exact (marked_eq_of_history history).trans (List.append_nil _)
    · rcases stays with nothing | same
      · rw [nothing]
        rcases sessions with ⟨-, -, reached⟩ | ⟨session, -, reached⟩ <;> (rw [reached]; rfl)
      · rw [same]
        rfl
  | began session phase admitted history nextPhase sessions worker =>
    refine .aside ?_ ?_ ?_
    · exact (handed_eq_of_history history).trans (List.append_nil _)
    · exact (marked_eq_of_history history).trans (List.append_nil _)
    · rw [phase, nextPhase]
      rfl
  | handed session record rest phase history nextPhase sessions worker =>
    refine .handed record rfl ?_ ?_ ⟨by rw [phase]; rfl, by rw [nextPhase]; rfl⟩
    · exact handed_eq_of_history history
    · exact (marked_eq_of_history history).trans (List.append_nil _)
  | completed session record rest phase history nextPhase sessions worker =>
    refine .marked record rfl ?_ ?_ ⟨by rw [phase]; rfl, by rw [nextPhase]; rfl⟩
    · exact (handed_eq_of_history history).trans (List.append_nil _)
    · exact marked_eq_of_history history

theorem handling_proceed (proceeds : member.proceed? work = some next) : Handling member next [] := by
  cases phase : member.phase with
  | working session record rest =>
    simp only [proceed?, phase, Option.some.injEq] at proceeds
    subst proceeds
    have history : (member.complete work session record rest).history = member.history ++
        [.handled record (work record member.worker).1, .marked record] :=
      List.append_assoc _ _ _
    refine .marked record rfl ?_ ?_ ⟨by rw [phase]; rfl, rfl⟩
    · exact (handed_eq_of_history history).trans (List.append_nil _)
    · exact marked_eq_of_history history
  | outside | deciding | joining | waiting | idling | pausing | stopped =>
    exact handling_of_effect (effect_proceed proceeds) (.inl (by rw [phase]; rfl))

theorem handling_notice (noticed : member.notice? = some next) :
    Handling member next (member.cutShort .notice) := by
  unfold notice? at noticed
  split at noticed
  · next wakes =>
    rw [Bool.and_eq_true] at wakes
    rw [cutShort, if_pos wakes.2]
    cases noticed
    split
    · exact .aside ((handed_eq_of_history rfl).trans (List.append_nil _))
        ((marked_eq_of_history rfl).trans (List.append_nil _)) (List.append_nil _).symm
    · exact .aside rfl rfl (List.append_nil _).symm
  · cases noticed

theorem cutShort_of_none (unnoticed : member.notice? = none) : member.cutShort .notice = [] := by
  rw [cutShort]
  split
  · next wakes =>
    cases phase : member.phase with
    | working session record rest =>
      simp [notice?, phase, wakes, MemberPhase.isWait] at unnoticed
    | outside | deciding | joining | waiting | idling | pausing | stopped => rfl
  · rfl

/-- Every move does one of these things, and cuts short what it is said to cut short. -/
theorem handling_move (work : Record → ω → Bool × ω) (member : Member ω) (move : MemberMove) :
    Handling member (member.move work move) (member.cutShort move) := by
  have same : Handling member member [] := .aside rfl rfl rfl
  cases move with
  | proceed =>
    cases proceeds : member.proceed? work with
    | none => simpa [Member.move, proceeds, cutShort] using same
    | some next => simpa [Member.move, proceeds, cutShort] using handling_proceed proceeds
  | notice =>
    cases noticed : member.notice? with
    | none => simpa [Member.move, noticed, cutShort_of_none noticed] using same
    | some next => simpa [Member.move, noticed] using handling_notice noticed
  | start flag =>
    refine handling_of_effect (effect_move work member (.start flag)) ?_
    cases phase : member.phase with
    | outside | stopped => exact .inl rfl
    | deciding | joining | waiting | working | idling | pausing =>
      right
      simp [Member.move, phase, MemberPhase.isRunning]
  | close failing =>
    refine handling_of_effect (effect_move work member (.close failing)) (.inr ?_)
    simp only [Member.move, close]
    split <;> rfl
  | takeReady | write value | abandon => exact .aside rfl rfl rfl

/-- The records that were handed to the worker, apart from the one it is at, are dealt out to what
was marked and to what was cut short. -/
def Reckoned (member : Member ω) (lost : List Record) : Prop :=
  ∃ settled, member.handed = settled ++ member.phase.inHand ∧ DealtOut settled member.marked lost

variable {lost : List Record}

theorem Reckoned.handling (reckoned : Reckoned member lost) (handling : Handling member next cut) :
    Reckoned next (lost ++ cut) := by
  obtain ⟨settled, whole, dealt⟩ := reckoned
  cases handling with
  | aside handed marked inHand =>
    refine ⟨settled ++ cut, ?_, ?_⟩
    · rw [handed, whole, inHand, List.append_assoc]
    · have dealtAll := dealt.append (.all_right cut)
      rwa [List.append_nil, ← marked] at dealtAll
  | handed record noCut handed marked inHand =>
    refine ⟨settled, ?_, ?_⟩
    · rw [handed, whole, inHand.1, inHand.2, List.append_nil]
    · rwa [noCut, List.append_nil, marked]
  | marked record noCut handed marked inHand =>
    refine ⟨settled ++ [record], ?_, ?_⟩
    · rw [handed, whole, inHand.1, inHand.2, List.append_nil]
    · rw [marked, noCut]
      exact dealt.append (.all_left [record])

theorem Reckoned.moveAll (reckoned : Reckoned member lost) (work : Record → ω → Bool × ω)
    (schedule : List MemberMove) :
    Reckoned (member.moveAll work schedule) (lost ++ member.cutShortAlong work schedule) := by
  induction schedule generalizing member lost with
  | nil => simpa [Member.moveAll, cutShortAlong] using reckoned
  | cons move rest ih =>
    have later := ih (reckoned.handling (handling_move work member move))
    simpa [Member.moveAll, cutShortAlong] using later

theorem earlierSessionsMarked_of_none {script : List Session} (orderly : Orderly script member)
    (reckoned : Reckoned member []) : EarlierSessionsMarked member.history := by
  obtain ⟨progress, ran, agrees⟩ := orderly.progress
  obtain ⟨settled, whole, dealt⟩ := reckoned
  obtain rfl := dealt.eq_left
  have openOne : member.phase.inHand.length ≤ progress.unmarked.length := by
    cases phase : member.phase with
    | working session record rest =>
      rw [phase] at agrees
      obtain rfl : progress = .called record := agrees
      exact Nat.le_refl 1
    | outside | deciding | joining | waiting | idling | pausing | stopped => exact Nat.zero_le _
  have lengths := congrArg List.length whole
  rw [List.length_append] at lengths
  apply WorkProgress.earlierSessionsMarked ran
  rw [WorkProgress.unmarked_away, List.length_nil, Nat.zero_add]
  calc
    member.handed.length = member.marked.length + member.phase.inHand.length := lengths
    _ ≤ member.marked.length + progress.unmarked.length := Nat.add_le_add_left openOne _

theorem none_of_earlierSessionsMarked {script : List Session} (orderly : Orderly script member)
    (reckoned : Reckoned member lost) {before : List MemberEvent}
    (asks : member.history = before ++ [.asked]) (marked : EarlierSessionsMarked member.history) :
    lost = [] := by
  obtain ⟨progress, ran, agrees⟩ := orderly.progress
  obtain ⟨settled, whole, dealt⟩ := reckoned
  rw [asks] at ran marked
  rw [List.foldlM_append] at ran
  obtain ⟨reached, ranBefore, asked⟩ := Option.bind_eq_some_iff.mp ran
  have nothingMissing : member.handed = member.marked := by
    rw [Member.handed, Member.marked, asks, List.filterMap_append, List.filterMap_append,
      handed_eq_marked marked ranBefore]
    rfl
  have isFree : progress = .free := by
    rw [List.foldlM_cons] at asked
    obtain ⟨next, moved, same⟩ := Option.bind_eq_some_iff.mp asked
    cases same
    exact WorkProgress.eq_free_of_asked moved
  have nothingOpen : member.phase.inHand = [] := by
    cases phase : member.phase with
    | working session record rest =>
      rw [phase, isFree] at agrees
      cases agrees
    | outside | deciding | joining | waiting | idling | pausing | stopped => rfl
  rw [nothingOpen, List.append_nil, nothingMissing] at whole
  exact dealt.eq_iff.mp whole

/-- Nobody wants the member to stop, and its owner has not gone away. -/
def Calm (member : Member ω) : Prop :=
  member.shutdown.isSet = false ∧ member.shutdown.hasOwner = true

/-- How many writes to the flag are still to be noticed. -/
def unnoticed (member : Member ω) : Nat := member.shutdown.isUnseen.toNat

theorem shutdown_recover (fault : BusFault) (member : Member ω) :
    (member.recover fault).shutdown = member.shutdown := by
  unfold recover
  split <;> rfl

/-- The steps of a member leave its flag alone. -/
theorem shutdown_proceed (proceeds : member.proceed? work = some next) :
    next.shutdown = member.shutdown := by
  unfold proceed? at proceeds
  split at proceeds
  · cases proceeds
    unfold decide
    split
    · rfl
    · dsimp only
      split <;> rfl
  · cases proceeds
    unfold join
    split
    · exact shutdown_recover _ _
    · rfl
  · cases proceeds
    unfold finish
    dsimp only
    split
    · exact shutdown_recover _ _
    · rfl
  · cases proceeds
    rfl
  · cases proceeds
    rfl
  · cases proceeds
    rfl
  · cases proceeds

theorem inHand_length_le (phase : MemberPhase) : phase.inHand.length ≤ 1 := by
  cases phase with
  | working session record rest => exact Nat.le_refl _
  | outside | deciding | joining | waiting | idling | pausing | stopped => exact Nat.zero_le _

/-- A calm member goes on after a write that it notices, one record poorer at most. -/
theorem Calm.notice (calm : Calm member) (noticed : member.notice? = some next) :
    Calm next ∧ (member.cutShort .notice).length + next.unnoticed ≤ member.unnoticed := by
  unfold notice? at noticed
  split at noticed
  · next awake =>
    rw [Bool.and_eq_true] at awake
    have unseen : member.shutdown.isUnseen = true := by
      simpa [ShutdownFlag.wakes, calm.2] using awake.2
    have goesOn : ¬member.shutdown.stops = true := by
      simp [ShutdownFlag.stops, calm.1, unseen]
    dsimp only at noticed
    rw [if_neg goesOn, Option.some.injEq] at noticed
    subst noticed
    refine ⟨calm, ?_⟩
    have owed : member.unnoticed = 1 := by rw [unnoticed, unseen]; rfl
    rw [cutShort, if_pos awake.2, owed]
    exact inHand_length_le member.phase
  · cases noticed

theorem Calm.move (calm : Calm member) (work : Record → ω → Bool × ω) {move : MemberMove}
    (isCalm : move.isCalm) :
    Calm (member.move work move) ∧
      (member.cutShort move).length + (member.move work move).unnoticed ≤
        member.unnoticed + [move].countP (·.isWrite) := by
  cases move with
  | proceed =>
    cases proceeds : member.proceed? work with
    | none => simpa [Member.move, proceeds, cutShort] using calm
    | some next =>
      have same := shutdown_proceed proceeds
      simpa [Member.move, proceeds, cutShort, unnoticed, Calm, same] using calm
  | notice =>
    cases noticed : member.notice? with
    | none => simpa [Member.move, noticed, cutShort_of_none noticed] using calm
    | some next => simpa [Member.move, noticed, MemberMove.isWrite] using calm.notice noticed
  | start flag =>
    simp only [Member.move]
    split
    · exact ⟨calm, by simp [cutShort]⟩
    · have calmFlag : Calm { member with shutdown := flag }.start := by
        simpa [MemberMove.isCalm, Calm, start] using isCalm
      refine ⟨calmFlag, ?_⟩
      cases unseen : flag.isUnseen <;>
        simp [cutShort, unnoticed, start, MemberMove.isWrite, unseen]
  | write value =>
    obtain rfl : value = false := by simpa [MemberMove.isCalm] using isCalm
    have written : member.shutdown.write false = ⟨false, true, true⟩ := by
      simp [ShutdownFlag.write, calm.2]
    simp [Member.move, written, Calm, cutShort, unnoticed, MemberMove.isWrite]
  | close failing =>
    have same : (member.close failing).2.shutdown = member.shutdown := by
      unfold close
      split <;> rfl
    simpa [Member.move, cutShort, unnoticed, Calm, same] using calm
  | takeReady => exact ⟨calm, by simp [Member.move, takeReady, cutShort, unnoticed]⟩
  | abandon => cases isCalm

theorem Calm.moveAll (calm : Calm member) (work : Record → ω → Bool × ω)
    {schedule : List MemberMove} (isCalm : ∀ move ∈ schedule, move.isCalm) :
    (member.cutShortAlong work schedule).length ≤
      member.unnoticed + schedule.countP (·.isWrite) := by
  induction schedule generalizing member with
  | nil => exact Nat.zero_le _
  | cons move rest ih =>
    rw [List.forall_mem_cons] at isCalm
    obtain ⟨calmNext, paid⟩ := calm.move work isCalm.1
    have paidRest := ih calmNext isCalm.2
    have split : (move :: rest).countP (·.isWrite) =
        [move].countP (·.isWrite) + rest.countP (·.isWrite) := by
      rw [← List.countP_append, List.singleton_append]
    rw [cutShortAlong, List.length_append, split]
    omega

/-- The records that were handed to the worker, apart from the one it is at, are dealt out, in their
order, to what was marked and to what was cut short. If nothing was cut short, then of every session
all records that the claim yielded are marked before another session is asked for; and nothing was,
if they are so at a request. While nobody raises or abandons the flag, at most one record is cut
short for every write to it. -/
theorem unmarked_are_cut_short (work : Record → ω → Bool × ω) (script : List Session) (worker : ω)
    (schedule : List MemberMove) :
    let member := (Member.initial script worker).moveAll work schedule
    let lost := (Member.initial script worker).cutShortAlong work schedule
    (∃ settled, member.handed = settled ++ member.phase.inHand ∧
      DealtOut settled member.marked lost) ∧
    (lost = [] → EarlierSessionsMarked member.history) ∧
    (∀ before, member.history = before ++ [.asked] → EarlierSessionsMarked member.history →
      lost = []) ∧
    ((∀ move ∈ schedule, move.isCalm) → lost.length ≤ schedule.countP (·.isWrite)) := by
  intro member lost
  have orderly : Orderly script member := orderly_moveAll work script worker schedule
  have reckoned : Reckoned member lost := by
    have nothingYet : Reckoned (Member.initial script worker) [] := ⟨[], rfl, .nil⟩
    exact nothingYet.moveAll work schedule
  refine ⟨reckoned, fun noneCut => ?_, fun before asks marked => ?_, fun isCalm => ?_⟩
  · exact earlierSessionsMarked_of_none orderly (noneCut ▸ reckoned)
  · exact none_of_earlierSessionsMarked orderly reckoned asks marked
  · have calm : Calm (Member.initial script worker) := ⟨rfl, rfl⟩
    have paid := calm.moveAll work isCalm
    rwa [show (Member.initial script worker).unnoticed = 0 from rfl, Nat.zero_add] at paid

/-- A session with one record. -/
def shortSession (offset : Int) : Session :=
  ⟨0, none, 1, [⟨"jobs", 0, offset, none, none, none⟩], 0, 0, none⟩

def shortMember (schedule : List MemberMove) : Member Unit :=
  (Member.initial [shortSession 0, shortSession 1] ()).moveAll (fun _ _ => (true, ())) schedule

/-- The flag is written when the first call has returned, and the member notices it before it sees
that the claim is through. -/
def nudgeBetweenCalls : List MemberMove :=
  [.start .lowered, .proceed, .proceed, .proceed, .proceed, .write false, .notice, .proceed]

theorem nudge_between_calls_loses_nothing :
    (∀ move ∈ nudgeBetweenCalls, move.isCalm) ∧
      (shortMember nudgeBetweenCalls).marked = (shortSession 0).records ∧
      EarlierSessionsMarked (shortMember nudgeBetweenCalls).history := by
  obtain ⟨-, marked, -⟩ := unmarked_are_cut_short (fun _ _ => (true, ()))
    [shortSession 0, shortSession 1] () nudgeBetweenCalls
  exact ⟨by decide, rfl, marked rfl⟩

/-- The flag is written and noticed while the worker is at the record of the first session; the
member then goes through the second session, and asks for another one. -/
def nudgeDuringCall : List MemberMove :=
  [.start .lowered, .proceed, .proceed, .proceed, .write false, .notice, .proceed, .proceed,
    .proceed, .proceed, .proceed, .proceed]

/-- No flag is ever raised and nobody goes away, and yet the record of the first session stays
unmarked, and the one of the second is marked. -/
theorem nudged_member_leaves_record :
    (∀ move ∈ nudgeDuringCall, move.isCalm) ∧
      (shortMember nudgeDuringCall).handed = (shortSession 0).records ++ (shortSession 1).records ∧
      (shortMember nudgeDuringCall).marked = (shortSession 1).records ∧
      (∃ before, (shortMember nudgeDuringCall).history = before ++ [.asked]) ∧
      ¬EarlierSessionsMarked (shortMember nudgeDuringCall).history := by
  have history : (shortMember nudgeDuringCall).history =
      [.asked, .began 1, .handed ⟨"jobs", 0, 0, none, none, none⟩] ++
        [.asked, .began 2, .handed ⟨"jobs", 0, 1, none, none, none⟩,
          .handled ⟨"jobs", 0, 1, none, none, none⟩ true,
          .marked ⟨"jobs", 0, 1, none, none, none⟩, .ended 2] ++ [.asked] := rfl
  refine ⟨by decide, rfl, rfl, ⟨_, history⟩, fun marked => ?_⟩
  rw [history, List.append_assoc] at marked
  have firstSession := marked [] [.began 1, .handed ⟨"jobs", 0, 0, none, none, none⟩] _ rfl
    (by decide)
  cases firstSession

end Member

end EventCorrelation
