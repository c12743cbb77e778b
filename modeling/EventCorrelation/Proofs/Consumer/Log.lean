import EventCorrelation.Bus.MemoryLog
import EventCorrelation.Intake.Handler
import EventCorrelation.Proofs.Consumer.Moves
import EventCorrelation.Store.Memory

/-!
# The log of a group

A group that is left alone works through one long log: the records of its sessions one after the
other. Which session brings a record, how the sessions begin and end, and what the worker makes of
a record is the same to it.

What the group has done and what it still has to do make up the same account all along, so that in
the end, when nothing is left to do, it has done everything.
-/

namespace EventCorrelation

variable {ω : Type} {work : Record → ω → Bool × ω}

namespace MemberPhase

/-- The session that the member is in. -/
def session? : MemberPhase → Option Session
  | .joining session => some session
  | .waiting session _ => some session
  | .working session _ _ => some session
  | _ => none

/-- The records of the session that are not marked yet. -/
def due : MemberPhase → List Record
  | .joining session => session.log
  | .waiting _ rest => rest
  | .working _ record rest => record :: rest
  | _ => []

/-- How much of the work on the first of these records is done. -/
def begun : MemberPhase → Nat
  | .working _ _ _ => 1
  | _ => 0

end MemberPhase

namespace Member

/-- The work that is left to do, and the state in which it will leave the worker. -/
def ahead (work : Record → ω → Bool × ω) (member : Member ω) : List MemberEvent × ω :=
  let whole := workThrough work (member.phase.due ++ member.sessions.flatMap Session.log)
    member.worker
  (whole.1.drop member.phase.begun, whole.2)

/-- The work that is done and the work that is left. -/
def account (work : Record → ω → Bool × ω) (member : Member ω) : List MemberEvent × ω :=
  (member.workEvents ++ (member.ahead work).1, (member.ahead work).2)

variable {member next : Member ω}

/-- What a step does is no longer ahead. -/
theorem account_eq {done : List MemberEvent}
    (history : next.history = member.history ++ done)
    (ahead : member.ahead work =
      (done.filter (·.isWork) ++ (next.ahead work).1, (next.ahead work).2)) :
    next.account work = member.account work := by
  have events : next.workEvents = member.workEvents ++ done.filter (·.isWork) := by
    rw [workEvents, history, List.filter_append]
    rfl
  rw [account, account, ahead, events, List.append_assoc]

/-- A step that does nothing with records only carries what is due on. -/
theorem account_eq_of_due {done : List MemberEvent}
    (history : next.history = member.history ++ done)
    (noWork : ∀ event ∈ done, event.isWork = false)
    (due : next.phase.due ++ next.sessions.flatMap Session.log =
      member.phase.due ++ member.sessions.flatMap Session.log)
    (begun : next.phase.begun = member.phase.begun) (worker : next.worker = member.worker) :
    next.account work = member.account work := by
  have nothing : done.filter (·.isWork) = [] :=
    List.filter_eq_nil_iff.mpr fun event isEvent => by simp [noWork event isEvent]
  refine account_eq history ?_
  rw [nothing, List.nil_append, ahead, ahead, due, begun, worker]

theorem leavesOpen_of_noSession {phase : MemberPhase} (noSession : phase.session? = none) :
    ∀ session ∈ phase.session?, session.LeavesOpen := by
  rw [noSession]
  rintro _ ⟨⟩

/-- A member that nobody disturbs, on its way through the records of its sessions. -/
structure OnCourse (member : Member ω) : Prop where
  running : member.phase.isRunning = true
  notSet : member.shutdown.isSet = false
  notClosed : member.isClosed = false
  current : ∀ session ∈ member.phase.session?, session.LeavesOpen
  later : ∀ session ∈ member.sessions, session.LeavesOpen
  idles : member.phase = .idling → member.sessions = []

/-- Between two sessions, only those to come matter. -/
theorem OnCourse.between (course : OnCourse member) (running : next.phase.isRunning = true)
    (noSession : next.phase.session? = none) (notIdle : next.phase ≠ .idling)
    (shutdown : next.shutdown = member.shutdown) (isClosed : next.isClosed = member.isClosed)
    (sessions : next.sessions = member.sessions) : OnCourse next where
  running := running
  notSet := by rw [shutdown]; exact course.notSet
  notClosed := by rw [isClosed]; exact course.notClosed
  current := leavesOpen_of_noSession noSession
  later := by rw [sessions]; exact course.later
  idles := fun idles => absurd idles notIdle

theorem recover_of_open {fault : BusFault} (isOpen : fault ≠ .closed) :
    member.recover fault = { member with phase := .pausing } := by
  cases fault <;> first | rfl | exact absurd rfl isOpen

theorem OnCourse.decide (course : OnCourse member) (phase : member.phase = .deciding) :
    OnCourse member.decide ∧ member.decide.account work = member.account work := by
  have goesOn : ¬(member.shutdown.isSet || member.isClosed) = true := by
    simp [course.notSet, course.notClosed]
  have noWork : ∀ event ∈ [MemberEvent.asked], event.isWork = false := by simp [MemberEvent.isWork]
  cases sessions : member.sessions with
  | nil =>
    have decided : member.decide =
        { member with readiness := member.readiness.rearm, phase := .idling }.note .asked := by
      rw [Member.decide, if_neg goesOn]
      simp [note, sessions]
    rw [decided]
    refine ⟨⟨rfl, course.notSet, course.notClosed, leavesOpen_of_noSession rfl, course.later,
      fun _ => sessions⟩, ?_⟩
    exact account_eq_of_due rfl noWork (by rw [phase]; rfl) (by rw [phase]; rfl) rfl
  | cons session rest =>
    have decided : member.decide =
        { member with
          readiness := member.readiness.rearm
          phase := .joining session
          sessions := rest }.note .asked := by
      rw [Member.decide, if_neg goesOn]
      simp [note, sessions]
    have leaveOpen := course.later
    rw [sessions, List.forall_mem_cons] at leaveOpen
    rw [decided]
    refine ⟨⟨rfl, course.notSet, course.notClosed, ?_, leaveOpen.2, ?_⟩, ?_⟩
    · rintro _ ⟨⟩
      exact leaveOpen.1
    · rintro ⟨⟩
    · exact account_eq_of_due rfl noWork (by rw [phase, sessions]; rfl) (by rw [phase]; rfl) rfl

theorem OnCourse.join (course : OnCourse member) {session : Session}
    (phase : member.phase = .joining session) :
    OnCourse (member.join session) ∧
      (member.join session).account work = member.account work := by
  have isOpen : session.LeavesOpen := course.current session (by rw [phase]; rfl)
  cases refusal : session.refusal with
  | some fault =>
    have failed : member.join session = { member with phase := .pausing } := by
      rw [Member.join, refusal]
      exact recover_of_open fun isClosed => isOpen.1 (by rw [refusal, isClosed])
    have noLog : session.log = [] := by rw [Session.log, refusal]
    rw [failed]
    refine ⟨course.between rfl rfl nofun rfl rfl rfl, ?_⟩
    exact account_eq_of_due (List.append_nil _).symm (by simp)
      (by simp [phase, MemberPhase.due, noLog]) (by rw [phase]; rfl) rfl
  | none =>
    have log : session.log = session.records := by rw [Session.log, refusal]
    rw [Member.join, refusal]
    refine ⟨⟨rfl, course.notSet, course.notClosed, ?_, course.later, nofun⟩, ?_⟩
    · rintro _ ⟨⟩
      exact isOpen
    · refine account_eq_of_due rfl (by simp [MemberEvent.isWork]) ?_ (by rw [phase]; rfl) rfl
      rw [phase, MemberPhase.due, log]
      rfl

theorem OnCourse.finish (course : OnCourse member) {session : Session}
    (phase : member.phase = .waiting session []) :
    OnCourse (member.finish session) ∧
      (member.finish session).account work = member.account work := by
  have isOpen : session.LeavesOpen := course.current session (by rw [phase]; rfl)
  have noWork : ∀ event ∈ [MemberEvent.ended member.generation], event.isWork = false := by
    simp [MemberEvent.isWork]
  rw [Member.finish]
  cases ending : session.ending with
  | some fault =>
    dsimp only
    rw [recover_of_open fun isClosed => isOpen.2 (by rw [ending, isClosed])]
    refine ⟨course.between rfl rfl nofun rfl rfl rfl, ?_⟩
    exact account_eq_of_due rfl noWork (by rw [phase]; rfl) (by rw [phase]; rfl) rfl
  | none =>
    refine ⟨course.between rfl rfl nofun rfl rfl rfl, ?_⟩
    exact account_eq_of_due rfl noWork (by rw [phase]; rfl) (by rw [phase]; rfl) rfl

theorem OnCourse.hand (course : OnCourse member) {session : Session} {record : Record}
    {rest : List Record} (phase : member.phase = .waiting session (record :: rest)) :
    let next := { member with phase := .working session record rest }.note (.handed record)
    OnCourse next ∧ next.account work = member.account work := by
  intro next
  refine ⟨⟨rfl, course.notSet, course.notClosed, ?_, course.later, nofun⟩, ?_⟩
  · rintro _ ⟨⟩
    exact course.current session (by rw [phase]; rfl)
  · refine account_eq rfl ?_
    rw [ahead, phase]
    rfl

theorem OnCourse.complete (course : OnCourse member) {session : Session} {record : Record}
    {rest : List Record} (phase : member.phase = .working session record rest) :
    OnCourse (member.complete work session record rest) ∧
      (member.complete work session record rest).account work = member.account work := by
  refine ⟨⟨rfl, course.notSet, course.notClosed, ?_, course.later, nofun⟩, ?_⟩
  · rintro _ ⟨⟩
    exact course.current session (by rw [phase]; rfl)
  · refine account_eq (List.append_assoc _ _ _) ?_
    rw [ahead, phase]
    rfl

/-- A step of an undisturbed member leads on, and leaves the account as it is. -/
theorem OnCourse.proceed (course : OnCourse member) (proceeds : member.proceed? work = some next) :
    OnCourse next ∧ next.account work = member.account work := by
  unfold proceed? at proceeds
  split at proceeds
  · next phase => cases proceeds; exact course.decide phase
  · next session phase => cases proceeds; exact course.join phase
  · next session phase => cases proceeds; exact course.finish phase
  · next session record rest phase => cases proceeds; exact course.hand phase
  · next session record rest phase => cases proceeds; exact course.complete phase
  · next phase =>
    cases proceeds
    refine ⟨course.between rfl rfl nofun rfl rfl rfl, ?_⟩
    exact account_eq_of_due (List.append_nil _).symm (by simp) (by rw [phase]; rfl)
      (by rw [phase]; rfl) rfl
  · cases proceeds

/-- An undisturbed member goes on until no session is left. -/
theorem OnCourse.idling (course : OnCourse member) (stays : member.proceed? work = none) :
    member.phase = .idling := by
  have running := course.running
  cases phase : member.phase with
  | idling => rfl
  | outside | stopped => rw [phase] at running; cases running
  | deciding | pausing | joining | working => simp [proceed?, phase] at stays
  | waiting session rest => cases rest <;> simp [proceed?, phase] at stays

theorem remaining_lt (phase : next.phase.remaining < member.phase.remaining)
    (sessions : next.sessions = member.sessions) : next.remaining < member.remaining := by
  rw [remaining, remaining, sessions]
  exact Nat.add_lt_add_right phase _

theorem remaining_recover_lt (fault : BusFault) (late : 2 < member.phase.remaining) :
    (member.recover fault).remaining < member.remaining := by
  cases fault with
  | closed => exact remaining_lt (Nat.zero_lt_of_lt late) rfl
  | _ => exact remaining_lt late rfl

theorem remaining_decide (phase : member.phase = .deciding) :
    member.decide.remaining < member.remaining := by
  unfold Member.decide
  split
  · exact remaining_lt (by rw [phase]; exact Nat.one_pos) rfl
  · cases sessions : member.sessions with
    | nil => exact remaining_lt (by rw [phase]; exact Nat.one_pos) (by simp [note, sessions])
    | cons session rest =>
      simp only [remaining, phase, MemberPhase.remaining, sessions, note, List.map_cons,
        List.foldr_cons]
      omega

/-- Every step takes something off what remains. -/
theorem remaining_proceed (proceeds : member.proceed? work = some next) :
    next.remaining < member.remaining := by
  unfold proceed? at proceeds
  split at proceeds
  · next phase => cases proceeds; exact remaining_decide phase
  · next session phase =>
    cases proceeds
    unfold Member.join
    split
    · exact remaining_recover_lt _ (by rw [phase, MemberPhase.remaining]; omega)
    · exact remaining_lt (by rw [phase]; exact Nat.lt_succ_self _) rfl
  · next session phase =>
    cases proceeds
    unfold Member.finish
    split
    · exact remaining_recover_lt _ (by rw [note_phase, phase, MemberPhase.remaining]; omega)
    · exact remaining_lt (by rw [phase]; simp [MemberPhase.remaining]) rfl
  · next session record rest phase =>
    cases proceeds
    refine remaining_lt ?_ rfl
    simp only [phase, note_phase, MemberPhase.remaining, List.length_cons]
    omega
  · next session record rest phase =>
    cases proceeds
    exact remaining_lt (by rw [phase]; exact Nat.lt_succ_self _) rfl
  · next phase => cases proceeds; exact remaining_lt (by rw [phase]; exact Nat.one_lt_two) rfl
  · cases proceeds

/-- Quiet moves keep an undisturbed member on course. -/
theorem OnCourse.move (course : OnCourse member) (work : Record → ω → Bool × ω)
    {move : MemberMove} (isQuiet : move.isQuiet) :
    OnCourse (member.move work move) ∧
      (member.move work move).account work = member.account work := by
  cases move with
  | proceed =>
    cases proceeds : member.proceed? work with
    | none => simpa [Member.move, proceeds] using course
    | some next => simpa [Member.move, proceeds] using course.proceed proceeds
  | takeReady =>
    exact ⟨⟨course.running, course.notSet, course.notClosed, course.current, course.later,
      course.idles⟩, rfl⟩
  | notice | start | close | write | abandon => cases isQuiet

theorem OnCourse.moveAll (course : OnCourse member) (work : Record → ω → Bool × ω)
    {quiet : List MemberMove} (isQuiet : ∀ move ∈ quiet, move.isQuiet) :
    OnCourse (member.moveAll work quiet) ∧
      (member.moveAll work quiet).account work = member.account work := by
  induction quiet generalizing member with
  | nil => exact ⟨course, rfl⟩
  | cons move rest ih =>
    rw [List.forall_mem_cons] at isQuiet
    obtain ⟨next, same⟩ := course.move work isQuiet.1
    obtain ⟨last, sameRest⟩ := ih next isQuiet.2
    exact ⟨last, sameRest.trans same⟩

/-- With enough steps of its own, an undisturbed member comes to the end of its sessions. -/
theorem OnCourse.exhausted (course : OnCourse member) {quiet : List MemberMove}
    (isQuiet : ∀ move ∈ quiet, move.isQuiet) (enough : member.remaining ≤ quiet.count .proceed) :
    (member.moveAll work quiet).phase = .idling := by
  induction quiet generalizing member with
  | nil =>
    have nothing : member.remaining = 0 := Nat.le_zero.mp enough
    cases proceeds : member.proceed? work with
    | none => exact course.idling proceeds
    | some next => exact absurd (remaining_proceed proceeds) (by omega)
  | cons move rest ih =>
    rw [List.forall_mem_cons] at isQuiet
    have moved := (course.move work isQuiet.1).1
    -- Each step takes one off the count and at least one off what remains; an idle member has
    -- nothing left that could be taken off.
    refine ih moved isQuiet.2 ?_
    cases move with
    | proceed =>
      rw [List.count_cons_self] at enough
      cases proceeds : member.proceed? work with
      | none =>
        have idles : member.phase = .idling := course.idling proceeds
        have nothing : member.remaining = 0 := by
          rw [remaining, idles, course.idles idles]
          rfl
        simp [Member.move, proceeds, nothing]
      | some next =>
        have less : next.remaining < member.remaining := remaining_proceed proceeds
        simp only [Member.move, proceeds, Option.getD_some]
        omega
    | takeReady => rwa [List.count_cons_of_ne (by decide)] at enough
    | notice | start | close | write | abandon => cases isQuiet.1

/-- Without a session, and without sessions to come, nothing more is done with records. -/
theorem Effect.exhausted (effect : Effect work member next) (noSession : member.phase.session? = none)
    (noneLeft : member.sessions = []) :
    next.phase.session? = none ∧ next.sessions = [] ∧
      next.workEvents = member.workEvents ∧ next.worker = member.worker := by
  cases effect with
  | aside events history isAside phase sessions worker =>
    have noWork : events.filter (·.isWork) = [] :=
      List.filter_eq_nil_iff.mpr fun event isEvent => by simp [(isAside event isEvent).1]
    refine ⟨?_, by rw [sessions, noneLeft], ?_, worker⟩
    · rcases phase with same | elsewhere
      · rwa [same]
      · simp only [List.mem_cons, List.not_mem_nil, or_false] at elsewhere
        rcases elsewhere with same | same | same <;> (rw [same]; rfl)
    · rw [workEvents, history, List.filter_append, noWork, List.append_nil]
      rfl
  | asked history sessions worker =>
    rcases sessions with ⟨-, noneNext, idles⟩ | ⟨session, some, -⟩
    · refine ⟨by rw [idles]; rfl, noneNext, ?_, worker⟩
      rw [workEvents, history, List.filter_append]
      exact List.append_nil _
    · rw [noneLeft] at some
      cases some
  | began session phase | handed session record rest phase | completed session record rest phase =>
    rw [phase] at noSession
    cases noSession

theorem moveAll_exhausted (noSession : member.phase.session? = none) (noneLeft : member.sessions = [])
    (work : Record → ω → Bool × ω) (later : List MemberMove) :
    (member.moveAll work later).workEvents = member.workEvents ∧
      (member.moveAll work later).worker = member.worker := by
  induction later generalizing member with
  | nil => exact ⟨rfl, rfl⟩
  | cons move rest ih =>
    obtain ⟨noSessionNext, noneLeftNext, events, worker⟩ :=
      (effect_move work member move).exhausted noSession noneLeft
    obtain ⟨eventsRest, workerRest⟩ := ih noSessionNext noneLeftNext
    exact ⟨eventsRest.trans events, workerRest.trans worker⟩

theorem onCourse_start {script : List Session} {flag : ShutdownFlag} {quiet : List MemberMove}
    (run : QuietRun script flag quiet) (work : Record → ω → Bool × ω) (worker : ω) :
    OnCourse ((Member.initial script worker).move work (.start flag)) :=
  ⟨rfl, run.notSet, rfl, leavesOpen_of_noSession rfl, run.leavesOpen, nofun⟩

theorem workEvents_isPrefix {script : List Session} {flag : ShutdownFlag}
    {quiet : List MemberMove} (run : QuietRun script flag quiet) (work : Record → ω → Bool × ω)
    (worker : ω) :
    ((Member.initial script worker).moveAll work (.start flag :: quiet)).workEvents <+:
      (workThrough work (script.flatMap Session.log) worker).1 := by
  obtain ⟨-, account⟩ := (onCourse_start run work worker).moveAll work run.isQuiet
  exact ⟨_, congrArg Prod.fst account⟩

/-- Once a quiet run is through its script, all the work is done, and stays done. -/
theorem through_log {script : List Session} {flag : ShutdownFlag} {quiet : List MemberMove}
    (run : QuietRun script flag quiet) (enough : stepsThrough script ≤ quiet.count .proceed)
    (work : Record → ω → Bool × ω) (worker : ω) (later : List MemberMove) :
    let member := (Member.initial script worker).moveAll work (.start flag :: quiet)
    let whole := workThrough work (script.flatMap Session.log) worker
    member.phase = .idling ∧ (member.moveAll work later).workEvents = whole.1 ∧
      (member.moveAll work later).worker = whole.2 := by
  intro member whole
  have started := onCourse_start run work worker
  obtain ⟨course, account⟩ := started.moveAll work run.isQuiet
  have idles : member.phase = .idling := started.exhausted run.isQuiet enough
  have noneLeft : member.sessions = [] := course.idles idles
  have nothing : member.ahead work = ([], member.worker) := by
    rw [ahead, idles, noneLeft]
    rfl
  have whole_eq : (member.workEvents, member.worker) = whole := by
    rw [← show member.account work = whole from account, Member.account, nothing, List.append_nil]
  obtain ⟨events, workerLast⟩ := moveAll_exhausted (by rw [idles]; rfl) noneLeft work later
  exact ⟨idles, events.trans (congrArg Prod.fst whole_eq),
    workerLast.trans (congrArg Prod.snd whole_eq)⟩

end Member

/-- The handler of a service makes of a log what it makes of the records in turn. -/
theorem EventService.workThrough_work {σ τ : Type} (service : EventService σ) (log : List Record)
    (state : ServiceState σ τ) :
    (workThrough service.work log state).2 = (service.handleAll log state).2 := by
  induction log generalizing state with
  | nil => rfl
  | cons record rest ih => exact ih _

/-- A group that nobody disturbs works through the concatenation of what its sessions bring: at
every point it has done a first part of that work, and after enough steps all of it, for good. So
two scripts with the same concatenation take an event service to the same state, which is the one
that it reaches by handling the records in turn. -/
theorem Member.group_works_through_log {script : List Session} {flag : ShutdownFlag}
    {quiet : List MemberMove} (run : QuietRun script flag quiet) :
    (∀ {ω : Type} (work : Record → ω → Bool × ω) (worker : ω),
      let member := (Member.initial script worker).moveAll work (.start flag :: quiet)
      let whole := workThrough work (script.flatMap Session.log) worker
      member.workEvents <+: whole.1 ∧
        (stepsThrough script ≤ quiet.count .proceed →
          member.phase = .idling ∧ ∀ later, (member.moveAll work later).workEvents = whole.1 ∧
            (member.moveAll work later).worker = whole.2)) ∧
    (stepsThrough script ≤ quiet.count .proceed →
      ∀ (other : List Session) (otherFlag : ShutdownFlag) (otherQuiet : List MemberMove),
        QuietRun other otherFlag otherQuiet →
        stepsThrough other ≤ otherQuiet.count .proceed →
        other.flatMap Session.log = script.flatMap Session.log →
        ∀ {σ τ : Type} (service : EventService σ) (state : ServiceState σ τ),
          let after :=
            ((Member.initial script state).moveAll service.work (.start flag :: quiet)).worker
          let otherAfter := ((Member.initial other state).moveAll service.work
            (.start otherFlag :: otherQuiet)).worker
          after = otherAfter ∧
            after = (service.handleAll (script.flatMap Session.log) state).2) := by
  refine ⟨?_, ?_⟩
  · intro ω work worker member whole
    refine ⟨workEvents_isPrefix run work worker, fun enough => ⟨?_, fun later => ?_⟩⟩
    · exact (through_log run enough work worker []).1
    · exact (through_log run enough work worker later).2
  · intro enough other otherFlag otherQuiet otherRun otherEnough same σ τ service state after
      otherAfter
    have afterEq : after = (workThrough service.work (script.flatMap Session.log) state).2 :=
      (through_log run enough service.work state []).2.2
    have otherEq : otherAfter = (workThrough service.work (other.flatMap Session.log) state).2 :=
      (through_log otherRun otherEnough service.work state []).2.2
    refine ⟨?_, ?_⟩
    · rw [afterEq, otherEq, same]
    · rw [afterEq, EventService.workThrough_work]

/-- A refused session, one that fails after its record and one that ends well do the same work as a
single session with both records, and a shutdown that comes later undoes nothing of it. -/
theorem Member.failing_sessions_work :
    let first : Record := ⟨"jobs", 0, 0, none, none, none⟩
    let second : Record := ⟨"jobs", 0, 1, none, none, none⟩
    let script : List Session := [⟨0, some .missingGroup, 1, [first], 0, 0, none⟩,
      ⟨0, none, 1, [first], 0, 0, some (.consuming "gone")⟩, ⟨0, none, 1, [second], 0, 0, none⟩]
    let schedule : List MemberMove := .start .lowered :: List.replicate 25 .proceed
    let work : Record → Nat → Bool × Nat := fun _ calls => (false, calls + 1)
    let member := (Member.initial script 0).moveAll work schedule
    let ended := member.moveAll work [.write true, .notice]
    member.phase = .idling ∧
      ended.workEvents = [.handed first, .handled first false, .marked first,
        .handed second, .handled second false, .marked second] ∧
      ended.worker = 2 ∧
      ∀ (service : EventService MemoryStore) (state : ServiceState MemoryStore MemoryLog),
        ((Member.initial script state).moveAll service.work schedule).worker =
          ((Member.initial [⟨0, none, 1, [first, second], 0, 0, none⟩] state).moveAll service.work
            schedule).worker := by
  intro first second script schedule work member ended
  have run : QuietRun script .lowered (List.replicate 25 .proceed) :=
    ⟨by simp [script, Session.LeavesOpen], rfl, by simp [MemberMove.isQuiet]⟩
  have single : QuietRun [⟨0, none, 1, [first, second], 0, 0, none⟩] .lowered
      (List.replicate 25 .proceed) :=
    ⟨by simp [Session.LeavesOpen], rfl, by simp [MemberMove.isQuiet]⟩
  obtain ⟨works, consequence⟩ := group_works_through_log run
  obtain ⟨-, through⟩ := works work 0
  obtain ⟨idles, whole⟩ := through (by decide)
  obtain ⟨events, calls⟩ := whole [.write true, .notice]
  refine ⟨idles, events, calls, fun service state => ?_⟩
  exact (consequence (by decide) _ .lowered _ single (by decide) rfl service state).1

end EventCorrelation
