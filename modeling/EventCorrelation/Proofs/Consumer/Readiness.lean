import EventCorrelation.Consumer.ReadinessRun
import EventCorrelation.Proofs.Consumer.Moves

/-!
# Readiness

In whichever order a member asks for sessions, sessions are set up and others ask for the signal,
each arming has one signal, which is handed out at most once, fires with the next set-up and is
never given up. It is armed again only when the member asks for its next session, so the signal of a
session that was set up stays on offer until then.
-/

namespace EventCorrelation

theorem FirstServed.concat {number : Nat} {answers : List (Option Nat)}
    (served : FirstServed number answers) (nonempty : answers ≠ []) :
    FirstServed number (answers ++ [none]) := by
  cases answers with
  | nil => exact absurd rfl nonempty
  | cons first others =>
    refine ⟨served.1, fun answer isAnswer => ?_⟩
    rcases List.mem_append.mp isAnswer with old | new
    · exact served.2 answer old
    · exact List.mem_singleton.mp new

namespace Readiness

/-- The readiness while the signal with the given number is the last one that was armed. -/
def inPass (number : Nat) (isSetUp isTaken : Bool) : Readiness where
  signals := List.replicate number .fired ++ [if isSetUp then .fired else .pending]
  armed := if isSetUp then none else some number
  offered := if isTaken then none else some number

section Steps

variable (number : Nat) (isSetUp isTaken : Bool)

theorem length_signals : (inPass number isSetUp isTaken).signals.length = number + 1 := by
  simp [inPass]

theorem signals_setUp :
    (inPass number true isTaken).signals = List.replicate (number + 1) .fired := by
  simp [inPass, List.replicate_succ']

theorem signals_next :
    (inPass (number + 1) false false).signals =
      (inPass number true isTaken).signals ++ [.pending] := by
  rw [signals_setUp]
  rfl

theorem rearm_inPass :
    (inPass number isSetUp isTaken).rearm =
      if isSetUp then inPass (number + 1) false false else inPass number isSetUp isTaken := by
  cases isSetUp with
  | false => rfl
  | true =>
    have armed : (inPass number true isTaken).armed = none := rfl
    simp only [rearm, arm, armed, length_signals, if_true]
    rw [← signals_next]
    rfl

theorem fire_inPass : (inPass number isSetUp isTaken).fire = inPass number true isTaken := by
  cases isSetUp with
  | false => simp [fire, inPass]
  | true => rfl

theorem take_inPass :
    (inPass number isSetUp isTaken).take =
      (if isTaken then none else some number, inPass number isSetUp true) := rfl

end Steps

variable {history earlier since : List ReadinessEvent} {event : ReadinessEvent}
  {number other : Nat} {isSetUp isTaken : Bool}

/-- What stands behind an arming ends with the last event, or nothing does. -/
private theorem split_at_arming
    (split : history ++ [event] = earlier ++ .armed other :: since) :
    (since = [] ∧ event = .armed other) ∨
      ∃ before, since = before ++ [event] ∧ history = earlier ++ .armed other :: before := by
  induction since using List.reverseRecOn with
  | nil =>
    obtain ⟨-, isArming⟩ := List.append_inj' split rfl
    exact .inl ⟨rfl, List.singleton_inj.mp isArming⟩
  | append_singleton before last _ =>
    rw [← List.cons_append, ← List.append_assoc] at split
    obtain ⟨same, sameLast⟩ := List.append_inj' split rfl
    obtain rfl := List.singleton_inj.mp sameLast
    exact .inr ⟨before, rfl, same⟩

private theorem split_before (armsNothing : event.armed? = none)
    (split : history ++ [event] = earlier ++ .armed other :: since) :
    ∃ before, since = before ++ [event] ∧ history = earlier ++ .armed other :: before := by
  obtain ⟨-, rfl⟩ | before := split_at_arming split
  · cases armsNothing
  · exact before

private theorem armings_concat (armsNothing : event.armed? = none) :
    (history ++ [event]).filterMap ReadinessEvent.armed? =
      history.filterMap ReadinessEvent.armed? := by
  rw [List.filterMap_append, List.filterMap_cons_none armsNothing]
  exact List.append_nil _

/-- What a history says about the pass that it has come to. -/
structure Course (history : List ReadinessEvent) (number : Nat) (isSetUp isTaken : Bool) :
    Prop where
  armed : history.filterMap ReadinessEvent.armed? = List.range (number + 1)
  handed : ∀ other, .handed other ∈ history → other ≤ number
  signals : ∀ earlier other since, history = earlier ++ .armed other :: since →
    (inPass number isSetUp isTaken).signals[other]? =
      some (if .setUp ∈ since then .fired else .pending)
  answers : ∀ earlier other since, history = earlier ++ .armed other :: since →
    since.filterMap ReadinessEvent.armed? = [] →
      FirstServed other (since.filterMap ReadinessEvent.answer?) ∧
        (since.filterMap ReadinessEvent.answer? = [] ↔ isTaken = false)

theorem Course.lt (course : Course history number isSetUp isTaken)
    (split : history = earlier ++ .armed other :: since) : other < number + 1 := by
  have listed : other ∈ history.filterMap ReadinessEvent.armed? := by
    rw [split]
    simp [ReadinessEvent.armed?]
  rw [course.armed] at listed
  exact List.mem_range.mp listed

/-- The current pass is that of the last signal. -/
theorem Course.eq_number (course : Course history number isSetUp isTaken)
    (split : history = earlier ++ .armed other :: since)
    (armsNothing : since.filterMap ReadinessEvent.armed? = []) : other = number := by
  have listed := course.armed
  rw [split, List.filterMap_append, List.filterMap_cons, List.range_succ] at listed
  simp only [ReadinessEvent.armed?, armsNothing] at listed
  exact List.singleton_inj.mp (List.append_inj' listed rfl).2

theorem course_initial : Course [.armed 0] 0 false false where
  armed := rfl
  handed := by simp
  signals := by
    intro earlier other since split
    obtain ⟨rfl, same⟩ | ⟨before, -, impossible⟩ := split_at_arming
      (show [] ++ [.armed 0] = _ from split)
    · cases same
      rfl
    · simp at impossible
  answers := by
    intro earlier other since split _
    obtain ⟨rfl, -⟩ | ⟨before, -, impossible⟩ := split_at_arming
      (show [] ++ [.armed 0] = _ from split)
    · simp [FirstServed]
    · simp at impossible

theorem Course.armNext (course : Course history number true isTaken) :
    Course (history ++ [.armed (number + 1)]) (number + 1) false false where
  armed := by
    rw [List.filterMap_append, course.armed, List.range_succ (n := number + 1)]
    rfl
  handed := by
    intro other isHanded
    have earlier : .handed other ∈ history := by simpa using isHanded
    exact Nat.le_succ_of_le (course.handed other earlier)
  signals := by
    intro earlier other since split
    rw [signals_next number isTaken]
    obtain ⟨rfl, same⟩ | ⟨before, rfl, whole⟩ := split_at_arming split
    · cases same
      simp [← length_signals number true isTaken]
    · have inside : other < (inPass number true isTaken).signals.length := by
        rw [length_signals]
        exact course.lt whole
      rw [List.getElem?_append_left inside, course.signals earlier other before whole]
      simp
  answers := by
    intro earlier other since split armsNothing
    obtain ⟨rfl, -⟩ | ⟨before, rfl, whole⟩ := split_at_arming split
    · simp [FirstServed]
    · simp [ReadinessEvent.armed?] at armsNothing

theorem Course.setUp (course : Course history number isSetUp isTaken) :
    Course (history ++ [.setUp]) number true isTaken where
  armed := (armings_concat rfl).trans course.armed
  handed := by simpa using course.handed
  signals := by
    intro earlier other since split
    obtain ⟨before, rfl, whole⟩ := split_before rfl split
    rw [signals_setUp, List.getElem?_replicate, if_pos (course.lt whole), if_pos (by simp)]
  answers := by
    intro earlier other since split armsNothing
    obtain ⟨before, rfl, whole⟩ := split_before rfl split
    rw [armings_concat rfl] at armsNothing
    have current := course.answers earlier other before whole armsNothing
    simpa [List.filterMap_cons, ReadinessEvent.answer?] using current

theorem Course.hand (course : Course history number isSetUp false) :
    Course (history ++ [.handed number]) number isSetUp true where
  armed := (armings_concat rfl).trans course.armed
  handed := by
    intro other isHanded
    rcases List.mem_append.mp isHanded with old | new
    · exact course.handed other old
    · cases List.mem_singleton.mp new
      exact Nat.le_refl _
  signals := by
    intro earlier other since split
    obtain ⟨before, rfl, whole⟩ := split_before rfl split
    simpa [inPass] using course.signals earlier other before whole
  answers := by
    intro earlier other since split armsNothing
    obtain ⟨before, rfl, whole⟩ := split_before rfl split
    rw [armings_concat rfl] at armsNothing
    have nobodyBefore := (course.answers earlier other before whole armsNothing).2.mpr rfl
    have same := course.eq_number whole armsNothing
    simp [nobodyBefore, ReadinessEvent.answer?, FirstServed, same]

theorem Course.refuse (course : Course history number isSetUp true) :
    Course (history ++ [.refused]) number isSetUp true where
  armed := (armings_concat rfl).trans course.armed
  handed := by simpa using course.handed
  signals := by
    intro earlier other since split
    obtain ⟨before, rfl, whole⟩ := split_before rfl split
    simpa [inPass] using course.signals earlier other before whole
  answers := by
    intro earlier other since split armsNothing
    obtain ⟨before, rfl, whole⟩ := split_before rfl split
    rw [armings_concat rfl] at armsNothing
    obtain ⟨served, untouched⟩ := course.answers earlier other before whole armsNothing
    have somebody : before.filterMap ReadinessEvent.answer? ≠ [] := by
      intro nobody
      cases untouched.mp nobody
    simpa [List.filterMap_cons, ReadinessEvent.answer?] using served.concat somebody

/-- A step goes on with the pass or, once its session is set up, to the next one. -/
theorem Course.step (course : Course history number isSetUp isTaken) (step : ReadinessStep) :
    ∃ next takenNext,
      (inPass number isSetUp isTaken).step step = inPass next (setUpAfter isSetUp step) takenNext ∧
        Course (history ++ (inPass number isSetUp isTaken).events step) next
          (setUpAfter isSetUp step) takenNext := by
  cases step with
  | rearm =>
    cases isSetUp with
    | false => exact ⟨number, isTaken, rfl, by simpa [events, inPass, setUpAfter] using course⟩
    | true =>
      refine ⟨number + 1, false, rearm_inPass number true isTaken, ?_⟩
      have arms : (inPass number true isTaken).events .rearm = [.armed (number + 1)] := by
        simp [events, inPass]
      rw [arms]
      exact course.armNext
  | setUp => exact ⟨number, isTaken, fire_inPass number isSetUp isTaken, course.setUp⟩
  | ask =>
    refine ⟨number, true, rfl, ?_⟩
    cases isTaken with
    | false => exact course.hand
    | true => exact course.refuse

theorem eventsAlong_append (first later : List ReadinessStep) (readiness : Readiness) :
    readiness.eventsAlong (first ++ later) =
      readiness.eventsAlong first ++ (readiness.stepAll first).eventsAlong later := by
  induction first generalizing readiness with
  | nil => rfl
  | cons step rest ih =>
    rw [List.cons_append, eventsAlong, eventsAlong, ih, List.append_assoc]
    rfl

theorem history_concat (steps : List ReadinessStep) (last : ReadinessStep) :
    Readiness.history (steps ++ [last]) =
      Readiness.history steps ++ (initial.stepAll steps).events last := by
  simp [Readiness.history, eventsAlong_append, eventsAlong]

theorem stepAll_concat (steps : List ReadinessStep) (last : ReadinessStep)
    (readiness : Readiness) :
    readiness.stepAll (steps ++ [last]) = (readiness.stepAll steps).step last := by
  rw [stepAll, List.foldl_append]
  rfl

theorem setUpSinceAsked_concat (steps : List ReadinessStep) (last : ReadinessStep) :
    setUpSinceAsked (steps ++ [last]) = setUpAfter (setUpSinceAsked steps) last := by
  rw [setUpSinceAsked, List.foldl_append]
  rfl

theorem exists_course (steps : List ReadinessStep) :
    ∃ number isTaken,
      initial.stepAll steps = inPass number (setUpSinceAsked steps) isTaken ∧
        Course (Readiness.history steps) number (setUpSinceAsked steps) isTaken := by
  induction steps using List.reverseRecOn with
  | nil => exact ⟨0, false, rfl, course_initial⟩
  | append_singleton steps last ih =>
    obtain ⟨number, isTaken, reached, course⟩ := ih
    obtain ⟨next, takenNext, stepped, courseNext⟩ := course.step last
    refine ⟨next, takenNext, ?_, ?_⟩
    · rw [stepAll_concat, reached, stepped, setUpSinceAsked_concat]
    · rw [history_concat, reached, setUpSinceAsked_concat]
      exact courseNext

theorem events_length_le (readiness : Readiness) (step : ReadinessStep) :
    (readiness.events step).length ≤ 1 := by
  cases step with
  | rearm => cases armed : readiness.armed <;> simp [events, armed]
  | setUp => exact Nat.le_refl 1
  | ask => cases taken : readiness.take.1 <;> simp [events, taken]

/-- Where a history has come to at some point of it is where the steps had come to. -/
theorem exists_steps_of_history {steps : List ReadinessStep} {first later : List ReadinessEvent}
    (nonempty : first ≠ []) (split : Readiness.history steps = first ++ later) :
    ∃ before, Readiness.history before = first := by
  induction steps using List.reverseRecOn generalizing later with
  | nil =>
    cases first with
    | nil => exact absurd rfl nonempty
    | cons arming rest =>
      have same : .armed 0 = arming ∧ [] = rest ++ later := List.cons.inj split
      obtain ⟨rfl, -⟩ := List.append_eq_nil_iff.mp same.2.symm
      exact ⟨[], by rw [← same.1]; rfl⟩
  | append_singleton steps last ih =>
    induction later using List.reverseRecOn with
    | nil => exact ⟨steps ++ [last], by rw [split, List.append_nil]⟩
    | append_singleton before event _ =>
      rw [history_concat] at split
      have few := events_length_le (initial.stepAll steps) last
      cases new : (initial.stepAll steps).events last with
      | nil =>
        rw [new, List.append_nil] at split
        exact ih split
      | cons head rest =>
        obtain rfl : rest = [] := by
          rw [new, List.length_cons] at few
          exact List.length_eq_zero_iff.mp (by omega)
        rw [new, ← List.append_assoc] at split
        exact ih (List.append_inj' split rfl).1

/-- A signal that has been armed fires with the next set-up, if it has not fired before. -/
theorem getElem?_signals_stepAll (steps : List ReadinessStep) (inside : other ≤ number) :
    ((inPass number isSetUp isTaken).stepAll steps).signals[other]? =
      some (if (other < number ∨ isSetUp = true) ∨ .setUp ∈ steps then .fired else .pending) := by
  induction steps generalizing number isSetUp isTaken with
  | nil =>
    rcases Nat.lt_or_eq_of_le inside with earlier | rfl
    · have listed : other < (List.replicate number Signal.fired).length := by simpa using earlier
      simp [stepAll, inPass, List.getElem?_append_left listed, earlier]
    · cases isSetUp <;> simp [stepAll, inPass]
  | cons step rest ih =>
    have first : (inPass number isSetUp isTaken).stepAll (step :: rest) =
      ((inPass number isSetUp isTaken).step step).stepAll rest := rfl
    cases step with
    | rearm =>
      rw [first, show (inPass number isSetUp isTaken).step .rearm = _ from rearm_inPass ..]
      cases isSetUp with
      | false =>
        have later : ((inPass number false isTaken).stepAll rest).signals[other]? = _ := ih inside
        simpa using later
      | true =>
        rw [if_pos rfl, ih (Nat.le_succ_of_le inside)]
        simp [Nat.lt_succ_of_le inside]
    | setUp =>
      rw [first, show (inPass number isSetUp isTaken).step .setUp = _ from fire_inPass ..,
        ih inside]
      simp
    | ask =>
      rw [first, show (inPass number isSetUp isTaken).step .ask = inPass number isSetUp true from rfl,
        ih inside]
      simp

end Readiness

namespace Member

variable {ω : Type}

theorem readiness_recover (fault : BusFault) (member : Member ω) :
    (member.recover fault).readiness = member.readiness := by
  unfold recover
  split <;> rfl

theorem readiness_decide (member : Member ω) :
    member.decide.readiness =
      if member.shutdown.isSet || member.isClosed then member.readiness
      else member.readiness.rearm := by
  unfold decide
  split
  · rfl
  · dsimp only
    cases member.sessions <;> rfl

/-- A session that is joined is set up as often as its client says. -/
theorem readiness_join {session : Session} (admitted : session.refusal = none)
    (member : Member ω) :
    (member.join session).readiness =
      member.readiness.stepAll (List.replicate session.setUps .setUp) := by
  have fires : ∀ count, (List.range count).foldl (fun readiness _ => readiness.fire)
      member.readiness = member.readiness.stepAll (List.replicate count .setUp) := by
    intro count
    induction count with
    | zero => rfl
    | succ count ih =>
      rw [List.range_succ, List.foldl_append, ih, List.replicate_succ', Readiness.stepAll_concat]
      rfl
  rw [join, admitted]
  exact fires session.setUps

theorem readiness_finish (session : Session) (member : Member ω) :
    (member.finish session).readiness = member.readiness := by
  rw [finish]
  cases session.ending with
  | none => rfl
  | some fault => exact readiness_recover fault _

theorem readiness_proceed (work : Record → ω → Bool × ω) (member : Member ω) :
    (member.move work .proceed).readiness =
      member.readiness.stepAll (member.readinessSteps .proceed) := by
  cases phase : member.phase <;>
    simp only [Member.move, proceed?, phase, readinessSteps, Option.getD_some, Option.getD_none]
  case deciding =>
    rw [readiness_decide]
    split <;> rfl
  case joining session =>
    cases admitted : session.refusal with
    | none => exact readiness_join admitted member
    | some fault =>
      rw [join, admitted]
      exact readiness_recover fault member
  case waiting session records =>
    cases records with
    | nil => exact readiness_finish session member
    | cons record rest => rfl
  all_goals rfl

/-- The moves of a member come down to steps of its readiness. -/
theorem readiness_move (work : Record → ω → Bool × ω) (member : Member ω) (move : MemberMove) :
    (member.move work move).readiness =
      member.readiness.stepAll (member.readinessSteps move) := by
  cases move with
  | proceed => exact readiness_proceed work member
  | notice =>
    simp only [Member.move, notice?, readinessSteps]
    split
    · dsimp only [Option.getD_some]
      split <;> rfl
    · rfl
  | start flag =>
    simp only [Member.move, readinessSteps]
    split <;> rfl
  | close failing =>
    simp only [Member.move, close, readinessSteps]
    split <;> rfl
  | takeReady | write | abandon => rfl

theorem readiness_moveAll (work : Record → ω → Bool × ω) (schedule : List MemberMove)
    (member : Member ω) :
    (member.moveAll work schedule).readiness =
      member.readiness.stepAll (member.readinessStepsAlong work schedule) := by
  induction schedule generalizing member with
  | nil => rfl
  | cons move rest ih =>
    calc
      (member.moveAll work (move :: rest)).readiness =
          ((member.move work move).moveAll work rest).readiness := rfl
      _ = (member.readiness.stepAll (member.readinessSteps move)).stepAll
          ((member.move work move).readinessStepsAlong work rest) := by
        rw [ih, readiness_move]
      _ = member.readiness.stepAll (member.readinessStepsAlong work (move :: rest)) :=
        (List.foldl_append ..).symm

end Member

namespace Readiness

/-- In whichever order a member is about to ask for a session, sessions are set up and callers ask
for the signal: every arming has a signal of its own. Of the callers between two armings the first is
handed that signal, and no other gets one. A signal has fired just if a session was set up since it
was armed, and is pending otherwise. A signal that was handed out is never given up: whatever comes
later, it has fired, or it is pending and no session was set up. The readiness of a member goes
through such steps along every schedule. -/
theorem signals_served_once_and_kept (steps : List ReadinessStep) :
    let readiness := initial.stepAll steps
    let history := Readiness.history steps
    history.filterMap ReadinessEvent.armed? = List.range readiness.signals.length ∧
    (∀ earlier number since later, history = earlier ++ .armed number :: since ++ later →
      since.filterMap ReadinessEvent.armed? = [] →
        FirstServed number (since.filterMap ReadinessEvent.answer?)) ∧
    (∀ earlier number since, history = earlier ++ .armed number :: since →
      readiness.signals[number]? = some (if .setUp ∈ since then .fired else .pending)) ∧
    (∀ number, .handed number ∈ history → ∀ later,
      (readiness.stepAll later).signals[number]? = some .fired ∨
        .setUp ∉ later ∧ (readiness.stepAll later).signals[number]? = some .pending) ∧
    ∀ (ω : Type) (work : Record → ω → Bool × ω) (script : List Session) (worker : ω)
      (schedule : List MemberMove),
      ((Member.initial script worker).moveAll work schedule).readiness =
        initial.stepAll ((Member.initial script worker).readinessStepsAlong work schedule) := by
  intro readiness history
  obtain ⟨number, isTaken, reached, course⟩ := exists_course steps
  refine ⟨?_, ?_, ?_, ?_, ?_⟩
  · rw [show readiness = _ from reached, length_signals]
    exact course.armed
  · intro earlier other since later split armsNothing
    -- what stands before the later events is a history in which this pass is the current one
    obtain ⟨before, whole⟩ := exists_steps_of_history (by simp) split
    obtain ⟨_, _, -, courseBefore⟩ := exists_course before
    exact (courseBefore.answers earlier other since whole armsNothing).1
  · intro earlier other since split
    rw [show readiness = _ from reached]
    exact course.signals earlier other since split
  · intro other isHanded later
    rw [show readiness = _ from reached,
      getElem?_signals_stepAll later (course.handed other isHanded)]
    by_cases fired : (other < number ∨ setUpSinceAsked steps = true) ∨ .setUp ∈ later
    · exact .inl (by rw [if_pos fired])
    · exact .inr ⟨fun isSetUp => fired (.inr isSetUp), by rw [if_neg fired]⟩
  · intro ω work script worker schedule
    exact Member.readiness_moveAll work schedule (Member.initial script worker)

/-- Two callers, with a set-up and a request for the next session between them, and a third caller
who comes too late. -/
def threeCallers : List ReadinessStep := [.ask, .rearm, .setUp, .rearm, .ask, .ask]

theorem signals_of_threeCallers :
    FirstServed 1 [some 1, none] ∧
      (initial.stepAll threeCallers).signals[0]? = some .fired ∧
      (initial.stepAll threeCallers).signals[1]? = some .pending ∧
      (initial.stepAll (threeCallers ++ [.rearm, .setUp])).signals[1]? = some .fired := by
  obtain ⟨-, served, signals, kept, -⟩ := signals_served_once_and_kept threeCallers
  refine ⟨served [.armed 0, .handed 0, .setUp] 1 [.handed 1, .refused] [] rfl rfl,
    signals [] 0 _ rfl, signals [.armed 0, .handed 0, .setUp] 1 _ rfl, ?_⟩
  rcases kept 1 (by decide) [.rearm, .setUp] with fired | ⟨noSetUp, -⟩
  · exact fired
  · exact absurd (by decide) noSetUp

end Readiness

namespace Member

variable {ω : Type}

/-- At whichever moment of its runs a member is asked for its signal, and whatever comes later: a
signal that is handed out has fired just if a session had been set up since the member last asked for
one, or one has been set up later. -/
theorem taken_fired_iff_setUp (work : Record → ω → Bool × ω) (script : List Session) (worker : ω)
    (schedule later : List MemberMove) :
    let fresh := Member.initial script worker
    let taken := (fresh.moveAll work schedule).takeReady
    ∀ number, taken.1 = some number →
      (taken.2.moveAll work later).readiness.signals[number]? =
        some (if setUpSinceAsked (fresh.readinessStepsAlong work schedule) = true ∨
          .setUp ∈ taken.2.readinessStepsAlong work later then .fired else .pending) := by
  intro fresh taken number isTaken
  obtain ⟨current, takenBefore, reached, -⟩ :=
    Readiness.exists_course (fresh.readinessStepsAlong work schedule)
  have asked : (fresh.moveAll work schedule).readiness = _ :=
    (readiness_moveAll work schedule fresh).trans reached
  have answer : (if takenBefore then none else some current) = some number := by
    rw [← isTaken]
    simp only [taken, takeReady, asked, Readiness.take_inPass]
  have same : number = current := by
    cases takenBefore with
    | true => cases answer
    | false => exact (Option.some.inj answer).symm
  have afterwards : taken.2.readiness = _ :=
    congrArg (fun readiness => readiness.take.2) asked
  rw [readiness_moveAll, afterwards, Readiness.take_inPass, same,
    Readiness.getElem?_signals_stepAll _ (Nat.le_refl current)]
  simp

/-- A session that fails before it is set up, and one that fails afterwards. -/
def failingSessions : List Session :=
  [⟨0, some (.consuming "no coordinator"), 0, [], 0, 0, none⟩,
    ⟨0, none, 1, [], 0, 0, some (.consuming "coordinator lost")⟩]

def failingMember (moves : List MemberMove) : Member Unit :=
  (Member.initial failingSessions ()).moveAll (fun _ _ => (true, ())) moves

/-- The signal is taken while the member pauses after the first session. It waits for the second
one. -/
theorem taken_in_first_pause_waits :
    let moves : List MemberMove := [.start .lowered, .proceed, .proceed]
    let taken := (failingMember moves).takeReady
    (failingMember moves).phase = .pausing ∧ taken.1 = some 0 ∧
      (taken.2.moveAll (fun _ _ => (true, ())) [.proceed, .proceed]).readiness.signals[0]? =
        some .pending ∧
      (taken.2.moveAll (fun _ _ => (true, ())) [.proceed, .proceed, .proceed]).readiness.signals[0]? =
        some .fired :=
  ⟨rfl, rfl, taken_fired_iff_setUp _ failingSessions () [.start .lowered, .proceed, .proceed]
      [.proceed, .proceed] 0 rfl,
    taken_fired_iff_setUp _ failingSessions () [.start .lowered, .proceed, .proceed]
      [.proceed, .proceed, .proceed] 0 rfl⟩

/-- The signal is taken while the member pauses after the second session, or once its run is over. No
session is set up then, and yet the signal has fired. -/
theorem taken_in_second_pause_has_fired :
    let moves : List MemberMove :=
      [.start .lowered, .proceed, .proceed, .proceed, .proceed, .proceed, .proceed]
    let stopped := moves ++ [.write true, .notice]
    ((failingMember moves).phase = .pausing ∧ (failingMember moves).takeReady.1 = some 0 ∧
      (failingMember moves).takeReady.2.readiness.signals[0]? = some .fired) ∧
    (failingMember stopped).phase = .stopped ∧ (failingMember stopped).takeReady.1 = some 0 ∧
      (failingMember stopped).takeReady.2.readiness.signals[0]? = some .fired :=
  ⟨⟨rfl, rfl, rfl⟩, rfl, rfl, rfl⟩

end Member

end EventCorrelation
