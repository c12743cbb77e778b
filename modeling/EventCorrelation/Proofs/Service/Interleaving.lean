import EventCorrelation.Proofs.Identifier.Draws
import EventCorrelation.Proofs.Service.Announcements
import EventCorrelation.Service.Interleaving
import Mathlib.Data.List.Induction

/-!
# Completions under concurrency

However the steps of concurrent calls interleave, a completion is published only when every member
of the group has a successful event, and none is lost: the call whose event was the last that a group
was waiting for looks for completed groups after it has stored the event, so it finds the group. What
is published is told by the records that join a healthy log.
-/

namespace EventCorrelation

open EventService

variable {τ : Type} {topic : String} {supply : Supply}

namespace EventCall

variable {state after : ServiceState MemoryStore τ} {call next : EventCall} {group : ReceiverGroup}

/-- What a step does to the store: nothing, or it stores the event of a call that was checked. -/
theorem store_of_advance
    (advanced : call.advance (inMemory topic supply) state = (next, after)) :
    after.store = state.store ∨
      ∃ event, next = .stored event ∧ after.store = state.store.add (.event event) := by
  cases call with
  | requested new =>
    rw [advance, requireReceiver_inMemory] at advanced
    split at advanced <;> (cases advanced; exact .inl rfl)
  | checked new =>
    by_cases known : state.store.knows new.receiverId = true
    · have accepted : state.store.verdict (.createEvent new) = .ok () := by
        rw [MemoryStore.verdict, if_pos known]
      have created := MemoryStore.createEvent_of_verdict accepted ⟨supply.number state.drawn⟩
        (supply.time state.drawn)
      simp only [advance, storeEvent, inMemory, MemoryStore.store, Supply.id, created] at advanced
      cases advanced
      exact .inr ⟨_, rfl, rfl⟩
    · simp only [advance, storeEvent, inMemory, MemoryStore.store, MemoryStore.createEvent,
        if_neg known] at advanced
      cases advanced
      exact .inl rfl
  | stored event => cases advanced; exact .inl rfl
  | announced event => cases advanced; exact .inl rfl
  | completing event remaining completed =>
    cases remaining with
    | nil => cases advanced; exact .inl rfl
    | cons group rest =>
      simp only [advance, announceCompletion] at advanced
      split at advanced <;> (cases advanced; exact .inl rfl)
  | finished result => cases advanced; exact .inl rfl

theorem events_subset_of_advance
    (advanced : call.advance (inMemory topic supply) state = (next, after)) :
    state.store.events ⊆ after.store.events := by
  rcases store_of_advance advanced with same | ⟨event, -, stores⟩
  · rw [same]
    exact List.Subset.refl _
  · rw [stores, MemoryStore.events_add]
    exact List.subset_append_left _ _

theorem groups_of_advance
    (advanced : call.advance (inMemory topic supply) state = (next, after)) :
    after.store.groups = state.store.groups := by
  rcases store_of_advance advanced with same | ⟨event, -, stores⟩
  · rw [same]
  · rw [stores, MemoryStore.groups_add]
    exact List.append_nil _

/-- A step that makes a group complete stores an event of one of its members. -/
theorem stored_of_completes
    (advanced : call.advance (inMemory topic supply) state = (next, after))
    (incomplete : state.store.isComplete group = false)
    (complete : after.store.isComplete group = true) :
    ∃ event, next = .stored event ∧ event.receiverId ∈ group.memberIds := by
  rcases store_of_advance advanced with same | ⟨event, isStored, stores⟩
  · rw [same, incomplete] at complete
    cases complete
  · rw [stores] at complete
    exact ⟨event, isStored, MemoryStore.mem_of_isComplete_add incomplete complete⟩

/-- All groups that a call is about to announce are complete. -/
def Sound (store : MemoryStore) : EventCall → Prop
  | .completing _ remaining _ => ∀ group ∈ remaining, store.isComplete group = true
  | _ => True

theorem Sound.mono {store later : MemoryStore} (sound : call.Sound store)
    (grows : store.events ⊆ later.events) : call.Sound later := by
  cases call with
  | completing event remaining completed =>
    exact fun group member => MemoryStore.isComplete_mono grows (sound group member)
  | requested | checked | stored | announced | finished => trivial

theorem Sound.advance (sound : call.Sound state.store)
    (advanced : call.advance (inMemory topic supply) state = (next, after)) :
    next.Sound after.store := by
  cases call with
  | requested new =>
    rw [EventCall.advance, requireReceiver_inMemory] at advanced
    split at advanced <;> (cases advanced; trivial)
  | checked new =>
    rw [EventCall.advance] at advanced
    split at advanced <;> (cases advanced; trivial)
  | stored event => cases advanced; trivial
  | announced event =>
    cases advanced
    exact fun group member => (MemoryStore.mem_triggered.mp member).2.2
  | completing event remaining completed =>
    cases remaining with
    | nil => cases advanced; trivial
    | cons group rest =>
      simp only [EventCall.advance, announceCompletion] at advanced
      split at advanced <;>
        (cases advanced; exact fun other member => sound other (List.mem_cons_of_mem _ member))
  | finished result => cases advanced; trivial

/-- The call will announce the group, or it has announced it, which the proposition says. -/
def Responsible (group : ReceiverGroup) (announced : Prop) : EventCall → Prop
  | .stored event => event.receiverId ∈ group.memberIds
  | .announced event => event.receiverId ∈ group.memberIds
  | .completing _ remaining completed =>
    group ∈ remaining ∨ announced ∧ group.id ∈ completed
  | .finished (.ok created) => announced ∧ group.id ∈ created.completed
  | _ => False

theorem Responsible.mono {announced announcedLater : Prop}
    (responsible : call.Responsible group announced) (implies : announced → announcedLater) :
    call.Responsible group announcedLater := by
  cases call with
  | requested | checked => exact responsible
  | stored | announced => exact responsible
  | completing event remaining completed =>
    exact responsible.imp id fun done => ⟨implies done.1, done.2⟩
  | finished result =>
    cases result with
    | error fault => exact responsible
    | ok created => exact ⟨implies responsible.1, responsible.2⟩

/-- A step leaves its call responsible for a complete group of the store. It may announce the group,
but it does not drop it. -/
theorem Responsible.advance {announced announcedLater : Prop}
    (responsible : call.Responsible group announced) (implies : announced → announcedLater)
    (present : group ∈ state.store.groups) (enabled : group.enabled = true)
    (complete : state.store.isComplete group = true)
    (announces : ∀ event remaining completed,
      call = .completing event (group :: remaining) completed → announcedLater)
    (advanced : call.advance (inMemory topic supply) state = (next, after)) :
    next.Responsible group announcedLater := by
  cases call with
  | requested | checked => exact responsible.elim
  | stored event => cases advanced; exact responsible
  | announced event =>
    cases advanced
    exact .inl (MemoryStore.mem_triggered.mpr ⟨present, responsible, complete⟩)
  | completing event remaining completed =>
    cases remaining with
    | nil =>
      cases advanced
      rcases responsible with pending | ⟨done, listed⟩
      · cases pending
      · exact ⟨implies done, listed⟩
    | cons head rest =>
      have nextEq : next =
          .completing event rest (completed ++ if head.enabled then [head.id] else []) := by
        simp only [EventCall.advance, announceCompletion] at advanced
        split at advanced
        · next isEnabled => cases advanced; rw [if_pos isEnabled]
        · next isDisabled => cases advanced; rw [if_neg isDisabled]
      rw [nextEq]
      rcases responsible with pending | ⟨done, listed⟩
      · rcases List.mem_cons.mp pending with rfl | later
        · refine .inr ⟨announces event rest completed rfl, ?_⟩
          rw [if_pos enabled]
          exact List.mem_append_right _ (List.mem_singleton_self _)
        · exact .inl later
      · exact .inr ⟨implies done, List.mem_append_left _ listed⟩
  | finished result =>
    cases advanced
    exact responsible.mono implies

section Publishing

variable {state after : ServiceState MemoryStore MemoryLog}

/-- What the next step of a call publishes. -/
def publications : EventCall → List Publication
  | .stored event => [.announcement (.event event)]
  | .completing event (group :: _) _ => if group.enabled then [.completion group event] else []
  | _ => []

theorem publishes_advance (healthy : state.producer.Healthy)
    (advanced : call.advance (inMemory topic supply) state = (next, after)) :
    (inMemory topic supply).Publishes call.publications state after := by
  cases call with
  | requested new =>
    rw [advance] at advanced
    split at advanced <;> (cases advanced; exact publishes_nil _ healthy rfl)
  | checked new =>
    have same : ((inMemory topic supply).storeEvent new state).2.producer = state.producer := rfl
    rw [advance] at advanced
    split at advanced
    all_goals
      next stores =>
        rw [stores] at same
        cases advanced
        exact publishes_nil _ healthy same
  | stored event => cases advanced; exact publishes_publish _ healthy _
  | announced event => cases advanced; exact publishes_nil _ healthy rfl
  | completing event remaining completed =>
    cases remaining with
    | nil => cases advanced; exact publishes_nil _ healthy rfl
    | cons group rest =>
      simp only [advance, announceCompletion] at advanced
      split at advanced
      · next enabled =>
        cases advanced
        rw [publications, if_pos enabled]
        exact publishes_publish _ healthy (.completion group event)
      · next disabled =>
        cases advanced
        rw [publications, if_neg disabled]
        exact publishes_nil _ healthy rfl
  | finished result => cases advanced; exact publishes_nil _ healthy rfl

/-- A step that announces the completion of a group is that of a call which has come to the group. -/
theorem completing_of_announced (healthy : state.producer.Healthy)
    (advanced : call.advance (inMemory topic supply) state = (next, after))
    (announced : (inMemory topic supply).Announced group state after) :
    ∃ event head remaining completed, call = .completing event (head :: remaining) completed ∧
      head.id = group.id ∧ head.memberIds = group.memberIds := by
  obtain ⟨head, event, isPublished, sameIds⟩ :=
    (publishes_advance healthy advanced).exists_of_announced announced
  cases call with
  | stored => cases List.mem_singleton.mp isPublished
  | completing trigger remaining completed =>
    cases remaining with
    | nil => cases isPublished
    | cons other rest =>
      rw [publications] at isPublished
      split at isPublished
      · cases List.mem_singleton.mp isPublished
        exact ⟨event, head, rest, completed, rfl, sameIds⟩
      · cases isPublished
  | requested | checked | announced | finished => cases isPublished

end Publishing

end EventCall

namespace Interleaving

variable {first current : Interleaving MemoryStore MemoryLog} {index : Nat} {call next : EventCall}
  {after : ServiceState MemoryStore MemoryLog} {group : ReceiverGroup} {schedule : List Nat}

theorem step_of_call {service : EventService MemoryStore}
    (found : current.calls[index]? = some call)
    (advanced : call.advance service current.state = (next, after)) :
    current.step service index = ⟨current.calls.set index next, after⟩ := by
  rw [step, found]
  simp only [advanced]

theorem step_of_none {service : EventService MemoryStore}
    (missing : current.calls[index]? = none) : current.step service index = current := by
  rw [step, missing]

theorem run_concat (service : EventService MemoryStore) (schedule : List Nat) (index : Nat)
    (first : Interleaving MemoryStore MemoryLog) :
    run service (schedule ++ [index]) first = (run service schedule first).step service index := by
  rw [run, List.foldl_append]
  rfl

theorem HasAnnounced.concat {service : EventService MemoryStore} {announcer : Nat}
    (announced : HasAnnounced service first schedule announcer group) (index : Nat) :
    HasAnnounced service first (schedule ++ [index]) announcer group := by
  obtain ⟨earlier, later, rfl, announces⟩ := announced
  exact ⟨earlier, later ++ [index], by simp, announces⟩

/-- What holds between any two steps of concurrent calls. The calls are sound, the groups are still
those of the start, the log stays healthy, and some call is responsible for each group that has become
complete. -/
structure Kept (service : EventService MemoryStore) (first : Interleaving MemoryStore MemoryLog)
    (schedule : List Nat) (current : Interleaving MemoryStore MemoryLog) : Prop where
  sound : ∀ call ∈ current.calls, call.Sound current.state.store
  groups : current.state.store.groups = first.state.store.groups
  healthy : first.state.producer.Healthy → current.state.producer.Healthy
  responsible : ∀ group ∈ first.state.store.groups,
    first.state.store.isComplete group = false →
      current.state.store.isComplete group = true →
        ∃ (index : Nat) (call : EventCall), current.calls[index]? = some call ∧
          call.Responsible group
            (first.state.producer.Healthy → HasAnnounced service first schedule index group)

/-- The call that takes a step of an interleaving announces the group if it is next in line. -/
theorem announces_of_completing (healthy : current.state.producer.Healthy) {event : Event}
    {remaining : List ReceiverGroup} {completed : List GroupId} (enabled : group.enabled = true)
    (found : current.calls[index]? = some (.completing event (group :: remaining) completed)) :
    current.Announces (inMemory topic supply) index group := by
  cases advanced : (EventCall.completing event (group :: remaining) completed).advance
      (inMemory topic supply) current.state with
  | mk next after =>
    have isPublished : .completion group event ∈
        (EventCall.completing event (group :: remaining) completed).publications := by
      rw [EventCall.publications, if_pos enabled]
      exact List.mem_singleton_self _
    rw [Announces, step_of_call found advanced]
    exact (EventCall.publishes_advance healthy advanced).announced isPublished

/-- Only a step of a call that has come to a group announces it. -/
theorem completing_of_announces (healthy : current.state.producer.Healthy)
    (announces : current.Announces (inMemory topic supply) index group) :
    ∃ event head remaining completed,
      current.calls[index]? = some (.completing event (head :: remaining) completed) ∧
        head.id = group.id ∧ head.memberIds = group.memberIds := by
  rw [Announces] at announces
  cases found : current.calls[index]? with
  | none =>
    -- nothing joins the log
    rw [step_of_none found] at announces
    obtain ⟨_, _, isPublished, -⟩ := (publishes_nil _ healthy rfl).exists_of_announced announces
    cases isPublished
  | some call =>
    cases advanced : call.advance (inMemory topic supply) current.state with
    | mk next after =>
      rw [step_of_call found advanced] at announces
      obtain ⟨event, head, remaining, completed, rfl, sameIds⟩ :=
        EventCall.completing_of_announced healthy advanced announces
      exact ⟨event, head, remaining, completed, rfl, sameIds⟩

theorem Kept.start (service : EventService MemoryStore) (news : List NewEvent)
    (state : ServiceState MemoryStore MemoryLog) :
    Kept service (.start news state) [] (.start news state) where
  sound := by
    intro call member
    obtain ⟨new, -, rfl⟩ := List.mem_map.mp member
    trivial
  groups := rfl
  healthy := id
  responsible := by
    intro group present incomplete complete
    rw [incomplete] at complete
    cases complete

theorem Kept.step (enabled : ∀ group ∈ first.state.store.groups, group.enabled = true)
    (kept : Kept (inMemory topic supply) first schedule (run (inMemory topic supply) schedule first))
    (index : Nat) :
    Kept (inMemory topic supply) first (schedule ++ [index])
      ((run (inMemory topic supply) schedule first).step (inMemory topic supply) index) := by
  generalize reached : run (inMemory topic supply) schedule first = current at kept ⊢
  cases found : current.calls[index]? with
  | none =>
    rw [step_of_none found]
    refine ⟨kept.sound, kept.groups, kept.healthy, fun group present incomplete complete => ?_⟩
    obtain ⟨responsible, call, there, holds⟩ := kept.responsible group present incomplete complete
    exact ⟨responsible, call, there,
      holds.mono fun announced healthy => (announced healthy).concat index⟩
  | some call =>
    cases advanced : call.advance (inMemory topic supply) current.state with
    | mk next after =>
      have inRange : index < current.calls.length := (List.getElem?_eq_some_iff.mp found).1
      have member : call ∈ current.calls := List.mem_of_getElem? found
      rw [step_of_call found advanced]
      refine ⟨fun other otherMember => ?_, ?_, fun healthy => ?_,
        fun group present incomplete complete => ?_⟩
      · rcases List.mem_or_eq_of_mem_set otherMember with old | rfl
        · exact (kept.sound other old).mono (EventCall.events_subset_of_advance advanced)
        · exact (kept.sound call member).advance advanced
      · exact (EventCall.groups_of_advance advanced).trans kept.groups
      · exact (EventCall.publishes_advance (kept.healthy healthy) advanced).healthy
      · cases before : current.state.store.isComplete group with
        | true =>
          obtain ⟨responsible, caller, there, holds⟩ :=
            kept.responsible group present incomplete before
          by_cases same : responsible = index
          · subst same
            have sameCall : call = caller := Option.some.inj (found.symm.trans there)
            subst sameCall
            refine ⟨responsible, next, List.getElem?_set_self inRange, ?_⟩
            refine holds.advance (fun announced healthy => (announced healthy).concat responsible)
              (kept.groups ▸ present) (enabled group present) before ?_ advanced
            rintro event remaining completed rfl healthy
            refine ⟨schedule, [], rfl, ?_⟩
            rw [reached]
            exact announces_of_completing (kept.healthy healthy) (enabled group present) found
          · refine ⟨responsible, caller, ?_,
              holds.mono fun announced healthy => (announced healthy).concat index⟩
            rw [List.getElem?_set_ne (Ne.symm same)]
            exact there
        | false =>
          -- The call that takes this step becomes responsible for the group.
          obtain ⟨event, rfl, isMember⟩ := EventCall.stored_of_completes advanced before complete
          exact ⟨index, .stored event, List.getElem?_set_self inRange, isMember⟩

theorem Kept.run (news : List NewEvent) (state : ServiceState MemoryStore MemoryLog)
    (enabled : ∀ group ∈ state.store.groups, group.enabled = true) (schedule : List Nat) :
    Kept (inMemory topic supply) (.start news state) schedule
      (run (inMemory topic supply) schedule (.start news state)) := by
  induction schedule using List.reverseRecOn with
  | nil => exact .start _ news state
  | append_singleton schedule index ih =>
    rw [run_concat]
    exact ih.step enabled index

/-- Once all calls are through, the one that is responsible for a group lists it. -/
theorem Kept.listed {service : EventService MemoryStore} (kept : Kept service first schedule current)
    (present : group ∈ first.state.store.groups)
    (unsatisfied : ¬ first.state.store.Satisfies group) (returned : current.Returned)
    (satisfied : current.state.store.Satisfies group) :
    ∃ index created, current.calls[index]? = some (.finished (.ok created)) ∧
      (first.state.producer.Healthy → HasAnnounced service first schedule index group) ∧
      group.id ∈ created.completed := by
  have nonempty : group.memberIds ≠ [] := by
    intro empty
    apply unsatisfied
    intro member isMember
    rw [empty] at isMember
    cases isMember
  have incomplete : first.state.store.isComplete group = false := by
    apply Bool.eq_false_iff.mpr
    intro complete
    exact unsatisfied (MemoryStore.isComplete_iff.mp complete).2
  have complete : current.state.store.isComplete group = true :=
    MemoryStore.isComplete_iff.mpr ⟨nonempty, satisfied⟩
  obtain ⟨index, call, there, responsible⟩ := kept.responsible group present incomplete complete
  have finished := returned call (List.mem_of_getElem? there)
  cases call with
  | finished result =>
    cases result with
    | ok created => exact ⟨index, created, there, responsible⟩
    | error fault => exact responsible.elim
  | requested | checked | stored | announced | completing => cases finished

/-- A call comes only to groups that are complete. -/
theorem Kept.satisfied_of_completing {service : EventService MemoryStore}
    (kept : Kept service first schedule current) {event : Event} {remaining : List ReceiverGroup}
    {completed : List GroupId}
    (there : current.calls[index]? = some (.completing event (group :: remaining) completed)) :
    current.state.store.Satisfies group := by
  have sound := kept.sound _ (List.mem_of_getElem? there)
  exact (MemoryStore.isComplete_iff.mp (sound group (List.mem_cons_self ..))).2

end Interleaving

namespace EventService

open Interleaving

/-- Whatever order the steps of concurrent calls take, a group whose members all have a successful
event in the end, and did not at the start, is listed by one of the calls, and over a healthy log that
call has announced it. And whichever step of a call announces a group, every member already has a
successful event, and the call has come to that group among those it found complete. -/
theorem completion_not_lost_nor_premature (topic : String) (supply : Supply)
    (start : ServiceState MemoryStore MemoryLog) (reachable : start.store.Reachable)
    (news : List NewEvent) (schedule : List Nat) :
    let service := inMemory topic supply
    let final := run service schedule (.start news start)
    (∀ group ∈ start.store.groups, ¬ start.store.Satisfies group → final.Returned →
      final.state.store.Satisfies group →
        ∃ index created, final.calls[index]? = some (.finished (.ok created)) ∧
          group.id ∈ created.completed ∧
          (start.producer.Healthy →
            HasAnnounced service (.start news start) schedule index group)) ∧
    (start.producer.Healthy → ∀ index group, final.Announces service index group →
      final.state.store.Satisfies group ∧
        ∃ event head remaining completed,
          final.calls[index]? = some (.completing event (head :: remaining) completed) ∧
            head.id = group.id) := by
  intro service final
  have kept : Kept service (.start news start) schedule final :=
    .run news start reachable.enabled schedule
  refine ⟨fun group present unsatisfied returned satisfied => ?_,
    fun healthy index group announces => ?_⟩
  · obtain ⟨index, created, finished, announced, listed⟩ :=
      kept.listed present unsatisfied returned satisfied
    exact ⟨index, created, finished, listed, announced⟩
  · obtain ⟨event, head, remaining, completed, there, sameId, sameMembers⟩ :=
      completing_of_announces (kept.healthy healthy) announces
    have satisfied := kept.satisfied_of_completing there
    rw [MemoryStore.Satisfies, sameMembers] at satisfied
    exact ⟨satisfied, event, head, remaining, completed, there, sameId⟩

/-- Two receivers and a group of both. -/
def pairedStore : MemoryStore :=
  ((((MemoryStore.empty.createReceiver ⟨0⟩ ⟨0, 0⟩ ⟨"unit", "test", "1", "", .null⟩).2).createReceiver
    ⟨1⟩ ⟨0, 0⟩ ⟨"lint", "test", "1", "", .null⟩).2.createGroup
      ⟨2⟩ ⟨0, 0⟩ ⟨"gate", "gate", "1", "", [⟨0⟩, ⟨1⟩]⟩).2

theorem pairedStore_reachable : pairedStore.Reachable :=
  .createGroup _ _ _ (.createReceiver _ _ _ (.createReceiver _ _ _ .empty))

/-- A success for each of the two receivers. -/
def pairedNews : List NewEvent :=
  [⟨"build", "1", "", "", "", "", .null, true, ⟨0⟩⟩, ⟨"build", "1", "", "", "", "", .null, true, ⟨1⟩⟩]

/-- Both calls store their event before one of them looks for completed groups. -/
def pairedSchedule : List Nat :=
  [0, 1, 0, 1, 0, 1, 0, 1, 0, 1, 0, 1]

/-- A service that holds the store and publishes to an empty log. -/
def pairedStart : ServiceState MemoryStore MemoryLog :=
  { ServiceState.fresh 10 with store := pairedStore, drawn := 3 }

def pairedEnd : Interleaving MemoryStore MemoryLog :=
  run (inMemory "events" .counting) pairedSchedule (.start pairedNews pairedStart)

/-- The group as it is stored. -/
def pairedGroup : ReceiverGroup :=
  ⟨⟨2⟩, "gate", "gate", "1", "", true, [⟨0⟩, ⟨1⟩], ⟨0, 0⟩, ⟨0, 0⟩⟩

/-- The law for two calls that each store what the group still lacks. -/
theorem completion_of_paired_calls :
    ¬ pairedStore.Satisfies pairedGroup ∧
      ∃ (index : Nat) (created : CreatedEvent),
        pairedEnd.calls[index]? = some (.finished (.ok created)) ∧
          pairedGroup.id ∈ created.completed ∧
          HasAnnounced (inMemory "events" .counting) (.start pairedNews pairedStart) pairedSchedule
            index pairedGroup := by
  have present : pairedGroup ∈ pairedStore.groups := List.mem_singleton.mpr rfl
  have healthy : pairedStart.producer.Healthy := Producer.healthy_ofTransport 10
  have unsatisfied : ¬ pairedStore.Satisfies pairedGroup := by
    unfold MemoryStore.Satisfies
    decide
  have returned : pairedEnd.Returned := by
    unfold Returned
    decide
  have satisfied : pairedEnd.state.store.Satisfies pairedGroup := by
    unfold MemoryStore.Satisfies
    decide
  obtain ⟨index, created, finished, listed, announced⟩ :=
    (completion_not_lost_nor_premature "events" .counting pairedStart pairedStore_reachable
      pairedNews pairedSchedule).1 pairedGroup present unsatisfied returned satisfied
  exact ⟨unsatisfied, index, created, finished, listed, announced healthy⟩

end EventService

end EventCorrelation
