import EventCorrelation.Proofs.Group.Members
import EventCorrelation.Proofs.Identifier.Draws
import EventCorrelation.Proofs.Service.Perform

/-!
# Exactness of the trigger

The groups that the creation of an event reports as completed are a matter of the history alone:
those asked for before with the event's receiver among their members, every member of which has a
successful event by then. The store follows the history entry by entry, and refused commands leave
no trace in either.
-/

namespace EventCorrelation.EventService

variable {τ : Type} {topic : String} {supply : Supply} {history : History}
  {state after : ServiceState MemoryStore τ}

/-- The store holds what the history says was created, and the groups have the identifiers of
increasing draws. -/
structure Recorded (supply : Supply) (history : History) (state : ServiceState MemoryStore τ) :
    Prop where
  reachable : state.store.Reachable
  events : state.store.events = history.filterMap HistoryEntry.event?
  groups : state.store.groups.map (fun group => (group.memberIds, group.id)) =
    (history.filterMap HistoryEntry.group?).map fun made => (made.1.members, made.2)
  drawn : supply.Drawn state.drawn (state.store.groups.map (·.id))

theorem recorded_empty (supply : Supply) (producer : Producer τ) (drawn : Nat) :
    Recorded supply [] (⟨.empty, producer, drawn⟩ : ServiceState MemoryStore τ) :=
  ⟨.empty, rfl, rfl, Supply.drawn_nil⟩

private theorem filterMap_concat {α β : Type} (select : α → Option β) (items : List α) (last : α) :
    (items ++ [last]).filterMap select = items.filterMap select ++ (select last).toList := by
  rw [List.filterMap_append]
  cases selected : select last <;> simp [selected]

/-- The entry of a created group says what the store says. -/
theorem group?_toEntity (command : IntakeCommand) (number : BitVec 128) (now : Timestamp)
    (completed : List GroupId) :
    (HistoryEntry.group? ⟨command, .ok ⟨command.toEntity number now, completed⟩⟩).map
        (fun made => (made.1.members, made.2)) =
      (command.toEntity number now).group?.map fun group => (group.memberIds, group.id) := by
  cases command <;> rfl

theorem Drawn.toEntity {ids : List GroupId} {bound : Nat} (drawn : supply.Drawn bound ids)
    (command : IntakeCommand) (now : Timestamp) :
    supply.Drawn (bound + 1)
      (ids ++ ((command.toEntity (supply.number bound) now).group?.map (·.id)).toList) := by
  cases command with
  | createEvent new => simpa [IntakeCommand.toEntity, Entity.group?] using drawn.mono (by omega)
  | createReceiver new => simpa [IntakeCommand.toEntity, Entity.group?] using drawn.mono (by omega)
  | createGroup new => exact drawn.concat

/-- A command that is carried out is recorded. -/
theorem Recorded.perform (recorded : Recorded supply history state) {command : IntakeCommand}
    {outcome : Except ServiceFault Creation}
    (performed : (inMemory topic supply).perform command state = (outcome, after)) :
    Recorded supply (history ++ [⟨command, outcome⟩]) after := by
  cases outcome with
  | error fault =>
    obtain ⟨-, rfl⟩ := state_of_perform_error performed
    refine ⟨recorded.reachable, ?_, ?_, recorded.drawn⟩
    · simp [recorded.events, HistoryEntry.event?]
    · rw [recorded.groups]
      cases command <;> simp [HistoryEntry.group?]
  | ok creation =>
    obtain ⟨entity, completed⟩ := creation
    obtain ⟨accepted, made, -, rfl⟩ := state_of_perform_ok performed
    simp only at made
    subst made
    refine ⟨?_, ?_, ?_, ?_⟩
    · simpa [stored] using recorded.reachable.add accepted _ _
    · rw [filterMap_concat, publishAll_store, stored, MemoryStore.events_add, recorded.events]
      rfl
    · have same := group?_toEntity command (supply.number state.drawn) (supply.time state.drawn)
        completed
      rw [filterMap_concat, publishAll_store, stored, MemoryStore.groups_add, List.map_append,
        List.map_append, recorded.groups, ← Option.toList_map, ← Option.toList_map, same]
    · have drawn := Drawn.toEntity recorded.drawn command (supply.time state.drawn)
      rw [publishAll_store, stored, MemoryStore.groups_add, List.map_append, ← Option.toList_map]
      exact drawn.mono (by simp)

theorem Recorded.performAll (recorded : Recorded supply history state) (topic : String)
    (commands : List IntakeCommand) :
    Recorded supply (history ++ ((inMemory topic supply).performAll commands state).1)
      ((inMemory topic supply).performAll commands state).2 := by
  induction commands generalizing history state with
  | nil => simpa [EventService.performAll] using recorded
  | cons command rest ih =>
    cases performed : (inMemory topic supply).perform command state with
    | mk outcome after =>
      simpa [EventService.performAll, performed] using ih (recorded.perform performed)

/-- No command gives draws back. -/
theorem drawn_le_perform (command : IntakeCommand) (state : ServiceState MemoryStore τ) :
    state.drawn ≤ ((inMemory topic supply).perform command state).2.drawn := by
  rw [perform_inMemory]
  split
  · exact Nat.le_refl _
  · simp [stored, Nat.add_assoc]

theorem drawn_le_performAll (commands : List IntakeCommand) (state : ServiceState MemoryStore τ) :
    state.drawn ≤ ((inMemory topic supply).performAll commands state).2.drawn := by
  induction commands generalizing state with
  | nil => exact Nat.le_refl _
  | cons command rest ih => exact Nat.le_trans (drawn_le_perform command state) (ih _)

/-- Every entry of a history was made by its command in the state that the entries before it led
to. -/
theorem performed_of_performAll {commands : List IntakeCommand} {before later : History}
    {entry : HistoryEntry}
    (splits : ((inMemory topic supply).performAll commands state).1 = before ++ entry :: later) :
    ∃ first : List IntakeCommand,
      ((inMemory topic supply).performAll first state).1 = before ∧
      ((inMemory topic supply).perform entry.command
        ((inMemory topic supply).performAll first state).2).1 = entry.outcome ∧
      ((inMemory topic supply).performAll first state).2.drawn ≤
        ((inMemory topic supply).performAll commands state).2.drawn := by
  induction before generalizing commands state with
  | nil =>
    cases commands with
    | nil => simp [performAll] at splits
    | cons command rest =>
      refine ⟨[], rfl, ?_, drawn_le_performAll (command :: rest) state⟩
      simp only [performAll, List.nil_append, List.cons.injEq] at splits
      rw [← splits.1]
      rfl
  | cons head before ih =>
    cases commands with
    | nil => simp [performAll] at splits
    | cons command rest =>
      simp only [performAll, List.cons_append, List.cons.injEq] at splits
      obtain ⟨headEq, splitsRest⟩ := splits
      obtain ⟨first, same, performed, fewer⟩ := ih splitsRest
      refine ⟨command :: first, ?_, performed, fewer⟩
      simp only [performAll, same, headEq]

/-- A receiver's successes in the store are those of the history. -/
theorem Recorded.hasSuccess (recorded : Recorded supply history state) (id : ReceiverId) :
    state.store.hasSuccess id = history.succeeded id := by
  rw [MemoryStore.hasSuccess, recorded.events]
  rfl

private theorem filter_map_snd {α β γ : Type} (items : List α) (view : α → β × γ)
    (keep : β → Bool) :
    (items.filter fun item => keep (view item).1).map (fun item => (view item).2) =
      ((items.map view).filter fun pair => keep pair.1).map (·.2) := by
  rw [List.filter_map, List.map_map]
  rfl

/-- The groups of a history are complete exactly if the store says so. -/
theorem Recorded.completeGroups (recorded : Recorded supply history state) (whole : History)
    (event : Event) (successes : ∀ id, state.store.hasSuccess id = whole.succeeded id) :
    (state.store.triggered event).map (·.id) =
      history.completeGroups whole event.receiverId := by
  -- Both sides are one test on the members of a group, followed by a look at its identifier.
  let complete (members : List ReceiverId) : Bool :=
    members.contains event.receiverId && (!members.isEmpty && members.all whole.succeeded)
  have stored : state.store.triggered event =
      state.store.groups.filter fun group => complete group.memberIds := by
    simp only [MemoryStore.triggered, MemoryStore.isComplete, List.filter_filter, complete,
      ReceiverGroup.contains, successes]
    exact List.filter_congr fun group _ => Bool.and_comm _ _
  have given : ∀ made : NewGroup × GroupId,
      (made.1.memberIds.contains event.receiverId && made.1.memberIds.all whole.succeeded) =
        complete made.1.members := by
    rintro ⟨new, id⟩
    rw [Bool.eq_iff_iff]
    simp only [complete, Bool.and_eq_true, List.contains_iff_mem, List.all_eq_true,
      NewGroup.mem_members, Bool.not_eq_true', List.isEmpty_eq_false_iff]
    constructor
    · rintro ⟨member, successful⟩
      exact ⟨member, List.ne_nil_of_mem (NewGroup.mem_members.mpr member), successful⟩
    · rintro ⟨member, -, successful⟩
      exact ⟨member, successful⟩
  calc
    (state.store.triggered event).map (·.id) =
        ((state.store.groups.map fun group => (group.memberIds, group.id)).filter
          fun pair => complete pair.1).map (·.2) := by
      rw [stored]
      exact filter_map_snd _ (fun group : ReceiverGroup => (group.memberIds, group.id)) complete
    _ = (((history.filterMap HistoryEntry.group?).map fun made => (made.1.members, made.2)).filter
          fun pair => complete pair.1).map (·.2) := by rw [recorded.groups]
    _ = ((history.filterMap HistoryEntry.group?).filter fun made =>
          complete made.1.members).map (·.2) :=
      (filter_map_snd _ (fun made : NewGroup × GroupId => (made.1.members, made.2)) complete).symm
    _ = history.completeGroups whole event.receiverId := by
      simp only [History.completeGroups, given]

/-- The groups that the creation of an event reports as completed are exactly those created before
it with its receiver among the members asked for, every member of which has a successful event by
then: in creation order and without repetition. -/
theorem completed_exact (topic : String) (supply : Supply) (producer : Producer τ)
    (commands : List IntakeCommand)
    (distinct : supply.DistinctBelow
      ((inMemory topic supply).performAll commands ⟨.empty, producer, 0⟩).2.drawn)
    (before later : History) (entry : HistoryEntry) (event : Event) (completed : List GroupId)
    (splits : ((inMemory topic supply).performAll commands ⟨.empty, producer, 0⟩).1 =
      before ++ entry :: later)
    (created : entry.outcome = .ok ⟨.event event, completed⟩) :
    completed = before.completeGroups (before ++ [entry]) event.receiverId ∧ completed.Nodup := by
  obtain ⟨first, sameHistory, performed, fewer⟩ := performed_of_performAll splits
  have recorded : Recorded supply before
      ((inMemory topic supply).performAll first ⟨.empty, producer, 0⟩).2 := by
    have all := (recorded_empty supply producer 0).performAll topic first
    rwa [List.nil_append, sameHistory] at all
  generalize ((inMemory topic supply).performAll first ⟨.empty, producer, 0⟩).2 = state at *
  rw [created] at performed
  have performedWhole : (inMemory topic supply).perform entry.command state =
      (.ok ⟨.event event, completed⟩, ((inMemory topic supply).perform entry.command state).2) :=
    Prod.ext performed rfl
  have recordedAfter := recorded.perform performedWhole
  obtain ⟨-, -, completedEq, afterEq⟩ := state_of_perform_ok performedWhole
  rw [afterEq] at recordedAfter
  have entryEq : (⟨entry.command, .ok ⟨.event event, completed⟩⟩ : HistoryEntry) = entry := by
    rw [← created]
  have noGroup : entry.group? = none := by
    rw [← entryEq]
    cases entry.command <;> rfl
  rw [entryEq] at recordedAfter
  have triggered : completed =
      ((state.store.add (.event event)).triggered event).map (·.id) := by
    have reachable : (state.store.add (.event event)).Reachable := by
      simpa [stored] using recordedAfter.reachable
    exact completedEq.trans (congrArg (List.map (·.id)) (reachable.completedBy_event event))
  constructor
  · have exactly := recordedAfter.completeGroups _ event recordedAfter.hasSuccess
    rw [publishAll_store] at exactly
    rw [triggered]
    refine exactly.trans ?_
    simp only [History.completeGroups, filterMap_concat, noGroup, Option.toList_none,
      List.append_nil]
  · have nodup := recorded.drawn.nodup (distinct.mono fewer)
    have sublist : (((state.store.add (.event event)).triggered event).map (·.id)).Sublist
        (state.store.groups.map (·.id)) :=
      (List.filter_sublist.trans List.filter_sublist).map _
    rw [triggered]
    exact nodup.sublist sublist

/-- Two receivers, a group of both with one named twice, a success for each of them and a failure at
the end. -/
def gateCommands : List IntakeCommand :=
  [.createReceiver ⟨"unit", "test", "1", "", .null⟩,
    .createReceiver ⟨"lint", "test", "1", "", .null⟩,
    .createGroup ⟨"gate", "gate", "1", "", [⟨0⟩, ⟨2⟩, ⟨0⟩]⟩,
    .createEvent ⟨"build", "1", "", "", "", "", .null, true, ⟨0⟩⟩,
    .createEvent ⟨"build", "1", "", "", "", "", .null, true, ⟨2⟩⟩,
    .createEvent ⟨"build", "1", "", "", "", "", .null, false, ⟨0⟩⟩]

/-- What comes of them. -/
def gateHistory : History :=
  ((inMemory "events" .counting).performAll gateCommands
    (⟨.empty, .disabled (), 0⟩ : ServiceState MemoryStore Unit)).1

/-- The failure at the end reports the group as well, once. -/
theorem completed_exact_gate :
    ([⟨4⟩] : List GroupId) =
        History.completeGroups (gateHistory.take 5) (gateHistory.take 5 ++ gateHistory.drop 5) ⟨0⟩ ∧
      ([⟨4⟩] : List GroupId).Nodup :=
  completed_exact "events" .counting (.disabled ()) gateCommands
    (by unfold Supply.DistinctBelow; decide) (gateHistory.take 5) []
    ⟨.createEvent ⟨"build", "1", "", "", "", "", .null, false, ⟨0⟩⟩,
      .ok ⟨.event ⟨⟨11⟩, "build", "1", "", "", "", "", .null, false, ⟨0⟩, ⟨0, 0⟩⟩, [⟨4⟩]⟩⟩
    ⟨⟨11⟩, "build", "1", "", "", "", "", .null, false, ⟨0⟩, ⟨0, 0⟩⟩ [⟨4⟩]
    (List.take_append_drop 5 gateHistory).symm rfl

end EventCorrelation.EventService
