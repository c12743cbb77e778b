import EventCorrelation.Bus.Calls
import Mathlib.Data.List.Induction

/-!
# Offsets of a log in memory

A log counts the offsets of each topic apart from its records. The two stay in step: the next offset
of a topic is the number of its records, whatever came between and on whichever path it came. So the
offset that a record is given is its place among the records of its topic, for good.
-/

namespace EventCorrelation

namespace MemoryLog

variable {log : MemoryLog} {record : OutboundRecord} {payload : List UInt8} {fault : BusFault}

theorem nextOffset_cons (topic other : String) (value : Nat) (rest : List (String × Nat)) :
    nextOffset ((topic, value) :: rest) other =
      if other = topic then value else nextOffset rest other := by
  by_cases same : other = topic
  · subst same
    simp [nextOffset]
  · simp [nextOffset, List.lookup_cons, beq_false_of_ne same, same]

theorem nextOffset_setOffset (topic other : String) (offset : Nat) (offsets : List (String × Nat)) :
    nextOffset (setOffset topic offset offsets) other =
      if other = topic then offset else nextOffset offsets other := by
  induction offsets with
  | nil => rw [setOffset, nextOffset_cons]
  | cons entry rest ih =>
    obtain ⟨entryTopic, value⟩ := entry
    rw [setOffset]
    by_cases isEntry : entryTopic = topic
    · subst isEntry
      rw [if_pos rfl, nextOffset_cons, nextOffset_cons]
      split <;> rfl
    · rw [if_neg isEntry, nextOffset_cons, nextOffset_cons, ih]
      by_cases found : other = entryTopic
      · subst found
        rw [if_pos rfl, if_neg isEntry, if_pos rfl]
      · rw [if_neg found, if_neg found]

theorem length_recordsOf_append (log : MemoryLog) (record : PublishedRecord) (topic : String) :
    ((log.records ++ [record]).filter (·.topic == topic)).length =
      (log.recordsOf topic).length + if topic = record.topic then 1 else 0 := by
  rw [List.filter_append, List.length_append, recordsOf]
  by_cases same : topic = record.topic
  · simp [same]
  · simp [same, Ne.symm same]

/-- The log takes every record, and counts the records of each topic. -/
structure InStep (log : MemoryLog) : Prop where
  accepts : log.refusal = none
  isOpen : log.isOpen = true
  counts : ∀ topic, nextOffset log.nextOffsets topic = (log.recordsOf topic).length

theorem inStep_empty : InStep (.empty none) := ⟨rfl, rfl, fun _ => rfl⟩

theorem append_of_error (accepts : log.refusal = none)
    (encoded : record.value.encode.1 = .error fault) : log.append record = (.error fault, log) := by
  rw [append, accepts]
  split
  · next refused => cases refused
  · split
    · next other _ found =>
      rw [found] at encoded
      cases encoded
      rfl
    · next found =>
      rw [found] at encoded
      cases encoded

/-- A record gets the number of the records before it on its topic. -/
theorem InStep.append_of_ok (inStep : log.InStep) (encoded : record.value.encode.1 = .ok payload) :
    (log.append record).1 = .ok ⟨record.topic, 0, (log.recordsOf record.topic).length⟩ ∧
      (log.append record).2.records = log.records ++ [⟨record.topic, record.key, payload⟩] ∧
      (log.append record).2.InStep := by
  have appended : log.append record =
      (.ok ⟨record.topic, 0, (log.recordsOf record.topic).length⟩,
        { log with
          records := log.records ++ [⟨record.topic, record.key, payload⟩]
          nextOffsets :=
            setOffset record.topic ((log.recordsOf record.topic).length + 1) log.nextOffsets }) := by
    rw [append, inStep.accepts]
    split
    · next refused => cases refused
    · split
      · next found =>
        rw [found] at encoded
        cases encoded
      · next found =>
        rw [found] at encoded
        cases encoded
        rw [inStep.counts]
  rw [appended]
  refine ⟨rfl, rfl, inStep.accepts, inStep.isOpen, fun topic => ?_⟩
  refine (nextOffset_setOffset ..).trans (Eq.trans ?_ (length_recordsOf_append log _ topic).symm)
  by_cases same : topic = record.topic
  · rw [if_pos same, if_pos same, same]
  · rw [if_neg same, if_neg same, inStep.counts]
    rfl

/-- Both paths append the record of a call. -/
theorem after_of_record {call : TransportCall} (hands : call.record? = some record)
    (log : MemoryLog) : transport.after log call = (log.append record).2 := by
  cases call with
  | enqueue | deliver =>
    cases hands
    rfl
  | close => cases hands

theorem InStep.answer?_of_record (inStep : log.InStep) {call : TransportCall}
    (hands : call.record? = some record) :
    transport.answer? log call = some (log.append record).1 := by
  cases call with
  | enqueue =>
    cases hands
    have stillOpen : (log.append record).2.isOpen = true := by
      unfold append
      split
      · exact inStep.isOpen
      · split <;> exact inStep.isOpen
    cases outcome : (log.append record).1 <;>
      simp [Transport.answer?, transport, stillOpen, outcome, Report.ofOutcome, Report.outcome]
  | deliver =>
    cases hands
    rfl
  | close => cases hands

/-- What is left behind depends on the records alone, not on the paths they take. -/
theorem after_congr {call other : TransportCall} (sameRecord : call.record? = other.record?)
    (log : MemoryLog) : transport.after log call = transport.after log other := by
  cases hands : call.record? with
  | some record =>
    rw [after_of_record hands, after_of_record (sameRecord ▸ hands)]
  | none =>
    rw [hands] at sameRecord
    cases call <;> cases hands
    cases other <;> cases sameRecord
    rfl

theorem afterAll_congr {calls others : List TransportCall}
    (sameRecords : calls.map (·.record?) = others.map (·.record?)) (log : MemoryLog) :
    transport.afterAll calls log = transport.afterAll others log := by
  induction calls generalizing others log with
  | nil =>
    obtain rfl : others = [] := List.map_eq_nil_iff.mp sameRecords.symm
    rfl
  | cons call rest ih =>
    cases others with
    | nil => cases sameRecords
    | cons other otherRest =>
      obtain ⟨sameRecord, sameRest⟩ := List.cons.inj sameRecords
      rw [Transport.afterAll_cons, Transport.afterAll_cons, after_congr sameRecord]
      exact ih sameRest _

/-- What a call that hands over a record does to a log in step. -/
inductive CallEffect (log : MemoryLog) (call : TransportCall) : Prop where
  | published (record : PublishedRecord) (published : call.published? = some record)
      (answer : transport.answer? log call =
        some (.ok ⟨record.topic, 0, (log.recordsOf record.topic).length⟩))
      (records : (transport.after log call).records = log.records ++ [record])
      (inStep : (transport.after log call).InStep)
  | refused (fault : BusFault) (published : call.published? = none)
      (answer : transport.answer? log call = some (.error fault))
      (unchanged : transport.after log call = log)

theorem InStep.callEffect (inStep : log.InStep) {call : TransportCall}
    (handsOver : call.isClose = false) : CallEffect log call := by
  obtain ⟨record, hands⟩ : ∃ record, call.record? = some record := by
    cases call with
    | enqueue record | deliver record => exact ⟨record, rfl⟩
    | close => cases handsOver
  have answer := inStep.answer?_of_record hands
  cases encoded : record.value.encode.1 with
  | error fault =>
    rw [append_of_error inStep.accepts encoded] at answer
    refine .refused fault ?_ answer ?_
    · simp [TransportCall.published?, hands, encoded, Except.toOption]
    · rw [after_of_record hands, append_of_error inStep.accepts encoded]
  | ok payload =>
    obtain ⟨outcome, records, inStepAfter⟩ := inStep.append_of_ok encoded
    refine .published ⟨record.topic, record.key, payload⟩ ?_ ?_ ?_ ?_
    · simp [TransportCall.published?, hands, encoded, Except.toOption]
    · rw [answer, outcome]
    · rw [after_of_record hands, records]
    · rwa [after_of_record hands]

variable {calls : List TransportCall}

/-- Along calls, a log stays in step and gets the records that can be encoded. -/
theorem InStep.afterAll (inStep : log.InStep) (handOver : ∀ call ∈ calls, call.isClose = false) :
    (transport.afterAll calls log).InStep ∧
      (transport.afterAll calls log).records =
        log.records ++ calls.filterMap TransportCall.published? := by
  induction calls generalizing log with
  | nil => exact ⟨inStep, (List.append_nil _).symm⟩
  | cons call rest ih =>
    rw [List.forall_mem_cons] at handOver
    cases inStep.callEffect handOver.1 with
    | published record published answer records inStepAfter =>
      obtain ⟨inStepAll, recordsAll⟩ := ih inStepAfter handOver.2
      refine ⟨inStepAll, recordsAll.trans ?_⟩
      rw [records, List.filterMap_cons_some published, List.append_assoc, List.singleton_append]
    | refused fault published answer unchanged =>
      rw [List.filterMap_cons_none published]
      rw [Transport.afterAll_cons, unchanged]
      exact ih inStep handOver.2

/-- The offsets that are answered on a topic count on from the number of its records. -/
theorem InStep.offsets_along (inStep : log.InStep)
    (handOver : ∀ call ∈ calls, call.isClose = false) (topic : String) :
    ((transport.placesAlong calls log).filter (·.topic == topic)).map (·.offset) =
      (List.range' (log.recordsOf topic).length
        ((calls.filterMap TransportCall.published?).filter (·.topic == topic)).length).map
          Int.ofNat := by
  induction calls generalizing log with
  | nil => rfl
  | cons call rest ih =>
    rw [List.forall_mem_cons] at handOver
    rw [Transport.placesAlong]
    cases inStep.callEffect handOver.1 with
    | published record published answer records inStepAfter =>
      have later := ih inStepAfter handOver.2
      rw [recordsOf, records, length_recordsOf_append] at later
      rw [answer, List.filterMap_cons_some published]
      by_cases same : topic = record.topic
      · subst same
        simpa [Except.toOption, List.range'_succ] using later
      · simpa [Except.toOption, same, Ne.symm same] using later
    | refused fault published answer unchanged =>
      have later := ih inStep handOver.2
      rw [answer, List.filterMap_cons_none published, unchanged]
      simpa [Except.toOption] using later

/-- Whatever records a healthy log is handed, on either path and in any order: a record that can be
encoded is answered with an offset, and is the record at that offset of its topic from then on; one
that cannot leaves the log as it was. The offsets of a topic count from zero without a gap, the log
holds the encoded records in the order of the calls, and it would be the same log had the records
come on other paths. -/
theorem offsets_dense_on_both_paths (calls : List TransportCall)
    (handOver : ∀ call ∈ calls, call.isClose = false) :
    let log := transport.afterAll calls (.empty none)
    (∀ earlier call later record, calls = earlier ++ call :: later → call.record? = some record →
      let before := transport.afterAll earlier (.empty none)
      (∀ payload, record.value.encode.1 = .ok payload → ∃ offset : Nat,
        transport.answer? before call = some (.ok ⟨record.topic, 0, offset⟩) ∧
        (before.recordsOf record.topic).length = offset ∧
        (log.recordsOf record.topic)[offset]? = some ⟨record.topic, record.key, payload⟩) ∧
      (∀ fault, record.value.encode.1 = .error fault →
        transport.answer? before call = some (.error fault) ∧
          transport.after before call = before)) ∧
    (∀ topic, ((transport.placesAlong calls (.empty none)).filter (·.topic == topic)).map
        (·.offset) = (List.range (log.recordsOf topic).length).map Int.ofNat) ∧
    log.records = calls.filterMap TransportCall.published? ∧
    ∀ others : List TransportCall, others.map (·.record?) = calls.map (·.record?) →
      transport.afterAll others (.empty none) = log := by
  intro log
  have records : log.records = calls.filterMap TransportCall.published? :=
    (inStep_empty.afterAll handOver).2
  refine ⟨?_, fun topic => ?_, records, fun others sameRecords => afterAll_congr sameRecords _⟩
  · intro earlier call later record split hands before
    subst split
    rw [List.forall_mem_append, List.forall_mem_cons] at handOver
    obtain ⟨inStep, recordsBefore⟩ := inStep_empty.afterAll handOver.1
    constructor
    · intro payload encoded
      have published : call.published? = some ⟨record.topic, record.key, payload⟩ := by
        simp [TransportCall.published?, hands, encoded, Except.toOption]
      refine ⟨(before.recordsOf record.topic).length, ?_, rfl, ?_⟩
      · rw [inStep.answer?_of_record hands, (inStep.append_of_ok encoded).1]
      -- What was there before and what comes later stand on either side of the new record.
      have onTopic : log.recordsOf record.topic = before.recordsOf record.topic ++
          ⟨record.topic, record.key, payload⟩ ::
            (later.filterMap TransportCall.published?).filter (·.topic == record.topic) := by
        have recordsBefore : before.records = earlier.filterMap TransportCall.published? :=
          recordsBefore
        rw [recordsOf, records, List.filterMap_append, List.filterMap_cons_some published,
          ← recordsBefore, List.filter_append, List.filter_cons_of_pos (by simp), recordsOf]
      rw [onTopic, List.getElem?_append_right (Nat.le_refl _), Nat.sub_self]
      rfl
    · intro fault encoded
      have unchanged := append_of_error inStep.accepts encoded
      rw [inStep.answer?_of_record hands, after_of_record hands, unchanged]
      exact ⟨rfl, rfl⟩
  · rw [inStep_empty.offsets_along handOver topic, ← records, List.range_eq_range']
    rfl

def outbound (topic : String) (content : Content) : OutboundRecord :=
  ⟨topic, none, .ofContent content⟩

/-- Two topics in turn, on both paths, with a value in between that cannot be encoded. -/
def alternatingCalls : List TransportCall :=
  [.enqueue (outbound "builds" (.json .null)), .deliver (outbound "releases" (.json .null)),
    .enqueue (outbound "builds" (.broken "no text")), .deliver (outbound "builds" (.json .null))]

/-- The broken value takes no offset: the record behind it is the second of its topic, and it would
be so had all records come on the other path. -/
theorem broken_value_takes_no_offset :
    let log := transport.afterAll alternatingCalls (.empty none)
    let delivered := (alternatingCalls.filterMap (·.record?)).map TransportCall.deliver
    (∀ call ∈ alternatingCalls, call.isClose = false) ∧
      (log.recordsOf "builds")[1]? = some ⟨"builds", none, Text.bytes Json.null.compact⟩ ∧
      ((transport.placesAlong alternatingCalls (.empty none)).filter (·.topic == "builds")).map
        (·.offset) = [0, 1] ∧
      transport.afterAll delivered (.empty none) = log := by
  intro log delivered
  have handOver : ∀ call ∈ alternatingCalls, call.isClose = false := by
    simp [alternatingCalls, TransportCall.isClose]
  obtain ⟨each, counted, -, paths⟩ := offsets_dense_on_both_paths alternatingCalls handOver
  obtain ⟨offset, -, place, stays⟩ := (each (alternatingCalls.take 3) _ [] _ rfl rfl).1 _ rfl
  obtain rfl : 1 = offset := place
  exact ⟨handOver, stays, counted "builds", paths delivered rfl⟩

end MemoryLog

end EventCorrelation
