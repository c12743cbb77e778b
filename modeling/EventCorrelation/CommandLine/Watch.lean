import EventCorrelation.CommandLine.Fault
import EventCorrelation.CommandLine.RecordLine
import EventCorrelation.Watcher.Timeline

/-!
# Watching topics

A watch tails topics through a watcher whose handler prints the records, until the source fails or
somebody interrupts it.
-/

namespace EventCorrelation

/-- Which records a watch shows. -/
structure RecordFilter where
  type : Option String
  /-- What the source of a message begins with. -/
  source : Option String
  failedOnly : Bool
deriving DecidableEq

namespace RecordFilter

/-- Nothing is asked for. -/
def isEmpty (filter : RecordFilter) : Bool :=
  filter.type.isNone && filter.source.isNone && !filter.failedOnly

/-- A message has everything that is asked for. -/
def acceptsMessage (filter : RecordFilter) (message : Message) : Bool :=
  filter.type.all (· == message.type) &&
    filter.source.all (fun start => start.toList.isPrefixOf message.source.toList) &&
    (!filter.failedOnly || !message.success)

/-- A record is shown. Whenever something is asked for, only messages are. -/
def accepts (filter : RecordFilter) (record : Record) : Bool :=
  filter.isEmpty || record.message?.any filter.acceptsMessage

end RecordFilter

/-- Prints a record; printing never fails. -/
def Record.printTo (colored : Bool) (format : OutputFormat) (record : Record)
    (lines : List String) : Bool × List String :=
  (true, lines ++ [record.render colored format])

/-- How a watch went. -/
structure WatchOutcome where
  lines : List String
  result : Except BusFault Unit

namespace RecordFilter

/-- Watches a source whose answers are given, with a handler that keeps up with it. A source that
falls silent is interrupted. -/
def watch (colored : Bool) (format : OutputFormat) (script : List Fetch) (filter : RecordFilter) :
    WatchOutcome :=
  let watcher := (Watcher.initial script []).start.startTask.2
  let timeline := (WatchTimeline.initial watcher).advance 0 filter.accepts
    (Record.printTo colored format) none
  let stopped := (timeline.perform .stopTask).advance 0 filter.accepts
    (Record.printTo colored format) none
  ⟨stopped.watcher.handler, stopped.watcher.result?.getD (.ok ())⟩

end RecordFilter

end EventCorrelation
