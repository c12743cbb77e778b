/-!
# Lines of reports

Reports of one kind on their way from a transport to the drain that consumes them. A line holds a
limited number of them; a report that finds it full, or its drain gone, is discarded. The drain
works through what waits before it looks at anything else, and ends when nothing more can come or
when it is told to stop.
-/

namespace EventCorrelation

/-- The task that consumes the reports of a line. -/
inductive Drain where
  /-- Nobody has started it. -/
  | notStarted
  | running (drained : Nat) (stopping : Bool)
  | ended (drained : Nat)
deriving DecidableEq

structure ReportLine (α : Type) where
  capacity : Nat
  waiting : List α
  discarded : Nat
  drain : Drain
deriving DecidableEq

namespace ReportLine

variable {α : Type}

/-- A line with room for at least one report. -/
def empty (capacity : Nat) : ReportLine α := ⟨max capacity 1, [], 0, .notStarted⟩

/-- The drain has ended, so that nobody will ever look at the line again. -/
def isAbandoned (line : ReportLine α) : Bool :=
  match line.drain with
  | .ended _ => true
  | _ => false

/-- Puts a report into the line or discards it. -/
def push (report : α) (line : ReportLine α) : ReportLine α :=
  if line.isAbandoned || line.capacity ≤ line.waiting.length then
    { line with discarded := line.discarded + 1 }
  else { line with waiting := line.waiting ++ [report] }

/-- Starts the drain, once. -/
def start? (line : ReportLine α) : Option (ReportLine α) :=
  match line.drain with
  | .notStarted => some { line with drain := .running 0 false }
  | _ => none

/-- Tells the drain to stop. -/
def requestStop (line : ReportLine α) : ReportLine α :=
  match line.drain with
  | .running drained _ => { line with drain := .running drained true }
  | _ => line

/-- A step of the drain, if it can take one. Whether more reports may come decides what it does when
none waits. -/
def step? (mayReport : Bool) (line : ReportLine α) : Option (ReportLine α) :=
  match line.drain with
  | .running drained stopping => match line.waiting with
    | _ :: rest => some { line with waiting := rest, drain := .running (drained + 1) stopping }
    | [] =>
      if stopping || !mayReport then some { line with drain := .ended drained } else none
  | _ => none

/-- At most the given number of steps of the drain. -/
def run (mayReport : Bool) : Nat → ReportLine α → ReportLine α
  | 0, line => line
  | fuel + 1, line => match line.step? mayReport with
    | none => line
    | some next => run mayReport fuel next

/-- The line once its drain can do no more. -/
def settle (mayReport : Bool) (line : ReportLine α) : ReportLine α :=
  line.run mayReport (line.waiting.length + 1)

/-- The number of reports that an ended drain has consumed. -/
def result? (line : ReportLine α) : Option Nat :=
  match line.drain with
  | .ended drained => some drained
  | _ => none

end ReportLine

end EventCorrelation
