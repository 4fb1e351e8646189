import ServiceHost.Log
import ServiceHost.Metrics.Sample

/-!
# Reports

What an activity leaves behind besides its result: log events and samples, in the order in which
they came up.
-/

namespace ServiceHost

/-- One thing that is reported. -/
inductive Report where
  | event (event : Event)
  | sample (sample : Sample)
  deriving Repr

namespace Report

/-- The event of a report. -/
def event? : Report → Option Event
  | event e => some e
  | sample _ => none

/-- The sample of a report. -/
def sample? : Report → Option Sample
  | event _ => none
  | sample s => some s

/-- The events among reports. -/
def events (reports : List Report) : List Event :=
  reports.filterMap event?

/-- The samples among reports. -/
def samples (reports : List Report) : List Sample :=
  reports.filterMap sample?

end Report

end ServiceHost
