import HostOverlay.Journal.Basic

/-!
# Metrics

The journal is offered to those who watch the agent as two metrics: a counter of the resolutions,
with one sample for each outcome that occurred, and a gauge of the local networks. In which text the
metrics are written down is up to a library, the format, which is a parameter here.
-/

namespace HostOverlay

/-- A metric as it is announced. -/
structure Metric where
  /-- The name of the metric. -/
  name : String
  /-- What the metric measures. -/
  help : String
  /-- The type of the metric. -/
  type : String
  /-- The names of the labels that tell its samples apart. -/
  labels : List String

/-- A sample of a metric. -/
structure Metric.Sample where
  /-- What the sample has as the labels of its metric. -/
  labels : List String
  /-- What was measured. -/
  value : Nat
deriving DecidableEq, Repr

/-- A library that writes metrics down. -/
class Metric.Format where
  /-- The media type of what is written. -/
  mediaType : String
  /-- The lines for metrics and their samples. -/
  write : List (Metric × List Metric.Sample) → List String

namespace Metric

/-- The counter of resolutions by outcome. -/
def resolutions : Metric :=
  ⟨"cniagent_driver_service_resolution_total", "Network driver service selection outcomes",
    "counter", ["outcome"]⟩

/-- The gauge of local networks. -/
def localNetworks : Metric :=
  ⟨"cniagent_local_networks", "Number of local networks found by the last resolution", "gauge", []⟩

end Metric

namespace Journal

/-- The samples of the counter. -/
def outcomeSamples (journal : Journal) : List Metric.Sample :=
  journal.resolutions.map fun entry => ⟨[entry.1.label], entry.2⟩

/-- The metrics of the journal with their samples. -/
def metrics (journal : Journal) : List (Metric × List Metric.Sample) :=
  [(Metric.resolutions, journal.outcomeSamples),
    (Metric.localNetworks, [⟨[], journal.localNetworks⟩])]

/-- The metrics of the journal, line by line. -/
def exposition [format : Metric.Format] (journal : Journal) : List String :=
  format.write journal.metrics

/-- The media type of the exposition. -/
def expositionType [format : Metric.Format] : String := format.mediaType

end Journal

end HostOverlay
