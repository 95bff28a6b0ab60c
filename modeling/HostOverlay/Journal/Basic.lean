import HostOverlay.Topology.Report

/-!
# The journal

The journal keeps what the agent has reported, counts the resolutions by outcome, and holds the
number of local networks that the last one found. A resolution is counted as soon as its candidates
are listed, and the number of its networks is noted as soon as they are found, so one that an
obstacle stops later is counted and noted all the same.
-/

namespace HostOverlay

/-- The records and the metrics of the agent. -/
structure Journal where
  /-- What was reported, oldest first. -/
  records : List Event := []
  /-- The number of resolutions with each outcome that occurred, in the order of first use. -/
  resolutions : Table Outcome Nat := []
  /-- The number of local networks that the last resolution found that found its topology. -/
  localNetworks : Nat := 0
deriving Inhabited

namespace Journal

/-- The number of resolutions with an outcome. -/
def count (journal : Journal) (outcome : Outcome) : Nat :=
  (Table.get? journal.resolutions outcome).getD 0

/-- Adds records at the end. -/
def report (journal : Journal) (events : List Event) : Journal :=
  { journal with records := journal.records ++ events }

/-- Reporting nothing changes nothing. -/
@[simp] theorem report_nil (journal : Journal) : journal.report [] = journal := by
  rw [report, List.append_nil]

/-- Forgets the records. -/
def forget (journal : Journal) : Journal := { journal with records := [] }

/-- Counts a resolution with an outcome. -/
def tally (journal : Journal) (outcome : Outcome) : Journal :=
  { journal with
    resolutions := Table.put outcome (journal.count outcome + 1) journal.resolutions }

/-- Notes how many local networks a resolution found. -/
def note (journal : Journal) (found : Nat) : Journal := { journal with localNetworks := found }

/-- Takes in a resolution of a snapshot: its reports and its metrics. -/
def enter (journal : Journal) (settings : Settings) (snapshot : Snapshot) : Journal :=
  let obstacle? := snapshot.obstacle? settings
  let resolution := snapshot.resolution settings
  let reported := journal.report (snapshot.events settings)
  let counted :=
    if Stage.candidates.isPassed obstacle? then reported.tally resolution.outcome else reported
  if Stage.topology.isPassed obstacle? then counted.note resolution.networks.length else counted

end Journal

end HostOverlay
