import HostOverlay.Journal.Metrics

/-!
# Exposition of the metrics

The format in which the metrics are exposed when the agent is run: a help line and a type line for
each metric, and then its samples.
-/

namespace HostOverlay.Metric

/-- The two lines that announce a metric. -/
def header (metric : Metric) : List String :=
  ["# HELP " ++ metric.name ++ " " ++ metric.help, "# TYPE " ++ metric.name ++ " " ++ metric.type]

/-- The labels of a sample in curly brackets, if the metric has any. -/
def braced (names labels : List String) : String :=
  if names.isEmpty then ""
  else "\x7b" ++ ",".intercalate (names.zipWith (fun name label => name ++ "=\"" ++ label ++ "\"")
    labels) ++ "\x7d"

/-- The line of a sample; values are written with one decimal place. -/
def line (metric : Metric) (sample : Sample) : String :=
  metric.name ++ braced metric.labels sample.labels ++ " " ++ toString sample.value ++ ".0"

/-- The text format of the exposition. -/
instance Format.text : Format where
  mediaType := "text/plain; version=1.0.0; charset=utf-8"
  write := List.flatMap fun (metric, samples) => metric.header ++ samples.map metric.line

end HostOverlay.Metric
