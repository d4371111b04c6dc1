/-!
Metrics: what a link counts and measures, the labels that tell links apart, and the values recorded.
-/
namespace SerialLink

/-- How a metric's values add up. -/
inductive MetricKind where
  /-- Only grows. -/
  | counter
  /-- Has a current value. -/
  | gauge
  /-- Keeps every sample. -/
  | histogram
  deriving DecidableEq, Repr

def MetricKind.name : MetricKind → String
  | .counter => "counter"
  | .gauge => "gauge"
  | .histogram => "histogram"

/-- What a metric's values are numbers of. -/
inductive MetricUnit where
  | count
  | bytes
  | milliseconds
  deriving DecidableEq, Repr

def MetricUnit.name : MetricUnit → String
  | .count => "count"
  | .bytes => "bytes"
  | .milliseconds => "milliseconds"

/-- A metric. -/
inductive Metric where
  | framesReceived
  | framesSent
  | bytesReceived
  | bytesSent
  | checksumErrors
  | escapeErrors
  | overflowBytes
  | commandsReceived
  | commandsSent
  | decodeErrors
  | retries
  | timeouts
  | rejected
  | queueDepth
  | inFlight
  | pendingRequests
  | confirmLatency
  | disconnects
  | reconnects
  | failureCount
  deriving DecidableEq, Repr

namespace Metric

/-- Every metric, in the order in which they are announced. -/
def all : List Metric :=
  [.framesReceived, .framesSent, .bytesReceived, .bytesSent, .checksumErrors, .escapeErrors,
    .overflowBytes, .commandsReceived, .commandsSent, .decodeErrors, .retries, .timeouts, .rejected,
    .queueDepth, .inFlight, .pendingRequests, .confirmLatency, .disconnects, .reconnects,
    .failureCount]

def name : Metric → String
  | .framesReceived => "zlink.frame.rx"
  | .framesSent => "zlink.frame.tx"
  | .bytesReceived => "zlink.transport.rx_bytes"
  | .bytesSent => "zlink.transport.tx_bytes"
  | .checksumErrors => "zlink.frame.checksum_errors"
  | .escapeErrors => "zlink.frame.escape_errors"
  | .overflowBytes => "zlink.frame.overflow_bytes"
  | .commandsReceived => "zlink.command.rx"
  | .commandsSent => "zlink.command.tx"
  | .decodeErrors => "zlink.command.decode_errors"
  | .retries => "zlink.scheduler.retries"
  | .timeouts => "zlink.scheduler.timeouts"
  | .rejected => "zlink.scheduler.rejected"
  | .queueDepth => "zlink.scheduler.queue_depth"
  | .inFlight => "zlink.scheduler.in_flight"
  | .pendingRequests => "zlink.scheduler.pending_requests"
  | .confirmLatency => "zlink.scheduler.confirm_latency_ms"
  | .disconnects => "zlink.link.disconnects"
  | .reconnects => "zlink.link.reconnects"
  | .failureCount => "zlink.link.failure_count"

def kind : Metric → MetricKind
  | .queueDepth | .inFlight | .pendingRequests | .failureCount => .gauge
  | .confirmLatency => .histogram
  | _ => .counter

def unit : Metric → MetricUnit
  | .bytesReceived | .bytesSent | .overflowBytes => .bytes
  | .confirmLatency => .milliseconds
  | _ => .count

def description : Metric → String
  | .framesReceived => "Frames received with a valid checksum"
  | .framesSent => "Frames written to the transport"
  | .bytesReceived => "Raw bytes read from the serial port"
  | .bytesSent => "Raw bytes written to the serial port"
  | .checksumErrors => "Frames discarded because the checksum did not match"
  | .escapeErrors => "Frames discarded because of an invalid escape sequence"
  | .overflowBytes => "Bytes dropped because a frame exceeded the receive buffer"
  | .commandsReceived => "Commands decoded from received frames"
  | .commandsSent => "Commands sent to the device"
  | .decodeErrors => "Frames whose payload failed to decode as a command"
  | .retries => "Retransmissions after a confirm timeout"
  | .timeouts => "Commands that exhausted their retries"
  | .rejected => "Submissions refused by the scheduler"
  | .queueDepth => "Occupied command queue slots"
  | .inFlight => "Commands awaiting their confirm"
  | .pendingRequests => "Bulk requests waiting for a device slot"
  | .confirmLatency => "Time from first transmission to the matching confirm"
  | .disconnects => "Connection losses"
  | .reconnects => "Automatic reconnection attempts"
  | .failureCount => "Consecutive keep-alive or confirm failures"

end Metric

/-- Names and values that tell apart what a metric was recorded for, in the order of output. -/
abbrev Labels := List (String × String)

/-- Tells links apart. -/
structure LinkLabels where
  /-- The serial port. -/
  port : String := ""
  /-- The link's name. -/
  link : String := "default"
  deriving DecidableEq, Repr

namespace LinkLabels

def toList (l : LinkLabels) : Labels := [("port", l.port), ("link", l.link)]

/-- The labels of something about one command. -/
def withCommand (l : LinkLabels) (name : String) : Labels := l.toList ++ [("command", name)]

/-- The labels of something that has a reason. -/
def withReason (l : LinkLabels) (reason : String) : Labels := l.toList ++ [("reason", reason)]

end LinkLabels

/-- A metric and what it was recorded for. -/
structure Series where
  metric : Metric
  labels : Labels
  deriving DecidableEq, Repr

/-- The series as text. -/
def Series.describe (s : Series) : String :=
  let labels := s.labels.map fun (key, value) => key ++ "=" ++ value
  s.metric.name ++ "\x7b" ++ String.intercalate "," labels ++ "\x7d"

/-- Applies a change to what is kept under a key, or to `fresh` if nothing is, and keeps the order
in which keys first came. -/
def updateKey {α β : Type} [DecidableEq α] (key : α) (fresh : β) (change : β → β) :
    List (α × β) → List (α × β)
  | [] => [(key, change fresh)]
  | (k, v) :: rest =>
    if k = key then (k, change v) :: rest else (k, v) :: updateKey key fresh change rest

/-- The values recorded, each series from its first value on. -/
structure Recording where
  counters : List (Series × Nat) := []
  gauges : List (Series × Nat) := []
  /-- Samples in the order in which they were taken; times are in milliseconds. -/
  samples : List (Series × List Nat) := []
  deriving DecidableEq, Repr

namespace Recording

/-- Adds to a counter. -/
def add (r : Recording) (metric : Metric) (labels : Labels) (amount : Nat) : Recording :=
  { r with counters := updateKey ⟨metric, labels⟩ 0 (· + amount) r.counters }

/-- Sets a gauge. -/
def set (r : Recording) (metric : Metric) (labels : Labels) (value : Nat) : Recording :=
  { r with gauges := updateKey ⟨metric, labels⟩ 0 (fun _ => value) r.gauges }

/-- Takes a sample. -/
def sample (r : Recording) (metric : Metric) (labels : Labels) (value : Nat) : Recording :=
  { r with samples := updateKey ⟨metric, labels⟩ [] (· ++ [value]) r.samples }

/-- The sum of a counter over all labels. -/
def total (r : Recording) (metric : Metric) : Nat :=
  r.counters.foldl (fun sum (series, n) => if series.metric = metric then sum + n else sum) 0

/-- The number of samples over all labels. -/
def sampleCount (r : Recording) (metric : Metric) : Nat :=
  r.samples.foldl
    (fun sum (series, values) => if series.metric = metric then sum + values.length else sum) 0

end Recording

/-- A time of whole milliseconds as it is reported: the seconds, rounded to double precision, times
a thousand. -/
def reportedMilliseconds (ms : Nat) : Float :=
  let nanoseconds := ms % 1000 * 1000000
  (Float.ofNat (ms / 1000) + Float.ofNat nanoseconds / 1000000000.0) * 1000.0

end SerialLink
