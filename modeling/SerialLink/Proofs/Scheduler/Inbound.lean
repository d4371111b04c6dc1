import SerialLink.Proofs.Frame.Receiving
import SerialLink.Proofs.Scheduler.Effects

/-!
What received bytes do to the parts of a scheduler. They go through the receiver one after the other
(`acceptByte_frame`), and those that make up a payload are read over the table: a command of the
device ends the item that waits for it, and besides tells events and changes what is known of the
device (`dispatch_eq`); anything else is counted.
-/

namespace SerialLink

/-- The commands in these payloads. The others are passed over. -/
def CommandTable.commandsIn (table : CommandTable) (payloads : List Bytes) : List Command :=
  payloads.filterMap fun payload => (table.decode payload).toOption

theorem CommandTable.commandsIn_append (table : CommandTable) (first second : List Bytes) :
    table.commandsIn (first ++ second) = table.commandsIn first ++ table.commandsIn second :=
  List.filterMap_append

namespace Scheduler

variable {τ : Type}

/-! ### One payload -/

theorem updateDevice_eq (s : Scheduler τ) (command : Command) :
    ∃ (device : DeviceStatus) (wake : Bool) (events : List LinkEvent),
      s.updateDevice command = { s with device, wake }.tell (events.map .event) := by
  have same : s = { s with device := s.device, wake := s.wake }.tell (List.map .event []) :=
    s.tell_nil.symm
  unfold updateDevice
  split
  · exact ⟨s.device, s.wake, [], same⟩
  · dsimp only
    split
    · exact ⟨s.device, s.wake, [], same⟩
    · exact ⟨_, true, [_], rfl⟩

/-- A command of the device ends the item that waits for it, and besides tells events and changes
what is known of the device. -/
theorem dispatch_eq (s : Scheduler τ) (command : Command) (now : Nat) :
    ∃ (metrics : Recording) (device : DeviceStatus) (wake : Bool) (events : List LinkEvent),
      s.dispatch command now =
        { { s with metrics }.confirm command now with device, wake }.tell
          (events.map .event) := by
  obtain ⟨device, wake, events, updated⟩ :=
    ((s.countCommand .commandsReceived command.id).confirm command now).updateDevice_eq command
  refine ⟨(s.countCommand .commandsReceived command.id).metrics, device, wake,
    events ++ [.command command], ?_⟩
  unfold dispatch
  dsimp only
  rw [updated, tell_tell, List.map_append]
  rfl

/-- What is not a command of the device is counted. -/
theorem acceptPayload_of_error {s : Scheduler τ} {payload : Bytes} {cause : DecodeError}
    (unreadable : s.table.decode payload = .error cause) (now : Nat) :
    ∃ metrics : Recording, s.acceptPayload payload now =
      { s with
        metrics
        counts := { s.counts with decodeErrors := s.counts.decodeErrors + 1 } } := by
  have unreadable : (s.countMetric .framesReceived).table.decode payload = .error cause :=
    unreadable
  unfold acceptPayload
  simp only [unreadable]
  exact ⟨_, rfl⟩

theorem acceptPayload_of_ok {s : Scheduler τ} {payload : Bytes} {command : Command}
    (read : s.table.decode payload = .ok command) (now : Nat) :
    s.acceptPayload payload now = (s.countMetric .framesReceived).dispatch command now := by
  have read : (s.countMetric .framesReceived).table.decode payload = .ok command := read
  unfold acceptPayload
  simp only [read]

/-- What a confirm leaves alone, whether it is waited for or not. -/
theorem confirm_frame (s : Scheduler τ) (command : Command) (now : Nat) :
    (s.confirm command now).receiver = s.receiver ∧ (s.confirm command now).session = s.session ∧
      (s.confirm command now).table = s.table := by
  cases found : s.queue.findConfirm? command.id command.seq with
  | none =>
    unfold confirm
    rw [found]
    exact ⟨rfl, rfl, rfl⟩
  | some slot =>
    obtain ⟨item, held, -⟩ := SendQueue.awaits_of_findConfirm? found
    obtain ⟨metrics, eq⟩ := confirm_of_found found held now
    rw [eq]
    exact ⟨rfl, rfl, rfl⟩

theorem acceptPayload_frame (s : Scheduler τ) (payload : Bytes) (now : Nat) :
    (s.acceptPayload payload now).receiver = s.receiver ∧
      (s.acceptPayload payload now).session = s.session ∧
      (s.acceptPayload payload now).table = s.table := by
  cases read : s.table.decode payload with
  | error cause =>
    obtain ⟨metrics, eq⟩ := acceptPayload_of_error read now
    rw [eq]
    exact ⟨rfl, rfl, rfl⟩
  | ok command =>
    obtain ⟨metrics, device, wake, events, eq⟩ :=
      (s.countMetric .framesReceived).dispatch_eq command now
    rw [acceptPayload_of_ok read, eq]
    exact confirm_frame { s with metrics } command now

/-! ### Bytes -/

theorem acceptByte_frame (s : Scheduler τ) (b : UInt8) (now : Nat) :
    (s.acceptByte now b).receiver = (s.receiver.feed b).2 ∧
      (s.acceptByte now b).session = s.session ∧ (s.acceptByte now b).table = s.table := by
  unfold acceptByte
  cases fed : s.receiver.feed b with
  | mk payload? receiver =>
    cases payload? with
    | none => exact ⟨rfl, rfl, rfl⟩
    | some payload => exact acceptPayload_frame { s with receiver } payload now

/-- The commands in the bytes that the transport has received, behind those that the receiver
holds. -/
def inbox [Transport τ] (s : Scheduler τ) : List Command :=
  s.table.commandsIn (s.receiver.feedAll (Transport.receive s.transport).1).1

end Scheduler

end SerialLink
