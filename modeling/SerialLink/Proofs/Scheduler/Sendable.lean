import SerialLink.Proofs.Scheduler.Tick
import SerialLink.Proofs.Transport.Moves

/-!
What is queued can be sent. Whether a command can be written does not depend on its sequence number,
so what was found writable when it was submitted is so under the number that it was given, and stays
so (`Run.writable`): no item is discarded because it cannot be written (`Steps.rejected_notMem`).
A frame is at most twice as long as its body and its two delimiters (`Frame.length_encode_le`). So
no frame is longer than the ring of a transport over a port, which takes any queued item once the
ring is empty (`PortTransport.Made.takes`).
-/

namespace SerialLink

/-! ### Lengths -/

namespace Frame

theorem length_stuffByte_le (b : UInt8) : (stuffByte b).length ≤ 2 := by
  unfold stuffByte
  split
  · simp
  · split <;> simp

theorem length_stuff_le (bytes : Bytes) : (stuff bytes).length ≤ 2 * bytes.length := by
  induction bytes with
  | nil => simp [stuff]
  | cons b bytes ih =>
    have first := length_stuffByte_le b
    simp only [stuff, List.flatMap_cons, List.length_append, List.length_cons] at ih ⊢
    omega

/-- At worst every byte of the body has to be substituted. -/
theorem length_encode_le (payload : Bytes) :
    (encode payload).length ≤ 2 * (payload.length + trailerLength) + 2 := by
  have stuffed := length_stuff_le (body payload)
  rw [length_body] at stuffed
  simp only [encode, enclose, List.length_append, List.length_cons, List.length_nil]
  omega

end Frame

/-- What is written for a command, whether it has a layout or not, opens with its id, sequence
number and status, and keeps to the limit. -/
theorem CommandTable.header_of_encode {table : CommandTable} {command : Command} {limit : Nat}
    {bytes : Bytes} (written : table.encode command limit = .ok bytes) :
    bytes.length ≤ limit ∧
      ∃ rest, bytes = command.id :: command.seq :: command.status :: rest := by
  obtain ⟨-, cases⟩ := encode_eq_ok_iff.mp written
  split at cases
  · obtain ⟨room, rfl⟩ := cases
    exact ⟨Nat.le_trans room (Nat.min_le_left _ _), [], rfl⟩
  · obtain ⟨room, shape, fields, body, rfl⟩ := cases
    obtain ⟨-, within⟩ := Layout.carries_of_encodeFrom false room shape body
    refine ⟨?_, _, rfl⟩
    have prologue : Command.prologueLength = 5 := rfl
    simp only [List.length_append, List.length_cons, List.length_nil, length_littleEndian]
    omega

/-! ### The port -/

namespace PortTransport

/-- The transport was made as a whole, and since then sessions were started on it and its owner and
its worker have used it. -/
inductive Made : PortTransport → Prop where
  | new (settings : TransportSettings) (labels : LinkLabels) : Made { settings, labels }
  | start {t : PortTransport} (made : t.Made) : Made t.start.2
  | perform {t : PortTransport} (made : t.Made) (act : Act) : Made (t.perform act).2

variable {t t' : PortTransport}

theorem Made.performAll (made : t.Made) (acts : List Act) : (t.performAll acts).2.Made := by
  induction acts generalizing t with
  | nil => exact made
  | cons act acts ih => exact ih (made.perform act)

theorem Move.capacity_outbound {act : Act} {outcome : Outcome} (move : Move t act outcome t') :
    t'.outbound.capacity = t.outbound.capacity := by
  cases move <;> rfl

theorem Made.capacity_outbound (made : t.Made) : t.outbound.capacity = 4096 := by
  induction made with
  | new => rfl
  | @start t made ih =>
    unfold PortTransport.start
    split <;> exact ih
  | @perform t made act ih => rw [(perform_move t act).capacity_outbound, ih]

/-- With the frame behind the bytes that are to be sent. -/
def holding (t : PortTransport) (frame : Bytes) : PortTransport :=
  { t with outbound := { t.outbound with bytes := t.outbound.bytes ++ frame } }

/-- With nothing else to be sent there is room for every frame that is not longer than the ring. The
frame is put into the ring, and nothing else changes. -/
theorem Made.takes (made : t.Made) (operational : t.state = .operational)
    (empty : t.outbound.isEmpty = true) {frame : Bytes} (short : frame.length ≤ 4096) :
    Transport.send frame t = (.ok (), t.holding frame) := by
  have none : t.outbound.bytes = [] := List.isEmpty_iff.mp empty
  have room : frame.length ≤ t.outbound.free := by
    unfold ByteRing.free
    rw [made.capacity_outbound, none]
    exact short
  change t.send frame = _
  unfold PortTransport.send
  rw [if_neg (not_not_intro operational), ByteRing.pushAll?_of_room room]
  rfl

end PortTransport

/-! ### Items -/

namespace Scheduler

variable {τ : Type} [Transport τ]

/-- The item in the slot can be sent: its command is written under its own number, and the frame is
short enough for a transport over a port. -/
structure Sendable (s : Scheduler τ) (slot : Nat) (item : QueueItem) (payload : Bytes) : Prop where
  written : s.table.encode item.command Command.maxLength = .ok payload
  within : payload.length ≤ Command.maxLength
  numbered : payload[1]? = some item.command.seq
  short : (Frame.encode payload).length ≤ 518
  /-- An operational transport over a port takes the frame if it has nothing else to send, and holds
  it from then on. -/
  taken : ∀ t : PortTransport, t.Made → t.state = .operational → t.outbound.isEmpty = true →
    Transport.send (Frame.encode payload) t = (.ok (), t.holding (Frame.encode payload))
  /-- When it is its turn, it is sent if the transport takes the frame. -/
  sent : ∀ (now : Nat) (transport : τ), s.hasCredit = true → s.queue.nextToSend? = some slot →
    Transport.send (Frame.encode payload) s.transport = (.ok (), transport) →
    s.sendNext now = (true, { s with transport }.noteSent slot item.command.id now)

theorem Writable.sendable {s : Scheduler τ} (writable : s.Writable) {slot : Nat} {item : QueueItem}
    (held : s.queue.get? slot = some item) : ∃ payload, s.Sendable slot item payload := by
  obtain ⟨payload, written⟩ := writable held
  obtain ⟨within, rest, header⟩ := CommandTable.header_of_encode written
  have short : (Frame.encode payload).length ≤ 518 := by
    have longest := Frame.length_encode_le payload
    simp only [Command.maxLength, Frame.trailerLength] at within longest
    omega
  refine ⟨payload, written, within, ?_, short, ?_, ?_⟩
  · rw [header]
    rfl
  · intro t made operational empty
    exact made.takes operational empty (by omega)
  · intro now transport credit next taken
    exact sendNext_of_taken now credit next held written taken

/-- No item is discarded because it cannot be written. -/
theorem Steps.rejected_notMem {s s' : Scheduler τ} {deeds : List Deed} (steps : Steps s deeds s')
    (writable : s.Writable) (slot : Nat) (item : QueueItem) (response : Option Command)
    (now : Nat) : .ended slot item .rejected response now ∉ deeds := by
  induction steps with
  | nil => exact List.not_mem_nil
  | cons step rest ih =>
    intro mem
    rcases List.mem_cons.mp mem with rfl | mem
    · cases step with
      | discard _ _ held unwritable =>
        obtain ⟨payload, written⟩ := writable held
        cases written.symm.trans unwritable
    · exact ih (step.writable writable) mem

/-- **What is queued can be sent.** A run has a history that accounts for its trace. At any moment
of any history of it, no item has been discarded because it could not be written. Each queued item
can be written under the sequence number that it was given, in no more bytes than a command may
have; its frame has at most 518 bytes, so an operational transport over a port that has nothing else
to send takes it, and the item is sent when its turn comes. -/
theorem Run.queued_sendable {start s : Scheduler τ} {trace : Trace τ} (fresh : start.Fresh)
    (run : Run start trace s) :
    (∃ deeds : List Deed, Steps start deeds s ∧ Accounts trace deeds) ∧
      ∀ ⦃before after : List Deed⦄ ⦃s' : Scheduler τ⦄, Steps start before s' → Steps s' after s →
        (∀ slot item response now, .ended slot item .rejected response now ∉ before) ∧
        ∀ slot item, s'.queue.get? slot = some item →
          ∃ payload, s'.Sendable slot item payload := by
  refine ⟨run.steps, ?_⟩
  intro before after s' steps _
  constructor
  · exact steps.rejected_notMem fresh.writable
  · intro slot item held
    exact (steps.keep Step.writable fresh.writable).sendable held

/-- A session over a port is operational, and a command is queued of which nearly every byte has to
be substituted. -/
def substitutesQueued : Trace PortTransport × Scheduler PortTransport :=
  performAll { transport := {} }
    ([.openSession] ++ List.replicate 4 (.changeTransport (PortTransport.step {})) ++
      List.replicate 2 (.changeTransport (PortTransport.step { now := 600 })) ++
      [.handleEvent ⟨1, .connected⟩ 600,
        .enqueue { id := Command.neighborList
                   values := [.u8 0xC0, .words (List.replicate 124 0xC0C0)] } none])

theorem Run.queued_sendable_of_substitutesQueued :
    Fresh ({ transport := {} } : Scheduler PortTransport) ∧
      Run { transport := {} } substitutesQueued.1 substitutesQueued.2 ∧
      substitutesQueued.2.transport.Made ∧
      substitutesQueued.2.transport.state = .operational ∧
      ∃ (item : QueueItem) (payload : Bytes),
        substitutesQueued.2.queue.get? 0 = some item ∧
        substitutesQueued.2.Sendable 0 item payload ∧
        500 < (Frame.encode payload).length ∧
        substitutesQueued.2.sendNext 600 = (true,
          (substitutesQueued.2.mapTransport fun t =>
            t.holding (Frame.encode payload)).noteSent 0 Command.neighborList 600) := by
  have fresh : Fresh ({ transport := {} } : Scheduler PortTransport) := .mk _ _ _ _ _
  have run : Run { transport := {} } substitutesQueued.1 substitutesQueued.2 := run_performAll _ _
  have worked : substitutesQueued.2.transport = (({} : PortTransport).start.2.performAll
      (List.replicate 4 (.work {}) ++ List.replicate 2 (.work { now := 600 }))).2 := by
    decide +kernel
  have made : substitutesQueued.2.transport.Made := by
    rw [worked]
    exact (PortTransport.Made.new {} {}).start.performAll _
  have operational : substitutesQueued.2.transport.state = .operational := by decide +kernel
  have empty : substitutesQueued.2.transport.outbound.isEmpty = true := by decide +kernel
  have credit : substitutesQueued.2.hasCredit = true := by decide +kernel
  have next : substitutesQueued.2.queue.nextToSend? = some 0 := by decide +kernel
  let item : QueueItem :=
    { command :=
        { id := Command.neighborList
          seq := 1
          values := [.u8 0xC0, .words (List.replicate 124 0xC0C0)] }
      origin := .caller none }
  have held : substitutesQueued.2.queue.get? 0 = some item := by decide +kernel
  obtain ⟨⟨deeds, steps, -⟩, throughout⟩ := queued_sendable fresh run
  obtain ⟨-, sendable⟩ := throughout steps (.nil _)
  obtain ⟨payload, sendable⟩ := sendable 0 item held
  have taken := sendable.taken _ made operational empty
  have sent := sendable.sent 600 _ credit next taken
  have long : (substitutesQueued.2.table.encode item.command Command.maxLength).toOption.any
      (fun payload => decide (500 < (Frame.encode payload).length)) = true := by decide +kernel
  rw [sendable.written] at long
  exact ⟨fresh, run, made, operational, item, payload, held, sendable, of_decide_eq_true long, sent⟩

end Scheduler

end SerialLink
