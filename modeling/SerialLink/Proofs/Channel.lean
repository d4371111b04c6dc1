import SerialLink.Channel
import SerialLink.Proofs.Command.RoundTrip
import SerialLink.Proofs.Frame.Receiving

/-!
What goes through a channel. Payloads wait in the order of their frames, so it does not matter when
they are asked for: what has been decoded, and what waits to be, is together what has been received
(`perform_eq`), and enough requests at the end leave nothing waiting (`waiting_perform_decode`).
With the round trips of frames and of commands, the commands whose frames are received come out in
their order, each once (`decoded_in_order`). A command in its frame always fits the receiver: both
limits count bytes before stuffing.
-/

namespace SerialLink.Channel

/-! ### Calls -/

/-- What is done to a channel that receives. -/
inductive Call where
  /-- Bytes are handed to it. -/
  | feed (bytes : Bytes)
  /-- The payload that has waited longest is asked for. -/
  | decode
  deriving DecidableEq, Repr

/-- The bytes that are handed over, in order. -/
def received (calls : List Call) : Bytes :=
  calls.flatMap fun
    | .feed bytes => bytes
    | .decode => []

/-- Makes calls one after the other, and gives what has been decoded. -/
def perform (channel : Channel) : List Call → List (Except DecodeError Command) × Channel
  | [] => ([], channel)
  | .feed bytes :: calls => (channel.feed bytes).perform calls
  | .decode :: calls =>
    let (result, channel) := channel.decode?
    let (later, channel) := channel.perform calls
    (result.toList ++ later, channel)

theorem received_append (calls later : List Call) :
    received (calls ++ later) = received calls ++ received later :=
  List.flatMap_append

theorem received_replicate_decode (n : Nat) : received (List.replicate n .decode) = [] := by
  refine List.flatMap_eq_nil_iff.mpr fun call mem => ?_
  rw [List.eq_of_mem_replicate mem]

theorem perform_append (channel : Channel) (calls later : List Call) :
    channel.perform (calls ++ later) =
      ((channel.perform calls).1 ++ ((channel.perform calls).2.perform later).1,
        ((channel.perform calls).2.perform later).2) := by
  induction calls generalizing channel with
  | nil => rfl
  | cons call calls ih =>
    cases call with
    | feed bytes => exact ih (channel.feed bytes)
    | decode => simp only [List.cons_append, perform, ih, List.append_assoc]

/-- The bytes go to the receiver, and what has been decoded and what waits to be are the payloads
that waited at first and those received since. -/
theorem perform_eq (channel : Channel) (calls : List Call) :
    (channel.perform calls).2.receiver = (channel.receiver.feedAll (received calls)).2 ∧
      (channel.perform calls).1 ++ (channel.perform calls).2.waiting.map channel.table.decode =
        (channel.waiting ++ (channel.receiver.feedAll (received calls)).1).map
          channel.table.decode := by
  induction calls generalizing channel with
  | nil =>
    refine ⟨rfl, congrArg (List.map channel.table.decode) ?_⟩
    exact (List.append_nil channel.waiting).symm
  | cons call calls ih =>
    cases call with
    | feed bytes =>
      obtain ⟨receiver, decoded⟩ := ih (channel.feed bytes)
      have split : received (.feed bytes :: calls) = bytes ++ received calls := rfl
      rw [split, Receiver.feedAll_append, ← List.append_assoc]
      exact ⟨receiver, decoded⟩
    | decode =>
      obtain ⟨table, receiver, waiting⟩ := channel
      cases waiting with
      | nil => exact ih ⟨table, receiver, []⟩
      | cons payload waiting =>
        obtain ⟨receiver, decoded⟩ := ih ⟨table, receiver, waiting⟩
        exact ⟨receiver, congrArg (table.decode payload :: ·) decoded⟩

/-- Requests take from the front of what waits. -/
theorem waiting_perform_decode (channel : Channel) (n : Nat) :
    (channel.perform (List.replicate n .decode)).2.waiting = channel.waiting.drop n := by
  induction n generalizing channel with
  | zero => rfl
  | succ n ih =>
    obtain ⟨table, receiver, waiting⟩ := channel
    cases waiting with
    | nil => exact (ih ⟨table, receiver, []⟩).trans List.drop_nil
    | cons payload waiting => exact ih ⟨table, receiver, waiting⟩

/-! ### Frames of commands -/

/-- A channel over a table, to which nothing has happened yet. -/
abbrev new (table : CommandTable) : Channel := { table := table }

/-- The payloads in the frames of commands are decoded as these commands, and are no longer than a
command may be. -/
theorem payloads_of_frames {table : CommandTable} (made : table.Registered)
    {commands : List Command} {frames : List Bytes}
    (known : ∀ command ∈ commands, (table.layout? command.id).isSome = true)
    (sent : commands.mapM (new table).encode = .ok frames) :
    ∃ payloads : List Bytes, frames = payloads.map Frame.encode ∧
      payloads.map table.decode = commands.map .ok ∧
      ∀ payload ∈ payloads, payload.length ≤ Command.maxLength := by
  induction commands generalizing frames with
  | nil =>
    cases sent
    exact ⟨[], rfl, rfl, nofun⟩
  | cons command commands ih =>
    rw [List.mapM_cons] at sent
    obtain ⟨frame, first, sent⟩ := ok_of_bind sent
    obtain ⟨later, others, sent⟩ := ok_of_bind sent
    cases sent
    obtain ⟨payload, written, rfl⟩ := ok_of_map first
    obtain ⟨known, rest⟩ := List.forall_mem_cons.mp known
    obtain ⟨layout, known⟩ := Option.isSome_iff_exists.mp known
    obtain ⟨payloads, rfl, decoded, short⟩ := ih rest others
    have within := CommandTable.length_le_of_encode known (made.ne_acknowledge known) written
    refine ⟨payload :: payloads, rfl, ?_, List.forall_mem_cons.mpr ⟨within, short⟩⟩
    rw [List.map_cons, List.map_cons, decoded, CommandTable.decode_encode made known written]

/-- **Commands go through a channel in order.** Let the frames of commands be handed, cut anywhere,
to a new channel over the same table, and let payloads be asked for at any times between. Each
command has then been decoded or waits. Once as many payloads have been asked for as wait, exactly
the commands have been decoded, in their order and each once; the receiver has counted a frame for
each of them and no error, and is idle. -/
theorem decoded_in_order {table : CommandTable} (made : table.Registered)
    {commands : List Command} {frames : List Bytes} {calls : List Call}
    (known : ∀ command ∈ commands, (table.layout? command.id).isSome = true)
    (sent : commands.mapM (new table).encode = .ok frames)
    (cut : received calls = frames.flatten) :
    ((new table).perform calls).1.length + ((new table).perform calls).2.waiting.length =
        commands.length ∧
      ∀ n, ((new table).perform calls).2.waiting.length ≤ n →
        ((new table).perform (calls ++ List.replicate n .decode)).1 = commands.map .ok ∧
          ((new table).perform (calls ++ List.replicate n .decode)).2.receiver =
            { counts := { frames := commands.length } } := by
  obtain ⟨payloads, rfl, decoded, short⟩ := payloads_of_frames made known sent
  have count : payloads.length = commands.length := by
    simpa using congrArg List.length decoded
  have bytes : received calls = payloads.flatMap Frame.encode := by rw [cut, List.flatMap_def]
  have idle : (new table).receiver.Idle := ⟨rfl, rfl, rfl⟩
  have room : ∀ payload ∈ payloads,
      payload.length + Frame.trailerLength ≤ (new table).receiver.capacity := by
    intro payload mem
    have fits : Command.maxLength + Frame.trailerLength ≤ 512 := by decide
    exact Nat.le_trans (Nat.add_le_add_right (short payload mem) _) fits
  have heard := idle.feedAll_encodes room
  constructor
  · obtain ⟨-, all⟩ := perform_eq (new table) calls
    rw [bytes, heard] at all
    have lengths := congrArg List.length all
    rwa [List.length_append, List.length_map, List.length_map, List.nil_append, count] at lengths
  · intro n enough
    obtain ⟨receiver, all⟩ := perform_eq (new table) (calls ++ List.replicate n .decode)
    have empty : ((new table).perform (calls ++ List.replicate n .decode)).2.waiting = [] := by
      rw [perform_append]
      exact (waiting_perform_decode _ n).trans (List.drop_of_length_le enough)
    rw [received_append, received_replicate_decode, List.append_nil, bytes, heard] at receiver all
    rw [empty, List.map_nil, List.append_nil] at all
    refine ⟨all.trans decoded, receiver.trans ?_⟩
    rw [Receiver.handedOut, count, Nat.zero_add]

/-- The first takes stuffing. -/
def twoCommands : List Command :=
  [{ id := Command.version, seq := 0xC0, values := [.u32 0xDB] },
    { id := Command.deviceStatus, seq := 2, values := [.u8 0x22, .u8 0] }]

/-- Their frames, cut within an escape sequence and within the second one. Payloads are asked for
before there are any. -/
def twoCuts : List Call :=
  [.feed [0xC0, 0x0D, 0xDB], .decode,
    .feed [0xDC, 0, 9, 0, 0xDB, 0xDD, 0, 0, 0, 0x4F, 0xFE, 0xC0, 0xC0, 7, 2], .decode,
    .feed [0, 7, 0, 0x22, 0, 0xCE, 0xFF, 0xC0]]

theorem decoded_in_order_of_twoCuts :
    let frames : List Bytes :=
      [[0xC0, 0x0D, 0xDB, 0xDC, 0, 9, 0, 0xDB, 0xDD, 0, 0, 0, 0x4F, 0xFE, 0xC0],
        [0xC0, 7, 2, 0, 7, 0, 0x22, 0, 0xCE, 0xFF, 0xC0]]
    (∀ command ∈ twoCommands, (CommandTable.builtin.layout? command.id).isSome = true) ∧
      twoCommands.mapM (new .builtin).encode = .ok frames ∧
      received twoCuts = frames.flatten ∧
      ((new .builtin).perform twoCuts).2.waiting.length ≤ 1 ∧
      ((new .builtin).perform (twoCuts ++ [.decode])).1 = twoCommands.map .ok ∧
      ((new .builtin).perform (twoCuts ++ [.decode])).2.receiver =
        { counts := { frames := 2 } } := by
  have known : ∀ command ∈ twoCommands,
      (CommandTable.builtin.layout? command.id).isSome = true := by decide
  have sent : twoCommands.mapM (new .builtin).encode = .ok
      [[0xC0, 0x0D, 0xDB, 0xDC, 0, 9, 0, 0xDB, 0xDD, 0, 0, 0, 0x4F, 0xFE, 0xC0],
        [0xC0, 7, 2, 0, 7, 0, 0x22, 0, 0xCE, 0xFF, 0xC0]] := by rfl
  have cut : received twoCuts =
      [[0xC0, 0x0D, 0xDB, 0xDC, 0, 9, 0, 0xDB, 0xDD, 0, 0, 0, 0x4F, 0xFE, 0xC0],
        [0xC0, 7, 2, 0, 7, 0, 0x22, 0, 0xCE, 0xFF, 0xC0]].flatten := by rfl
  have waiting : ((new .builtin).perform twoCuts).2.waiting.length ≤ 1 := by decide
  obtain ⟨-, all⟩ := decoded_in_order .builtin known sent cut
  exact ⟨known, sent, cut, waiting, all 1 waiting⟩

end SerialLink.Channel
