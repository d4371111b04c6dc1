import SerialLink.Proofs.Transport.Moves

/-!
The bytes of a session. What the owner sends goes through a ring, into which only whole frames are
put, and through the bytes that the worker holds, to which it adds until the port takes them all.
What the worker reads goes through a ring that turns away what it has no room for. Neither way are
bytes lost, doubled or put in another order, wherever the calls of the owner fall.
-/
namespace SerialLink

namespace PortTransport

variable {idle t t' : PortTransport} {act : Act} {outcome : Outcome} {trace later : Trace}

namespace Trace

@[simp] theorem accepted_append :
    Trace.accepted (trace ++ later) = trace.accepted ++ later.accepted :=
  List.filterMap_append

@[simp] theorem received_append :
    Trace.received (trace ++ later) = trace.received ++ later.received :=
  List.flatMap_append

@[simp] theorem arrivals_append :
    Trace.arrivals (trace ++ later) = trace.arrivals ++ later.arrivals :=
  List.filterMap_append

end Trace

/-! ### To the port -/

/-- What the port has taken when the worker is in this phase: nothing at first, and from the first
round on the probe before everything else. -/
def ProbeFirst : WorkerPhase → List Bytes → Prop
  | .opening, written | .probing, written => written = []
  | .closing _, written | .leaving _, written | .ended, written =>
    written = [] ∨ ∃ payloads, written = probe :: payloads
  | _, written => ∃ payloads, written = probe :: payloads

theorem ProbeFirst.nil_or_cons {phase : WorkerPhase} {written : List Bytes}
    (first : ProbeFirst phase written) :
    written = [] ∨ ∃ payloads, written = probe :: payloads := by
  cases phase with
  | opening | probing => exact .inl first
  | closing | leaving | ended => exact first
  | _ => exact .inr first

theorem Move.probeFirst (move : Move t act outcome t') (first : ProbeFirst t.phase t.written) :
    ProbeFirst t'.phase t'.written := by
  cases move with
  | rested | wished | accepted | refused | received | heardNothing | heard => exact first
  | gaveUp => exact first.nil_or_cons
  | opened _ phase | heldBack _ _ phase | readNothing _ _ phase | reported _ _ _ phase
  | waited _ phase | wentRound _ _ phase | announced _ phase | closed _ _ phase | left _ _ phase =>
    rw [phase] at first
    exact first
  | probed _ phase =>
    have nothing : t.written = [] := by rwa [phase] at first
    exact ⟨[], by simp [nothing]⟩
  | took _ next phase onward =>
    rw [phase] at first
    rcases onward with rfl | rfl <;> exact first
  | wrote _ _ phase =>
    rw [phase] at first
    obtain ⟨payloads, eq⟩ := first
    exact ⟨payloads ++ [t.outgoing], by simp [eq]⟩
  | arrived _ _ phase =>
    rw [phase] at first
    dsimp only
    split <;> exact first
  | watched _ _ phase =>
    rw [phase] at first
    dsimp only
    split <;> exact first

theorem Session.probeFirst (session : Session idle trace t) : ProbeFirst t.phase t.written := by
  apply session.along
  · intro free
    simp [start, free, ProbeFirst]
  · intro _ _ _ _ _ _ first move
    exact move.probeFirst first

/-- What has been accepted is what has been written behind the probe, what the worker holds and what
the ring holds, and no more until the session ends: then what the ring holds is dropped. -/
def Outward (trace : Trace) (t : PortTransport) : Prop :=
  ∃ lost : Bytes,
    t.written.tail.flatten ++ t.outgoing ++ t.outbound.bytes ++ lost = trace.accepted.flatten ∧
      (t.state ≠ .closed → lost = [])

/-- It stays so in a step that moves no bytes of the owner. -/
theorem Outward.keep (outward : Outward trace t) (written : t'.written = t.written)
    (outgoing : t'.outgoing = t.outgoing) (outbound : t'.outbound = t.outbound)
    (state : t'.state ≠ .closed → t.state ≠ .closed)
    (apart : Trace.accepted [(act, outcome)] = []) : Outward (trace ++ [(act, outcome)]) t' := by
  obtain ⟨lost, eq, none_lost⟩ := outward
  refine ⟨lost, ?_, fun still => none_lost (state still)⟩
  rw [Trace.accepted_append, apart, List.append_nil, written, outgoing, outbound, eq]

theorem Move.outward (move : Move t act outcome t') (agree : Agree t.phase t.state)
    (first : ProbeFirst t.phase t.written) (outward : Outward trace t) :
    Outward (trace ++ [(act, outcome)]) t' := by
  cases move with
  | rested | gaveUp | heldBack | readNothing | arrived | watched | reported | wentRound | announced
  | left | wished | refused | received | heardNothing | heard =>
    exact outward.keep rfl rfl rfl id rfl
  | opened _ phase | waited _ phase =>
    refine outward.keep rfl rfl rfl (fun _ => ?_) rfl
    rw [phase] at agree
    simp only [Agree] at agree
    simp [agree]
  | probed _ phase =>
    -- The probe is not counted.
    obtain ⟨lost, eq, none_lost⟩ := outward
    rw [phase] at agree first
    have nothing : t.written = [] := first
    have probing : t.state = .probing := agree
    refine ⟨lost, ?_, fun _ => none_lost (by simp [probing])⟩
    simpa [nothing, Trace.accepted] using eq
  | took =>
    obtain ⟨lost, eq, none_lost⟩ := outward
    refine ⟨lost, ?_, none_lost⟩
    simpa [ByteRing.clear, Trace.accepted] using eq
  | wrote _ _ phase =>
    obtain ⟨lost, eq, none_lost⟩ := outward
    rw [phase] at first
    obtain ⟨payloads, written⟩ := first
    refine ⟨lost, ?_, none_lost⟩
    simpa [written, Trace.accepted] using eq
  | closed _ _ phase =>
    obtain ⟨lost, eq, _⟩ := outward
    refine ⟨t.outbound.bytes ++ lost, ?_, fun still => absurd rfl still⟩
    simpa [ByteRing.clear, Trace.accepted] using eq
  | accepted frame operational =>
    obtain ⟨lost, eq, none_lost⟩ := outward
    have nothing : lost = [] := none_lost (by simp [operational])
    subst nothing
    rw [List.append_nil] at eq
    have taken : Trace.accepted [(.send frame, .sent (.ok ()))] = [frame] := rfl
    exact ⟨[], by simp [taken, ← eq], fun _ => rfl⟩

theorem Session.outward (session : Session idle trace t) : Outward trace t := by
  apply session.along
  · intro free
    exact ⟨[], by simp [start, free, ByteRing.clear, Trace.accepted], fun _ => rfl⟩
  · intro _ _ _ _ _ before outward move
    exact move.outward before.agree before.probeFirst outward

/-! ### To the owner -/

/-- What the worker has read for the owner has been received or waits in the ring, as far as there
was room for it; the rest is counted. -/
structure Inward (idle : PortTransport) (trace : Trace) (t : PortTransport) : Prop where
  bytes : trace.received ++ t.inbound.bytes = trace.arrivals.flatMap Arrival.kept
  dropped :
    t.inbound.dropped = idle.inbound.dropped + (trace.arrivals.flatMap Arrival.cutOff).length

theorem Inward.keep (inward : Inward idle trace t) (inbound : t'.inbound = t.inbound)
    (received : Trace.received [(act, outcome)] = [])
    (arrivals : Trace.arrivals [(act, outcome)] = []) :
    Inward idle (trace ++ [(act, outcome)]) t' := by
  constructor
  · simpa [received, arrivals, inbound] using inward.bytes
  · simpa [arrivals, inbound] using inward.dropped

theorem Move.inward (move : Move t act outcome t') (inward : Inward idle trace t) :
    Inward idle (trace ++ [(act, outcome)]) t' := by
  cases move with
  | rested | opened | probed | gaveUp | took | wrote | heldBack | readNothing | watched | reported
  | waited | wentRound | announced | closed | left | wished | accepted | refused | heardNothing
  | heard =>
    exact inward.keep rfl rfl rfl
  | arrived answers chunk =>
    let entry : Act × Outcome := (.work answers, .worked (some ⟨chunk, t.inbound.free⟩))
    have received : Trace.received [entry] = [] := rfl
    have arrivals : Trace.arrivals [entry] = [⟨chunk, t.inbound.free⟩] := rfl
    constructor
    · simp [received, arrivals, entry, ByteRing.pushLossy, Arrival.kept, ← inward.bytes]
    · simp [arrivals, entry, ByteRing.pushLossy, Arrival.cutOff, inward.dropped, Nat.add_assoc]
  | received =>
    have received : Trace.received [(.receive, .received t.inbound.bytes)] = t.inbound.bytes :=
      List.append_nil _
    have arrivals : Trace.arrivals [(.receive, .received t.inbound.bytes)] = [] := rfl
    constructor
    · simpa [received, arrivals, ByteRing.clear] using inward.bytes
    · simpa [arrivals, ByteRing.clear] using inward.dropped

theorem Session.inward (session : Session idle trace t) : Inward idle trace t := by
  apply session.along
  · intro free
    constructor <;> simp [start, free, ByteRing.clear, Trace.received, Trace.arrivals]
  · intro _ _ _ _ _ _ inward move
    exact move.inward inward

/-- **Bytes are conserved.** Until the session ends, what the port took behind the probe, what the
worker holds and what is to be sent are together what was accepted; and at all times the port has
been given a beginning of that. What the owner has received and what waits for it are together what
was read for it, less the bytes that there was no room for, which are counted. -/
theorem Session.bytes_conserved (session : Session idle trace t) :
    (∀ first ∈ t.written.head?, first = probe) ∧
      (t.state ≠ .closed →
        t.written.tail.flatten ++ t.outgoing ++ t.outbound.bytes = trace.accepted.flatten) ∧
      t.written.tail.flatten <+: trace.accepted.flatten ∧
      trace.received ++ t.inbound.bytes = trace.arrivals.flatMap Arrival.kept ∧
      t.inbound.dropped =
        idle.inbound.dropped + (trace.arrivals.flatMap Arrival.cutOff).length := by
  obtain ⟨lost, eq, none_lost⟩ := session.outward
  refine ⟨?_, ?_, ?_, session.inward.bytes, session.inward.dropped⟩
  · intro first of_head
    rcases session.probeFirst.nil_or_cons with written | ⟨payloads, written⟩
    · simp [written] at of_head
    · simpa [written, eq_comm] using of_head
  · intro still
    rwa [none_lost still, List.append_nil] at eq
  · refine ⟨t.outgoing ++ t.outbound.bytes ++ lost, ?_⟩
    simpa using eq

/-- The port has refused a frame, which has been written with the next one; of the last bytes read,
the ring has turned two away. -/
def rewritten : Trace × PortTransport :=
  PortTransport.performAll (start { inbound := { capacity := 4 } }).2
    [.work {}, .work {}, .work {}, .work {}, .work { now := 1000 }, .work {},
      .send [1, 2], .work {}, .work { written := false }, .send [3],
      .work { read := .ok [9, 8, 7] }, .work {}, .work {}, .work {}, .work {}, .receive,
      .work { read := .ok [6, 5, 4, 3, 2, 1] }, .work {}, .work {}, .send [4], .work {}, .send [5]]

theorem Session.bytes_conserved_of_rewritten :
    Session { inbound := { capacity := 4 } } rewritten.1 rewritten.2 ∧
      rewritten.2.written = [probe, [1, 2, 3]] ∧ rewritten.2.outgoing = [4] ∧
      rewritten.2.outbound.bytes = [5] ∧ rewritten.2.state ≠ .closed ∧
      rewritten.1.accepted.flatten = [1, 2, 3, 4, 5] ∧
      rewritten.1.received = [9, 8, 7] ∧ rewritten.2.inbound.bytes = [6, 5, 4, 3] ∧
      rewritten.1.arrivals.flatMap Arrival.kept = [9, 8, 7, 6, 5, 4, 3] ∧
      rewritten.2.inbound.dropped = (rewritten.1.arrivals.flatMap Arrival.cutOff).length := by
  have session : Session { inbound := { capacity := 4 } } rewritten.1 rewritten.2 :=
    .of_start rfl _
  have written : rewritten.2.written = [probe, [1, 2, 3]] := by decide +kernel
  have outgoing : rewritten.2.outgoing = [4] := by decide +kernel
  have outbound : rewritten.2.outbound.bytes = [5] := by decide +kernel
  have running : rewritten.2.state ≠ .closed := by decide +kernel
  have received : rewritten.1.received = [9, 8, 7] := by decide +kernel
  have waiting : rewritten.2.inbound.bytes = [6, 5, 4, 3] := by decide +kernel
  obtain ⟨_, outward, _, inward, dropped⟩ := bytes_conserved session
  have accepted := outward running
  rw [written, outgoing, outbound] at accepted
  rw [received, waiting] at inward
  exact ⟨session, written, outgoing, outbound, running, accepted.symm, received, waiting,
    inward.symm, by simpa using dropped⟩

end PortTransport

end SerialLink
