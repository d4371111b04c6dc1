import SerialLink.Event.Subscribers
import SerialLink.Scheduler.Service
import SerialLink.Transport.Port

/-!
A link: a scheduler with its subscribers. Users call it, and a runtime hears the transport's reports
and services the scheduler when it is time.

Every call and every step of the runtime is one section of work on the scheduler, after which the
completions collected in it are fired, one at a time.
-/
namespace SerialLink

/-- A link. -/
structure Link (τ : Type) where
  scheduler : Scheduler τ
  subscribers : Subscribers := {}
  /-- Callbacks called and not looked at yet, oldest first. -/
  answers : List Answer := []
  /-- The runtime has not been shut down. -/
  running : Bool := true

namespace Link

variable {τ : Type}

/-- The same link when something has happened to its transport. -/
def mapTransport (link : Link τ) (change : τ → τ) : Link τ :=
  { link with scheduler := link.scheduler.mapTransport change }

/-- A section of work on the scheduler: gives its result and the completions to be fired. -/
def work {α : Type} (link : Link τ) (f : Scheduler τ → α × Scheduler τ) :
    α × List Completion × Link τ :=
  let (result, s) := f link.scheduler
  let (completions, scheduler) := s.takeCompletions
  (result, completions, { link with scheduler })

/-- Fires one completion. -/
def fire (link : Link τ) (completion : Completion) : Link τ :=
  let (answer, subscribers) := completion.fire link.subscribers
  { link with subscribers, answers := link.answers ++ answer.toList }

/-- A section of work with the firing of what it completed. -/
def perform {α : Type} (link : Link τ) (f : Scheduler τ → α × Scheduler τ) : α × Link τ :=
  let (result, completions, link) := link.work f
  (result, completions.foldl fire link)

/-- The same for work without result. -/
def run (link : Link τ) (f : Scheduler τ → Scheduler τ) : Link τ :=
  (link.perform fun s => ((), f s)).2

/-! ### Calls -/

/-- Queues a command. -/
def submit (link : Link τ) (command : Command) (callback : Option Callback) :
    Except LinkFault ItemHandle × Link τ :=
  let (result, link) := link.perform fun s => s.enqueue command callback
  (result.mapError .schedule, link)

/-- Queues a bulk request. -/
def submitRequest (link : Link τ) (id : RequestId) : Except LinkFault Unit × Link τ :=
  let (result, link) := link.perform fun s => s.submitRequest id
  (result.mapError .schedule, link)

/-- Says where the commands of bulk requests come from. -/
def setResolver (link : Link τ) (resolve : RequestId → Option Command) : Link τ :=
  { link with scheduler := link.scheduler.setResolver resolve }

/-- Adds a subscriber, behind the others. -/
def subscribe (link : Link τ) (filter : EventFilter) : Link τ :=
  { link with subscribers := link.subscribers.subscribe filter }

/-- What has come of a command whose answer was waited for. -/
def outcome : Option Answer → Except LinkFault Command
  | some ⟨_, .success, some response⟩ => .ok response
  | some ⟨_, status, _⟩ => .error (.failed status)
  | none => .error (.timeout .confirm)

/-- The answer to a callback, if it has been called. -/
def answerTo? (link : Link τ) (callback : Callback) : Option Answer :=
  link.answers.find? fun answer => answer.callback = callback

/-- Queues a command and waits for its answer, while the link does something. -/
def request (link : Link τ) (command : Command) (callback : Callback)
    (meanwhile : Link τ → Link τ) : Except LinkFault Command × Link τ :=
  match link.submit command (some callback) with
  | (.error fault, link) => (.error fault, link)
  | (.ok _, link) =>
    let link := meanwhile link
    (outcome (link.answerTo? callback), link)

/-- Waits until commands flow, while the link does something; it is enough that they have begun to,
even if the session has ended since. -/
def waitConnected (link : Link τ) (meanwhile : Link τ → Link τ) :
    Except LinkFault Unit × Link τ :=
  if link.scheduler.connection = .operational then (.ok (), link)
  else
    let place := link.subscribers.subscriptions.length
    let link := meanwhile (link.subscribe .connection)
    let result :=
      if .connected ∈ link.subscribers.inbox place then .ok ()
      else .error (.timeout .connection)
    (result, { link with subscribers := link.subscribers.drop place })

variable [Transport τ]

/-- Starts a session. -/
def openSession (link : Link τ) : Except LinkFault Unit × Link τ :=
  let (result, link) := link.perform Scheduler.openSession
  (result.mapError .transport, link)

/-- Ends the session. -/
def closeSession (link : Link τ) : Link τ := link.run Scheduler.closeSession

/-! ### The runtime -/

/-- Hears a report of the transport. -/
def handleEvent (link : Link τ) (event : SessionEvent) (now : Nat) : Link τ :=
  link.run fun s => s.handleEvent event now

/-- Services the scheduler, and gives the time of the next service. -/
def tick (link : Link τ) (now : Nat) : Option Nat × Link τ := link.perform fun s => s.tick now

/-- Ends the session and stops the runtime, once. -/
def shutdown (link : Link τ) : Link τ :=
  if link.running then { link.closeSession with running := false } else link

/-- The outstanding work and the connection are the same in both. -/
def sameWork (a b : Link τ) : Bool :=
  a.scheduler.queue = b.scheduler.queue && a.scheduler.pending = b.scheduler.pending &&
    a.scheduler.connection = b.scheduler.connection && a.scheduler.session = b.scheduler.session

/-- Lets the runtime work, at a time that stands still, until nothing is left to do, for so many
rounds at most. In a round it hears one report, if there is one, and services the scheduler. -/
def settle (now : Nat) : (rounds : Nat) → Link τ → Link τ
  | 0, link => link
  | rounds + 1, link =>
    if !link.running then link
    else
      match Transport.nextEvent? link.scheduler.transport with
      | some (event, transport) =>
        let link := { link with scheduler := { link.scheduler with transport } }
        settle now rounds ((link.handleEvent event now).tick now).2
      | none =>
        let after := (link.tick now).2
        if link.sameWork after then after else settle now rounds after

end Link

/-- A link over a port with the given settings, not opened yet. -/
def LinkSettings.makeLink (settings : LinkSettings) : Except LinkFault (Link PortTransport) :=
  match settings.check with
  | .error fault => .error (.settings fault)
  | .ok () =>
    let labels : LinkLabels := ⟨settings.device, settings.name⟩
    let transport : PortTransport := { settings := settings.transport, labels }
    .ok { scheduler := { transport, settings := settings.scheduler, labels } }

end SerialLink
