import RemoteBSP.Lib.Map
import RemoteBSP.Protocol.Packet

/-!
# The request manager

`RequestManager` of `toolbusd/src/request_manager.cpp`: it numbers the requests of the clients,
repeats those that are not answered in time, and matches the responses. The keys of its two maps
are a session and a request ID in one word. A time point of the steady clock is an integer, in
nanoseconds.

`poll` walks over the pending requests. What it does to one of them depends on that request alone
(`repeats`, `givesUp`), so here it filters and maps the pending requests as a whole.
-/

namespace RemoteBSP.Toolbusd

/-- `RequestManagerConfig`, how long the manager waits and how often it repeats. -/
structure RequestManagerConfig where
  /-- How long a response may take, in nanoseconds. -/
  timeout : ℤ := 750000000
  /-- How often a request is repeated. -/
  maximumRetries : ℕ := 2
  /-- How long the ID of a request that is over is remembered, in nanoseconds. -/
  duplicateWindow : ℤ := 2000000000

/-- `RequestManagerError`, the reasons for which the manager throws. -/
inductive RequestManagerError
  | invalidConfiguration
  | notRequest
  | requestIdExhausted
deriving DecidableEq, Repr

/-- `RequestManagerException`, a reason with its text. -/
structure RequestManagerException where
  /-- What keeps the request from being submitted, or the manager from being made. -/
  code : RequestManagerError
  /-- The text of `what`, which says why. -/
  message : String
deriving DecidableEq, Repr

/-- `Submission`, a request that has been given its ID. -/
structure Submission where
  /-- The ID that the request has got. -/
  requestId : UInt32
  /-- The request to be sent, with this ID. -/
  packet : Packet
deriving DecidableEq, Repr

/-- `RequestEventType`, what becomes of a request whose deadline is over. -/
inductive RequestEventType
  | retry
  | timedOut
deriving DecidableEq, Repr

/-- `RequestEvent`, what `poll` reports of a pending request. -/
structure RequestEvent where
  /-- Whether the request is to be sent again or has been given up. -/
  type : RequestEventType
  /-- The session of the request. -/
  sessionId : UInt32
  /-- The ID that it has in the session. -/
  requestId : UInt32
  /-- The request to be sent again, unless it has been given up. -/
  packet : Option Packet
deriving DecidableEq, Repr

/-- `ResponseStatus`, what the manager makes of a response. -/
inductive ResponseStatus
  | matched
  | duplicate
  | unexpected
deriving DecidableEq, Repr

/-- `ResponseResult`, a response and what it is taken for. -/
structure ResponseResult where
  /-- What the response is taken for. -/
  status : ResponseStatus
  /-- The response, if it is the one that a request waits for. -/
  response : Option Packet
deriving DecidableEq, Repr

/-- `RequestManager::Pending`, a request that waits for its response. -/
structure Pending where
  /-- The request as it was sent. -/
  packet : Packet
  /-- When the request is repeated or given up. -/
  deadline : ℤ
  /-- How often it may still be repeated. -/
  retriesRemaining : ℕ
deriving DecidableEq, Repr

/-- `RequestManager`. Its constructor throws unless both times are positive, so these are
fields. -/
structure RequestManager where
  /-- How long the manager waits and how often it repeats. -/
  config : RequestManagerConfig
  /-- The ID that the next request of any session will be given if it is free. -/
  nextRequestId : UInt32
  /-- The requests that wait for their responses, by session and ID. -/
  pending : Map UInt64 Pending
  /-- When the IDs of the requests that are over are forgotten. -/
  completed : Map UInt64 ℤ
  /-- A response may take some time. -/
  timeout_pos : 0 < config.timeout
  /-- The ID of a request that is over is remembered for some time. -/
  duplicateWindow_pos : 0 < config.duplicateWindow

namespace RequestManager

/-- The request manager that the constructor makes. -/
def create (config : RequestManagerConfig) (timeout_pos : 0 < config.timeout)
    (duplicateWindow_pos : 0 < config.duplicateWindow) : RequestManager :=
  ⟨config, 1, ∅, ∅, timeout_pos, duplicateWindow_pos⟩

/-- `RequestManager::key`, the session above and the ID below. -/
def key (sessionId requestId : UInt32) : UInt64 :=
  (sessionId.toUInt64 <<< 32) ||| requestId.toUInt64

/-- `RequestManager::expire_completed`: the IDs whose time is over are forgotten. -/
def expireCompleted (manager : RequestManager) (now : ℤ) : RequestManager :=
  { manager with completed := manager.completed.filterEntries fun _ forget => now < forget }

/-- `RequestManager::remember_completed`: the ID is not given again for some time. -/
def rememberCompleted (manager : RequestManager) (requestKey : UInt64) (now : ℤ) : RequestManager :=
  { manager with
    completed := manager.completed.insert requestKey (now + manager.config.duplicateWindow) }

/-- Whether a request ID is in use. -/
def inUse (manager : RequestManager) (sessionId requestId : UInt32) : Bool :=
  (manager.pending.lookup (key sessionId requestId)).isSome ||
    (manager.completed.lookup (key sessionId requestId)).isSome

/-- The loop of `allocate_request_id`, with the attempts that are left: the ID found, and the ID to
try next. -/
def allocateFrom (manager : RequestManager) (sessionId : UInt32) :
    ℕ → UInt32 → Option UInt32 × UInt32
  | 0, next => (none, next)
  | attempts + 1, next =>
    let candidate := next
    let next := if next + 1 = 0 then 1 else next + 1
    if manager.inUse sessionId candidate then allocateFrom manager sessionId attempts next
    else (some candidate, next)

/-- `RequestManager::allocate_request_id`: the next ID of the session that is neither pending nor
remembered. -/
def allocateRequestId (manager : RequestManager) (sessionId : UInt32) :
    Except RequestManagerException UInt32 × RequestManager :=
  let (found, next) := manager.allocateFrom sessionId 4294967295 manager.nextRequestId
  let manager := { manager with nextRequestId := next }
  match found with
  | some candidate => (.ok candidate, manager)
  | none => (.error ⟨.requestIdExhausted, "请求 ID 已耗尽"⟩, manager)

/-- `RequestManager::submit`: a request is given its ID and becomes pending. -/
def submit (manager : RequestManager) (request : Packet) (now : ℤ) :
    Except RequestManagerException Submission × RequestManager :=
  let manager := manager.expireCompleted now
  if request.header.messageType ≠ .request then
    (.error ⟨.notRequest, "请求管理器只接受请求消息"⟩, manager)
  else
    match manager.allocateRequestId request.header.sessionId with
    | (.error exception, manager) => (.error exception, manager)
    | (.ok requestId, manager) =>
      let request := { request with header := { request.header with requestId := requestId } }
      (.ok ⟨requestId, request⟩,
        { manager with
          pending := manager.pending.insert (key request.header.sessionId requestId)
            ⟨request, now + manager.config.timeout, manager.config.maximumRetries⟩ })

/-- Whether a request creates an object. -/
def createsObject (request : Packet) : Bool :=
  request.header.command = Command.gpioCreate ∨ request.header.command = Command.uartCreate

/-- Whether the object of a response is the one of the request, or the one it has created. -/
def objectMatches (request response : Packet) : Bool :=
  if createsObject request then
    if response.header.flags &&& kErrorResponseFlag ≠ 0 then
      response.header.objectId = request.header.objectId
    else request.header.objectId = 0 ∧ response.header.objectId ≠ 0
  else request.header.objectId = response.header.objectId

/-- `RequestManager::accept_response`: a response that fits a pending request is over with it. -/
def acceptResponse (manager : RequestManager) (response : Packet) (now : ℤ) :
    ResponseResult × RequestManager :=
  let manager := manager.expireCompleted now
  if response.header.messageType ≠ .response then (⟨.unexpected, none⟩, manager)
  else
    let responseKey := key response.header.sessionId response.header.requestId
    match manager.pending.lookup responseKey with
    | none =>
      if (manager.completed.lookup responseKey).isSome then (⟨.duplicate, none⟩, manager)
      else (⟨.unexpected, none⟩, manager)
    | some found =>
      if found.packet.header.command ≠ response.header.command ∨
          ¬ objectMatches found.packet response then (⟨.unexpected, none⟩, manager)
      else
        (⟨.matched, some response⟩,
          rememberCompleted { manager with pending := manager.pending.erase responseKey }
            responseKey now)

/-- The deadline of a request is over, and `poll` repeats it. -/
def repeats (now : ℤ) (pending : Pending) : Bool :=
  ¬ now < pending.deadline ∧ 0 < pending.retriesRemaining

/-- Whether `poll` gives a request up. -/
def givesUp (now : ℤ) (pending : Pending) : Bool :=
  ¬ now < pending.deadline ∧ ¬ 0 < pending.retriesRemaining

/-- The event that `poll` reports of a request. -/
def pollEvent (now : ℤ) (requestKey : UInt64) (pending : Pending) : Option RequestEvent :=
  if repeats now pending then
    some ⟨.retry, pending.packet.header.sessionId, pending.packet.header.requestId,
      some pending.packet⟩
  else if givesUp now pending then
    some ⟨.timedOut, (requestKey >>> 32).toUInt32, pending.packet.header.requestId, none⟩
  else none

/-- A request behind `poll`, unless it is given up. -/
def polled (manager : RequestManager) (now : ℤ) (pending : Pending) : Pending :=
  if repeats now pending then
    { pending with
      retriesRemaining := pending.retriesRemaining - 1
      deadline := now + manager.config.timeout }
  else pending

/-- `RequestManager::poll`: the requests whose deadlines are over are repeated or given up. -/
def poll (manager : RequestManager) (now : ℤ) : List RequestEvent × RequestManager :=
  let manager := manager.expireCompleted now
  let finished := (manager.pending.filterEntries fun _ => givesUp now).keys
  (manager.pending.entries.filterMap fun entry => pollEvent now entry.1 entry.2,
    finished.foldl (fun manager requestKey => manager.rememberCompleted requestKey now)
      { manager with
        pending := (manager.pending.filterEntries fun _ pending => !givesUp now pending).mapValues
          (manager.polled now) })

/-- `RequestManager::cancel`: a request is no longer pending, and its ID is free at once. -/
def cancel (manager : RequestManager) (sessionId requestId : UInt32) : Bool × RequestManager :=
  ((manager.pending.lookup (key sessionId requestId)).isSome,
    { manager with pending := manager.pending.erase (key sessionId requestId) })

/-! ## The pending requests -/

/-- Forgetting old IDs leaves the pending requests alone. -/
@[simp]
theorem pending_expireCompleted (manager : RequestManager) (now : ℤ) :
    (manager.expireCompleted now).pending = manager.pending := rfl

/-- Choosing an ID leaves the pending requests alone. -/
theorem pending_allocateRequestId (manager : RequestManager) (sessionId : UInt32) :
    (manager.allocateRequestId sessionId).2.pending = manager.pending := by
  unfold allocateRequestId
  dsimp only
  split <;> rfl

/-- A submitted request is pending under its session and its ID, and has not been changed
otherwise. A request that is refused leaves the pending requests alone. -/
theorem submit_spec (manager : RequestManager) (request : Packet) (now : ℤ) :
    match (manager.submit request now).1 with
    | .ok submission =>
      submission.packet =
          { request with header := { request.header with requestId := submission.requestId } } ∧
        ∃ pending, pending.packet = submission.packet ∧
          (manager.submit request now).2.pending = manager.pending.insert
            (key submission.packet.header.sessionId submission.packet.header.requestId) pending
    | .error _ => (manager.submit request now).2.pending = manager.pending := by
  unfold submit
  dsimp only
  split_ifs with htype
  · rfl
  · have hpending :=
      pending_allocateRequestId (manager.expireCompleted now) request.header.sessionId
    cases hallocate :
        (manager.expireCompleted now).allocateRequestId request.header.sessionId with
    | mk result allocated =>
      rw [hallocate, pending_expireCompleted] at hpending
      cases result with
      | error exception => exact hpending
      | ok requestId =>
        dsimp only at hpending ⊢
        exact ⟨rfl, _, rfl, by rw [hpending]⟩

/-- A response takes at most its request from the pending ones. -/
theorem pending_acceptResponse (manager : RequestManager) (response : Packet) (now : ℤ) :
    (manager.acceptResponse response now).2.pending = manager.pending ∨
      (manager.acceptResponse response now).2.pending =
        manager.pending.erase (key response.header.sessionId response.header.requestId) := by
  unfold acceptResponse
  dsimp only
  by_cases htype : response.header.messageType ≠ .response
  · rw [if_pos htype]
    exact .inl rfl
  · rw [if_neg htype]
    split
    · split <;> exact .inl rfl
    · split
      · exact .inl rfl
      · exact .inr rfl

/-- A request behind `poll` has not been changed, but for its deadline and its retries. -/
@[simp]
theorem packet_polled (manager : RequestManager) (now : ℤ) (pending : Pending) :
    (manager.polled now pending).packet = pending.packet := by
  unfold polled
  split_ifs <;> rfl

/-- The requests that are pending behind `poll`. -/
theorem pending_poll (manager : RequestManager) (now : ℤ) :
    (manager.poll now).2.pending =
      (manager.pending.filterEntries fun _ pending => !givesUp now pending).mapValues
        ((manager.expireCompleted now).polled now) := by
  have hfold : ∀ (finished : List UInt64) (m : RequestManager),
      (finished.foldl (fun m requestKey => m.rememberCompleted requestKey now) m).pending =
        m.pending := by
    intro finished
    induction finished with
    | nil => exact fun m => rfl
    | cons requestKey finished ih => exact fun m => ih _
  exact hfold _ _

/-- A request that `poll` wants to have sent again is pending. -/
theorem retry_mem_poll {manager : RequestManager} {now : ℤ} {event : RequestEvent}
    (hmem : event ∈ (manager.poll now).1) {packet : Packet} (hpacket : packet ∈ event.packet) :
    ∃ requestKey pending, manager.pending.lookup requestKey = some pending ∧
      packet = pending.packet ∧ event.sessionId = packet.header.sessionId ∧
      event.requestId = packet.header.requestId := by
  obtain ⟨⟨requestKey, pending⟩, hentry, hevent⟩ := List.mem_filterMap.1 hmem
  have hlookup := (Map.mem_entries_iff manager.pending requestKey pending).1 hentry
  refine ⟨requestKey, pending, hlookup, ?_⟩
  unfold pollEvent at hevent
  split_ifs at hevent
  · obtain rfl := Option.some.inj hevent
    obtain rfl := Option.some.inj hpacket
    exact ⟨rfl, rfl, rfl⟩
  · obtain rfl := Option.some.inj hevent
    exact absurd hpacket (Option.not_mem_none _)

end RequestManager

end RemoteBSP.Toolbusd
