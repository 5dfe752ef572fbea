import RemoteBSP.Firmware.Node

/-!
# Runs of the firmware

The remote core in its surroundings: frames are received, the main loop polls, the timer of the
motion ticks, and the world changes by itself, in any order. `reply` is the response that
`process_request` sends, or tries to send.

`change_execute` says once what the execution of a request can do to a core. What holds in every run
is derived from it.
-/

namespace RemoteBSP.Firmware

/-- What the firmware around it does to a core. -/
inductive CoreOp (W : Type)
  /-- A CAN frame has come in and is given to `rbsp_core_accept_can`. -/
  | acceptCan (frame : CanFrame)
  /-- The main loop calls `rbsp_core_poll`. -/
  | poll
  /-- `rbsp_core_motion_tick`, where the build has it. -/
  | motionTick
  /-- The world changes by itself: time passes and pins move. -/
  | elapse (world : W)

variable {config : CoreConfig} {W : Type}

namespace Core

/-- The core that an operation leaves behind. -/
def step (board : Board W) (core : Core config W) : CoreOp W → Core config W
  | .acceptCan frame => core.acceptCan board frame
  | .poll => core.poll board
  | .motionTick =>
    match config.motion with
    | none => core
    | some motion => (core.motionTick board motion).2
  | .elapse world => { core with world := world }

end Core

/-- The core as a machine that reports what `report` sees of an operation. -/
def firmware {ο : Type} (config : CoreConfig) (board : Board W)
    (report : Core config W → CoreOp W → ο) : Machine (Core config W) (CoreOp W) ο where
  step core op := (core.step board op, report core op)

namespace Core

/-! ## Requests -/

section

variable (board : Board W) (core : Core config W)

/-- The response that `process_request` sends, or tries to send. -/
def reply (request : Request) : Option (List UInt8) :=
  match core.findCache request with
  | some cached => if sameCachedRequest cached request then some cached.response else none
  | none => (core.execute board request).map (·.response)

end

/-! ## What a request can do -/

/-- What the execution of a request can do to a core. -/
inductive Change (board : Board W) (core : Core config W) : Core config W → Prop
  /-- The outside is asked or told something, or nothing happens at all. -/
  | outside (world : W) : Change board core { core with world := world }
  /-- The node gets its node ID. -/
  | assigned (nodeId : UInt32) : Change board core { core with nodeId := nodeId }
  /-- A handler has made a GPIO object in a free place. -/
  | gpioCreated (world : W) (place : Fin config.gpioResourceCount) (object : GpioObject) :
    core.gpioObjects place = none → object.objectId = core.nextObjectId →
    core.nextObjectId ≠ 0 → Change board core { core with
      world := world
      nextObjectId := core.nextObjectId + 1
      gpioObjects := Function.update core.gpioObjects place (some object) }
  /-- A UART object is made, with nothing received yet. -/
  | uartCreated (world : W) (place : Fin config.uartResourceCount) (port : UInt8)
      (streaming : Bool) :
    core.uartObjects place = none → core.nextObjectId ≠ 0 → Change board core { core with
      world := world
      nextObjectId := core.nextObjectId + 1
      uartObjects := Function.update core.uartObjects place
        (some ⟨core.nextObjectId, port, streaming, [], 0, 0⟩) }
  /-- A segment is given to the motion queue. -/
  | enqueued (motion : MotionConfig) (segment : MotionSegment) (nowNs : UInt64) (world : W) :
    config.motion = some motion → Change board core { core with
      world := world
      motion := (core.motion.enqueue motion segment nowNs).2.2 }
  /-- The motion is aborted, and its outputs are stopped. -/
  | aborted (motion : MotionConfig) : config.motion = some motion → Change board core
      ({ core with motion := core.motion.abort .aborted }.motionTick board motion).2
  /-- The fault of the motion is cleared, unless there are segments. -/
  | cleared (motion : MotionConfig) (nowNs : UInt64) (world : W) :
    config.motion = some motion → Change board core { core with
      world := world
      motion := (core.motion.clearFault nowNs).2 }

variable {board : Board W} {core : Core config W} {request : Request}

/-- A core that is left as it is has changed in a permitted way. -/
theorem Change.refl : Change board core core := .outside core.world

/-- If both branches of a handler change the core in a permitted way, so does the handler. -/
theorem change_ite {c : Prop} [Decidable c] {a b : List UInt8 × Core config W}
    (ha : Change board core a.2) (hb : Change board core b.2) :
    Change board core (if c then a else b).2 := by
  split
  · exact ha
  · exact hb

variable (board core request) in
/-- What the GPIO commands can do. -/
theorem change_gpio : Change board core (core.handleGpioCreate board request).2 ∧
    Change board core (core.handleGpioRead board request).2 ∧
    Change board core (core.handleGpioWrite board request).2 := by
  refine ⟨?_, ?_, ?_⟩
  · unfold handleGpioCreate
    split
    · refine change_ite .refl ?_
      unfold createGpio
      refine change_ite .refl ?_
      split
      · exact .refl
      · next place hplace =>
        have hfree : core.gpioObjects place = none := by simpa using List.find?_some hplace
        split
        · exact .refl
        · next hnext =>
          exact change_ite (.outside _) (.gpioCreated _ place _ hfree rfl hnext)
    · exact .refl
  · unfold handleGpioRead
    refine change_ite .refl ?_
    split
    · exact change_ite (.outside _) (.outside _)
    · exact .refl
  · unfold handleGpioWrite
    refine change_ite .refl ?_
    split
    · exact change_ite .refl (.outside _)
    · exact .refl

variable (board core request) in
/-- What the UART commands can do. -/
theorem change_uart : Change board core (core.handleUartCreate board request).2 ∧
    Change board core (core.handleUartRead board request).2 ∧
    Change board core (core.handleUartWrite board request).2 := by
  refine ⟨?_, ?_, ?_⟩
  · unfold handleUartCreate
    split
    · refine change_ite .refl ?_
      unfold createUart
      refine change_ite .refl (change_ite .refl ?_)
      split
      · exact .refl
      · next place hplace =>
        have hfree : core.uartObjects place = none := by simpa using List.find?_some hplace
        split
        · exact .refl
        · next hnext =>
          exact change_ite (.outside _) (.uartCreated _ place _ _ hfree hnext)
    · exact .refl
  · unfold handleUartRead
    refine change_ite .refl ?_
    split
    · exact change_ite .refl (change_ite (.outside _) (.outside _))
    · exact .refl
  · unfold handleUartWrite
    refine change_ite .refl ?_
    split
    · exact .outside _
    · exact .refl

variable (board core request) in
/-- What the motion commands can do. -/
theorem change_motion {motion : MotionConfig} (hmotion : config.motion = some motion) :
    Change board core (core.handleMotionEnqueue board request motion).2 ∧
      Change board core (core.handleMotionStatus board request motion).2 ∧
      Change board core (core.handleMotionAbort board request motion).2 ∧
      Change board core (core.handleMotionClearFault board request).2 := by
  refine ⟨?_, ?_, ?_, ?_⟩
  · unfold handleMotionEnqueue
    split
    · exact .refl
    · refine change_ite .refl ?_
      split
      · exact .refl
      · dsimp only
        split <;> exact .enqueued motion _ _ _ hmotion
  · unfold handleMotionStatus
    split
    · exact .refl
    · exact change_ite .refl (.outside _)
  · unfold handleMotionAbort
    exact change_ite .refl (.aborted motion hmotion)
  · unfold handleMotionClearFault
    exact change_ite .refl (.cleared motion _ _ hmotion)

/-- What the execution of a request can do. -/
theorem change_execute {executed : Executed config W}
    (h : core.execute board request = some executed) : Change board core executed.core := by
  obtain ⟨hgpioCreate, hgpioRead, hgpioWrite⟩ := change_gpio board core request
  -- The commands that a build may leave out, in the order of the source.
  have hoptional : Change board core (core.executeOptional board request).2 := by
    obtain ⟨huartCreate, huartRead, huartWrite⟩ := change_uart board core request
    unfold executeOptional
    refine change_ite huartCreate (change_ite huartRead (change_ite huartWrite ?_))
    split
    · exact .refl
    · next motion hmotion =>
      obtain ⟨henqueue, hstatus, habort, hclear⟩ := change_motion board core request hmotion
      exact change_ite henqueue (change_ite hstatus (change_ite habort
        (change_ite hclear .refl)))
  unfold execute at h
  split_ifs at h
  -- The answer to a discovery changes nothing, and the assignment the node ID.
  · obtain ⟨response, -, rfl⟩ := Option.map_eq_some_iff.1 h
    exact .refl
  · obtain ⟨result, hresult, rfl⟩ := Option.map_eq_some_iff.1 h
    unfold handleNodeAssign at hresult
    dsimp only at hresult
    split_ifs at hresult
    obtain rfl := Option.some.inj hresult
    exact .assigned _
  -- Each other command goes to its handler.
  · obtain rfl := Option.some.inj h
    unfold executeStatus
    dsimp only
    split_ifs
    · exact change_ite .refl .refl
    · exact change_ite .refl .refl
    · exact change_ite .refl .refl
    · unfold handleBootloaderEnter
      split_ifs <;> exact .refl
    · exact hgpioCreate
    · exact hgpioRead
    · exact hgpioWrite
    · exact hoptional

/-! ## What a request does -/

/-- The bootloader that is pending behind a response: the one that is asked for, if the response has
been sent. -/
def Pends (executed : Executed config W) (sent : Bool)
    (pending : Option (UInt32 × BootloaderMode)) : Prop :=
  match executed.bootloader with
  | none => pending = executed.core.bootloaderRequest
  | some mode =>
    if sent then ∃ since, pending = some (since, mode)
    else pending = executed.core.bootloaderRequest

/-- What `process_request` does behind the switch: the response is put into the cache and sent, and
the bootloader that is asked for becomes pending if it could be sent. -/
theorem respond_spec (board : Board W) (request : Request) (executed : Executed config W) :
    (respond board request executed).1 = (sendFrames board.hal executed.core.world
        (packetFrames board.canMode executed.response executed.core.nextTransferId
          executed.core.responseCanId)).1 ∧
      ∃ world pending, (respond board request executed).2 = { executed.core with
          cache := (executed.core.insertCache request executed.response).cache
          nextTransferId := transferIdAfter executed.core.nextTransferId
          bootloaderRequest := pending
          world := world } ∧
        Pends executed (respond board request executed).1 pending := by
  unfold Pends
  -- The cache takes the response only if it is short enough.
  obtain ⟨cache, hcache⟩ : ∃ cache, executed.core.insertCache request executed.response =
      { executed.core with cache := cache } := by
    unfold insertCache
    split
    · exact ⟨executed.core.cache, rfl⟩
    · exact ⟨_, rfl⟩
  cases hsend : sendFrames board.hal executed.core.world (packetFrames board.canMode
      executed.response executed.core.nextTransferId executed.core.responseCanId) with
  | mk sent world =>
  -- The packet is sent from the core with this cache.
  have hpacket : sendPacket board { executed.core with cache := cache } executed.response
      (responseCanId { executed.core with cache := cache }) = (sent, { executed.core with
        cache := cache
        nextTransferId := transferIdAfter executed.core.nextTransferId
        world := world }) := by
    have hsame : sendFrames board.hal { executed.core with cache := cache }.world (packetFrames
        board.canMode executed.response { executed.core with cache := cache }.nextTransferId
        { executed.core with cache := cache }.responseCanId) = (sent, world) := hsend
    unfold sendPacket
    rw [hsame]
  -- Without a bootloader, nothing becomes pending.
  cases hbootloader : executed.bootloader with
  | none =>
    have hrespond : respond board request executed = (sent, { executed.core with
        cache := cache
        nextTransferId := transferIdAfter executed.core.nextTransferId
        world := world }) := by
      unfold respond
      rw [hcache, hbootloader]
      exact hpacket
    rw [hrespond, hcache]
    exact ⟨rfl, world, _, rfl, rfl⟩
  | some mode =>
    -- With one, it becomes pending if the response has been sent.
    have hrespond : respond board request executed = if sent then (sent, { executed.core with
        cache := cache
        nextTransferId := transferIdAfter executed.core.nextTransferId
        bootloaderRequest := some ((board.hal.milliseconds world).1, mode)
        world := (board.hal.milliseconds world).2 }) else (sent, { executed.core with
        cache := cache
        nextTransferId := transferIdAfter executed.core.nextTransferId
        world := world }) := by
      unfold respond
      rw [hcache, hbootloader]
      simp only [hpacket]
    rw [hrespond, hcache]
    cases sent with
    | true => exact ⟨rfl, _, _, rfl, _, rfl⟩
    | false => exact ⟨rfl, world, _, rfl, rfl⟩

variable (board core request) in
/-- A request is refused, or its response is sent out of the cache, or it is executed. -/
theorem processRequest_cases :
    (core.reply board request = none ∧ core.processRequest board request = (false, core)) ∨
    (∃ cached, core.findCache request = some cached ∧
      sameCachedRequest cached request = true ∧ core.reply board request = some cached.response ∧
      core.processRequest board request =
        core.sendPacket board cached.response core.responseCanId) ∨
    ∃ executed, core.findCache request = none ∧ core.execute board request = some executed ∧
      core.reply board request = some executed.response ∧
      core.processRequest board request = respond board request executed := by
  unfold reply processRequest
  cases hfind : core.findCache request with
  | some cached =>
    dsimp only
    cases hsame : sameCachedRequest cached request with
    | false => exact .inl ⟨rfl, rfl⟩
    | true => exact .inr (.inl ⟨cached, rfl, hsame, rfl, rfl⟩)
  | none =>
    dsimp only
    cases hexecute : core.execute board request with
    | none => exact .inl ⟨rfl, rfl⟩
    | some executed => exact .inr (.inr ⟨executed, rfl, rfl, rfl, rfl⟩)

/-- The response to a request stands in the cache, or the request is executed. -/
theorem reply_cases {response : List UInt8} (h : core.reply board request = some response) :
    (∃ place cached, core.cache.entries place = some cached ∧
      cached.sessionId = request.sessionId ∧ cached.requestId = request.requestId ∧
      sameCachedRequest cached request = true ∧ response = cached.response) ∨
    ∃ executed, core.execute board request = some executed ∧ response = executed.response := by
  unfold reply at h
  cases hfind : core.findCache request with
  | some cached =>
    rw [hfind] at h
    dsimp only at h
    split at h
    · next hsame =>
      obtain ⟨hkey, place, hplace⟩ := RingCache.find?_spec hfind
      obtain ⟨hsession, hrequest⟩ := of_decide_eq_true hkey
      exact .inl ⟨place, cached, hplace, hsession, hrequest, hsame, (Option.some.inj h).symm⟩
    · cases h
  | none =>
    rw [hfind] at h
    obtain ⟨executed, hexecute, rfl⟩ := Option.map_eq_some_iff.1 h
    exact .inr ⟨executed, hexecute, rfl⟩

/-- Nothing is added to the cache but the responses to requests that are executed, if they fit. -/
theorem entries_step {op : CoreOp W} {place : Fin config.cacheEntries} {entry : CacheEntry}
    (h : (core.step board op).cache.entries place = some entry) :
    core.cache.entries place = some entry ∨
      ∃ (ready : Core config W) (request : Request) (executed : Executed config W),
        ready.execute board request = some executed ∧
        executed.response.length ≤ config.cacheResponseSize ∧
        entry = cacheEntry request executed.response := by
  cases op with
  | acceptCan frame =>
    have hspec := core.acceptCan_processing board frame
    change (core.acceptCan board frame).cache.entries place = some entry at h
    -- A frame inserts at most the response to the request that it completes.
    cases hprocessing : core.processing board frame with
    | none =>
      rw [hprocessing] at hspec
      rw [hspec.eq] at h
      exact .inl h
    | some found =>
      obtain ⟨request, ready⟩ := found
      rw [hprocessing] at hspec
      obtain ⟨hidle, slot, haccept⟩ := hspec
      have hcache : ready.cache = core.cache := by rw [hidle.eq]
      rw [haccept] at h
      change (ready.processRequest board request).2.cache.entries place = some entry at h
      rw [cache_processRequest, insertedEntry, hcache] at h
      split at h
      · next inserted hinserted =>
        rcases RingCache.entries_insert h with rfl | hold
        · right
          split at hinserted
          · next executed hfind hexecute =>
            split_ifs at hinserted with hlength
            exact ⟨ready, request, executed, hexecute, not_lt.1 hlength,
              (Option.some.inj hinserted).symm⟩
          · cases hinserted
        · exact .inl hold
      · exact .inl h
  -- Nothing else touches the cache.
  | poll =>
    change (core.poll board).cache.entries place = some entry at h
    rw [cache_poll] at h
    exact .inl h
  | motionTick =>
    left
    unfold step at h
    dsimp only at h
    split at h
    · exact h
    · unfold motionTick at h
      split at h
      · exact h
      · exact h
  | elapse world => exact .inl h

/-- What holds of the response to every request that is executed holds throughout the cache. -/
theorem cached_run {ο : Type} {report : Core config W → CoreOp W → ο} {P : CacheEntry → Prop}
    (hP : ∀ (ready : Core config W) request executed,
      ready.execute board request = some executed →
      executed.response.length ≤ config.cacheResponseSize →
      P (cacheEntry request executed.response))
    (hinit : core.cache = .empty) (ops : List (CoreOp W)) (place : Fin config.cacheEntries) :
    ∀ entry ∈ ((firmware config board report).run core ops).cache.entries place, P entry := by
  refine (firmware config board report).run_induction
    (P := fun c => ∀ entry ∈ c.cache.entries place, P entry) ?_ ?_ ops
  · intro c op hc entry hentry
    rcases entries_step hentry with hold | ⟨ready, request, executed, hexecute, hlength, rfl⟩
    · exact hc entry hold
    · exact hP ready request executed hexecute hlength
  · intro entry hentry
    rw [hinit] at hentry
    exact absurd hentry (Option.not_mem_none entry)

/-! ## What a frame does -/

/-- A frame does what the request in it does, if there is one. What else changes is the cache, the
slots, what is pending and the sending. -/
theorem acceptCan_change (board : Board W) (core : Core config W) (frame : CanFrame) :
    ∃ ready after : Core config W, Idle board core ready ∧ Change board ready after ∧
      core.acceptCan board frame = { after with
        nextTransferId := (core.acceptCan board frame).nextTransferId
        cache := (core.acceptCan board frame).cache
        bootloaderRequest := (core.acceptCan board frame).bootloaderRequest
        reassembly := (core.acceptCan board frame).reassembly
        world := (core.acceptCan board frame).world } := by
  have hspec := core.acceptCan_processing board frame
  cases hprocessing : core.processing board frame with
  | none =>
    rw [hprocessing] at hspec
    exact ⟨core.acceptCan board frame, _, hspec, .refl, rfl⟩
  | some found =>
    obtain ⟨request, ready⟩ := found
    rw [hprocessing] at hspec
    obtain ⟨hidle, slot, haccept⟩ := hspec
    rcases processRequest_cases board ready request with ⟨-, hprocess⟩ |
      ⟨cached, -, -, -, hprocess⟩ | ⟨executed, -, hexecute, -, hprocess⟩
    · refine ⟨ready, ready, hidle, .refl, ?_⟩
      rw [haccept, hprocess]
      rfl
    · refine ⟨ready, ready, hidle, .refl, ?_⟩
      rw [haccept, hprocess]
      rfl
    · obtain ⟨-, world, pending, hrespond, -⟩ := respond_spec board request executed
      refine ⟨ready, executed.core, hidle, change_execute hexecute, ?_⟩
      rw [haccept, hprocess, hrespond]
      rfl

end Core

end RemoteBSP.Firmware
