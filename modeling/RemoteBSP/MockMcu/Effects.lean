import RemoteBSP.MockMcu.Handlers

/-!
# What a request can do

`Effect` says once, for all commands, what a request can do to the core: each constructor names one
kind of change with the guards that the handlers check before it. `dispatch_effect` is the proof
that nothing else happens, and whatever is preserved by requests is proved from the constructors.
-/

namespace RemoteBSP.MockMcu

namespace RemoteCore

/-- What a request can do to the motion executor. -/
inductive MotionEffect (board : Board) (core : RemoteCore) (request : Packet)
    (motion : MotionExecutor) : MotionExecutor → Prop
  /-- A reset, by a session that may access the axis. -/
  | reset (hcommand : request.header.command = Command.resourceReset)
      (haxis : board.isAxis (getU32 request.payload 0) = true)
      (hallowed : core.resourceAccessAllowed (getU32 request.payload 0)
        request.header.sessionId = true)
      (hexclusive : core.leaseActive (getU32 request.payload 0) = true →
        core.sessionHasExclusiveLease (getU32 request.payload 0) request.header.sessionId = true) :
      MotionEffect board core request motion (resetMotion motion).2
  /-- A segment, from a session that may move its axes. -/
  | enqueue (decoded : MotionSegmentPayload)
      (hcommand : request.header.command = Command.motionEnqueue)
      (haxes : ∀ axis ∈ decoded.axes, core.axisRefused board request.header.sessionId
        axis.resourceId = none) :
      MotionEffect board core request motion
        (motion.enqueue (segmentOf decoded) motion.nowNs).2
  /-- The motion is stopped, and the fault latched. -/
  | abort {edges : List MotionEdge} {motion' : MotionExecutor}
      (hcommand : request.header.command = Command.motionAbort)
      (habort : motion.abort motion.nowNs .aborted = .ok (edges, motion')) :
      MotionEffect board core request motion motion'
  /-- The fault is cleared, and segments are taken again. -/
  | clearFault {motion' : MotionExecutor}
      (hcommand : request.header.command = Command.motionClearFault)
      (hclear : motion.clearFault = .ok motion') :
      MotionEffect board core request motion motion'

/-- A well-formed request to release the lease of a token. -/
structure AsksRelease (request : Packet) (token : ResourceLeaseTokenRequest) : Prop where
  /-- It names the node itself. -/
  objectId : request.header.objectId = 0
  /-- Its payload is a resource, a lease and a duration. -/
  payload : decodeResourceLeaseTokenRequest request.payload = .ok token
  /-- It asks for no other duration. -/
  duration : token.durationMs = 0

/-- What a request can do to the core. -/
inductive Effect (board : Board) (core : RemoteCore) (request : Packet) (now : ℤ) :
    RemoteCore → Prop
  /-- Nothing, since the request is refused or asks for data only. -/
  | unchanged : Effect board core request now core
  /-- The bootloader is asked for, and will be entered by the transport. -/
  | bootloader : Effect board core request now { core with bootloaderRequested := true }
  /-- An entry without leases is dropped. -/
  | eraseEmpty {resourceId : UInt32} (hempty : core.leases.lookup resourceId = some []) :
      Effect board core request now { core with leases := core.leases.erase resourceId }
  /-- A lease is granted to the session of the request. -/
  | grant (lease : ResourceLeaseRequest) (hsession : request.header.sessionId ≠ 0)
      (hmode : lease.mode = .sharedRead ∨ lease.mode = .exclusive)
      (hsupported : board.contractHas lease.resourceId kResourceAccessLeaseSupported = true)
      (hfree : core.leaseBusy ((core.leases.lookup lease.resourceId).getD []) lease
        request.header.sessionId = false) :
      Effect board core request now (core.grantLease
        ((core.leases.lookup lease.resourceId).getD []) lease request.header.sessionId now)
  /-- A lease is renewed, if the session has it. -/
  | renew (token : ResourceLeaseTokenRequest) {entries : List Lease}
      (hentries : core.leases.lookup token.resourceId = some entries) :
      Effect board core request now { core with
        leases := core.leases.insert token.resourceId
          (entries.modifyFirst (Lease.namedBy token.leaseId request.header.sessionId)
            (Lease.renew token.durationMs now)) }
  /-- A lease of the session is released, with the objects that it covers. -/
  | release (token : ResourceLeaseTokenRequest) {entries : List Lease}
      (hcommand : request.header.command = Command.resourceRelease)
      (hasked : AsksRelease request token)
      (hentries : core.leases.lookup token.resourceId = some entries)
      (hnamed : entries.any (Lease.namedBy token.leaseId request.header.sessionId) = true) :
      Effect board core request now
        { core.releaseResourceObjects board token.resourceId request.header.sessionId with
          leases := core.eraseLease token.resourceId entries token.leaseId
            request.header.sessionId }
  /-- An object is created on a pin. -/
  | createGpio {bsp : MockGpioBsp} {pin : UInt16} (direction : GpioDirection) (value : Bool)
      {resourceId ownerSessionId : UInt32} (hbsp : core.gpioBsp = some bsp)
      (howner : core.objectOwner board .gpio pin request.header.sessionId =
        .ok (resourceId, ownerSessionId))
      (hfree : core.gpioObjects.anyValue (fun object => object.pin = pin) = false) :
      Effect board core request now { core with
        gpioBsp := some (bsp.configure pin direction value)
        nextObjectId := core.nextObjectId + 1
        gpioObjects := core.gpioObjects.emplace core.nextObjectId
          ⟨pin, direction, resourceId, ownerSessionId⟩ }
  /-- A pin is read or written through an object. -/
  | useGpio {bsp bsp' : MockGpioBsp} {object : GpioObject} (hbsp : core.gpioBsp = some bsp)
      (hobject : core.gpioObjects.lookup request.header.objectId = some object)
      (hown : foreign object.ownerSessionId request.header.sessionId = false)
      (hothers : ∀ pin ≠ object.pin, bsp'.pinView pin = bsp.pinView pin) :
      Effect board core request now { core with gpioBsp := some bsp' }
  /-- An object is created on a port. -/
  | createUart {bsp bsp' : MockUartBsp} {port : UInt8} {config : UartConfig} (streaming : Bool)
      {resourceId ownerSessionId : UInt32} (hbsp : core.uartBsp = some bsp)
      (howner : core.objectOwner board .uart port.toUInt16 request.header.sessionId =
        .ok (resourceId, ownerSessionId))
      (hfree : core.uartObjects.anyValue (fun object => object.port = port) = false)
      (hconfigure : bsp.configure port config = .ok bsp') :
      Effect board core request now { core with
        uartBsp := some bsp'
        nextObjectId := core.nextObjectId + 1
        uartObjects := core.uartObjects.emplace core.nextObjectId
          ⟨port, resourceId, ownerSessionId, streaming, 0⟩ }
  /-- A port is read or written through an object. -/
  | useUart {bsp bsp' : MockUartBsp} {object : UartObject} (hbsp : core.uartBsp = some bsp)
      (hobject : core.uartObjects.lookup request.header.objectId = some object)
      (hown : foreign object.ownerSessionId request.header.sessionId = false)
      (hothers : ∀ port ≠ object.port, bsp'.ports.lookup port = bsp.ports.lookup port) :
      Effect board core request now { core with uartBsp := some bsp' }
  /-- A port is reset, by a session that may access it. -/
  | resetUart {bsp bsp' : MockUartBsp} {resource : ResourceDescriptor}
      (hbsp : core.uartBsp = some bsp)
      (hresource : board.findResource (getU32 request.payload 0) = some resource)
      (htype : resource.type = .uart) (hport : resource.instance' ≤ 0xFF)
      (hallowed : core.resourceAccessAllowed (getU32 request.payload 0)
        request.header.sessionId = true)
      (hreset : bsp.reset resource.instance'.toUInt8 = .ok bsp') :
      Effect board core request now { core with uartBsp := some bsp' }
  /-- The motion executor is used, in one of the ways above. -/
  | useMotion {motion motion' : MotionExecutor} (hmotion : core.motion = some motion)
      (heffect : MotionEffect board core request motion motion') :
      Effect board core request now { core with motion := some motion' }

variable {board : Board} {core : RemoteCore} {request : Packet} {now : ℤ}

/-! ## The handlers -/

/-- What a request for the bootloader does. -/
theorem handleBootloaderEnter_effect :
    Effect board core request now (core.handleBootloaderEnter board request).2 := by
  unfold handleBootloaderEnter
  split
  · exact .unchanged
  · split
    · exact .unchanged
    · exact .bootloader

/-- A reset stops the motion, resets a port or does nothing. -/
theorem handleResourceReset_effect (hcommand : request.header.command = Command.resourceReset) :
    Effect board core request now (core.handleResourceReset board request).2 := by
  unfold handleResourceReset
  split
  · exact .unchanged
  · dsimp only
    split
    · exact .unchanged
    · next resource hresource =>
      split
      · exact .unchanged
      · next haccess =>
        obtain ⟨hallowed, hexclusive⟩ := not_or.1 haccess
        rw [Bool.not_eq_true, Bool.not_eq_false] at hallowed
        unfold resetResource
        split
        · next motion htype hmotion =>
          have haxis : board.isAxis (getU32 request.payload 0) = true := by
            rw [Board.isAxis, hresource, Option.any_some, htype, decide_eq_true rfl]
          exact .useMotion hmotion (.reset hcommand haxis hallowed fun hactive => by
            by_contra hnot
            exact hexclusive ⟨hactive, hnot⟩)
        · next bsp htype hbsp =>
          split
          · exact .unchanged
          · next hport =>
            split
            · exact .unchanged
            · next hreset =>
              exact .resetUart hbsp hresource htype (UInt16.not_lt.1 hport) hallowed hreset
        · exact .unchanged

/-- What the request for a lease does. -/
theorem handleResourceAcquire_effect :
    Effect board core request now (core.handleResourceAcquire board request now).2 := by
  unfold handleResourceAcquire
  -- A request with a wrong header, payload, contract or owner changes nothing.
  split
  · exact .unchanged
  · next hheader =>
    split
    · exact .unchanged
    · next lease hlease =>
      split
      · exact .unchanged
      · split
        · exact .unchanged
        · split
          · exact .unchanged
          · next hsupported =>
            split
            · exact .unchanged
            · unfold acquireLease
              dsimp only
              split
              · -- The entry that the busy resource has been given for a moment is erased.
                dsimp only
                split
                · next hempty =>
                  cases hlookup : core.leases.lookup lease.resourceId with
                  | none =>
                    rw [Map.erase_of_lookup_eq_none hlookup]
                    exact .unchanged
                  | some entries =>
                    rw [hlookup, Option.getD_some, List.isEmpty_iff] at hempty
                    exact .eraseEmpty (hlookup.trans (congrArg some hempty))
                · exact .unchanged
              -- The resource is free, and the lease is granted.
              · next hfree =>
                exact .grant lease (not_or.1 hheader).2 (decodeResourceLeaseRequest_mode hlease)
                  (not_not.1 hsupported) (Bool.not_eq_true _ ▸ hfree)

/-- What the renewal of a lease does. -/
theorem handleResourceRenew_effect :
    Effect board core request now (core.handleResourceRenew board request now).2 := by
  unfold handleResourceRenew
  split
  · exact .unchanged
  · split
    · exact .unchanged
    · split
      · exact .unchanged
      · split
        · exact .unchanged
        · unfold renewLease
          dsimp only
          split
          · exact .unchanged
          · next entries hentries =>
            split
            · exact .unchanged
            · exact .renew _ hentries

variable (board core request) in
/-- The request to release a lease changes nothing, or releases the lease that it names. -/
theorem handleResourceRelease_cases : (core.handleResourceRelease board request).2 = core ∨
    ∃ token, AsksRelease request token ∧
      ∃ entries, core.leases.lookup token.resourceId = some entries ∧
        entries.any (Lease.namedBy token.leaseId request.header.sessionId) = true ∧
        (core.handleResourceRelease board request).2 =
          { core.releaseResourceObjects board token.resourceId request.header.sessionId with
            leases := core.eraseLease token.resourceId entries token.leaseId
              request.header.sessionId } := by
  unfold handleResourceRelease
  split
  · exact .inl rfl
  next hheader =>
  split
  · exact .inl rfl
  next token htoken =>
  split
  · exact .inl rfl
  next hduration =>
  split
  · exact .inl rfl
  unfold releaseLease
  dsimp only
  split
  · exact .inl rfl
  next entries hentries =>
  split
  · exact .inl rfl
  next hnamed =>
  have hasked : AsksRelease request token :=
    ⟨not_not.1 (not_or.1 hheader).1, htoken, not_not.1 (not_or.1 hduration).2⟩
  exact .inr ⟨token, hasked, entries, hentries, not_not.1 hnamed, rfl⟩

/-- What the release of a lease does. -/
theorem handleResourceRelease_effect
    (hcommand : request.header.command = Command.resourceRelease) :
    Effect board core request now (core.handleResourceRelease board request).2 := by
  rcases handleResourceRelease_cases board core request with
    hsame | ⟨token, hasked, entries, hentries, hnamed, hreleased⟩
  · rw [hsame]
    exact .unchanged
  · rw [hreleased]
    exact .release token hcommand hasked hentries hnamed

/-- What the creation of an object on a pin does. -/
theorem handleGpioCreate_effect :
    Effect board core request now (core.handleGpioCreate board request).2 := by
  unfold handleGpioCreate
  split
  · exact .unchanged
  · next bsp hbsp =>
    split
    · exact .unchanged
    · split
      · exact .unchanged
      · split
        · exact .unchanged
        · unfold RemoteCore.createGpio
          split
          · exact .unchanged
          · next howner =>
            split
            · exact .unchanged
            · next hfree => exact .createGpio _ _ hbsp howner (Bool.not_eq_true _ ▸ hfree)

/-- What a read of a pin does. -/
theorem handleGpioRead_effect :
    Effect board core request now (core.handleGpioRead board request).2 := by
  unfold handleGpioRead
  split
  · exact .unchanged
  · next bsp hbsp =>
    split
    · exact .unchanged
    · split
      · exact .unchanged
      · split
        · exact .unchanged
        · next object hobject =>
          split
          · exact .unchanged
          · next hown =>
            split
            · exact .unchanged
            · next hread =>
              refine .useGpio hbsp hobject (Bool.not_eq_true _ ▸ hown) fun pin _ => ?_
              have hview : (bsp.read object.pin).2.pinView pin = bsp.pinView pin :=
                MockGpioBsp.pinView_read
              rwa [hread] at hview

/-- What a write of a pin does. -/
theorem handleGpioWrite_effect :
    Effect board core request now (core.handleGpioWrite board request).2 := by
  unfold handleGpioWrite
  split
  · exact .unchanged
  · next bsp hbsp =>
    split
    · exact .unchanged
    · split
      · exact .unchanged
      · split
        · exact .unchanged
        · next object hobject =>
          split
          · exact .unchanged
          · next hown =>
            split
            · exact .unchanged
            · split
              · exact .unchanged
              · next hwrite =>
                exact .useGpio hbsp hobject (Bool.not_eq_true _ ▸ hown) fun pin hpin =>
                  MockGpioBsp.pinView_write hwrite hpin

/-- What the creation of an object on a port does. -/
theorem handleUartCreate_effect :
    Effect board core request now (core.handleUartCreate board request).2 := by
  unfold handleUartCreate
  split
  · exact .unchanged
  · next bsp hbsp =>
    split
    · exact .unchanged
    · split
      · exact .unchanged
      · split
        · exact .unchanged
        · split
          · exact .unchanged
          · split
            · exact .unchanged
            · unfold RemoteCore.createUart
              split
              · exact .unchanged
              · next howner =>
                split
                · exact .unchanged
                · next hfree =>
                  split
                  · exact .unchanged
                  · next hconfigure =>
                    exact .createUart _ hbsp howner (Bool.not_eq_true _ ▸ hfree) hconfigure

/-- What a read of a port does. -/
theorem handleUartRead_effect :
    Effect board core request now (core.handleUartRead board request).2 := by
  unfold handleUartRead
  split
  · exact .unchanged
  · next bsp hbsp =>
    split
    · exact .unchanged
    · split
      · exact .unchanged
      · dsimp only
        split
        · exact .unchanged
        · split
          · exact .unchanged
          · next object hobject =>
            split
            · exact .unchanged
            · next hown =>
              split
              · exact .unchanged
              · split
                · exact .unchanged
                · next hread =>
                  have heffect : Effect board core request now _ :=
                    .useUart hbsp hobject (Bool.not_eq_true _ ▸ hown)
                      fun port hport => MockUartBsp.lookup_read hread hport
                  split
                  · exact heffect
                  · exact heffect

/-- What a write of a port does. -/
theorem handleUartWrite_effect :
    Effect board core request now (core.handleUartWrite board request).2 := by
  unfold handleUartWrite
  split
  · exact .unchanged
  · next bsp hbsp =>
    split
    · exact .unchanged
    · split
      · exact .unchanged
      · split
        · exact .unchanged
        · next object hobject =>
          split
          · exact .unchanged
          · next hown =>
            have hothers : ∀ port ≠ object.port,
              (bsp.write object.port request.payload).2.ports.lookup
                port = bsp.ports.lookup port :=
              fun port hport => MockUartBsp.lookup_write _ hport
            split
            · next hwrite =>
              rw [hwrite] at hothers
              exact .useUart hbsp hobject (Bool.not_eq_true _ ▸ hown) hothers
            · next hwrite =>
              rw [hwrite] at hothers
              exact .useUart hbsp hobject (Bool.not_eq_true _ ▸ hown) hothers

/-- A segment is queued, or counted as refused. -/
theorem handleMotionEnqueue_effect (hcommand : request.header.command = Command.motionEnqueue) :
    Effect board core request now (core.handleMotionEnqueue board request).2 := by
  unfold handleMotionEnqueue
  split
  · exact .unchanged
  · next motion hmotion =>
    split
    · exact .unchanged
    · split
      · exact .unchanged
      · split
        · exact .unchanged
        · next decoded _ =>
          split
          · exact .unchanged
          · next haxes =>
            have heffect : Effect board core request now _ :=
              .useMotion hmotion (.enqueue decoded hcommand (List.findSome?_eq_none_iff.1 haxes))
            unfold enqueueMotion
            split
            · next henqueue => rwa [henqueue] at heffect
            · next henqueue =>
              rw [henqueue] at heffect
              dsimp only
              split
              · exact heffect
              · exact heffect

/-- What the other commands on motion do is what their last part does. -/
theorem withMotion_effect {act : MotionExecutor → Reply × RemoteCore}
    (hact : ∀ motion, core.motion = some motion → Effect board core request now (act motion).2) :
    Effect board core request now (core.withMotion board request act).2 := by
  unfold withMotion
  split
  · exact .unchanged
  · next motion hmotion =>
    split
    · exact .unchanged
    · split
      · exact .unchanged
      · exact hact motion hmotion

/-- What the question for the state of the motion does. -/
theorem handleMotionStatus_effect :
    Effect board core request now (core.handleMotionStatus board request).2 := by
  refine withMotion_effect fun motion _ => ?_
  split
  · exact .unchanged
  · exact .unchanged

/-- A stop leaves the executor with a fault, or does nothing. -/
theorem handleMotionAbort_effect (hcommand : request.header.command = Command.motionAbort) :
    Effect board core request now (core.handleMotionAbort board request).2 := by
  refine withMotion_effect fun motion hmotion => ?_
  split
  · exact .unchanged
  · next habort => exact .useMotion hmotion (.abort hcommand habort)

/-- What the end of a fault does. -/
theorem handleMotionClearFault_effect
    (hcommand : request.header.command = Command.motionClearFault) :
    Effect board core request now (core.handleMotionClearFault board request).2 := by
  refine withMotion_effect fun motion hmotion => ?_
  split
  · exact .unchanged
  · next hclear => exact .useMotion hmotion (.clearFault hcommand hclear)

/-- A conditional has an effect if both of its cases have. -/
theorem effect_ite {c : Prop} [Decidable c] {first rest : Reply × RemoteCore}
    (hfirst : c → Effect board core request now first.2)
    (hrest : Effect board core request now rest.2) :
    Effect board core request now (if c then first else rest).2 := by
  split
  · next h => exact hfirst h
  · exact hrest

/-- What the switch does to the core is one of the effects. -/
theorem dispatch_effect : Effect board core request now (core.dispatch board request now).2 := by
  unfold dispatch
  refine effect_ite (fun _ => .unchanged) ?_
  refine effect_ite (fun _ => .unchanged) ?_
  refine effect_ite (fun _ => .unchanged) ?_
  refine effect_ite (fun _ => handleBootloaderEnter_effect) ?_
  refine effect_ite (fun _ => .unchanged) ?_
  refine effect_ite (fun _ => .unchanged) ?_
  refine effect_ite (fun _ => .unchanged) ?_
  refine effect_ite (fun h => handleResourceReset_effect h) ?_
  refine effect_ite (fun _ => .unchanged) ?_
  refine effect_ite (fun _ => handleResourceAcquire_effect) ?_
  refine effect_ite (fun _ => handleResourceRenew_effect) ?_
  refine effect_ite (fun h => handleResourceRelease_effect h) ?_
  refine effect_ite (fun _ => .unchanged) ?_
  refine effect_ite (fun _ => handleGpioCreate_effect) ?_
  refine effect_ite (fun _ => handleGpioRead_effect) ?_
  refine effect_ite (fun _ => handleGpioWrite_effect) ?_
  refine effect_ite (fun _ => handleUartCreate_effect) ?_
  refine effect_ite (fun _ => handleUartRead_effect) ?_
  refine effect_ite (fun _ => handleUartWrite_effect) ?_
  refine effect_ite (fun h => handleMotionEnqueue_effect h) ?_
  refine effect_ite (fun _ => handleMotionStatus_effect) ?_
  refine effect_ite (fun h => handleMotionAbort_effect h) ?_
  refine effect_ite (fun h => handleMotionClearFault_effect h) ?_
  exact .unchanged

end RemoteCore

end RemoteBSP.MockMcu
