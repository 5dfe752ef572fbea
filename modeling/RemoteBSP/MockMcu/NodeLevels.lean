import RemoteBSP.MockMcu.Leases

/-!
# The levels set on the pins

The outside sets levels on the pins of a board. A client can configure, read and write the pins, but
the levels that have been set for the inputs stay as they are, whatever a client asks for
(`levels_handle`), and also when its leases end (`levels_endLeases`).
-/

namespace RemoteBSP.MockMcu

namespace MockGpioBsp

variable {bsp bsp' : MockGpioBsp} {pin : UInt16} {value : Bool}

/-- Reading a pin sets no level. -/
theorem pending_read {result : Except MockGpioException Bool} (h : bsp.read pin = (result, bsp')) :
    bsp'.pendingInputValues = bsp.pendingInputValues := by
  unfold read at h
  split at h
  · exact (Prod.mk.inj h).2 ▸ rfl
  · exact (Prod.mk.inj h).2 ▸ rfl

/-- Writing a pin sets no level for an input. -/
theorem pending_write (h : bsp.write pin value = .ok bsp') :
    bsp'.pendingInputValues = bsp.pendingInputValues := by
  obtain ⟨_, -, -, rfl⟩ := write_eq_ok_iff.1 h
  rfl

/-- Lowering a pin sets no level for an input. -/
theorem pending_lower : (bsp.lower pin).pendingInputValues = bsp.pendingInputValues := by
  unfold lower
  split
  · next hwrite => exact pending_write hwrite
  · rfl

end MockGpioBsp

namespace RemoteCore

variable {board : Board} {core : RemoteCore} {request : Packet} {now : ℤ}

/-- The levels set for the inputs, if the node has pins. -/
def levels (core : RemoteCore) : Option (Map UInt16 Bool) :=
  core.gpioBsp.map MockGpioBsp.pendingInputValues

/-- The release of the objects of a resource. -/
theorem levels_releaseResourceObjects (board : Board) (core : RemoteCore)
    (resourceId ownerSessionId : UInt32) :
    (core.releaseResourceObjects board resourceId ownerSessionId).levels = core.levels := by
  have hsweep : ∀ bsp : MockGpioBsp, (core.gpioObjects.sweep (gpioHeld resourceId ownerSessionId)
      quietGpio bsp).pendingInputValues = bsp.pendingInputValues := by
    intro bsp
    refine Map.sweep_keeps (P := fun b : MockGpioBsp => b.pendingInputValues =
      bsp.pendingInputValues) (fun b _ object _ _ h => ?_) rfl
    unfold quietGpio
    split
    · exact MockGpioBsp.pending_lower.trans h
    · exact h
  unfold levels releaseResourceObjects
  dsimp only
  rw [Option.map_map]
  exact Option.map_congr fun bsp _ => hsweep bsp

/-- Leases end without a change of the levels that are set from outside. -/
theorem levels_endLeases (ends : Lease → Bool) :
    (core.endLeases board ends).2.levels = core.levels := by
  have hall : ∀ ended : List (UInt32 × Lease),
      (core.releaseAll board ended).levels = core.levels := by
    intro ended
    induction ended generalizing core with
    | nil => rfl
    | cons entry ended ih =>
      rw [releaseAll, List.foldl_cons, ← releaseAll, ih]
      exact levels_releaseResourceObjects _ _ _ _
  exact hall _

/-- MOTION_ENQUEUE does not touch the levels that are set from outside. -/
theorem levels_handleMotionEnqueue :
    (core.handleMotionEnqueue board request).2.levels = core.levels := by
  unfold handleMotionEnqueue enqueueMotion
  repeat' split
  all_goals rfl

/-- The other requests to the executor. -/
theorem levels_withMotion {act : MotionExecutor → Reply × RemoteCore}
    (h : ∀ motion, (act motion).2.levels = core.levels) :
    (core.withMotion board request act).2.levels = core.levels := by
  unfold withMotion
  repeat' split
  all_goals first | rfl | exact h _

/-- No request about a pin touches the levels that are set from outside. -/
theorem levels_gpio (board : Board) (core : RemoteCore) (request : Packet) :
    (core.handleGpioCreate board request).2.levels = core.levels ∧
    (core.handleGpioRead board request).2.levels = core.levels ∧
    (core.handleGpioWrite board request).2.levels = core.levels := by
  refine ⟨?_, ?_, ?_⟩
  -- The driver keeps the levels that are set from outside in every call.
  · unfold handleGpioCreate createGpio
    cases hbsp : core.gpioBsp with
    | none => rfl
    | some bsp =>
      dsimp only
      repeat' split
      all_goals try rfl
      all_goals
        unfold levels
        rw [hbsp]
        rfl
  · unfold handleGpioRead
    cases hbsp : core.gpioBsp with
    | none => rfl
    | some bsp =>
      dsimp only
      repeat' split
      all_goals try rfl
      next hread =>
      unfold levels
      rw [hbsp]
      exact congrArg some (MockGpioBsp.pending_read hread)
  · unfold handleGpioWrite
    cases hbsp : core.gpioBsp with
    | none => rfl
    | some bsp =>
      dsimp only
      repeat' split
      all_goals try rfl
      next bsp' hwrite =>
      unfold levels
      rw [hbsp]
      exact congrArg some (MockGpioBsp.pending_write hwrite)

/-- No request about a port touches the levels that are set from outside. -/
theorem levels_uart (board : Board) (core : RemoteCore) (request : Packet) :
    (core.handleUartCreate board request).2.levels = core.levels ∧
    (core.handleUartRead board request).2.levels = core.levels ∧
    (core.handleUartWrite board request).2.levels = core.levels := by
  refine ⟨?_, ?_, ?_⟩
  · unfold handleUartCreate createUart
    repeat' split
    all_goals rfl
  · unfold handleUartRead
    dsimp only
    repeat' split
    all_goals rfl
  · unfold handleUartWrite
    repeat' split
    all_goals rfl

/-- A request for a resource or for a lease. -/
theorem levels_resource (board : Board) (core : RemoteCore) (request : Packet) (now : ℤ) :
    (core.handleResourceReset board request).2.levels = core.levels ∧
    (core.handleResourceAcquire board request now).2.levels = core.levels ∧
    (core.handleResourceRenew board request now).2.levels = core.levels ∧
    (core.handleResourceRelease board request).2.levels = core.levels := by
  refine ⟨?_, ?_, ?_, ?_⟩
  · unfold handleResourceReset resetResource
    dsimp only
    repeat' split
    all_goals rfl
  · unfold handleResourceAcquire acquireLease
    dsimp only
    repeat' split
    all_goals rfl
  · unfold handleResourceRenew renewLease
    dsimp only
    repeat' split
    all_goals rfl
  · unfold handleResourceRelease releaseLease
    dsimp only
    repeat' split
    all_goals try rfl
    exact levels_releaseResourceObjects board _ _ _

/-- A conditional keeps the levels if both of its cases do. -/
theorem levels_ite {c : Prop} [Decidable c] {first rest : Reply × RemoteCore}
    (hfirst : first.2.levels = core.levels) (hrest : rest.2.levels = core.levels) :
    (if c then first else rest).2.levels = core.levels := by
  split
  · exact hfirst
  · exact hrest

/-- No command sets a level for an input. -/
theorem levels_dispatch : (core.dispatch board request now).2.levels = core.levels := by
  have hbootloader : (core.handleBootloaderEnter board request).2.levels = core.levels := by
    unfold handleBootloaderEnter
    repeat' split
    all_goals rfl
  obtain ⟨hreset, hacquire, hrenew, hrelease⟩ := levels_resource board core request now
  obtain ⟨hcreate, hread, hwrite⟩ := levels_gpio board core request
  obtain ⟨hopen, hreceive, hsend⟩ := levels_uart board core request
  unfold dispatch
  dsimp only
  refine levels_ite rfl (levels_ite rfl (levels_ite rfl (levels_ite hbootloader (levels_ite rfl
    (levels_ite rfl (levels_ite rfl (levels_ite hreset (levels_ite rfl (levels_ite hacquire
    (levels_ite hrenew (levels_ite hrelease (levels_ite rfl (levels_ite hcreate (levels_ite hread
    (levels_ite hwrite (levels_ite hopen (levels_ite hreceive (levels_ite hsend (levels_ite
    levels_handleMotionEnqueue (levels_ite ?_ (levels_ite ?_ (levels_ite ?_
    rfl))))))))))))))))))))))
  · refine levels_withMotion fun motion => ?_
    split <;> rfl
  · refine levels_withMotion fun motion => ?_
    split <;> rfl
  · refine levels_withMotion fun motion => ?_
    split <;> rfl

/-- No request sets a level for an input. -/
theorem levels_handle : (core.handle board request now).2.levels = core.levels := by
  unfold handle
  split
  · rfl
  · split
    · rfl
    · exact levels_dispatch.trans (levels_endLeases _)

/-- The poll for received bytes has nothing to do with the pins. -/
theorem levels_pollUartEvents (maximumPayload : ℕ) :
    (core.pollUartEvents maximumPayload).2.levels = core.levels := by
  unfold pollUartEvents
  split
  · rfl
  · refine List.foldlRecOn (motive := fun polled : List Packet × RemoteCore =>
      polled.2.levels = core.levels) _ _ rfl ?_
    rintro ⟨events, polled⟩ h entry -
    dsimp only
    unfold pollUartObject
    repeat' split
    all_goals exact h

end RemoteCore

end RemoteBSP.MockMcu
