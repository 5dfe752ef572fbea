import RemoteBSP.Lib.Latch
import RemoteBSP.Firmware.MotionRing
import RemoteBSP.MockMcu.ErrorPaths
import RemoteBSP.MockMcu.QueueChain

/-!
# The fault of the motion executors is a latch

Both executors latch the first fault: what they report, the fault and the number of the safety
stops, stays until the fault is cleared. In the firmware only `rbsp_motion_abort` breaks the latch,
which does not look whether a fault is there (`Firmware.keepsFault_iff`).

The mock refuses to abort with a fault. But an underrun that lies in the past is recorded only when
the executor catches up with the time, and `abort` catches up behind its check, so that it stops for
a second time (`MockMcu.keepsFault_iff`). What an executor reports at a time is therefore its
`outlook`: what it reports when it has caught up. A call at or behind a time finds the fault of the
outlook at that time.
-/

namespace RemoteBSP

/-! ## The firmware -/

namespace Firmware

variable {W : Type} {config : MotionConfig} {io : MotionIo W} {e : Executor W}

/-- The fault and the number of the safety stops. -/
def Executor.faultReport (e : Executor W) : MotionFault × UInt64 :=
  (e.queue.fault, e.queue.safetyStops)

/-- A call that clears the fault. -/
def ClearsFault (e : Executor W) : MotionOp W → Prop
  | .clearFault nowNs => (e.queue.clearFault nowNs).1 = true
  | .enqueue _ _ | .tick _ | .abort _ | .completeFront | .environment _ => False

/-- The fault is a latch that clearing it releases. -/
def FaultLatched (config : MotionConfig) (io : MotionIo W) (e : Executor W)
    (ops : List (MotionOp W)) : Prop :=
  (motionOutputs config io).Latched Executor.faultReport (fun report => report.1 ≠ .none)
    ClearsFault e ops

/-- An abort for a cause, with a fault. -/
def AbortsFaulted (e : Executor W) : MotionOp W → Prop
  | .abort cause => cause ≠ .none ∧ e.queue.fault ≠ .none
  | .enqueue _ _ | .tick _ | .clearFault _ | .completeFront | .environment _ => False

/-- An abort can be checked. -/
instance (e : Executor W) : DecidablePred (AbortsFaulted e)
  | .abort cause => inferInstanceAs (Decidable (cause ≠ .none ∧ e.queue.fault ≠ .none))
  | .enqueue _ _ => inferInstanceAs (Decidable False)
  | .tick _ => inferInstanceAs (Decidable False)
  | .clearFault _ => inferInstanceAs (Decidable False)
  | .completeFront => inferInstanceAs (Decidable False)
  | .environment _ => inferInstanceAs (Decidable False)

/-- A counter that goes up changes. -/
theorem add_one_ne (a : UInt64) : a + 1 ≠ a := by
  intro h
  have hone : (1 : UInt64) = 0 := by
    rw [← UInt64.add_right_inj a, h, UInt64.add_zero]
  exact absurd hone (by decide)

/-- With a fault a segment is refused. -/
theorem faultReport_enqueue (hfault : e.queue.fault ≠ .none) (requested : MotionSegment)
    (nowNs : UInt64) :
    (e.withQueue (e.queue.enqueue config requested nowNs).2.2).faultReport = e.faultReport := by
  cases hvalidate : e.queue.validate config requested nowNs with
  | error rejection =>
    obtain ⟨-, rejected, hsame⟩ := MotionQueue.enqueue_error hvalidate
    rw [hsame]
    rfl
  | ok startTimeNs => exact absurd (MotionQueue.validate_ok hvalidate).1 hfault

/-- With a fault a tick only stops the outputs. -/
theorem faultReport_tick (hfault : e.queue.fault ≠ .none) (nowNs : UInt64) :
    (e.tick config io nowNs).2.faultReport = e.faultReport := by
  unfold Executor.tick
  rw [if_pos hfault]
  have hring : (Executor.stopOutputs io e).queue.ring = e.queue.ring := Executor.stopOutputs_ring e
  have hreport : ((Executor.stopOutputs io e).queue.ring.fault,
      (Executor.stopOutputs io e).queue.ring.safetyStops) = (e.queue.ring.fault,
        e.queue.ring.safetyStops) := by rw [hring]
  exact hreport

/-- A call keeps the fault exactly if it is not an abort with a fault. -/
theorem keepsFault_iff (op : MotionOp W) :
    (motionOutputs config io).KeepsLatch Executor.faultReport (fun report => report.1 ≠ .none)
      ClearsFault e op ↔ ¬AbortsFaulted e op := by
  unfold Machine.KeepsLatch
  -- Behind `enqueue` and `tick` the fault stands as it stood.
  cases op with
  | enqueue requested nowNs =>
    exact ⟨fun _ => id, fun _ hfault _ => faultReport_enqueue hfault requested nowNs⟩
  | tick nowNs => exact ⟨fun _ => id, fun _ hfault _ => faultReport_tick hfault nowNs⟩
  | abort cause =>
    by_cases hnamed : cause = .none
    -- An abort with a fault counts one more stop, and cannot keep the report.
    · refine ⟨fun _ h => h.1 hnamed, fun _ _ _ => ?_⟩
      show (e.withQueue (e.queue.abort cause)).faultReport = _
      unfold MotionQueue.abort
      rw [if_pos hnamed]
      rfl
    · have hcounted : (e.withQueue (e.queue.abort cause)).faultReport =
          (cause, e.queue.safetyStops + 1) := by
        unfold MotionQueue.abort
        rw [if_neg hnamed]
        rfl
      constructor
      · rintro hkeeps ⟨-, hfault⟩
        have hsame : (cause, e.queue.safetyStops + 1) = e.faultReport :=
          hcounted.symm.trans (hkeeps hfault id)
        exact add_one_ne _ (congrArg Prod.snd hsame)
      · exact fun hopen hfault _ => absurd ⟨hnamed, hfault⟩ hopen
  -- A fault is cleared only by a call that succeeds.
  | clearFault nowNs =>
    refine ⟨fun _ => id, fun _ _ hclosed => ?_⟩
    have hrefused : (e.queue.clearFault nowNs).2 = e.queue := by
      change ¬(e.queue.clearFault nowNs).1 = true at hclosed
      unfold MotionQueue.clearFault at hclosed ⊢
      split at hclosed
      · next hsize => rw [if_pos hsize]
      · exact absurd rfl hclosed
    exact congrArg (fun q : MotionQueue => (q.fault, q.safetyStops)) hrefused
  | completeFront =>
    refine ⟨fun _ => id, fun _ hfault _ => ?_⟩
    have hrefused : (e.queue.completeFront config).2 = e.queue := by
      unfold MotionQueue.completeFront
      rw [if_pos (.inr hfault)]
    exact congrArg (fun q : MotionQueue => (q.fault, q.safetyStops)) hrefused
  | environment world => exact ⟨fun _ => id, fun _ _ _ => rfl⟩

/-- The fault is a latch in the runs without an abort with a fault. -/
theorem faultLatched_iff {ops : List (MotionOp W)} : FaultLatched config io e ops ↔
    (motionOutputs config io).Along (fun e op => ¬AbortsFaulted e op) e ops := by
  unfold FaultLatched
  rw [Machine.latched_iff_along]
  induction ops generalizing e with
  | nil => exact .rfl
  | cons op ops ih => exact and_congr (keepsFault_iff op) ih

end Firmware

/-! ## The mock -/

namespace MockMcu

open MotionExecutor

variable {executor executor' : MotionExecutor} {segment : MotionSegment}
  {segments rest : List MotionSegment} {base : List AxisRuntime} {nowNs : UInt64} {since : ℕ}

/-- The first segment ends first. -/
theorem Scheduled.endNs_le_of_mem (h : Scheduled since (segment :: rest) base executor)
    {last : MotionSegment} (hmem : last ∈ segment :: rest) : segment.endNs ≤ last.endNs := by
  rcases List.mem_cons.1 hmem with rfl | hrest
  · exact le_rfl
  · have hnext := (h.endNs_le last hrest).1
    have hfits := (h.fits last hmem).start_lt
    omega

namespace MotionExecutor

/-- The fault and the number of the safety stops. -/
def faultReport (executor : MotionExecutor) : MotionFault × UInt64 :=
  (executor.fault, executor.metrics.safetyStops)

/-- What is reported by an executor that has caught up with a time. -/
def outlook (executor : MotionExecutor) (nowNs : UInt64) : MotionFault × UInt64 :=
  (executor.poll nowNs).2.faultReport

/-- Segments that run dry by a time: the last one has ended, and it is not final. -/
def RunsDry (segments : List MotionSegment) (time : ℕ) : Prop :=
  ∃ last ∈ segments.getLast?, last.finalSegment = false ∧ last.endNs ≤ time

/-- The queue has run dry by a time. -/
def Overdue (executor : MotionExecutor) (nowNs : UInt64) : Prop :=
  RunsDry executor.segments nowNs.toNat

/-- A call that comes before a time, or that clears the fault. -/
def Releases (nowNs : UInt64) (executor : MotionExecutor) : ExecutorCall → Prop
  | .enqueue _ atNs | .advanceTo atNs | .abort atNs _ | .triggerLimit _ atNs => atNs < nowNs
  | .clearFault => ∃ executor', executor.clearFault = .ok executor'

/-- The fault in the outlook at a time is a latch, for the calls at or behind this time. -/
def FaultLatched (executor : MotionExecutor) (calls : List ExecutorCall) : Prop :=
  ∀ nowNs, machine.Latched (outlook · nowNs) (fun report => report.1 ≠ .none) (Releases nowNs)
    executor calls

/-- A stop that is carried out, with a queue that has run dry before. -/
def Overtakes (executor : MotionExecutor) : ExecutorCall → Prop
  | .abort atNs fault => fault ≠ .none ∧ fault ≠ .queueUnderrun ∧ executor.Overdue atNs
  | .triggerLimit axisResourceId atNs =>
    (requireAxis executor.axes axisResourceId).isSome ∧ executor.Overdue atNs
  | .enqueue _ _ | .advanceTo _ | .clearFault => False

/-- The end of the queue can be checked. -/
instance (executor : MotionExecutor) (nowNs : UInt64) : Decidable (executor.Overdue nowNs) :=
  inferInstanceAs (Decidable (∃ last ∈ executor.segments.getLast?, _ ∧ _))

/-- A stop can be checked. -/
instance (executor : MotionExecutor) : DecidablePred executor.Overtakes
  | .abort atNs fault =>
    inferInstanceAs (Decidable (fault ≠ .none ∧ fault ≠ .queueUnderrun ∧ executor.Overdue atNs))
  | .triggerLimit axisResourceId atNs =>
    inferInstanceAs (Decidable ((requireAxis executor.axes axisResourceId).isSome ∧
      executor.Overdue atNs))
  | .enqueue _ _ => inferInstanceAs (Decidable False)
  | .advanceTo _ => inferInstanceAs (Decidable False)
  | .clearFault => inferInstanceAs (Decidable False)

/-! ### The outlook -/

/-- A stop for a fault is counted. -/
theorem faultReport_stopSafely (executor : MotionExecutor) (atNs : UInt64) (fault : MotionFault) :
    (executor.stopSafely atNs fault).2.faultReport =
      (fault, if fault = .none then executor.metrics.safetyStops
        else executor.metrics.safetyStops + 1) := by
  have hedges : ∀ (e : MotionExecutor) (edges : List MotionEdge),
      (e.applyEdges edges).faultReport = e.faultReport := by
    intro e edges
    unfold faultReport
    rw [applyEdges_eq_play]
  unfold stopSafely
  refine (hedges (executor.enterSafeState atNs fault).2
    (executor.sort.run (executor.enterSafeState atNs fault).1)).trans ?_
  unfold enterSafeState
  dsimp only
  split
  · next hnone => rw [hnone]; rfl
  · rfl

/-- The loop of `advance_to` records an underrun exactly if the queue runs dry. -/
theorem faultReport_drain (h : Scheduled since segments base executor)
    (hfault : executor.fault = .none) (hsince : since ≤ nowNs.toNat) :
    (RunsDry segments nowNs.toNat → (executor.drain nowNs).2.faultReport =
      (.queueUnderrun, executor.metrics.safetyStops + 1)) ∧
    (¬RunsDry segments nowNs.toNat → (executor.drain nowNs).2.faultReport =
      executor.faultReport) := by
  induction segments generalizing executor base with
  | nil =>
    rw [drain_nil h.queue]
    refine ⟨?_, fun _ => rfl⟩
    rintro ⟨last, hlast, -⟩
    cases hlast
  | cons segment rest ih =>
    have hqueue := h.queue
    rw [List.map_cons] at hqueue
    have hfits := h.fits segment List.mem_cons_self
    have hleft := h.since_lt segment List.mem_cons_self
    -- As long as the first segment has not ended, neither has the last one.
    have hwet : nowNs.toNat < segment.endNs → ¬RunsDry (segment :: rest) nowNs.toNat := by
      rintro hlt ⟨last, hlast, -, hended⟩
      have hle := h.endNs_le_of_mem (List.mem_of_getLast? hlast)
      omega
    -- The segment has not started, has started, or has ended.
    rcases lt_or_ge nowNs.toNat segment.startNs with hwait | hstart
    · rw [drain_wait hqueue hwait]
      have hbehind : nowNs.toNat < segment.endNs := hwait.trans hfits.start_lt
      exact ⟨fun hdry => absurd hdry (hwet hbehind), fun _ => rfl⟩
    rw [drain_cons hqueue hfits hstart hsince hleft.le]
    by_cases hlt : nowNs.toNat < segment.endNs
    · rw [if_pos hlt]
      refine ⟨fun hdry => absurd hdry (hwet hlt), fun _ => ?_⟩
      rw [play_snd]
      rfl
    rw [if_neg hlt]
    have hcomplete := h.complete
    have hplayed : (executor.play segment since segment.endNs).2.faultReport =
        executor.faultReport := by
      rw [play_snd]
      rfl
    generalize executor.play segment since segment.endNs = played at hcomplete hplayed ⊢
    obtain ⟨edges, played⟩ := played
    obtain ⟨hkept, hstops⟩ := Prod.mk.inj hplayed
    dsimp only at hcomplete hkept hstops ⊢
    unfold finish
    cases rest with
    -- Behind the last segment the loop stops: by itself behind a final one, else for an underrun.
    | nil =>
      have hdry : RunsDry [segment] nowNs.toNat ↔ segment.finalSegment = false := by
        constructor
        · rintro ⟨last, hlast, hopen, -⟩
          obtain rfl := Option.some.inj hlast
          exact hopen
        · exact fun hopen => ⟨segment, rfl, hopen, not_lt.1 hlt⟩
      rw [hdry]
      cases hfinal : segment.finalSegment with
      | true =>
        refine ⟨fun h => Bool.noConfusion h, fun _ => ?_⟩
        rw [if_pos rfl, faultReport_stopSafely, if_pos rfl]
        exact Prod.ext hfault.symm hstops
      | false =>
        refine ⟨fun _ => ?_, fun h => absurd rfl h⟩
        rw [if_neg Bool.false_ne_true, List.map_nil, if_pos rfl, faultReport_stopSafely,
          if_neg nofun]
        exact Prod.ext rfl (congrArg (· + 1) hstops)
    -- With another segment behind it, the queue runs dry if the rest of it does.
    | cons next rest =>
      have hdry : RunsDry (segment :: next :: rest) nowNs.toNat ↔
          RunsDry (next :: rest) nowNs.toNat := by
        unfold RunsDry
        rw [List.getLast?_cons_cons]
      have hfinal := (h.endNs_le next List.mem_cons_self).2
      have hrest := ih hcomplete (hkept.trans hfault)
      rw [hdry, hfinal, if_neg Bool.false_ne_true,
        if_neg (by rw [List.map_cons]; exact List.cons_ne_nil _ _)]
      have hsame : (played.completeSegment segment ((next :: rest).map fun segment =>
          playedSegment (configsOf executor.axes) segment since)).faultReport =
          executor.faultReport := hplayed
      rw [hsame] at hrest
      rw [← hstops]
      exact hrest

/-- The outlook at a time: an underrun if the queue has run dry, else what has been recorded. -/
theorem outlook_spec (h : Valid segments base executor) (nowNs : UInt64) :
    (executor.Overdue nowNs → executor.fault = .none ∧
      executor.outlook nowNs = (.queueUnderrun, executor.metrics.safetyStops + 1)) ∧
    (¬executor.Overdue nowNs → executor.outlook nowNs = executor.faultReport) := by
  unfold Overdue
  rw [h.segments_eq]
  -- An executor with segments has no fault.
  have hfault : segments ≠ [] → executor.fault = .none := by
    intro hne
    by_contra hstopped
    have hsegments := h.segments_eq
    rw [MotionExecutor.segments, (h.stopped hstopped).1] at hsegments
    exact hne hsegments.symm
  have hnonempty : RunsDry segments nowNs.toNat → segments ≠ [] := by
    rintro ⟨last, hlast, -⟩ rfl
    cases hlast
  unfold outlook
  rcases UInt64.lt_or_le nowNs executor.nowNs with hpast | hnow
  · -- The segments of the queue end behind the time of the executor.
    have hwet : ¬RunsDry segments nowNs.toNat := by
      rintro ⟨last, hlast, -, hended⟩
      have hsince := h.since_lt last (List.mem_of_getLast? hlast)
      have hlt := UInt64.lt_iff_toNat_lt.1 hpast
      omega
    rw [poll_of_lt hpast]
    exact ⟨fun hdry => absurd hdry hwet, fun _ => rfl⟩
  · rw [poll_of_le hnow]
    show (_ → _ ∧ (executor.drain nowNs).2.faultReport = _) ∧
      (_ → (executor.drain nowNs).2.faultReport = _)
    -- The outlook is what a poll at that time would report.
    by_cases hempty : segments = []
    · have hqueue : executor.queue = [] := by rw [h.queue, hempty]; rfl
      rw [drain_nil hqueue]
      exact ⟨fun hdry => absurd hempty (hnonempty hdry), fun _ => rfl⟩
    · obtain ⟨hdry, hwet⟩ := faultReport_drain h.toScheduled (hfault hempty)
        (UInt64.le_iff_toNat_le.1 hnow)
      exact ⟨fun h => ⟨hfault hempty, hdry h⟩, hwet⟩

/-- A fault that has been recorded is reported at all times. -/
theorem outlook_of_fault (h : Valid segments base executor) (hfault : executor.fault ≠ .none)
    (nowNs : UInt64) : executor.outlook nowNs = executor.faultReport := by
  obtain ⟨hdry, hwet⟩ := outlook_spec h nowNs
  exact hwet fun hover => hfault (hdry hover).1

/-- The outlook depends on the queue and on what has been recorded. -/
theorem outlook_congr {segments' : List MotionSegment} {base' : List AxisRuntime}
    (h : Valid segments base executor) (h' : Valid segments' base' executor')
    (hqueue : executor'.queue = executor.queue)
    (hreport : executor'.faultReport = executor.faultReport) (nowNs : UInt64) :
    executor'.outlook nowNs = executor.outlook nowNs := by
  have hsame : executor'.Overdue nowNs ↔ executor.Overdue nowNs := by
    unfold Overdue MotionExecutor.segments
    rw [hqueue]
  by_cases hover : executor.Overdue nowNs
  · have hstops := congrArg Prod.snd hreport
    rw [((outlook_spec h nowNs).1 hover).2, ((outlook_spec h' nowNs).1 (hsame.2 hover)).2]
    exact Prod.ext rfl (congrArg (· + 1) hstops)
  · rw [(outlook_spec h nowNs).2 hover, (outlook_spec h' nowNs).2 (mt hsame.1 hover), hreport]

/-- A fault in the outlook has been recorded, or the queue has run dry. -/
theorem overdue_of_outlook (h : Valid segments base executor)
    (hheld : (executor.outlook nowNs).1 ≠ .none) (hfault : executor.fault = .none) :
    executor.Overdue nowNs := by
  by_contra hwet
  rw [(outlook_spec h nowNs).2 hwet] at hheld
  exact hheld hfault

/-- A queue that has run dry stays so. -/
theorem Overdue.mono {laterNs : UInt64} (h : executor.Overdue nowNs) (hle : nowNs ≤ laterNs) :
    executor.Overdue laterNs := by
  obtain ⟨last, hlast, hopen, hended⟩ := h
  exact ⟨last, hlast, hopen, hended.trans (UInt64.le_iff_toNat_le.1 hle)⟩

/-! ### The calls -/

/-- A segment is too late for a queue that has run dry. -/
theorem not_overdue_of_checkSegment (h : Valid segments base executor)
    (horder : QueueOrder executor) {runtime : SegmentRuntime}
    (hcheck : executor.checkSegment segment nowNs = .ok runtime) :
    ¬executor.Overdue nowNs := by
  rintro ⟨last, hlast, -, hended⟩
  obtain ⟨-, -, hduration, startTimeNs, moves, hstart, hjoined, hend, -, -⟩ :=
    checkSegment_spec hcheck
  have hne : executor.queue ≠ [] := by
    intro hnil
    rw [MotionExecutor.segments, hnil] at hlast
    cases hlast
  have hlate : nowNs.toNat < startTimeNs.toNat := (lt_startTime h.lead hstart hduration hend).1
  have hstop : last.slot.stop = executor.nextAvailableTimeNs.toNat := by
    refine horder.timeline.stop last.slot ?_
    rw [List.getLast?_map, Option.mem_def.1 hlast]
    rfl
  have hends : last.endNs = startTimeNs.toNat := by
    rw [hjoined hne]
    exact hstop
  omega

/-- A stop that is carried out on a queue that has run dry counts both the underrun and itself. -/
theorem faultReport_abort (h : Valid segments base executor) {fault : MotionFault}
    (hnamed : fault ≠ .none) (hcause : fault ≠ .queueUnderrun) (hover : executor.Overdue nowNs) :
    ∃ edges executor', executor.abort nowNs fault = .ok (edges, executor') ∧
      executor'.faultReport = (fault, executor.metrics.safetyStops + 1 + 1) := by
  obtain ⟨hfault, hreport⟩ := (outlook_spec h nowNs).1 hover
  have hnow : ¬nowNs < executor.nowNs := by
    intro hpast
    obtain ⟨last, hlast, -, hended⟩ := hover
    rw [h.segments_eq] at hlast
    have hsince := h.since_lt last (List.mem_of_getLast? hlast)
    have hlt := UInt64.lt_iff_toNat_lt.1 hpast
    omega
  have hadvance : executor.advanceTo nowNs = .ok (executor.poll nowNs) := by
    rw [advanceTo_eq, if_neg hnow, poll_of_le (UInt64.not_lt.1 hnow)]
  have hstops : (executor.poll nowNs).2.metrics.safetyStops = executor.metrics.safetyStops + 1 :=
    congrArg Prod.snd hreport
  generalize executor.poll nowNs = advanced at hadvance hstops
  obtain ⟨output, advanced⟩ := advanced
  unfold MotionExecutor.abort
  rw [if_neg (not_or.2 ⟨hnamed, hcause⟩), if_neg (not_not.2 hfault), hadvance]
  refine ⟨_, (advanced.stopSafely nowNs fault).2, rfl, ?_⟩
  rw [faultReport_stopSafely, if_neg hnamed]
  exact Prod.ext rfl (congrArg (· + 1) hstops)

/-- Any other stop behind a fault in the outlook is refused. -/
theorem abort_refused (h : Valid segments base executor) {fault : MotionFault} {atNs : UInt64}
    (hheld : (executor.outlook nowNs).1 ≠ .none) (hle : nowNs ≤ atNs)
    (hclosed : ¬(fault ≠ .none ∧ fault ≠ .queueUnderrun ∧ executor.Overdue atNs)) :
    ∃ e, executor.abort atNs fault = .error e := by
  unfold MotionExecutor.abort
  by_cases hcause : fault = .none ∨ fault = .queueUnderrun
  · rw [if_pos hcause]
    exact ⟨_, rfl⟩
  · obtain ⟨hnamed, hcause'⟩ := not_or.1 hcause
    rw [if_neg hcause, if_pos]
    · exact ⟨_, rfl⟩
    · intro hfault
      exact hclosed ⟨hnamed, hcause', (overdue_of_outlook h hheld hfault).mono hle⟩

/-- Catching up with a later time leaves a fault in the outlook. -/
theorem outlook_poll (h : Valid segments base executor) {atNs : UInt64}
    (hheld : (executor.outlook nowNs).1 ≠ .none) (hle : nowNs ≤ atNs) :
    (executor.poll atNs).2.outlook nowNs = executor.outlook nowNs := by
  obtain ⟨_, _, hfirst⟩ := h.poll_any nowNs
  obtain ⟨_, _, hsecond⟩ := h.poll_any atNs
  have hreport : (executor.poll atNs).2.faultReport = executor.outlook nowNs := by
    rw [poll_poll h hle]
    exact outlook_of_fault hfirst hheld atNs
  rw [← hreport]
  refine outlook_of_fault hsecond ?_ nowNs
  have hfault : (executor.poll atNs).2.fault = (executor.outlook nowNs).1 :=
    congrArg Prod.fst hreport
  rwa [hfault]

/-- A stop keeps the fault in the outlook exactly if the queue has not run dry before. -/
theorem abort_keepsFault_iff (h : Valid segments base executor) {fault : MotionFault}
    {atNs : UInt64} (hcall : executor' = match executor.abort atNs fault with
      | .ok (_, stopped) => stopped
      | .error _ => executor) :
    (∀ nowNs, (executor.outlook nowNs).1 ≠ .none → ¬atNs < nowNs →
      executor'.outlook nowNs = executor.outlook nowNs) ↔
    ¬(fault ≠ .none ∧ fault ≠ .queueUnderrun ∧ executor.Overdue atNs) := by
  constructor
  · rintro hkeeps ⟨hnamed, hcause, hover⟩
    obtain ⟨edges, stopped, habort, hreport⟩ := faultReport_abort h hnamed hcause hover
    obtain ⟨_, _, hvalid⟩ := h.abort habort
    rw [habort] at hcall
    subst hcall
    have hfault : executor'.fault ≠ .none := by
      rw [show executor'.fault = fault from congrArg Prod.fst hreport]
      exact hnamed
    have hbefore := ((outlook_spec h atNs).1 hover).2
    have hheld : (executor.outlook atNs).1 ≠ .none := by
      rw [hbefore]
      exact nofun
    have hsame := hkeeps atNs hheld (UInt64.lt_irrefl atNs)
    rw [outlook_of_fault hvalid hfault, hreport, hbefore] at hsame
    exact Firmware.add_one_ne _ (congrArg Prod.snd hsame)
  · intro hclosed nowNs hheld hle
    obtain ⟨e, herror⟩ := abort_refused h hheld (UInt64.not_lt.1 hle) hclosed
    rw [herror] at hcall
    rw [hcall]

/-- What holds between two calls. -/
def Sound (executor : MotionExecutor) : Prop :=
  ∃ segments base, Valid segments base executor ∧ QueueOrder executor

/-- Every call leaves a sound executor. -/
theorem Sound.call (h : Sound executor) {call : ExecutorCall} (htyped : call.Typed) :
    Sound (executor.call call).1 := by
  obtain ⟨_, _, hvalid, horder⟩ := h
  obtain ⟨segments, base, hvalid'⟩ := hvalid.call htyped
  exact ⟨segments, base, hvalid', horder.call hvalid htyped⟩

/-- A call keeps the fault in the outlook exactly if it is not a stop behind an underrun. -/
theorem keepsFault_iff (h : Sound executor) (call : ExecutorCall) :
    (∀ nowNs, machine.KeepsLatch (outlook · nowNs) (fun report => report.1 ≠ .none)
      (Releases nowNs) executor call) ↔ ¬executor.Overtakes call := by
  obtain ⟨segments, base, hvalid, horder⟩ := h
  unfold Machine.KeepsLatch
  cases call with
  | enqueue segment atNs =>
    refine ⟨fun _ => id, fun _ nowNs hheld hle => ?_⟩
    show (executor.enqueue segment atNs).2.outlook nowNs = _
    obtain hreject | ⟨runtime, hcheck, -⟩ :
        (executor.enqueue segment atNs).2 = executor.reject ∨ _ := enqueue_cases segment atNs
    -- A segment that is rejected leaves the fault and the queue as they were.
    · have hrejected : Valid segments base executor.reject :=
        ⟨hvalid.toScheduled.congr rfl rfl, hvalid.available, hvalid.lead, hvalid.stopped⟩
      rw [hreject]
      exact outlook_congr hvalid hrejected rfl rfl nowNs
    · -- The queue has not run dry, and a fault has not been recorded.
      have hover := overdue_of_outlook hvalid hheld (fault_of_checkSegment hcheck)
      exact absurd (hover.mono (UInt64.not_lt.1 hle))
        (not_overdue_of_checkSegment hvalid horder hcheck)
  | advanceTo atNs =>
    refine ⟨fun _ => id, fun _ nowNs hheld hle => ?_⟩
    have hcall : (executor.call (.advanceTo atNs)).1 = (executor.poll atNs).2 := by
      -- A poll is what the outlook has foreseen.
      unfold call poll
      dsimp only
      cases executor.advanceTo atNs <;> rfl
    show (executor.call (.advanceTo atNs)).1.outlook nowNs = _
    rw [hcall]
    exact outlook_poll hvalid hheld (UInt64.not_lt.1 hle)
  | abort atNs fault =>
    -- An abort overtakes an underrun that only its own catch-up would record.
    refine abort_keepsFault_iff hvalid ?_
    show (executor.call (.abort atNs fault)).1 = _
    unfold call
    dsimp only
    cases executor.abort atNs fault <;> rfl
  | triggerLimit axisResourceId atNs =>
    show (∀ nowNs, (executor.outlook nowNs).1 ≠ .none → ¬atNs < nowNs →
      (executor.triggerLimit axisResourceId atNs).2.outlook nowNs = executor.outlook nowNs) ↔
        ¬((requireAxis executor.axes axisResourceId).isSome ∧ executor.Overdue atNs)
    cases haxis : requireAxis executor.axes axisResourceId with
    | none =>
      -- Without such an axis, the call is rejected.
      refine ⟨fun _ h => absurd h.1 Bool.false_ne_true, fun _ nowNs _ _ => ?_⟩
      have hrejected : Valid segments base executor.reject :=
        ⟨hvalid.toScheduled.congr rfl rfl, hvalid.available, hvalid.lead, hvalid.stopped⟩
      have hcall : (executor.triggerLimit axisResourceId atNs).2 = executor.reject := by
        unfold triggerLimit
        rw [haxis]
      rw [hcall]
      exact outlook_congr hvalid hrejected rfl rfl nowNs
    | some axis =>
      -- With one, the stop is counted, and then the call is an abort.
      have hcounted : Valid segments base executor.countLimit :=
        ⟨hvalid.toScheduled.congr rfl rfl, hvalid.available, hvalid.lead, hvalid.stopped⟩
      have hsame : ∀ nowNs, executor.countLimit.outlook nowNs = executor.outlook nowNs :=
        outlook_congr hvalid hcounted rfl rfl
      have hcall : (executor.triggerLimit axisResourceId atNs).2 =
          match executor.countLimit.abort atNs .limitTriggered with
          | .ok (_, stopped) => stopped
          | .error _ => executor.countLimit := by
        have hisSome : (requireAxis executor.axes axisResourceId).isSome := by rw [haxis]; rfl
        rw [triggerLimit_of_isSome hisSome]
        cases executor.countLimit.abort atNs .limitTriggered <;> rfl
      have hiff := abort_keepsFault_iff hcounted hcall
      simp only [hsame] at hiff
      refine hiff.trans (not_congr ?_)
      exact ⟨fun h => ⟨rfl, h.2.2⟩, fun h => ⟨nofun, nofun, h.2⟩⟩
  | clearFault =>
    refine ⟨fun _ => id, fun _ nowNs _ hclosed => ?_⟩
    -- A call that does not clear the fault changes nothing.
    have hcall : (executor.call .clearFault).1 = executor := by
      unfold call
      dsimp only
      split
      · next hclear => exact absurd ⟨_, hclear⟩ hclosed
      · rfl
    exact congrArg (outlook · nowNs) hcall

/-- The fault of an executor is a latch in the runs in which no stop comes behind an underrun. -/
theorem faultLatched_iff (h : Sound executor) {calls : List ExecutorCall}
    (htyped : ∀ call ∈ calls, call.Typed) :
    FaultLatched executor calls ↔
      machine.Along (fun executor call => ¬executor.Overtakes call) executor calls := by
  unfold FaultLatched
  simp only [Machine.latched_iff_along]
  induction calls generalizing executor with
  | nil => exact ⟨fun _ => trivial, fun _ _ => trivial⟩
  | cons call calls ih =>
    have hrest := ih (h.call (htyped call List.mem_cons_self))
      fun call' hmem => htyped call' (List.mem_cons_of_mem _ hmem)
    exact forall_and.trans (and_congr (keepsFault_iff h call) hrest)

end MotionExecutor

end MockMcu

/-! ## Both executors -/

/-- The fault of the motion queue of the firmware, in any state to begin with, is a latch exactly if
no call is an abort with a fault; that of the motion executor of the mock, from its constructor on,
exactly if no stop is carried out behind an underrun that has not been recorded. -/
theorem fault_latched_iff {W : Type} (config : Firmware.MotionConfig) (io : Firmware.MotionIo W)
    (queue : Firmware.MotionQueue) (world : W) (ops : List (Firmware.MotionOp W))
    (sort : Sorter MockMcu.EdgeLe) (axes : List MockMcu.MotionAxisConfig) (capacity : ℕ)
    (lead : UInt64) (executor : MockMcu.MotionExecutor)
    (hcreate : MockMcu.MotionExecutor.create sort axes capacity lead = .ok executor)
    (calls : List MockMcu.ExecutorCall) (htyped : ∀ call ∈ calls, call.Typed) :
    (Firmware.FaultLatched config io ⟨queue, world⟩ ops ↔
      (Firmware.motionOutputs config io).Along (fun e op => ¬Firmware.AbortsFaulted e op)
        ⟨queue, world⟩ ops) ∧
    (MockMcu.MotionExecutor.FaultLatched executor calls ↔
      MockMcu.MotionExecutor.machine.Along (fun executor call => ¬executor.Overtakes call)
        executor calls) := by
  constructor
  · exact Firmware.faultLatched_iff
  · have hsound : executor.Sound :=
      ⟨_, _, (MockMcu.MotionExecutor.create_valid hcreate).1,
        MockMcu.MotionExecutor.create_queueOrder hcreate⟩
    exact MockMcu.MotionExecutor.faultLatched_iff hsound htyped

/-- Both executors stop for a request, and latch it. -/
theorem fault_latched_iff_aborted :
    Firmware.FaultLatched Firmware.testMotionConfig Firmware.steadyIo
        ⟨{ Firmware.MotionQueue.zero with axisCount := 1 }, ()⟩
        [.enqueue (Firmware.twoSteps 1 1000000 true) 0, .abort .limit, .tick 1000000] ∧
      MockMcu.MotionExecutor.FaultLatched
        { sort := MockMcu.stableSort, axes := [{ config := ⟨1, 500000, 1000, 1000, 2000⟩ }],
          queueCapacity := 4, minimumLeadTimeNs := 1 }
        [.enqueue ⟨1, 100, 8000, false, [⟨1, 2⟩]⟩ 0, .abort 8000 .aborted, .advanceTo 9000] := by
  have hboth := fault_latched_iff Firmware.testMotionConfig Firmware.steadyIo
    { Firmware.MotionQueue.zero with axisCount := 1 } ()
    [.enqueue (Firmware.twoSteps 1 1000000 true) 0, .abort .limit, .tick 1000000]
    MockMcu.stableSort [⟨1, 500000, 1000, 1000, 2000⟩] 4 1 _ rfl
    [.enqueue ⟨1, 100, 8000, false, [⟨1, 2⟩]⟩ 0, .abort 8000 .aborted, .advanceTo 9000]
    (by decide)
  exact ⟨hboth.1.2 (by decide +kernel), hboth.2.2 (by decide +kernel)⟩

/-- In the firmware an abort replaces the limit that has been latched; in the mock it replaces an
underrun that it runs into. -/
theorem fault_replaced_by_abort :
    (¬∀ (W : Type) (config : Firmware.MotionConfig) (io : Firmware.MotionIo W) (axisCount : UInt8)
      (queue : Firmware.MotionQueue), Firmware.MotionQueue.init config axisCount = some queue →
        ∀ (world : W) (ops : List (Firmware.MotionOp W)),
          Firmware.FaultLatched config io ⟨queue, world⟩ ops) ∧
    ¬∀ (sort : Sorter MockMcu.EdgeLe) (axes : List MockMcu.MotionAxisConfig) (capacity : ℕ)
      (lead : UInt64) (executor : MockMcu.MotionExecutor),
        MockMcu.MotionExecutor.create sort axes capacity lead = .ok executor →
          ∀ calls : List MockMcu.ExecutorCall, (∀ call ∈ calls, call.Typed) →
            MockMcu.MotionExecutor.FaultLatched executor calls := by
  constructor
  · intro h
    have hlatched := h Unit Firmware.testMotionConfig Firmware.steadyIo 1
      { Firmware.MotionQueue.zero with axisCount := 1 } rfl () [.abort .limit, .abort .aborted]
    have hreport := hlatched [.abort .limit] [.abort .aborted] (List.prefix_refl _)
      (by decide +kernel) ⟨id, trivial⟩
    revert hreport
    decide +kernel
  · intro h
    have hlatched := h MockMcu.stableSort [⟨1, 500000, 1000, 1000, 2000⟩] 4 1 _ rfl
      [.enqueue ⟨1, 100, 8000, false, [⟨1, 2⟩]⟩ 0, .abort 9000 .aborted] (by decide)
    have hreport := hlatched 9000 [.enqueue ⟨1, 100, 8000, false, [⟨1, 2⟩]⟩ 0]
      [.abort 9000 .aborted] (List.prefix_refl _) (by decide +kernel)
      ⟨UInt64.lt_irrefl 9000, trivial⟩
    revert hreport
    decide +kernel

end RemoteBSP
