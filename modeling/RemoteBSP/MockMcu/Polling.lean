import RemoteBSP.MockMcu.SegmentEdges

/-!
# Polling the executor

`advance_to` once and again. The loop of `advance_to` plays the segments of the queue (`play`), and
a segment that is played in two parts is played as a whole (`play_play`). So the loop can stop at
any time and go on later (`drain_drain`).
-/

namespace RemoteBSP.MockMcu

namespace MotionExecutor

variable (executor : MotionExecutor)

/-- The executor once it has begun a segment. -/
def running : MotionExecutor := { executor with state := .running }

/-- The executor with what is left of its queue. -/
def setQueue (queue : List SegmentRuntime) : MotionExecutor := { executor with queue := queue }

/-- A segment is played from one time to another: the edges, and the executor that has made them. -/
def play (segment : MotionSegment) (since until' : ℕ) : List MotionEdge × MotionExecutor :=
  let edges := inOrder (segmentEdges executor.axes segment since until')
  (edges, (executor.running.applyEdges edges).countEdges edges)

/-- The loop of `advance_to`, which emits the edges and drops the segments that are over. -/
def drain (nowNs : UInt64) : List MotionEdge × MotionExecutor :=
  advanceLoop nowNs executor.queue.length executor

/-- What the loop does behind a segment that has been played to its end. -/
def finish (nowNs : UInt64) (segment : MotionSegment) (rest : List SegmentRuntime) :
    List MotionEdge × MotionExecutor :=
  let endTime := segment.startTimeNs + segment.durationNs
  let executor := executor.completeSegment segment rest
  if segment.finalSegment then executor.stopSafely endTime .none
  else if rest = [] then executor.countUnderrun.stopSafely endTime .queueUnderrun
  else executor.drain nowNs

variable {executor} {segment : MotionSegment} {since until' : ℕ}

/-- Of the executor, playing a segment changes the state and the axes. -/
theorem play_snd (executor : MotionExecutor) (segment : MotionSegment) (since until' : ℕ) :
    (executor.play segment since until').2 = { executor with
      state := .running
      axes := executor.axes.map (playEdges (executor.play segment since until').1)
      metrics := { executor.metrics with
        emittedSteps := executor.metrics.emittedSteps +
          UInt64.ofNat (countRises (executor.play segment since until').1)
        emittedEdges := executor.metrics.emittedEdges +
          UInt64.ofNat (executor.play segment since until').1.length } } := by
  unfold play countEdges
  dsimp only
  rw [applyEdges_eq_play]
  rfl

/-- Playing a segment keeps the configurations of the axes. -/
theorem configsOf_play : configsOf (executor.play segment since until').2.axes =
    configsOf executor.axes := by
  rw [play_snd]
  exact configsOf_map (config_playEdges _) _

/-- A segment is played without the queue. -/
theorem play_setQueue (queue : List SegmentRuntime) :
    (executor.setQueue queue).play segment since until' =
      ((executor.play segment since until').1,
        (executor.play segment since until').2.setQueue queue) := by
  refine Prod.ext rfl ?_
  rw [play_snd, play_snd]
  rfl

/-- A segment that is played in two parts is played as a whole. -/
theorem play_play (hfits : SegmentFits (configsOf executor.axes) segment) {s t u : ℕ} (hst : s ≤ t)
    (htu : t ≤ u) (hstart : segment.startNs ≤ t) : executor.play segment s u =
      ((executor.play segment s t).1 ++ ((executor.play segment s t).2.play segment t u).1,
        ((executor.play segment s t).2.play segment t u).2) := by
  have hedges : (executor.play segment s u).1 =
      (executor.play segment s t).1 ++ ((executor.play segment s t).2.play segment t u).1 := by
    have hsplit := inOrder_segmentEdges hfits executor.axes hst htu
    rw [← segmentEdges_map (config_playEdges (executor.play segment s t).1) executor.axes hstart u]
      at hsplit
    have haxes : (executor.play segment s t).2.axes =
        executor.axes.map (playEdges (executor.play segment s t).1) := by
      rw [play_snd]
    calc (executor.play segment s u).1 = _ := hsplit
      _ = _ := by
        rw [← haxes]
        rfl
  have hwhole := play_snd executor segment s u
  have hfirst := play_snd executor segment s t
  have hsecond := play_snd (executor.play segment s t).2 segment t u
  refine Prod.ext hedges ?_
  rw [hwhole, hedges]
  generalize (executor.play segment s t).2.play segment t u = second at *
  generalize executor.play segment s t = first at *
  rw [hsecond, hfirst]
  -- The axes play one group of edges after the other, and the counters are added up.
  have haxes : playEdges (first.1 ++ second.1) = playEdges second.1 ∘ playEdges first.1 :=
    funext fun axis => playEdges_append _ _ axis
  have hrises : countRises (first.1 ++ second.1) = countRises first.1 + countRises second.1 :=
    List.countP_append
  rw [haxes, hrises, List.length_append, UInt64.ofNat_add, UInt64.ofNat_add, ← UInt64.add_assoc,
    ← UInt64.add_assoc]
  dsimp only
  rw [List.map_map]

/-! ## The loop -/

/-- The loop of `advance_to` leaves an empty queue as it is. -/
theorem drain_nil (h : executor.queue = []) (nowNs : UInt64) :
    executor.drain nowNs = ([], executor) := by
  unfold drain
  rw [h]
  rfl

/-- The first segment has not begun. -/
theorem drain_wait {current : SegmentRuntime} {rest : List SegmentRuntime}
    (hqueue : executor.queue = current :: rest) {nowNs : UInt64}
    (hwait : nowNs.toNat < current.segment.startNs) :
    executor.drain nowNs = ([], executor) := by
  unfold drain
  rw [hqueue, List.length_cons]
  unfold advanceLoop
  rw [hqueue]
  dsimp only
  rw [if_pos (UInt64.lt_iff_toNat_lt.2 hwait)]

/-- The edges of the first segment are made, and it is finished if its end has come. -/
theorem drain_begun {current : SegmentRuntime} {rest : List SegmentRuntime}
    (hqueue : executor.queue = current :: rest) {nowNs : UInt64}
    (hbegun : ¬nowNs < current.segment.startTimeNs) :
    executor.drain nowNs =
      let collected := executor.running.collectSegmentEdges current nowNs
      if nowNs < current.segment.startTimeNs + current.segment.durationNs then
        (collected.1, { collected.2.2 with queue := collected.2.1 :: rest })
      else
        (collected.1 ++ (collected.2.2.finish nowNs current.segment rest).1,
          (collected.2.2.finish nowNs current.segment rest).2) := by
  -- The loop has as many rounds as there are segments.
  have hlength : executor.queue.length = rest.length + 1 := by rw [hqueue, List.length_cons]
  unfold drain
  rw [hlength]
  unfold advanceLoop
  split
  · next hnil => rw [hqueue] at hnil; cases hnil
  next current' rest' hcons =>
  obtain ⟨rfl, rfl⟩ := List.cons.inj (hqueue.symm.trans hcons)
  rcases hcollect : ({ executor with state := .running } : MotionExecutor).collectSegmentEdges
    current nowNs with ⟨edges, current', executor'⟩
  have hrunning : executor.running.collectSegmentEdges current nowNs =
      (edges, current', executor') := hcollect
  have hsegment : current'.segment = current.segment :=
    (congrArg (fun collected => collected.2.1.segment) hcollect).symm
  rw [if_neg hbegun, hrunning]
  dsimp only
  rw [hsegment]
  by_cases hended : nowNs < current.segment.startTimeNs + current.segment.durationNs
  · rw [if_pos hended, if_pos hended]
  · rw [if_neg hended, if_neg hended]
    -- Behind its end the segment is finished by `finish`.
    unfold finish
    by_cases hfinal : current.segment.finalSegment = true
    · rw [if_pos hfinal]
      simp only [if_pos hfinal]
    · simp only [if_neg hfinal]
      by_cases hlast : rest = []
      · simp only [if_pos hlast]
      · simp only [if_neg hlast]
        rfl

/-- The first segment is played up to the time, or to its end. -/
theorem drain_cons {rest : List SegmentRuntime}
    (hqueue : executor.queue =
      playedSegment (configsOf executor.axes) segment since :: rest)
    (hfits : SegmentFits (configsOf executor.axes) segment) {nowNs : UInt64}
    (hstart : segment.startNs ≤ nowNs.toNat) (hsince : since ≤ nowNs.toNat)
    (hend : since ≤ segment.endNs) :
    executor.drain nowNs =
      if nowNs.toNat < segment.endNs then
        ((executor.play segment since nowNs.toNat).1,
          (executor.play segment since nowNs.toNat).2.setQueue
            (playedSegment (configsOf executor.axes) segment nowNs.toNat :: rest))
      else
        ((executor.play segment since segment.endNs).1 ++
          ((executor.play segment since segment.endNs).2.finish nowNs segment rest).1,
          ((executor.play segment since segment.endNs).2.finish nowNs segment rest).2) := by
  have hended : nowNs < segment.startTimeNs + segment.durationNs ↔ nowNs.toNat < segment.endNs := by
    rw [UInt64.lt_iff_toNat_lt, toNat_end hfits.end_lt]
  have hbegun : ¬nowNs < segment.startTimeNs := fun h =>
    not_le.2 (UInt64.lt_iff_toNat_lt.1 h) hstart
  have hcollect := collectSegmentEdges_played executor.running hfits (le_min hsince hend)
  have hplayed : executor.running.collectSegmentEdges
      (playedSegment (configsOf executor.axes) segment since) nowNs = _ := hcollect
  have hloop := drain_begun hqueue hbegun
  dsimp only at hloop
  rw [hplayed] at hloop
  rw [hloop]
  show (if nowNs < segment.startTimeNs + segment.durationNs then _ else _) = _
  by_cases hlt : nowNs.toNat < segment.endNs
  · rw [if_pos (hended.2 hlt), if_pos hlt, Nat.min_eq_left hlt.le]
    rfl
  · rw [if_neg (mt hended.1 hlt), if_neg hlt, Nat.min_eq_right (not_lt.1 hlt)]
    rfl

/-- A change of the executor that neither the edges nor the loop look at: it can be made before or
after what they do. -/
structure Unseen (change : MotionExecutor → MotionExecutor) : Prop where
  /-- The queue is not changed. -/
  queue : ∀ executor, (change executor).queue = executor.queue
  /-- What is left of the queue is put back before or after the change. -/
  setQueue : ∀ executor queue, (change executor).setQueue queue = change (executor.setQueue queue)
  /-- The edges of a segment are made before or after the change. -/
  collect : ∀ executor current nowNs, (change executor).running.collectSegmentEdges current nowNs =
    ((executor.running.collectSegmentEdges current nowNs).1,
      (executor.running.collectSegmentEdges current nowNs).2.1,
      change (executor.running.collectSegmentEdges current nowNs).2.2)
  /-- A segment is completed before or after the change. -/
  completeSegment : ∀ executor segment rest, (change executor).completeSegment segment rest =
    change (executor.completeSegment segment rest)
  /-- An underrun is counted before or after the change. -/
  countUnderrun : ∀ executor, (change executor).countUnderrun = change executor.countUnderrun
  /-- The outputs are turned off before or after the change. -/
  stopSafely : ∀ executor atNs fault, (change executor).stopSafely atNs fault =
    ((executor.stopSafely atNs fault).1, change (executor.stopSafely atNs fault).2)

/-- A change that the loop does not look at can be made before or after it. -/
theorem Unseen.drain {change : MotionExecutor → MotionExecutor} (h : Unseen change)
    (executor : MotionExecutor) (nowNs : UInt64) :
    (change executor).drain nowNs =
      ((executor.drain nowNs).1, change (executor.drain nowNs).2) := by
  generalize hqueue : executor.queue = queue
  induction queue generalizing executor with
  | nil => rw [drain_nil hqueue, drain_nil ((h.queue executor).trans hqueue)]
  | cons current rest ih =>
    have hqueue' : (change executor).queue = current :: rest := (h.queue executor).trans hqueue
    by_cases hbegun : nowNs < current.segment.startTimeNs
    · have hwait := UInt64.lt_iff_toNat_lt.1 hbegun
      rw [drain_wait hqueue hwait, drain_wait hqueue' hwait]
    · rw [drain_begun hqueue hbegun, drain_begun hqueue' hbegun]
      dsimp only
      rw [h.collect]
      generalize executor.running.collectSegmentEdges current nowNs = collected
      obtain ⟨edges, current', executor'⟩ := collected
      -- Behind the segment the executor is stopped, or goes on with the rest.
      have hfinish : (change executor').finish nowNs current.segment rest =
          ((executor'.finish nowNs current.segment rest).1,
            change (executor'.finish nowNs current.segment rest).2) := by
        unfold finish
        dsimp only
        rw [h.completeSegment]
        split
        · exact h.stopSafely _ _ _
        · split
          · rw [h.countUnderrun]
            exact h.stopSafely _ _ _
          · exact ih (executor'.completeSegment _ _) rfl
      dsimp only
      rw [hfinish]
      split
      · exact Prod.ext rfl (h.setQueue executor' _)
      · rfl

/-- The executor with its clock at another time. -/
def setNow (executor : MotionExecutor) (nowNs : UInt64) : MotionExecutor :=
  { executor with nowNs := nowNs }

/-- Edges are made at any time. -/
theorem applyEdges_setNow (executor : MotionExecutor) (nowNs : UInt64) (edges : List MotionEdge) :
    (executor.setNow nowNs).applyEdges edges = (executor.applyEdges edges).setNow nowNs := by
  rw [applyEdges_eq_play, applyEdges_eq_play]
  rfl

/-- The loop does not look at the clock of the executor. -/
theorem unseen_setNow (nowNs : UInt64) : Unseen (setNow · nowNs) where
  queue _ := rfl
  setQueue _ _ := rfl
  collect executor _ _ := Prod.ext rfl (Prod.ext rfl
    (congrArg (countEdges · _) (applyEdges_setNow executor.running nowNs _)))
  completeSegment _ _ _ := rfl
  countUnderrun _ := rfl
  stopSafely executor atNs fault := by
    have hsafe : (executor.setNow nowNs).enterSafeState atNs fault =
        ((executor.enterSafeState atNs fault).1,
          (executor.enterSafeState atNs fault).2.setNow nowNs) := by
      unfold enterSafeState
      dsimp only
      refine Prod.ext rfl ?_
      dsimp only
      split <;> rfl
    unfold MotionExecutor.stopSafely
    rw [hsafe]
    dsimp only
    rw [applyEdges_setNow]
    rfl

/-! ## Stopping in the middle -/

/-- The queue holds segments of which the edges up to a time have been made. -/
structure Playing (since : ℕ) (segments : List MotionSegment) (executor : MotionExecutor) :
    Prop where
  /-- The queue holds the segments, of which only the first one can have begun. -/
  queue : executor.queue =
    segments.map fun segment => playedSegment (configsOf executor.axes) segment since
  /-- Every segment in the queue has been checked by `enqueue`. -/
  fits : ∀ segment ∈ segments, SegmentFits (configsOf executor.axes) segment
  /-- Every segment in the queue is still to end. -/
  since_lt : ∀ segment ∈ segments, since < segment.endNs

/-- Behind the first segment come the others. -/
theorem Playing.complete {segments : List MotionSegment}
    (h : Playing since (segment :: segments) executor) (until' : ℕ) :
    Playing since segments (((executor.play segment since until').2).completeSegment segment
      (segments.map fun segment => playedSegment (configsOf executor.axes) segment since)) := by
  have hconfigs : configsOf ((executor.play segment since until').2.completeSegment segment
      (segments.map fun segment => playedSegment (configsOf executor.axes) segment since)).axes =
        configsOf executor.axes := configsOf_play
  constructor
  · rw [hconfigs]
    rfl
  · rw [hconfigs]
    exact fun segment' hmem => h.fits segment' (List.mem_cons_of_mem _ hmem)
  · exact fun segment' hmem => h.since_lt segment' (List.mem_cons_of_mem _ hmem)

/-- The loop goes on where it stopped. -/
theorem drain_drain {segments : List MotionSegment} (h : Playing since segments executor)
    {t u : UInt64} (hst : since ≤ t.toNat) (htu : t.toNat ≤ u.toNat) :
    executor.drain u = ((executor.drain t).1 ++ ((executor.drain t).2.drain u).1,
      ((executor.drain t).2.drain u).2) := by
  induction segments generalizing executor with
  | nil =>
    have hqueue := h.queue
    simp only [drain_nil hqueue, List.nil_append]
  | cons segment segments ih =>
    have hqueue := h.queue
    rw [List.map_cons] at hqueue
    have hfits := h.fits segment List.mem_cons_self
    have hleft := h.since_lt segment List.mem_cons_self
    rcases lt_or_ge t.toNat segment.startNs with hwait | hstart
    · rw [drain_wait hqueue hwait]
      rfl
    · rcases lt_or_ge t.toNat segment.endNs with hlt | hge
      · -- The segment is stopped in the middle.
        have hdrain := drain_cons hqueue hfits hstart hst hleft.le
        rw [if_pos hlt] at hdrain
        have hwhole := drain_cons hqueue hfits (hstart.trans htu) (hst.trans htu) hleft.le
        generalize segments.map (fun segment =>
          playedSegment (configsOf executor.axes) segment since) = rest at *
        have hconfigs : configsOf (executor.play segment since t.toNat).2.axes =
          configsOf executor.axes := configsOf_play
        have hqueue' : ((executor.play segment since t.toNat).2.setQueue
            (playedSegment (configsOf executor.axes) segment t.toNat :: rest)).queue =
          playedSegment (configsOf (executor.play segment since t.toNat).2.axes) segment t.toNat ::
            rest := by
          rw [hconfigs]
          rfl
        have hnext := drain_cons hqueue' (hconfigs ▸ hfits) (hstart.trans htu) htu hlt.le
        rw [play_setQueue, play_setQueue] at hnext
        rw [hdrain, hwhole, hnext]
        by_cases hlt' : u.toNat < segment.endNs
        · rw [if_pos hlt', if_pos hlt', play_play hfits hst htu hstart]
          dsimp only [setQueue]
          rw [hconfigs]
        · rw [if_neg hlt', if_neg hlt', play_play hfits hst hlt.le hstart, List.append_assoc]
          rfl
      · -- The segment is played to its end.
        have hdrain := drain_cons hqueue hfits hstart hst hleft.le
        rw [if_neg (not_lt.2 hge)] at hdrain
        have hdrain' := drain_cons hqueue hfits (hstart.trans htu) (hst.trans htu) hleft.le
        rw [if_neg (not_lt.2 (hge.trans htu))] at hdrain'
        have hcomplete := h.complete segment.endNs
        generalize executor.play segment since segment.endNs = played at *
        generalize segments.map (fun segment =>
          playedSegment (configsOf executor.axes) segment since) = rest at *
        -- The executor is stopped, or goes on.
        have hfinish : played.2.finish u segment rest =
            ((played.2.finish t segment rest).1 ++ ((played.2.finish t segment rest).2.drain u).1,
              ((played.2.finish t segment rest).2.drain u).2) := by
          have hstop : ∀ (executor : MotionExecutor) atNs fault,
              executor.stopSafely atNs fault = ((executor.stopSafely atNs fault).1 ++
                ((executor.stopSafely atNs fault).2.drain u).1,
                  ((executor.stopSafely atNs fault).2.drain u).2) := by
            intro executor atNs fault
            rw [drain_nil (stopSafely_spec executor atNs fault).1, List.append_nil]
          unfold finish
          dsimp only
          split
          · exact hstop _ _ _
          · split
            · exact hstop _ _ _
            · exact ih hcomplete
        rw [hdrain, hdrain', hfinish, List.append_assoc]

end MotionExecutor

end RemoteBSP.MockMcu
