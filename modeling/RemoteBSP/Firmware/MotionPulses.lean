import RemoteBSP.Firmware.MotionDda

/-!
# How long a step output stays low

The loop of `rbsp_motion_tick` ends the pulse of an axis and begins the next one in one iteration,
if a further step is due. This happens when a late tick has left more in the phase of an axis than
one step: the next tick lowers its step output and raises it at once (`repulses_iff`). A run keeps
each step output low for a tick exactly if none of its ticks finds such a backlog on an axis whose
pulse has not ended (`pulses_separate_iff`).
-/

namespace RemoteBSP.Firmware

variable {W : Type} {config : MotionConfig} {io : MotionIo W} {segment : MotionSegment}
  {d : UInt64} {q : MotionQueue} {nowNs : UInt64}

/-! ## Calls -/

/-- The calls contain the end of a pulse of an axis, and behind it the beginning of the next. -/
def Repulses (calls : List (MotionFault × MotionCall)) (axis : ℕ) : Prop :=
  [MotionCall.setStep axis false, .setStep axis true].Sublist (calls.map Prod.snd)

/-- The calls set no step output. -/
def Quiet (calls : List (MotionFault × MotionCall)) : Prop :=
  ∀ axis level, MotionCall.setStep axis level ∉ calls.map Prod.snd

/-- Calls of the callbacks among which STEP is never raised. -/
def Lowering (calls : List (MotionFault × MotionCall)) : Prop :=
  ∀ axis, MotionCall.setStep axis true ∉ calls.map Prod.snd

/-- Two things in order are in the first list, in the second one, or one in each. -/
theorem pair_sublist_append {α : Type} {x y : α} {l m : List α} :
    [x, y].Sublist (l ++ m) ↔ [x, y].Sublist l ∨ x ∈ l ∧ y ∈ m ∨ [x, y].Sublist m := by
  rw [List.sublist_append_iff]
  constructor
  · rintro ⟨front, back, hsplit, hfront, hback⟩
    match front, hsplit with
    | [], hsplit =>
      rw [List.nil_append] at hsplit
      exact .inr (.inr (hsplit ▸ hback))
    | [a], hsplit =>
      obtain ⟨rfl, rfl⟩ := List.cons.inj hsplit
      exact .inr (.inl ⟨List.singleton_sublist.1 hfront, List.singleton_sublist.1 hback⟩)
    | [a, b], hsplit =>
      obtain ⟨rfl, hrest⟩ := List.cons.inj hsplit
      obtain ⟨rfl, -⟩ := List.cons.inj hrest
      exact .inl hfront
    | a :: b :: c :: rest, hsplit =>
      have hlength := congrArg List.length hsplit
      simp at hlength
  · rintro (hfirst | ⟨hx, hy⟩ | hsecond)
    · exact ⟨[x, y], [], rfl, hfirst, List.nil_sublist _⟩
    · exact ⟨[x], [y], rfl, List.singleton_sublist.2 hx, List.singleton_sublist.2 hy⟩
    · exact ⟨[], [x, y], rfl, List.nil_sublist _, hsecond⟩

/-- A sublist of two begins with a member and ends with one. -/
theorem mem_of_pair_sublist {α : Type} {x y : α} {l : List α} (h : [x, y].Sublist l) :
    x ∈ l ∧ y ∈ l :=
  ⟨h.subset List.mem_cons_self, h.subset (List.mem_cons_of_mem _ List.mem_cons_self)⟩

/-- What comes before the loop sets no step output, and what comes behind begins no pulse. -/
theorem repulses_append {before behind : List (MotionFault × MotionCall)} (hbefore : Quiet before)
    (calls : List (MotionFault × MotionCall)) (hbehind : Lowering behind) (axis : ℕ) :
    Repulses (before ++ calls ++ behind) axis ↔ Repulses calls axis := by
  unfold Repulses
  rw [List.map_append, List.map_append, pair_sublist_append, pair_sublist_append]
  constructor
  · rintro ((hpair | ⟨hmem, -⟩ | hpair) | ⟨-, hmem⟩ | hpair)
    · exact absurd (mem_of_pair_sublist hpair).1 (hbefore axis false)
    · exact absurd hmem (hbefore axis false)
    · exact hpair
    · exact absurd hmem (hbehind axis)
    · exact absurd (mem_of_pair_sublist hpair).2 (hbehind axis)
  · exact fun hpair => .inl (.inr (.inr hpair))

/-- Calls that leave STEP alone do not raise it. -/
theorem Quiet.lowering {calls : List (MotionFault × MotionCall)} (h : Quiet calls) :
    Lowering calls := fun axis => h axis true

namespace MotionQueue

/-- The pulses that the loop ends. -/
theorem mem_lowerCalls {k axis : ℕ} {level : Bool} :
    MotionCall.setStep axis level ∈ (q.lowerCalls k).map Prod.snd ↔
      axis = k ∧ level = false ∧ q.stepHigh k = true := by
  unfold lowerCalls
  split
  · next hhigh =>
    rw [List.map_singleton, List.mem_singleton, MotionCall.setStep.injEq]
    exact ⟨fun h => ⟨h.1, h.2, hhigh⟩, fun h => ⟨h.1, h.2.1⟩⟩
  · next hlow => exact ⟨fun h => absurd h List.not_mem_nil, fun h => absurd h.2.2 hlow⟩

/-- The calls of an iteration are about its axis. -/
theorem mem_pulseCalls {k axis : ℕ} {level : Bool} :
    MotionCall.setStep axis level ∈ (pulseCalls segment d q k).map Prod.snd ↔
      axis = k ∧ (if level then Due segment d q k else q.stepHigh k = true) := by
  unfold pulseCalls
  rw [List.map_append, List.mem_append, mem_lowerCalls]
  cases level with
  | false =>
    rw [if_neg Bool.false_ne_true]
    constructor
    · rintro (⟨haxis, -, hhigh⟩ | hmem)
      · exact ⟨haxis, hhigh⟩
      · split at hmem
        · rw [List.map_singleton, List.mem_singleton] at hmem
          cases hmem
        · exact absurd hmem List.not_mem_nil
    · exact fun h => .inl ⟨h.1, rfl, h.2⟩
  | true =>
    rw [if_pos rfl]
    constructor
    · rintro (⟨-, hfalse, -⟩ | hmem)
      · cases hfalse
      · split at hmem
        · next hdue =>
          rw [List.map_singleton, List.mem_singleton, MotionCall.setStep.injEq] at hmem
          exact ⟨hmem.1, hdue⟩
        · exact absurd hmem List.not_mem_nil
    · rintro ⟨rfl, hdue⟩
      rw [if_pos hdue]
      exact .inr List.mem_cons_self

/-- An iteration ends a pulse and begins the next one if a step is due before the pulse has ended.
-/
theorem repulses_pulseCalls {k axis : ℕ} : Repulses (pulseCalls segment d q k) axis ↔
    axis = k ∧ q.stepHigh k = true ∧ Due segment d q k := by
  constructor
  · intro h
    obtain ⟨hlow, hhigh⟩ := mem_of_pair_sublist h
    obtain ⟨rfl, hstep⟩ := mem_pulseCalls.1 hlow
    exact ⟨rfl, hstep, (mem_pulseCalls.1 hhigh).2⟩
  · rintro ⟨rfl, hhigh, hdue⟩
    unfold Repulses pulseCalls lowerCalls
    rw [if_pos hhigh, if_pos hdue]
    exact .refl _

end MotionQueue

namespace Executor

open MotionQueue

/-- The calls of the loop are those of its iterations. -/
theorem mem_loopCalls {n axis : ℕ} {level : Bool} :
    MotionCall.setStep axis level ∈ (loopCalls segment d q n).map Prod.snd ↔
      axis < n ∧ (if level then Due segment d q axis else q.stepHigh axis = true) := by
  unfold loopCalls
  rw [List.map_flatMap, List.mem_flatMap]
  constructor
  · rintro ⟨k, hk, hmem⟩
    obtain ⟨rfl, hcall⟩ := mem_pulseCalls.1 hmem
    exact ⟨List.mem_range.1 hk, hcall⟩
  · rintro ⟨haxis, hcall⟩
    exact ⟨axis, List.mem_range.2 haxis, mem_pulseCalls.2 ⟨rfl, hcall⟩⟩

/-- The loop ends a pulse and begins the next one if one of its iterations does. -/
theorem repulses_loopCalls {n axis : ℕ} : Repulses (loopCalls segment d q n) axis ↔
    axis < n ∧ q.stepHigh axis = true ∧ Due segment d q axis := by
  induction n with
  | zero =>
    refine ⟨fun h => ?_, fun h => absurd h.1 (Nat.not_lt_zero axis)⟩
    exact absurd (mem_of_pair_sublist h).1 List.not_mem_nil
  | succ n ih =>
    have hsplit : Repulses (loopCalls segment d q (n + 1)) axis ↔
        Repulses (loopCalls segment d q n) axis ∨
          (MotionCall.setStep axis false ∈ (loopCalls segment d q n).map Prod.snd ∧
            MotionCall.setStep axis true ∈ (pulseCalls segment d q n).map Prod.snd) ∨
          Repulses (pulseCalls segment d q n) axis := by
      unfold Repulses
      rw [loopCalls_succ, List.map_append, pair_sublist_append]
    rw [hsplit, ih, repulses_pulseCalls, mem_loopCalls, mem_pulseCalls]
    constructor
    · rintro (⟨hlt, hrest⟩ | ⟨⟨hlt, -⟩, heq, -⟩ | ⟨rfl, hrest⟩)
      · exact ⟨hlt.trans (Nat.lt_succ_self n), hrest⟩
      · exact absurd heq hlt.ne
      · exact ⟨Nat.lt_succ_self _, hrest⟩
    · rintro ⟨hlt, hrest⟩
      rcases Nat.lt_succ_iff_lt_or_eq.1 hlt with hlt | rfl
      · exact .inl ⟨hlt, hrest⟩
      · exact .inr (.inr ⟨rfl, hrest⟩)

/-! ## The other parts of a tick -/

/-- The calls that have been made since are all of a kind. -/
def Calls (Q : List (MotionFault × MotionCall) → Prop) (e e' : Executor (Recorded W)) : Prop :=
  ∃ calls, e'.world.calls = e.world.calls ++ calls ∧ Q calls

/-- A function that does nothing calls nothing. -/
theorem Calls.refl {Q : List (MotionFault × MotionCall) → Prop} (hQ : Q [])
    (e : Executor (Recorded W)) : Calls Q e e :=
  ⟨[], (List.append_nil _).symm, hQ⟩

/-- The calls of two functions in a row are those of the first and then those of the second. -/
theorem Calls.trans {Q : List (MotionFault × MotionCall) → Prop}
    (hQ : ∀ calls calls', Q calls → Q calls' → Q (calls ++ calls'))
    {e e' e'' : Executor (Recorded W)} (h : Calls Q e e') (h' : Calls Q e' e'') :
    Calls Q e e'' := by
  obtain ⟨calls, hcalls, hkind⟩ := h
  obtain ⟨calls', hcalls', hkind'⟩ := h'
  refine ⟨calls ++ calls', ?_, hQ _ _ hkind hkind'⟩
  rw [hcalls', hcalls, List.append_assoc]

/-- Two sequences that leave STEP alone leave it alone one after the other. -/
theorem quiet_append (calls calls' : List (MotionFault × MotionCall)) (h : Quiet calls)
    (h' : Quiet calls') : Quiet (calls ++ calls') := by
  intro axis level hmem
  rw [List.map_append, List.mem_append] at hmem
  exact hmem.elim (h axis level) (h' axis level)

/-- Calls that begin no pulse after such calls. -/
theorem lowering_append (calls calls' : List (MotionFault × MotionCall)) (h : Lowering calls)
    (h' : Lowering calls') : Lowering (calls ++ calls') := by
  intro axis hmem
  rw [List.map_append, List.mem_append] at hmem
  exact hmem.elim (h axis) (h' axis)

/-- One call that is not about STEP leaves it alone. -/
theorem quiet_singleton {fault : MotionFault} {call : MotionCall}
    (h : ∀ axis level, call ≠ .setStep axis level) : Quiet [(fault, call)] := by
  intro axis level hmem
  exact h axis level (List.mem_singleton.1 hmem).symm

/-- One call that does not raise STEP raises it on no axis. -/
theorem lowering_singleton {fault : MotionFault} {call : MotionCall}
    (h : ∀ axis, call ≠ .setStep axis true) : Lowering [(fault, call)] := by
  intro axis hmem
  exact h axis (List.mem_singleton.1 hmem).symm

/-- Callbacks that succeed also do so when they write their calls down. -/
theorem recording_succeeds (h : io.Succeeds) (fault : MotionFault) :
    (recording io fault).Succeeds := by
  refine ⟨fun recorded axis enabled => h.setEnable recorded.world axis enabled,
    fun recorded axis positive => h.setDirection recorded.world axis positive,
    fun recorded axis level => h.setStep recorded.world axis level,
    fun read hread recorded axis => ?_⟩
  obtain ⟨limitActive, hlimit, rfl⟩ := Option.map_eq_some_iff.1 hread
  exact h.limitActive limitActive hlimit recorded.world axis

/-- The limit switches stop a tick: one is active while a segment is running. -/
def Blocked (io : MotionIo W) (e : Executor W) (axes : List ℕ) : Prop :=
  e.queue.state = .running ∧ limitReported io e.world axes = true

/-- Without limit switches none is active. -/
theorem limitReported_of_none (hlimit : io.limitActive = none) (world : W) (axes : List ℕ) :
    limitReported io world axes = false := by
  unfold limitReported
  cases axes with
  | nil => rfl
  | cons axis axes => rw [hlimit]

/-- The check of a limit switch passes unless the switch is active. -/
theorem checkLimit_pulse (hsucceeds : io.Succeeds) (fault : MotionFault)
    (e : Executor (Recorded W)) (axis : ℕ) :
    (checkLimit (recording io fault) e axis).Ends
      (fun e' => (∀ axes, Blocked io e.forget (axis :: axes) ↔ Blocked io e'.forget axes) ∧
        e'.queue = e.queue ∧ Calls Quiet e e')
      (fun exit => (∀ axes, Blocked io e.forget (axis :: axes)) ∧ Calls Quiet e exit.2) := by
  unfold checkLimit recording
  cases hlimit : io.limitActive with
  | none =>
    -- A board without limit switches reports nothing.
    refine ⟨fun axes => ?_, rfl, .refl nofun e⟩
    unfold Blocked
    rw [limitReported_of_none hlimit, limitReported_of_none hlimit]
  | some limitActive =>
    -- The switch is read, and its answer is that of the first axis.
    have hread := hsucceeds.limitActive limitActive hlimit e.world.world axis
    have hreported : ∀ axes, limitReported io e.world.world (axis :: axes) =
        ((limitActive e.world.world axis).1.2 ||
          limitReported io (limitActive e.world.world axis).2 axes) := by
      intro axes
      rw [limitReported, hlimit]
      dsimp only
      generalize limitActive e.world.world axis = reading at hread
      obtain ⟨⟨done, active⟩, world⟩ := reading
      obtain rfl : done = true := hread
      rfl
    dsimp only [Option.map_some]
    generalize limitActive e.world.world axis = reading at hread hreported
    obtain ⟨⟨done, active⟩, world⟩ := reading
    obtain rfl : done = true := hread
    have hcall : Calls Quiet e
        { e with world := e.world.record fault (.limitActive axis) world } :=
      ⟨_, rfl, quiet_singleton nofun⟩
    dsimp only at hreported ⊢
    split
    · next hactive =>
      refine ⟨fun axes => ⟨hactive.2, ?_⟩, hcall⟩
      show limitReported io e.world.world (axis :: axes) = true
      rw [hreported, hactive.1]
      rfl
    · next hpass =>
      refine ⟨fun axes => and_congr_right fun hrunning => ?_, rfl, hcall⟩
      have hinactive : active = false :=
        Bool.not_eq_true _ ▸ fun hactive => hpass ⟨hactive, hrunning⟩
      show limitReported io e.world.world (axis :: axes) = true ↔ _
      rw [hreported, hinactive]
      exact .rfl

/-- The checks of the limit switches pass unless one of them is active. -/
theorem checkLimits_pulse (hsucceeds : io.Succeeds) (axes : List ℕ) (e : Executor (Recorded W)) :
    (axes.foldlM (fun executor => checkLimit (recording io executor.queue.fault) executor) e).Ends
      (fun e' => ¬Blocked io e.forget axes ∧ e'.queue = e.queue ∧ Calls Quiet e e')
      (fun exit => Blocked io e.forget axes ∧ Calls Quiet e exit.2) := by
  induction axes generalizing e with
  | nil => exact ⟨fun h => Bool.noConfusion h.2, rfl, .refl nofun e⟩
  | cons axis axes ih =>
    rw [List.foldlM_cons]
    have hone : (checkLimit (recording io e.queue.fault) e axis).Ends _ _ :=
      checkLimit_pulse hsucceeds e.queue.fault e axis
    cases hcheck : checkLimit (recording io e.queue.fault) e axis with
    | error exit =>
      rw [hcheck] at hone
      exact ⟨hone.1 axes, hone.2⟩
    | ok e' =>
      rw [hcheck] at hone
      obtain ⟨hiff, hqueue, hcalls⟩ := hone
      refine (ih e').mono (fun e'' hend => ?_) fun exit hexit => ?_
      · exact ⟨mt (hiff axes).1 hend.1, hend.2.1.trans hqueue, hcalls.trans quiet_append hend.2.2⟩
      · exact ⟨(hiff axes).2 hexit.1, hcalls.trans quiet_append hexit.2⟩

variable (io) in
/-- The start of a segment sets no step output. -/
theorem openSegment_quiet (fault : MotionFault) (segment : MotionSegment)
    (e : Executor (Recorded W)) :
    (openSegment (recording io fault) segment e).Ends (Calls Quiet e)
      (fun exit => Calls Quiet e exit.2) := by
  -- One callback for each axis, in both loops.
  have hdirection : ∀ (e' : Executor (Recorded W)) (axis : ℕ), Calls Quiet e e' →
      (setAxisDirection (recording io fault) segment e' axis).Ends (Calls Quiet e)
        (fun exit => Calls Quiet e exit.2) := by
    intro e' axis he'
    unfold setAxisDirection
    rcases hset : io.setDirection e'.world.world axis (decide (segment.steps axis ≥ 0)) with
      ⟨done, world⟩
    dsimp only
    rw [recording_setDirection io fault hset]
    cases done
    · exact he'.trans quiet_append ⟨_, rfl, quiet_singleton nofun⟩
    · exact he'.trans quiet_append ⟨_, rfl, quiet_singleton nofun⟩
  have henable : ∀ (e' : Executor (Recorded W)) (axis : ℕ), Calls Quiet e e' →
      (setAxisEnabled (recording io fault) segment e' axis).Ends (Calls Quiet e)
        (fun exit => Calls Quiet e exit.2) := by
    intro e' axis he'
    unfold setAxisEnabled
    rcases hset : io.setEnable e'.world.world axis (segment.steps axis != 0) with ⟨done, world⟩
    dsimp only
    rw [recording_setEnable io fault hset]
    split
    · exact he'
    · cases done
      · exact he'.trans quiet_append ⟨_, rfl, quiet_singleton nofun⟩
      · exact he'.trans quiet_append ⟨_, rfl, quiet_singleton nofun⟩
  have hreset : ∀ queue, Calls Quiet e (e.withQueue queue) :=
    fun _ => ⟨[], (List.append_nil _).symm, nofun⟩
  unfold openSegment
  split
  · unfold startSegment
    dsimp only
    refine (List.range_foldlM_ends (P := fun _ e' => Calls Quiet e e')
      (fun k e' _ he' => hdirection e' k he') (hreset _)).bind fun directed hdirected => ?_
    exact (List.range_foldlM_ends (P := fun _ e' => Calls Quiet e e')
      (fun k e' _ he' => henable e' k he') hdirected).bind fun _ henabled => henabled
  · exact .refl nofun e

variable (io) in
/-- Stopping the outputs begins no pulse. -/
theorem stopOutputs_lowering (fault : MotionFault) (e : Executor (Recorded W)) :
    Calls Lowering e (stopOutputs (recording io fault) e) := by
  unfold stopOutputs
  generalize List.range e.queue.axisCount.toNat = axes
  induction axes generalizing e with
  | nil => exact .refl nofun e
  | cons axis axes ih =>
    refine Calls.trans lowering_append ?_ (ih _)
    unfold stopAxis
    dsimp only
    -- Each of the two calls is made or not.
    have hlower : ∀ queue, Calls Lowering e ⟨queue, e.world.record fault (.setStep axis false)
        (io.setStep e.world.world axis false).2⟩ :=
      fun _ => ⟨_, rfl, lowering_singleton nofun⟩
    have hdisable : ∀ (e' : Executor (Recorded W)) (queue : MotionQueue), Calls Lowering e'
        ⟨queue, e'.world.record fault (.setEnable axis false)
          (io.setEnable e'.world.world axis false).2⟩ :=
      fun _ _ => ⟨_, rfl, lowering_singleton nofun⟩
    split
    · split
      · exact (hlower _).trans lowering_append (hdisable _ _)
      · exact hlower _
    · split
      · exact hdisable e _
      · exact .refl nofun e

/-- The end of a tick begins no pulse. -/
theorem finishTickWith_lowering (segment : MotionSegment) (e : Executor (Recorded W))
    (allEmitted : Bool) (nowNs : UInt64) :
    Calls Lowering e (finishTickWith config (recording io) segment e allEmitted nowNs).2 := by
  unfold finishTickWith
  dsimp only
  split
  · split
    · exact .refl nofun e
    · next queue _ =>
      split
      · exact stopOutputs_lowering io queue.fault (e.withQueue queue)
      · exact .refl nofun e
  · split
    · exact stopOutputs_lowering io _ (e.withQueue _)
    · exact .refl nofun e

/-! ## The tick -/

/-- A tick begins the next pulse of an axis right behind the end of the one before: the tick comes
to the axis, whose pulse has not ended, and the phase of the axis has a further step. -/
def PulsesAgain (io : MotionIo W) (e : Executor W) (nowNs : UInt64) (axis : ℕ) : Prop :=
  e.queue.fault = .none ∧ ¬Blocked io e (List.range e.queue.axisCount.toNat) ∧
    ∃ segment ∈ e.queue.front, ¬(e.queue.state = .armed ∧ nowNs < segment.startTimeNs) ∧
      axis < e.queue.axisCount.toNat ∧
      (∀ a ≤ axis, ¬Overflows segment
        (deltaNs segment (e.queue.opening segment).activeLastTickNs nowNs)
        (e.queue.opening segment) a) ∧
      e.queue.stepHigh axis = true ∧
      Due segment (deltaNs segment (e.queue.opening segment).activeLastTickNs nowNs)
        (e.queue.opening segment) axis

/-- Only the axes there are begin pulses. -/
theorem PulsesAgain.axis_lt {e : Executor W} {axis : ℕ} (h : PulsesAgain io e nowNs axis) :
    axis < e.queue.axisCount.toNat := by
  obtain ⟨-, -, _, -, -, haxis, -⟩ := h
  exact haxis

/-- Behind a part of a tick whose calls are given, calls that begin no pulse change nothing. -/
theorem repulses_of_lowering {e e' : Executor (Recorded W)} {axis : ℕ} (h : Calls Lowering e e') :
    Repulses e'.world.calls axis ↔ Repulses e.world.calls axis := by
  obtain ⟨calls, hcalls, hlowering⟩ := h
  have hquiet : Quiet [] := nofun
  have happend := repulses_append hquiet e.world.calls hlowering axis
  rw [List.nil_append] at happend
  rw [hcalls, happend]

/-- Calls that begin no pulse do not begin one behind another. -/
theorem not_repulses {calls : List (MotionFault × MotionCall)} (h : Lowering calls) (axis : ℕ) :
    ¬Repulses calls axis := fun hpair => h axis (mem_of_pair_sublist hpair).2

/-- What a tick does between the checks of the limit switches and its end. -/
theorem emitSteps_repulses (hsucceeds : io.Succeeds) {e opened : Executor (Recorded W)}
    (hquiet : Quiet opened.world.calls) (hopened : ReadsAs (e.queue.opening segment) opened)
    (nowNs : UInt64) {axis : ℕ} {P : Prop}
    (hP : P ↔ axis < e.queue.axisCount.toNat ∧
      (∀ a ≤ axis, ¬Overflows segment
        (deltaNs segment (e.queue.opening segment).activeLastTickNs nowNs)
        (e.queue.opening segment) a) ∧
      (e.queue.opening segment).stepHigh axis = true ∧
      Due segment (deltaNs segment (e.queue.opening segment).activeLastTickNs nowNs)
        (e.queue.opening segment) axis) :
    (emitSteps (recording io .none) segment opened nowNs).Ends
      (fun r => Repulses r.1.world.calls axis ↔ P)
      (fun exit => Repulses exit.2.world.calls axis ↔ P) := by
  -- To open the segment changes neither the axes nor the outputs.
  have hn : opened.queue.axisCount.toNat = e.queue.axisCount.toNat := by
    rw [hopened.axisCount]
    unfold MotionQueue.opening
    split <;> rfl
  obtain ⟨hreadings, hlast, -⟩ := hopened
  generalize e.queue.opening segment = q at *
  generalize hd : deltaNs segment q.activeLastTickNs nowNs = d at *
  have hhigh : opened.queue.stepHigh axis = q.stepHigh axis :=
    congrArg (fun reading => reading.2.2) (hreadings axis)
  -- The loop pulses the axes that it has been through, each for itself.
  have hloop : ∀ k, Repulses (opened.world.calls ++ loopCalls segment d opened.queue k) axis ↔
      axis < k ∧ q.stepHigh axis = true ∧ Due segment d q axis := by
    intro k
    have hbehind : Lowering [] := nofun
    have happend := repulses_append hquiet (loopCalls segment d opened.queue k) hbehind axis
    rw [List.append_nil] at happend
    rw [happend, repulses_loopCalls, due_congr (hreadings axis), hhigh]
  refine (emitSteps_pulse segment opened nowNs (hlast ▸ hd) hn).mono ?_ ?_
  -- The loop has been through all axes.
  · rintro r ⟨hfits, -, hcalls, -⟩
    rw [hcalls, hloop, hP]
    refine and_congr_right fun haxis => (and_iff_right ?_).symm
    exact fun a ha => mt (overflows_congr (hreadings a)).2 (hfits a (ha.trans_lt haxis))
  · rintro exit (⟨k, hk, hover, hfits, -, hcalls⟩ | ⟨hfailed, -⟩)
    -- An axis overflows, and the pulses that are lowered behind it begin none.
    · have hlower : Lowering (opened.queue.lowerCalls k) := by
        intro a hmem
        exact Bool.noConfusion (mem_lowerCalls.1 hmem).2.1
      have hnothing : Quiet [] := nofun
      have happend := repulses_append hnothing
        (opened.world.calls ++ loopCalls segment d opened.queue k) hlower axis
      rw [List.nil_append] at happend
      rw [hcalls, happend, hloop, hP]
      constructor
      · rintro ⟨hlt, hrest⟩
        refine ⟨hlt.trans hk, fun a ha => ?_, hrest⟩
        exact mt (overflows_congr (hreadings a)).2 (hfits a (ha.trans_lt hlt))
      · rintro ⟨-, hnone, hrest⟩
        refine ⟨not_le.1 fun hle => ?_, hrest⟩
        exact hnone k hle ((overflows_congr (hreadings k)).1 hover)
    · exact absurd hsucceeds hfailed

variable (config) in
/-- The part of a tick behind its check of the fault begins pulses as its state says. -/
theorem runTickWith_repulses (hsucceeds : io.Succeeds) (e : Executor W)
    (hfault : e.queue.fault = .none) (nowNs : UInt64) (axis : ℕ) :
    (runTickWith config (recording io) ⟨e.queue, e.world, []⟩ nowNs).Ends
      (fun r => Repulses r.2.world.calls axis ↔ PulsesAgain io e nowNs axis)
      (fun exit => Repulses exit.2.world.calls axis ↔ PulsesAgain io e nowNs axis) := by
  unfold runTickWith
  have hlimits : ((List.range e.queue.axisCount.toNat).foldlM (fun executor =>
      checkLimit (recording io executor.queue.fault) executor) ⟨e.queue, e.world, []⟩).Ends _ _ :=
    checkLimits_pulse hsucceeds (List.range e.queue.axisCount.toNat) ⟨e.queue, e.world, []⟩
  -- Without a pulse that begins.
  have hnone : ∀ {e' : Executor (Recorded W)}, Calls Lowering ⟨e.queue, e.world, []⟩ e' →
      ¬PulsesAgain io e nowNs axis →
        (Repulses e'.world.calls axis ↔ PulsesAgain io e nowNs axis) := by
    rintro e' ⟨calls, hcalls, hlowering⟩ hnot
    rw [hcalls]
    exact iff_of_false (not_repulses hlowering axis) hnot
  have hlowering : ∀ {e' : Executor (Recorded W)}, Calls Quiet ⟨e.queue, e.world, []⟩ e' →
      Calls Lowering ⟨e.queue, e.world, []⟩ e' :=
    fun ⟨calls, hcalls, hquiet⟩ => ⟨calls, hcalls, hquiet.lowering⟩
  refine Except.Ends.bind (hlimits.mono (fun _ => id) fun exit hexit => ?_)
    fun checked hchecked => ?_
  · exact hnone (hlowering hexit.2) fun h => h.2.1 hexit.1
  obtain ⟨hopen, hqueue, hquiet⟩ := hchecked
  have hqueue : checked.queue = e.queue := hqueue
  rw [hqueue]
  cases hfront : e.queue.front with
  | none =>
    refine hnone ((hlowering hquiet).trans lowering_append (stopOutputs_lowering io _ checked)) ?_
    rintro ⟨-, -, segment, hsegment, -⟩
    rw [hfront] at hsegment
    cases hsegment
  | some segment =>
    dsimp only
    by_cases hearly : e.queue.state = .armed ∧ nowNs < segment.startTimeNs
    · rw [if_pos hearly]
      refine hnone (hlowering hquiet) ?_
      rintro ⟨-, -, segment', hsegment, hdue, -⟩
      rw [hfront] at hsegment
      obtain rfl := Option.some.inj hsegment
      exact hdue hearly
    rw [if_neg hearly]
    -- An axis is pulsed again as the state with the segment opened says.
    have hP : PulsesAgain io e nowNs axis ↔ axis < checked.queue.axisCount.toNat ∧
        (∀ a ≤ axis, ¬Overflows segment
          (deltaNs segment (checked.queue.opening segment).activeLastTickNs nowNs)
          (checked.queue.opening segment) a) ∧
        (checked.queue.opening segment).stepHigh axis = true ∧
        Due segment (deltaNs segment (checked.queue.opening segment).activeLastTickNs nowNs)
          (checked.queue.opening segment) axis := by
      rw [hqueue]
      have hhigh : (e.queue.opening segment).stepHigh axis = e.queue.stepHigh axis := by
        unfold MotionQueue.opening
        split <;> rfl
      unfold PulsesAgain
      rw [hfront, hhigh]
      constructor
      · rintro ⟨-, -, segment', hsegment, -, hrest⟩
        obtain rfl := Option.some.inj hsegment
        exact hrest
      · exact fun hrest => ⟨hfault, hopen, segment, rfl, hearly, hrest⟩
    have hring := openSegment_ring (recording io e.queue.fault) segment checked
    have hopened := openSegment_quiet io e.queue.fault segment checked
    have hreads := openSegment_readsAs (recording io e.queue.fault) segment checked
    have hrecording : (recording io e.queue.fault).Succeeds := recording_succeeds hsucceeds _
    -- To open the segment leaves STEP alone and cannot fail.
    cases hresult : openSegment (recording io e.queue.fault) segment checked with
    | error exit =>
      rw [hresult] at hreads
      exact absurd hrecording hreads.1
    | ok opened =>
      rw [hresult] at hring hopened hreads
      have hstill : opened.queue.fault = .none :=
        ((MotionQueue.fault_of_ring hring).trans (congrArg MotionQueue.fault hqueue)).trans hfault
      obtain ⟨calls, hcalls, hkind⟩ := hquiet.trans quiet_append hopened
      have hquiet' : Quiet opened.world.calls := by
        rw [hcalls]
        exact hkind
      simp only [bind, Except.bind]
      rw [hstill]
      -- The loop over the axes does the rest, and behind it no pulse begins.
      refine (emitSteps_repulses hsucceeds hquiet' hreads nowNs hP).bind ?_
      intro r hr
      exact (repulses_of_lowering (finishTickWith_lowering segment r.1 r.2 nowNs)).trans hr

variable (config) in
/-- A tick ends a pulse of an axis and begins the next one exactly if a step is due too early. -/
theorem repulses_iff (hsucceeds : io.Succeeds) (e : Executor W) (nowNs : UInt64) (axis : ℕ) :
    Repulses (tickCalls config io e nowNs) axis ↔ PulsesAgain io e nowNs axis := by
  unfold tickCalls tickWith
  by_cases hfault : e.queue.fault = .none
  · rw [if_neg (not_not.2 hfault)]
    have hrun := runTickWith_repulses config hsucceeds e hfault nowNs axis
    cases hresult : runTickWith config (recording io) ⟨e.queue, e.world, []⟩ nowNs with
    | ok result =>
      rw [hresult] at hrun
      exact hrun
    | error exit =>
      rw [hresult] at hrun
      refine Iff.trans ?_ hrun
      exact repulses_of_lowering (stopOutputs_lowering io _ (exit.2.withQueue _))
  · rw [if_pos hfault]
    refine iff_of_false ?_ fun h => hfault h.1
    obtain ⟨calls, hcalls, hlowering⟩ :=
      stopOutputs_lowering io e.queue.fault ⟨e.queue, e.world, []⟩
    rw [hcalls]
    exact not_repulses hlowering axis

end Executor

/-! ## Runs -/

/-- A tick does not end the pulse of an axis and begin the next one. -/
def PulsesSeparate (config : MotionConfig) (io : MotionIo W) (e : Executor W) :
    MotionOp W → Prop
  | .tick nowNs => ∀ axis, ¬Repulses (tickCalls config io e nowNs) axis
  | .enqueue _ _ | .abort _ | .clearFault _ | .completeFront | .environment _ => True

/-- A tick finds no axis high that has a further step due. -/
def NoBacklog (io : MotionIo W) (e : Executor W) : MotionOp W → Prop
  | .tick nowNs => ∀ axis < e.queue.axisCount.toNat, ¬Executor.PulsesAgain io e nowNs axis
  | .enqueue _ _ | .abort _ | .clearFault _ | .completeFront | .environment _ => True

/-- Whether an axis ends one pulse and begins the next in a tick is decided by evaluation. -/
instance (io : MotionIo W) (e : Executor W) (nowNs : UInt64) (axis : ℕ) :
    Decidable (Executor.PulsesAgain io e nowNs axis) :=
  have : Decidable (Executor.Blocked io e (List.range e.queue.axisCount.toNat)) :=
    inferInstanceAs (Decidable (_ ∧ _))
  inferInstanceAs (Decidable (_ ∧ _ ∧ ∃ segment ∈ e.queue.front, _))

/-- Whether a tick finds a backlog is decided by evaluation. -/
instance (io : MotionIo W) (e : Executor W) : DecidablePred (NoBacklog io e)
  | .tick _ => inferInstanceAs (Decidable (∀ axis < e.queue.axisCount.toNat, _))
  | .enqueue _ _ => inferInstanceAs (Decidable True)
  | .abort _ => inferInstanceAs (Decidable True)
  | .clearFault _ => inferInstanceAs (Decidable True)
  | .completeFront => inferInstanceAs (Decidable True)
  | .environment _ => inferInstanceAs (Decidable True)

/-- In a run whose callbacks succeed, no tick ends the pulse of an axis and begins the next one
exactly if no tick finds an axis high that has a further step due. -/
theorem pulses_separate_iff (config : MotionConfig) (io : MotionIo W) (hsucceeds : io.Succeeds)
    (queue : MotionQueue) (world : W) (ops : List (MotionOp W)) :
    (motionOutputs config io).Along (PulsesSeparate config io) ⟨queue, world⟩ ops ↔
      (motionOutputs config io).Along (NoBacklog io) ⟨queue, world⟩ ops := by
  generalize (⟨queue, world⟩ : Executor W) = e
  induction ops generalizing e with
  | nil => exact .rfl
  | cons op ops ih =>
    refine and_congr ?_ (ih _)
    cases op with
    | tick nowNs =>
      have hone := Executor.repulses_iff config hsucceeds e nowNs
      constructor
      · exact fun h axis _ hagain => h axis ((hone axis).2 hagain)
      · intro h axis hpair
        have hagain : Executor.PulsesAgain io e nowNs axis := (hone axis).1 hpair
        exact h axis hagain.axis_lt hagain
    | enqueue | abort | clearFault | completeFront | environment => exact .rfl

/-- Two steps with a tick for each end of each pulse keep their pulses apart. -/
theorem pulses_separate_in_time :
    (motionOutputs testMotionConfig steadyIo).Along (PulsesSeparate testMotionConfig steadyIo)
      ⟨{ MotionQueue.zero with axisCount := 1 }, ()⟩
      [.enqueue (twoSteps 1 1000000 true) 0, .tick 1000000, .tick 1050000, .tick 1060000,
        .tick 1100000, .tick 1110000] :=
  (pulses_separate_iff testMotionConfig steadyIo steadyIo_succeeds _ () _).2 (by decide +kernel)

/-- Two steps of which the first one is late: the tick that ends its pulse begins the second one. -/
theorem pulses_joined_when_late :
    ¬ ∀ (config : MotionConfig) (axisCount : UInt8) (queue : MotionQueue),
      MotionQueue.init config axisCount = some queue → ∀ ops : List (MotionOp Unit),
        (motionOutputs config steadyIo).Along (PulsesSeparate config steadyIo) ⟨queue, ()⟩ ops := by
  intro h
  have hrun := h testMotionConfig 1 { MotionQueue.zero with axisCount := 1 } rfl
    [.enqueue (twoSteps 1 1000000 true) 0, .tick 1000000, .tick 1100000, .tick 1100010]
  have hlast := hrun.2.2.2.1 0
  unfold Repulses at hlast
  revert hlast
  decide +kernel

end RemoteBSP.Firmware
