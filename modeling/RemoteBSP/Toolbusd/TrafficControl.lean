import Mathlib.Data.Rat.Lemmas
import Mathlib.Algebra.Order.Ring.Rat
import Mathlib.Data.Fin.VecNotation
import RemoteBSP.Lib.Machine
import RemoteBSP.Lib.TokenBucket

/-!
# The admission of packets to the bus

`toolbusd/src/traffic_control.cpp`: the time that a packet takes on the bus is estimated, and is
taken from the bucket of its class and from the bucket of all classes. The buckets are of exact
numbers, in place of `long double`. Times are integers; the sums and differences of `std::chrono`
are those of integers as long as they fit into its counts of nanoseconds.

In every interval the packets whose admission is enforced take no more time than their buckets allow
(`token_bucket_bound`). Each bucket is a `TokenBucket`, and each call spends from it
(`admit_spends`).
-/

namespace RemoteBSP.Toolbusd

/-- `TrafficBusMode`, which decides what a frame costs. -/
inductive TrafficBusMode
  | classical
  | canFd
deriving DecidableEq, Repr

/-- `TrafficClass`, the purposes that packets are sent for. `count` is no class, and throws. -/
inductive TrafficClass
  | safety
  | motion
  | system
  | interactive
  | streaming
  | bulk
  | count
deriving DecidableEq, Repr

/-- `kTrafficClassCount`, the number of the classes. -/
abbrev kTrafficClassCount : ℕ := 6

/-- `TrafficConfig`, the bus and what may be used of it. -/
structure TrafficConfig where
  /-- Whether frames are classical or FD. -/
  mode : TrafficBusMode := .classical
  /-- The bit rate of the arbitration phase. -/
  arbitrationBitsPerSecond : UInt32 := 1000000
  /-- The bit rate of the data phase of FD frames. -/
  dataBitsPerSecond : UInt32 := 1000000
  /-- The part of the time that all classes together may use, in thousandths. -/
  maximumUtilizationPermille : UInt16 := 700
  /-- The window that a burst may fill, in milliseconds. -/
  burstWindow : ℤ := 250
  /-- The part of the time that each class may use. -/
  classLimitPermille : Fin kTrafficClassCount → UInt16 := ![1000, 500, 250, 500, 200, 100]

/-- `CanFrameCost`, what a frame takes on the wire at most. -/
structure CanFrameCost where
  /-- The bits of the nominal phase. -/
  nominalPhaseBits : UInt16
  /-- The bits of the data phase. -/
  dataPhaseBits : UInt16
  /-- The time on the wire, in nanoseconds. -/
  wireTimeNs : ℕ
  /-- The length of its data on the wire, padding included. -/
  wirePayloadLength : UInt8
deriving DecidableEq, Repr

/-- `TrafficError`, the reasons for which the controller throws. -/
inductive TrafficError
  | invalidConfiguration
  | invalidFrameLength
deriving DecidableEq, Repr

/-- `TrafficException`, a reason with its text. -/
structure TrafficException where
  /-- Whether the configuration or the length of a frame is at fault. -/
  code : TrafficError
  /-- The text of `what`, which names the value at fault. -/
  message : String
deriving DecidableEq, Repr

/-- `divide_round_up`, without overflow. -/
def divideRoundUp (numerator denominator : ℕ) : ℕ :=
  numerator / denominator + if numerator % denominator ≠ 0 then 1 else 0

/-- `canonical_fd_length`, which throws if no frame is long enough. -/
def canonicalFdLength (length : ℕ) : Except TrafficException ℕ :=
  if length ≤ 8 then .ok length
  else
    match [12, 16, 20, 24, 32, 48, 64].find? fun candidate => length ≤ candidate with
    | some candidate => .ok candidate
    | none => .error ⟨.invalidFrameLength, "CAN-FD 帧载荷超过 64 字节"⟩

/-- `class_index`, which throws for `count`. -/
def classIndex : TrafficClass → Except TrafficException (Fin kTrafficClassCount)
  | .safety => .ok 0
  | .motion => .ok 1
  | .system => .ok 2
  | .interactive => .ok 3
  | .streaming => .ok 4
  | .bulk => .ok 5
  | .count => .error ⟨.invalidConfiguration, "CAN 业务类别无效"⟩

/-- `estimate_can_frame_cost`, with the most stuff bits that there can be. -/
def estimateCanFrameCost (mode : TrafficBusMode) (payloadLength : ℕ)
    (arbitrationBitsPerSecond dataBitsPerSecond : UInt32) (bitRateSwitch : Bool) :
    Except TrafficException CanFrameCost :=
  if arbitrationBitsPerSecond = 0 ∨ dataBitsPerSecond = 0 then
    .error ⟨.invalidConfiguration, "CAN 位速率必须大于零"⟩
  else
    match mode with
    | .classical =>
      if payloadLength > 8 then
        .error ⟨.invalidFrameLength, "Classical CAN 帧载荷超过 8 字节"⟩
      else
        let stuffedRegionBits := 34 + payloadLength * 8
        let stuffBits := if stuffedRegionBits = 0 then 0 else (stuffedRegionBits - 1) / 4
        let totalBits := 47 + payloadLength * 8 + stuffBits
        .ok {
          nominalPhaseBits := UInt16.ofNat totalBits
          dataPhaseBits := 0
          wireTimeNs := divideRoundUp (totalBits * 1000000000) arbitrationBitsPerSecond.toNat
          wirePayloadLength := UInt8.ofNat payloadLength }
    | .canFd => do
      let wireLength ← canonicalFdLength payloadLength
      let crcBits := if wireLength ≤ 16 then 17 else 21
      let rawDataPhaseBits := wireLength * 8 + crcBits
      let dataPhaseBits := rawDataPhaseBits + divideRoundUp rawDataPhaseBits 4 + 4
      let nominalPhaseBits := 43
      let effectiveDataRate :=
        if bitRateSwitch then dataBitsPerSecond else arbitrationBitsPerSecond
      return {
        nominalPhaseBits := UInt16.ofNat nominalPhaseBits
        dataPhaseBits := UInt16.ofNat dataPhaseBits
        wireTimeNs :=
          divideRoundUp (nominalPhaseBits * 1000000000) arbitrationBitsPerSecond.toNat +
            divideRoundUp (dataPhaseBits * 1000000000) effectiveDataRate.toNat
        wirePayloadLength := UInt8.ofNat wireLength }

/-- `TrafficClassCounters`, what has been counted of one class. -/
structure TrafficClassCounters where
  /-- How many packets of the class have been admitted. -/
  admittedPackets : UInt64 := 0
  /-- How many packets of the class have been rejected. -/
  rejectedPackets : UInt64 := 0
  /-- How many frames the admitted packets had. -/
  admittedFrames : UInt64 := 0
  /-- The time that they were estimated to take on the wire. -/
  estimatedWireTimeNs : UInt64 := 0

/-- The part of `TrafficSnapshot` that `admit` counts. -/
structure TrafficCounters where
  /-- How many packets have been admitted. -/
  admittedPackets : UInt64 := 0
  /-- How many packets have been rejected. -/
  rejectedPackets : UInt64 := 0
  /-- How many packets have been admitted although there was no time left. -/
  guaranteedOverruns : UInt64 := 0
  /-- How many frames the admitted packets had. -/
  admittedFrames : UInt64 := 0
  /-- The time that they were estimated to take on the wire. -/
  estimatedWireTimeNs : UInt64 := 0
  /-- What has been counted of each class. -/
  classes : Fin kTrafficClassCount → TrafficClassCounters := fun _ => {}

/-- `AdmissionPolicy`, whether a packet is sent although there is no time left. -/
inductive AdmissionPolicy
  | enforce
  | guaranteed
deriving DecidableEq, Repr

/-- `TrafficController::Bucket`, the time that may be used and how fast it comes back. -/
structure Bucket where
  /-- The time left, in nanoseconds. It is negative behind a guaranteed packet. -/
  availableNs : ℚ
  /-- The time that the bucket can hold. -/
  capacityNs : ℚ
  /-- The part of the time that the bucket is given. -/
  refillPermille : UInt16

/-- `TrafficController`, a bucket for all classes together and one for each. -/
structure TrafficController where
  /-- What the controller was made with. -/
  config : TrafficConfig
  /-- When the buckets were last refilled. -/
  lastRefill : ℤ
  /-- The bucket of all classes together. -/
  global : Bucket
  /-- The bucket of each class. -/
  classes : Fin kTrafficClassCount → Bucket
  /-- What has been counted. -/
  counters : TrafficCounters

/-- A full bucket, as the constructor makes it. -/
def Bucket.full (windowNs : ℤ) (permille : UInt16) : Bucket where
  availableNs := windowNs * permille.toNat / 1000
  capacityNs := windowNs * permille.toNat / 1000
  refillPermille := permille

/-- The part of `refill` that is the same for all buckets. -/
def Bucket.refill (bucket : Bucket) (elapsedNs : ℤ) : Bucket :=
  { bucket with
    availableNs := min bucket.capacityNs
      (bucket.availableNs + elapsedNs * bucket.refillPermille.toNat / 1000) }

/-- The time of a packet is taken from a bucket. -/
def Bucket.consume (bucket : Bucket) (wireTimeNs : ℕ) : Bucket :=
  { bucket with availableNs := max 0 (bucket.availableNs - wireTimeNs) }

namespace TrafficController

/-- The constructor, which throws if a rate, a part or the window is zero or out of range. -/
def make (config : TrafficConfig) (now : ℤ) : Except TrafficException TrafficController :=
  if config.arbitrationBitsPerSecond = 0 ∨ config.dataBitsPerSecond = 0 ∨
      config.maximumUtilizationPermille = 0 ∨ config.maximumUtilizationPermille > 1000 ∨
      config.burstWindow ≤ 0 then
    .error ⟨.invalidConfiguration, "CAN 带宽控制配置无效"⟩
  else if ∃ index, config.classLimitPermille index = 0 ∨
      config.classLimitPermille index > 1000 then
    .error ⟨.invalidConfiguration, "CAN 业务类别带宽上限无效"⟩
  else
    let windowNs := config.burstWindow * 1000000
    .ok {
      config := config
      lastRefill := now
      global := .full windowNs config.maximumUtilizationPermille
      classes := fun index => .full windowNs (config.classLimitPermille index)
      counters := {} }

/-- `refill`: the buckets gain their parts of the time since the last call. -/
def refill (controller : TrafficController) (now : ℤ) : TrafficController :=
  if now ≤ controller.lastRefill then controller
  else
    let elapsedNs := now - controller.lastRefill
    { controller with
      global := controller.global.refill elapsedNs
      classes := fun index => (controller.classes index).refill elapsedNs
      lastRefill := now }

/-- The loop of `admit` over the frames of a packet. -/
def estimateWireTime (config : TrafficConfig) (framePayloadLengths : List ℕ) :
    Except TrafficException ℕ :=
  framePayloadLengths.foldlM (fun wireTimeNs length => do
    let cost ← estimateCanFrameCost config.mode length config.arbitrationBitsPerSecond
      config.dataBitsPerSecond true
    if wireTimeNs > 2^64 - 1 - cost.wireTimeNs then
      throw ⟨.invalidFrameLength, "CAN 包估算线时间溢出"⟩
    return wireTimeNs + cost.wireTimeNs) 0

/-- The counters of a packet that is rejected. -/
def countRejected (counters : TrafficCounters) (index : Fin kTrafficClassCount) :
    TrafficCounters :=
  let classCounters := counters.classes index
  { counters with
    rejectedPackets := counters.rejectedPackets + 1
    classes := Function.update counters.classes index
      { classCounters with rejectedPackets := classCounters.rejectedPackets + 1 } }

/-- The counters of a packet that is admitted. -/
def countAdmitted (counters : TrafficCounters) (index : Fin kTrafficClassCount) (frames : ℕ)
    (wireTimeNs : ℕ) (available : Bool) : TrafficCounters :=
  let classCounters := counters.classes index
  { counters with
    guaranteedOverruns := counters.guaranteedOverruns + if available then 0 else 1
    admittedPackets := counters.admittedPackets + 1
    admittedFrames := counters.admittedFrames + UInt64.ofNat frames
    estimatedWireTimeNs := counters.estimatedWireTimeNs + UInt64.ofNat wireTimeNs
    classes := Function.update counters.classes index
      { classCounters with
        admittedPackets := classCounters.admittedPackets + 1
        admittedFrames := classCounters.admittedFrames + UInt64.ofNat frames
        estimatedWireTimeNs := classCounters.estimatedWireTimeNs + UInt64.ofNat wireTimeNs } }

/-- `admit`: the buckets pay for the packet, unless it is rejected. -/
def admitPacket (controller : TrafficController) (trafficClass : TrafficClass)
    (framePayloadLengths : List ℕ) (policy : AdmissionPolicy) (now : ℤ) :
    TrafficController × Except TrafficException Bool :=
  match classIndex trafficClass with
  | .error exception => (controller, .error exception)
  | .ok index =>
    let controller := controller.refill now
    match estimateWireTime controller.config framePayloadLengths with
    | .error exception => (controller, .error exception)
    | .ok wireTimeNs =>
      let bucket := controller.classes index
      let available : Bool :=
        controller.global.availableNs ≥ wireTimeNs ∧ bucket.availableNs ≥ wireTimeNs
      if !available ∧ policy = .enforce then
        ({ controller with counters := countRejected controller.counters index }, .ok false)
      else
        ({ controller with
          global := controller.global.consume wireTimeNs
          classes := Function.update controller.classes index (bucket.consume wireTimeNs)
          counters := countAdmitted controller.counters index framePayloadLengths.length wireTimeNs
            available }, .ok true)

end TrafficController

/-! ## Runs -/

/-- A call of `admit` with its operands. -/
structure AdmitCall where
  /-- The class of the packet. -/
  trafficClass : TrafficClass
  /-- The lengths of the frames that the packet is sent in. -/
  framePayloadLengths : List ℕ
  /-- Whether the packet is sent although there is no time left. -/
  policy : AdmissionPolicy
  /-- The time of the call. -/
  now : ℤ
deriving DecidableEq, Repr

/-- The controller, which answers one call after another. -/
def trafficControl :
    Machine TrafficController AdmitCall (AdmitCall × Except TrafficException Bool) where
  step controller call :=
    let (controller, answer) := controller.admitPacket call.trafficClass call.framePayloadLengths
      call.policy call.now
    (controller, call, answer)

/-- The time that the packet of a call takes on the wire. -/
def AdmitCall.wireTimeNs (config : TrafficConfig) (call : AdmitCall) : ℕ :=
  match TrafficController.estimateWireTime config call.framePayloadLengths with
  | .ok wireTimeNs => wireTimeNs
  | .error _ => 0

/-- The calls for the class of an index. -/
def ofClass (index : Fin kTrafficClassCount) (trafficClass : TrafficClass) : Bool :=
  match classIndex trafficClass with
  | .ok i => i = index
  | .error _ => false

/-- A packet of certain classes is admitted, and its admission was enforced. -/
def EnforcedAdmission (counts : TrafficClass → Bool)
    (entry : AdmitCall × Except TrafficException Bool) : Prop :=
  entry.2.toOption = some true ∧ entry.1.policy = .enforce ∧ counts entry.1.trafficClass = true

/-- It can be checked whether a packet is admitted. -/
instance (counts : TrafficClass → Bool) (entry : AdmitCall × Except TrafficException Bool) :
    Decidable (EnforcedAdmission counts entry) :=
  inferInstanceAs (Decidable (_ ∧ _))

/-- The time on the wire of the packets of certain classes whose admission is enforced, and which
are admitted in an interval. -/
def enforcedWireTime (config : TrafficConfig) (counts : TrafficClass → Bool)
    (log : List (AdmitCall × Except TrafficException Bool)) (s t : ℚ) : ℚ :=
  ((log.filter fun entry =>
    EnforcedAdmission counts entry ∧ s ≤ entry.1.now ∧ entry.1.now ≤ t).map fun entry =>
      (entry.1.wireTimeNs config : ℚ)).sum

/-! ## The buckets as token buckets -/

/-- The bucket as a token bucket. -/
def Bucket.tokens (bucket : Bucket) : TokenBucket ℚ where
  available := bucket.availableNs
  capacity := bucket.capacityNs
  rate := bucket.refillPermille.toNat / 1000

/-- A bucket is refilled as a token bucket is. -/
theorem Bucket.tokens_refill (bucket : Bucket) (elapsedNs : ℤ) :
    (bucket.refill elapsedNs).tokens = bucket.tokens.refill elapsedNs := by
  unfold Bucket.refill Bucket.tokens TokenBucket.refill
  dsimp only
  rw [mul_div_assoc]

/-- The time of a packet is taken from a bucket as tokens are. -/
theorem Bucket.tokens_consume (bucket : Bucket) (wireTimeNs : ℕ) :
    (bucket.consume wireTimeNs).tokens = bucket.tokens.drain wireTimeNs := rfl

/-- A bucket that is full holds no more than it may. -/
theorem Bucket.sound_full {windowNs : ℤ} (h : 0 ≤ windowNs) (permille : UInt16) :
    (Bucket.full windowNs permille).tokens.Sound where
  nonneg := by
    have hwindow : (0 : ℚ) ≤ windowNs := by exact_mod_cast h
    exact div_nonneg (mul_nonneg hwindow (Nat.cast_nonneg _)) (by norm_num)
  le_capacity := le_rfl
  rate_nonneg := div_nonneg (Nat.cast_nonneg _) (by norm_num)

/-- The time that a call lets pass. -/
def TrafficController.elapsedNs (controller : TrafficController) (now : ℤ) : ℤ :=
  max 0 (now - controller.lastRefill)

namespace TrafficController

/-- The buckets are refilled with the time that has passed. -/
theorem tokens_refill (controller : TrafficController) (now : ℤ)
    (hglobal : controller.global.tokens.Sound)
    (hclasses : ∀ index, (controller.classes index).tokens.Sound) :
    (controller.refill now).global.tokens =
        controller.global.tokens.refill (controller.elapsedNs now) ∧
      ∀ index, ((controller.refill now).classes index).tokens =
        (controller.classes index).tokens.refill (controller.elapsedNs now) := by
  unfold refill elapsedNs
  by_cases hearly : now ≤ controller.lastRefill
  · -- No time has passed, and a bucket that is not overfull stays as it is.
    have hstays : ∀ bucket : TokenBucket ℚ, bucket.Sound → bucket = bucket.refill (0 : ℤ) := by
      intro bucket hsound
      unfold TokenBucket.refill
      rw [Int.cast_zero, zero_mul, add_zero, min_eq_right hsound.le_capacity]
    rw [if_pos hearly, max_eq_left (by omega)]
    exact ⟨hstays _ hglobal, fun index => hstays _ (hclasses index)⟩
  · rw [if_neg hearly, max_eq_right (by omega)]
    exact ⟨Bucket.tokens_refill _ _, fun index => Bucket.tokens_refill _ _⟩

/-- The buckets are refilled up to the latest time that any call has had. -/
theorem lastRefill_refill (controller : TrafficController) (now : ℤ) :
    (controller.refill now).lastRefill = max controller.lastRefill now := by
  unfold refill
  split
  · next hearly => exact (max_eq_left hearly).symm
  · next hlate => exact (max_eq_right (not_le.1 hlate).le).symm

/-- A refill leaves the configuration alone. -/
theorem config_refill (controller : TrafficController) (now : ℤ) :
    (controller.refill now).config = controller.config := by
  unfold refill
  split <;> rfl

/-- What a call does, if its class has an index. -/
theorem admitPacket_cases (controller : TrafficController) (call : AdmitCall)
    {index : Fin kTrafficClassCount} (hindex : classIndex call.trafficClass = .ok index) :
    let refilled := controller.refill call.now
    let result := controller.admitPacket call.trafficClass call.framePayloadLengths call.policy
      call.now
    (result.1.config = controller.config ∧
        result.1.lastRefill = max controller.lastRefill call.now) ∧
      ((result.2.toOption ≠ some true ∧ result.1.global = refilled.global ∧
          result.1.classes = refilled.classes) ∨
        (result.2.toOption = some true ∧
          (call.policy = .enforce →
            call.wireTimeNs controller.config ≤ refilled.global.availableNs ∧
              call.wireTimeNs controller.config ≤ (refilled.classes index).availableNs) ∧
          result.1.global = refilled.global.consume (call.wireTimeNs controller.config) ∧
          result.1.classes = Function.update refilled.classes index
            ((refilled.classes index).consume (call.wireTimeNs controller.config)))) := by
  have hlast := lastRefill_refill controller call.now
  have hconfig := config_refill controller call.now
  intro refilled result
  change refilled.lastRefill = _ at hlast
  change refilled.config = _ at hconfig
  have hresult : result = controller.admitPacket call.trafficClass call.framePayloadLengths
    call.policy call.now := rfl
  -- The call refills the buckets first, and then asks for the time on the wire.
  unfold admitPacket at hresult
  rw [hindex] at hresult
  dsimp only at hresult
  unfold AdmitCall.wireTimeNs
  change result = match estimateWireTime refilled.config call.framePayloadLengths with
    | .error exception => (refilled, .error exception)
    | .ok wireTimeNs => _ at hresult
  rw [hconfig] at hresult
  cases hwire : estimateWireTime controller.config call.framePayloadLengths with
  | error exception =>
    rw [hwire] at hresult
    rw [hresult]
    exact ⟨⟨hconfig, hlast⟩, .inl ⟨nofun, rfl, rfl⟩⟩
  -- The time is known: the packet is admitted or not.
  | ok wireTimeNs =>
    rw [hwire] at hresult
    dsimp only at hresult ⊢
    split at hresult
    · rw [hresult]
      exact ⟨⟨rfl, hlast⟩, .inl ⟨nofun, rfl, rfl⟩⟩
    · next hadmitted =>
      rw [hresult]
      refine ⟨⟨rfl, hlast⟩, .inr ⟨rfl, fun hpolicy => ?_, rfl, rfl⟩⟩
      by_contra hnot
      refine hadmitted ⟨?_, hpolicy⟩
      rw [Bool.not_eq_true', decide_eq_false_iff_not]
      exact hnot

/-- A call spends from every bucket the time of the packet that it admits, if its admission is
enforced and it is of a class that the bucket is for. -/
theorem admitPacket_spends {controller : TrafficController} (call : AdmitCall)
    (hglobal : controller.global.tokens.Sound)
    (hclasses : ∀ index, (controller.classes index).tokens.Sound)
    {index : Fin kTrafficClassCount} (hindex : classIndex call.trafficClass = .ok index) :
    let result := trafficControl.step controller call
    let spent (counts : TrafficClass → Bool) : ℚ :=
      if EnforcedAdmission counts result.2 then call.wireTimeNs controller.config else 0
    controller.global.tokens.Spends result.1.global.tokens (controller.elapsedNs call.now)
        (spent fun _ => true) ∧
      ∀ i, (controller.classes i).tokens.Spends (result.1.classes i).tokens
        (controller.elapsedNs call.now) (spent (ofClass i)) := by
  obtain ⟨hrefill, hrefills⟩ := tokens_refill controller call.now hglobal hclasses
  obtain ⟨-, hcases⟩ := admitPacket_cases controller call hindex
  have helapsed : (0 : ℚ) ≤ controller.elapsedNs call.now := by
    exact_mod_cast le_max_left 0 (call.now - controller.lastRefill)
  have hwire : (0 : ℚ) ≤ call.wireTimeNs controller.config := Nat.cast_nonneg _
  intro result spent
  have hanswer : result.2.2 = (controller.admitPacket call.trafficClass call.framePayloadLengths
    call.policy call.now).2 := rfl
  have hstate : result.1 = (controller.admitPacket call.trafficClass call.framePayloadLengths
    call.policy call.now).1 := rfl
  rw [← hanswer, ← hstate] at hcases
  rcases hcases with ⟨hrejected, hg, hc⟩ | ⟨hadmitted, havailable, hg, hc⟩
  · -- The packet is not admitted.
    have hnone : ∀ counts, spent counts = 0 := fun counts => if_neg fun h => hrejected h.1
    rw [hnone, hg, hc, hrefill]
    refine ⟨.refill hglobal helapsed, fun i => ?_⟩
    rw [hnone, hrefills]
    exact .refill (hclasses i) helapsed
  -- A bucket from which the packet is taken pays for it only if its admission is enforced.
  have huse : ∀ bucket refilled : Bucket, bucket.tokens.Sound →
      refilled.tokens = bucket.tokens.refill (controller.elapsedNs call.now) →
      ∀ counts, (EnforcedAdmission counts result.2 →
        (call.wireTimeNs controller.config : ℚ) ≤ refilled.availableNs) →
      bucket.tokens.Spends (refilled.consume (call.wireTimeNs controller.config)).tokens
        (controller.elapsedNs call.now) (spent counts) := by
    intro bucket refilled hsound heq counts hle
    rw [Bucket.tokens_consume, heq]
    by_cases henforced : EnforcedAdmission counts result.2
    · have hspent : spent counts = call.wireTimeNs controller.config := if_pos henforced
      have hle' := hle henforced
      rw [show refilled.availableNs = refilled.tokens.available from rfl, heq] at hle'
      rw [hspent]
      exact .drain hsound helapsed hwire hle'
    · have hspent : spent counts = 0 := if_neg henforced
      rw [hspent]
      exact .drain_unpaid hsound helapsed hwire
  rw [hg, hc]
  refine ⟨huse _ _ hglobal hrefill _ fun h => (havailable h.2.1).1, fun i => ?_⟩
  by_cases hi : i = index
  · rw [hi, Function.update_self]
    exact huse _ _ (hclasses index) (hrefills index) _ fun h => (havailable h.2.1).2
  · -- The bucket of another class.
    have hother : spent (ofClass i) = 0 := by
      refine if_neg fun h => hi ?_
      have hclass : ofClass i call.trafficClass = true := h.2.2
      unfold ofClass at hclass
      rw [hindex] at hclass
      exact (of_decide_eq_true hclass).symm
    rw [Function.update_of_ne hi, hother, hrefills]
    exact .refill (hclasses i) helapsed

/-- The buckets of a new controller are full. -/
theorem make_cases {config : TrafficConfig} {now : ℤ} {controller : TrafficController}
    (h : make config now = .ok controller) :
    controller.config = config ∧
      controller.global = .full (config.burstWindow * 1000000) config.maximumUtilizationPermille ∧
      (∀ index, controller.classes index =
        .full (config.burstWindow * 1000000) (config.classLimitPermille index)) ∧
      0 ≤ config.burstWindow := by
  unfold make at h
  split at h
  · exact absurd h nofun
  · next hvalid =>
    split at h
    · exact absurd h nofun
    · obtain rfl := Except.ok.inj h
      simp only [not_or] at hvalid
      exact ⟨rfl, rfl, fun index => rfl, (not_le.1 hvalid.2.2.2.2).le⟩

end TrafficController

/-! ## Runs of calls -/

/-- One more entry of the log counts if its packet is admitted in the interval. -/
theorem enforcedWireTime_concat (config : TrafficConfig) (counts : TrafficClass → Bool)
    (log : List (AdmitCall × Except TrafficException Bool))
    (entry : AdmitCall × Except TrafficException Bool) (s t : ℚ) :
    enforcedWireTime config counts (log ++ [entry]) s t = enforcedWireTime config counts log s t +
      if s ≤ entry.1.now ∧ entry.1.now ≤ t then
        if EnforcedAdmission counts entry then (entry.1.wireTimeNs config : ℚ) else 0 else 0 := by
  unfold enforcedWireTime
  rw [List.filter_append, List.map_append, List.sum_append]
  congr 1
  by_cases hcounts : EnforcedAdmission counts entry ∧ s ≤ entry.1.now ∧ entry.1.now ≤ t
  · rw [if_pos hcounts.2, if_pos hcounts.1, List.filter_cons_of_pos (by simpa using hcounts),
      List.filter_nil]
    exact List.sum_singleton
  · rw [List.filter_cons_of_neg (by simpa using hcounts), List.filter_nil]
    split
    · next hin => rw [if_neg fun h => hcounts ⟨h, hin⟩]; rfl
    · rfl

/-- The packets in the log account for what a bucket has spent since it was made. -/
def Accounted (config : TrafficConfig) (counts : TrafficClass → Bool) (made bucket : Bucket)
    (last : ℤ) (log : List (AdmitCall × Except TrafficException Bool)) : Prop :=
  bucket.tokens.capacity = made.tokens.capacity ∧ bucket.tokens.rate = made.tokens.rate ∧
    ∃ uses : List (ℚ × ℚ), (∀ s t, enforcedWireTime config counts log s t =
        TokenBucket.spentWithin uses s t) ∧
      (∀ use ∈ uses, use.1 ≤ last ∧ ∃ entry ∈ log, use.1 = entry.1.now) ∧
      bucket.tokens.Conforms uses

namespace Accounted

variable {config : TrafficConfig} {counts : TrafficClass → Bool} {made bucket bucket' : Bucket}
  {last : ℤ} {log : List (AdmitCall × Except TrafficException Bool)}
  {entry : AdmitCall × Except TrafficException Bool}

/-- Nothing has been spent of a new bucket. -/
theorem nil (h : made.tokens.Sound) : Accounted config counts made made last [] :=
  ⟨rfl, rfl, [], fun _ _ => rfl, nofun, .nil h⟩

/-- What is accounted for is sound. -/
theorem sound (h : Accounted config counts made bucket last log) : bucket.tokens.Sound := by
  obtain ⟨-, -, uses, -, -, hconforms⟩ := h
  exact hconforms.sound

/-- A packet that is not admitted changes nothing. -/
theorem idle (h : Accounted config counts made bucket last log)
    (hnone : ¬EnforcedAdmission counts entry) :
    Accounted config counts made bucket last (log ++ [entry]) := by
  obtain ⟨hcapacity, hrate, uses, hsum, htimes, hconforms⟩ := h
  refine ⟨hcapacity, hrate, uses, fun s t => ?_, fun use hmem => ?_, hconforms⟩
  · rw [enforcedWireTime_concat, if_neg hnone, ite_self, add_zero]
    exact hsum s t
  · obtain ⟨hlast, old, hold, htime⟩ := htimes use hmem
    exact ⟨hlast, old, List.mem_append_left _ hold, htime⟩

/-- A call accounts for what it spends, if none of the calls before it is later. -/
theorem spend (h : Accounted config counts made bucket last log)
    (hordered : ∀ old ∈ log, old.1.now ≤ entry.1.now)
    (hspends : bucket.tokens.Spends bucket'.tokens ((max 0 (entry.1.now - last) : ℤ) : ℚ)
      (if EnforcedAdmission counts entry then (entry.1.wireTimeNs config : ℚ) else 0)) :
    Accounted config counts made bucket' (max last entry.1.now) (log ++ [entry]) := by
  obtain ⟨hcapacity, hrate, uses, hsum, htimes, hconforms⟩ := h
  refine ⟨hspends.capacity.trans hcapacity, hspends.rate.trans hrate,
    uses ++ [((entry.1.now : ℚ), _)], fun s t => ?_, ?_, hconforms.spend hspends ?_ ?_ ?_⟩
  · rw [enforcedWireTime_concat, TokenBucket.spentWithin_concat, hsum]
  · intro use hmem
    rcases List.mem_append.1 hmem with hold | hnew
    · obtain ⟨hlast, old, hmem, htime⟩ := htimes use hold
      have hmax : (last : ℚ) ≤ (max last entry.1.now : ℤ) := by exact_mod_cast le_max_left _ _
      exact ⟨hlast.trans hmax, old, List.mem_append_left _ hmem, htime⟩
    · rw [List.mem_singleton.1 hnew]
      have hmax : (entry.1.now : ℚ) ≤ (max last entry.1.now : ℤ) := by
        exact_mod_cast le_max_right _ _
      exact ⟨hmax, entry, List.mem_append_right _ List.mem_cons_self, rfl⟩
  · split
    · exact Nat.cast_nonneg _
    · exact le_rfl
  · exact_mod_cast le_max_left 0 (entry.1.now - last)
  · -- The uses so far are not later than the last refill, nor than this call.
    intro use hmem
    obtain ⟨hlast, old, hold, htime⟩ := htimes use hmem
    have hnow : (old.1.now : ℚ) ≤ entry.1.now := by exact_mod_cast hordered old hold
    rw [Int.cast_max, Int.cast_zero, Int.cast_sub]
    rcases max_cases (0 : ℚ) (entry.1.now - last) with ⟨hmax, -⟩ | ⟨hmax, -⟩
    · rw [hmax, sub_zero, htime]
      exact hnow
    · rw [hmax, sub_sub_cancel]
      exact hlast

/-- Between two times the enforced packets take no more than a full bucket and the bucket's part of
the time. -/
theorem window (h : Accounted config counts made bucket last log) {s t : ℚ} (hst : s ≤ t) :
    enforcedWireTime config counts log s t ≤
      made.capacityNs + (t - s) * made.refillPermille.toNat / 1000 := by
  obtain ⟨hcapacity, hrate, uses, hsum, -, hconforms⟩ := h
  have hwindow := hconforms.window s t hst
  rw [hcapacity, hrate] at hwindow
  rw [hsum, mul_div_assoc]
  exact hwindow

end Accounted

/-- All buckets are accounted for, if the calls are in order. -/
def Balanced (made : TrafficController) (log : List (AdmitCall × Except TrafficException Bool))
    (controller : TrafficController) : Prop :=
  controller.config = made.config ∧
    (log.Pairwise (fun a b => a.1.now ≤ b.1.now) →
      Accounted made.config (fun _ => true) made.global controller.global controller.lastRefill
          log ∧
        ∀ index, Accounted made.config (ofClass index) (made.classes index)
          (controller.classes index) controller.lastRefill log)

/-- A call keeps the buckets accounted for. -/
theorem Balanced.step {made controller : TrafficController}
    {log : List (AdmitCall × Except TrafficException Bool)} (h : Balanced made log controller)
    (call : AdmitCall) :
    Balanced made (log ++ [(trafficControl.step controller call).2])
      (trafficControl.step controller call).1 := by
  obtain ⟨hconfig, haccounted⟩ := h
  cases hindex : classIndex call.trafficClass with
  | error exception =>
    -- The class has no index: the call throws, and nothing else happens.
    have hstep : trafficControl.step controller call = (controller, call, .error exception) := by
      unfold trafficControl TrafficController.admitPacket
      dsimp only
      rw [hindex]
    have hnone : ∀ counts, ¬EnforcedAdmission counts (call, .error exception) :=
      fun counts henforced => absurd henforced.1 nofun
    rw [hstep]
    refine ⟨hconfig, fun hordered => ?_⟩
    obtain ⟨hglobal, hclasses⟩ := haccounted (List.pairwise_append.1 hordered).1
    exact ⟨hglobal.idle (hnone _), fun i => (hclasses i).idle (hnone _)⟩
  | ok index =>
    obtain ⟨⟨hconfig', hlast⟩, -⟩ := TrafficController.admitPacket_cases controller call hindex
    refine ⟨hconfig'.trans hconfig, fun hordered => ?_⟩
    obtain ⟨hold, -, hbefore⟩ := List.pairwise_append.1 hordered
    obtain ⟨hglobal, hclasses⟩ := haccounted hold
    obtain ⟨hspends, hspends'⟩ := TrafficController.admitPacket_spends call hglobal.sound
      (fun i => (hclasses i).sound) hindex
    rw [hconfig] at hspends hspends'
    have hnow : ∀ old ∈ log, old.1.now ≤ (trafficControl.step controller call).2.1.now :=
      fun old hmem => hbefore old hmem _ List.mem_cons_self
    change (trafficControl.step controller call).1.lastRefill = _ at hlast
    rw [hlast]
    exact ⟨hglobal.spend hnow hspends, fun i => (hclasses i).spend hnow (hspends' i)⟩

/-- There is one entry of the log for each call. -/
theorem map_fst_outcomes (controller : TrafficController) (calls : List AdmitCall) :
    (trafficControl.outcomes controller calls).map Prod.fst = calls := by
  induction calls generalizing controller with
  | nil => rfl
  | cons call calls ih => exact congrArg (call :: ·) (ih _)

/-- A bucket holds no debt, and no more than its capacity. -/
def Bucket.Within (bucket : Bucket) : Prop :=
  0 ≤ bucket.availableNs ∧ bucket.availableNs ≤ bucket.capacityNs

/-- A new controller answers calls in order. Then, in every interval, the packets of a class whose
admission was enforced and which were admitted take no more time than the capacity of the class and
its share of the interval, and so do those of all classes together with the global bucket. No
bucket is ever in debt or overfull. A packet whose admission is enforced and which is rejected is
taken from no bucket: they are only refilled. -/
theorem token_bucket_bound {config : TrafficConfig} {now : ℤ} {controller : TrafficController}
    (h : TrafficController.make config now = .ok controller) (calls : List AdmitCall)
    (hordered : calls.Pairwise fun a b => a.now ≤ b.now) :
    let log := trafficControl.outcomes controller calls
    let final := trafficControl.run controller calls
    (∀ index (s t : ℚ), s ≤ t → enforcedWireTime config (ofClass index) log s t ≤
        (controller.classes index).capacityNs +
          (t - s) * (config.classLimitPermille index).toNat / 1000) ∧
      (∀ s t : ℚ, s ≤ t → enforcedWireTime config (fun _ => true) log s t ≤
        controller.global.capacityNs +
          (t - s) * config.maximumUtilizationPermille.toNat / 1000) ∧
      (final.global.Within ∧ ∀ index, (final.classes index).Within) ∧
      ∀ call : AdmitCall, call.policy = .enforce →
        (trafficControl.step final call).2.2.toOption = some false →
          (trafficControl.step final call).1.global = (final.refill call.now).global ∧
            (trafficControl.step final call).1.classes = (final.refill call.now).classes := by
  obtain ⟨hconfig, hglobal, hclasses, hwindow⟩ := TrafficController.make_cases h
  -- A new controller has full buckets and an empty log.
  have hfull : Balanced controller [] controller := by
    refine ⟨rfl, fun _ => ⟨.nil ?_, fun index => .nil ?_⟩⟩
    · rw [hglobal]
      exact Bucket.sound_full (by omega) _
    · rw [hclasses]
      exact Bucket.sound_full (by omega) _
  intro log final
  -- Every call keeps the account of the buckets, so that the log of the run conforms to them.
  have hbalanced : Balanced controller ([] ++ log) final :=
    trafficControl.history_induction_of (C := fun _ _ => True)
      (fun _ _ call hold _ => hold.step call) hfull
      (trafficControl.along_of_forall (fun _ _ => trivial) controller calls)
  have hlog : log.Pairwise fun a b => a.1.now ≤ b.1.now := by
    rw [← map_fst_outcomes controller calls, List.pairwise_map] at hordered
    exact hordered
  obtain ⟨hall, hclass⟩ := hbalanced.2 hlog
  rw [List.nil_append, hconfig] at hall hclass
  refine ⟨fun index s t hst => ?_, fun s t hst => ?_, ⟨?_, fun index => ?_⟩, ?_⟩
  -- The rate of a class is the one of its bucket, and that of the bus the one of the global bucket.
  · have hpermille : config.classLimitPermille index =
        (controller.classes index).refillPermille := by rw [hclasses]; rfl
    rw [hpermille]
    exact (hclass index).window hst
  · have hpermille : config.maximumUtilizationPermille = controller.global.refillPermille := by
      rw [hglobal]; rfl
    rw [hpermille]
    exact hall.window hst
  · exact ⟨hall.sound.nonneg, hall.sound.le_capacity⟩
  · exact ⟨(hclass index).sound.nonneg, (hclass index).sound.le_capacity⟩
  -- A call without an index of its class throws, and any other rejection keeps the buckets.
  · intro call _ hrejected
    cases hindex : classIndex call.trafficClass with
    | error exception =>
      have hthrown : (trafficControl.step final call).2.2 = .error exception := by
        unfold trafficControl TrafficController.admitPacket
        dsimp only
        rw [hindex]
      rw [hthrown] at hrejected
      exact absurd hrejected nofun
    | ok index =>
      obtain ⟨-, hcases⟩ := TrafficController.admitPacket_cases final call hindex
      rcases hcases with ⟨-, hkept⟩ | ⟨hadmitted, -⟩
      · exact hkept
      · exact absurd (hrejected.symm.trans hadmitted) nofun

/-- The controller of the default configuration. -/
def defaultController : TrafficController where
  config := {}
  lastRefill := 0
  global := .full 250000000 700
  classes := fun index => .full 250000000 (({} : TrafficConfig).classLimitPermille index)
  counters := {}

/-- Two packets of a class, and one of another class whose admission is guaranteed. -/
def threePackets : List AdmitCall :=
  [⟨.interactive, [8, 8, 3], .enforce, 0⟩, ⟨.safety, [8], .guaranteed, 1000000⟩,
    ⟨.interactive, [8], .enforce, 2000000⟩]

/-- What is admitted of two packets within two milliseconds takes no more time than their class
allows. -/
theorem token_bucket_bound_three :
    enforcedWireTime {} (ofClass 3) (trafficControl.outcomes defaultController threePackets) 0
      2000000 ≤ 125000000 + 1000000 := by
  have hmake : TrafficController.make {} 0 = .ok defaultController := by
    unfold TrafficController.make
    rw [if_neg (by decide), if_neg (by decide)]
    rfl
  have h := (token_bucket_bound hmake threePackets (by decide)).1 3 0 2000000 (by norm_num)
  have hcapacity : (defaultController.classes 3).capacityNs = 125000000 := by
    change ((250000000 : ℤ) : ℚ) * ((500 : ℕ) : ℚ) / 1000 = _
    norm_num
  have hlimit : (({} : TrafficConfig).classLimitPermille 3).toNat = 500 := rfl
  rw [hcapacity, hlimit] at h
  norm_num at h ⊢
  exact h

end RemoteBSP.Toolbusd
