import Mathlib.Algebra.Order.Field.Basic
import Mathlib.Algebra.Order.BigOperators.Group.List
import Mathlib.Tactic.Linarith
import Mathlib.Tactic.Ring

/-!
# Token buckets

A bucket is filled at a constant rate up to its capacity, and tokens are taken from it. One use of
it after some time spends no more than the bucket held and was given (`Spends`). Whatever the uses
are, what they spend in an interval is at most the capacity and what the bucket is given in the
interval (`Conforms.window`): each use keeps `Conforms`, whose field `fill` is the potential that
the induction needs.
-/

/-- A bucket of tokens that fills up at a constant rate until it holds its capacity. -/
structure TokenBucket (K : Type) where
  /-- The tokens that can be spent now. -/
  available : K
  /-- The tokens that the bucket can hold. -/
  capacity : K
  /-- The tokens that it is given in a unit of time. -/
  rate : K

namespace TokenBucket

variable {K : Type} [Field K] [LinearOrder K]

/-- The bucket after some time in which nothing has been spent. -/
def refill (bucket : TokenBucket K) (elapsed : K) : TokenBucket K :=
  { bucket with available := min bucket.capacity (bucket.available + elapsed * bucket.rate) }

/-- Tokens are taken, all of them if there are too few. -/
def drain (bucket : TokenBucket K) (amount : K) : TokenBucket K :=
  { bucket with available := max 0 (bucket.available - amount) }

/-- The bucket holds no more than it can, and is not emptied by the time. -/
structure Sound (bucket : TokenBucket K) : Prop where
  /-- A bucket never owes tokens. -/
  nonneg : 0 ≤ bucket.available
  /-- What comes in beyond the capacity is lost. -/
  le_capacity : bucket.available ≤ bucket.capacity
  /-- Tokens come in, they do not leak. -/
  rate_nonneg : 0 ≤ bucket.rate

/-- One use of a bucket after some time, which spends a number of tokens. -/
structure Spends (bucket bucket' : TokenBucket K) (elapsed spent : K) : Prop where
  /-- Time and spending leave the capacity as it is. -/
  capacity : bucket'.capacity = bucket.capacity
  /-- Time and spending leave the rate as it is. -/
  rate : bucket'.rate = bucket.rate
  /-- What is left is again between nothing and the capacity. -/
  sound : bucket'.Sound
  /-- No more than the capacity is spent. -/
  le_capacity : spent + bucket'.available ≤ bucket.capacity
  /-- No more than the bucket held and was given is spent. -/
  le_available : spent + bucket'.available ≤ bucket.available + elapsed * bucket.rate

variable [IsStrictOrderedRing K] {bucket bucket' : TokenBucket K} {elapsed amount spent : K}

/-- A bucket is sound after some time. -/
theorem Sound.refill (h : bucket.Sound) (helapsed : 0 ≤ elapsed) :
    (bucket.refill elapsed).Sound where
  nonneg := by
    have hgiven : 0 ≤ elapsed * bucket.rate := mul_nonneg helapsed h.rate_nonneg
    have hcapacity : 0 ≤ bucket.capacity := h.nonneg.trans h.le_capacity
    exact le_min hcapacity (add_nonneg h.nonneg hgiven)
  le_capacity := min_le_left _ _
  rate_nonneg := h.rate_nonneg

/-- Waiting is the case of a bucket from which nothing is spent. -/
theorem Spends.refill (h : bucket.Sound) (helapsed : 0 ≤ elapsed) :
    Spends bucket (bucket.refill elapsed) elapsed 0 where
  capacity := rfl
  rate := rfl
  sound := h.refill helapsed
  le_capacity := by
    rw [zero_add]
    exact min_le_left _ _
  le_available := by
    rw [zero_add]
    exact min_le_right _ _

/-- Tokens are taken from a bucket that holds them: all of them are spent. -/
theorem Spends.drain (h : bucket.Sound) (helapsed : 0 ≤ elapsed) (hamount : 0 ≤ amount)
    (hle : amount ≤ (bucket.refill elapsed).available) :
    Spends bucket ((bucket.refill elapsed).drain amount) elapsed amount := by
  have hleft : max 0 ((bucket.refill elapsed).available - amount) =
      (bucket.refill elapsed).available - amount := max_eq_right (sub_nonneg.2 hle)
  have hrefill := Spends.refill h helapsed
  refine ⟨rfl, rfl, ⟨le_max_left _ _, ?_, h.rate_nonneg⟩, ?_, ?_⟩
  · change max 0 _ ≤ bucket.capacity
    rw [hleft]
    exact (sub_le_self _ hamount).trans (min_le_left _ _)
  · change amount + max 0 _ ≤ _
    rw [hleft, add_sub_cancel]
    exact min_le_left _ _
  · change amount + max 0 _ ≤ _
    rw [hleft, add_sub_cancel]
    exact min_le_right _ _

/-- Tokens are taken from a bucket whether or not it holds them: none of them count as spent. -/
theorem Spends.drain_unpaid (h : bucket.Sound) (helapsed : 0 ≤ elapsed) (hamount : 0 ≤ amount) :
    Spends bucket ((bucket.refill elapsed).drain amount) elapsed 0 := by
  have hle : max 0 ((bucket.refill elapsed).available - amount) ≤
      (bucket.refill elapsed).available :=
    max_le (h.refill helapsed).nonneg (sub_le_self _ hamount)
  refine ⟨rfl, rfl, ⟨le_max_left _ _, ?_, h.rate_nonneg⟩, ?_, ?_⟩
  · exact hle.trans (min_le_left _ _)
  · rw [zero_add]
    exact hle.trans (min_le_left _ _)
  · rw [zero_add]
    exact hle.trans (min_le_right _ _)

/-! ## Uses in an interval -/

/-- What the uses of a log spend in an interval: each entry is a time and the tokens spent. -/
def spentWithin (log : List (K × K)) (s t : K) : K :=
  ((log.filter fun use => s ≤ use.1 ∧ use.1 ≤ t).map Prod.snd).sum

omit [IsStrictOrderedRing K] in
/-- One more use counts if it is in the interval. -/
theorem spentWithin_concat (log : List (K × K)) (s t time : K) :
    spentWithin (log ++ [(time, spent)]) s t =
      spentWithin log s t + if s ≤ time ∧ time ≤ t then spent else 0 := by
  unfold spentWithin
  rw [List.filter_append, List.map_append, List.sum_append]
  congr 1
  by_cases hin : s ≤ time ∧ time ≤ t
  · rw [if_pos hin, List.filter_cons_of_pos (by simpa using hin), List.filter_nil]
    exact List.sum_singleton
  · rw [if_neg hin, List.filter_cons_of_neg (by simpa using hin), List.filter_nil]
    rfl

omit [IsStrictOrderedRing K] in
/-- Nothing is spent in an interval that begins after all uses. -/
theorem spentWithin_of_lt {log : List (K × K)} {s t time : K} (hlog : ∀ use ∈ log, use.1 ≤ time)
    (h : time < s) : spentWithin log s t = 0 := by
  have hnone : log.filter (fun use => s ≤ use.1 ∧ use.1 ≤ t) = [] := by
    refine List.filter_eq_nil_iff.2 fun use hmem hin => ?_
    have hs : s ≤ use.1 := (of_decide_eq_true hin).1
    exact absurd (hs.trans (hlog use hmem)) h.not_ge
  rw [spentWithin, hnone]
  rfl

omit [IsStrictOrderedRing K] in
/-- The end of an interval that ends after all uses does not matter. -/
theorem spentWithin_congr {log : List (K × K)} {s t t' : K} (ht : ∀ use ∈ log, use.1 ≤ t)
    (ht' : ∀ use ∈ log, use.1 ≤ t') : spentWithin log s t = spentWithin log s t' := by
  unfold spentWithin
  congr 2
  refine List.filter_congr fun use hmem => ?_
  simp only [ht use hmem, ht' use hmem, and_true]

/-- The uses of a log conform to the bucket that they leave. -/
structure Conforms (log : List (K × K)) (bucket : TokenBucket K) : Prop where
  /-- What is left after all that was spent is between nothing and the capacity. -/
  sound : bucket.Sound
  /-- What is spent from a time on, and what is left. -/
  fill : ∀ s t, s ≤ t → (∀ use ∈ log, use.1 ≤ t) →
    spentWithin log s t + bucket.available ≤ bucket.capacity + (t - s) * bucket.rate
  /-- What is spent in an interval. -/
  window : ∀ s t, s ≤ t → spentWithin log s t ≤ bucket.capacity + (t - s) * bucket.rate

/-- Before it is used, a bucket conforms. -/
theorem Conforms.nil (h : bucket.Sound) : Conforms [] bucket := by
  have hgiven : ∀ s t : K, s ≤ t → 0 ≤ (t - s) * bucket.rate :=
    fun s t hst => mul_nonneg (sub_nonneg.2 hst) h.rate_nonneg
  have hnone : ∀ s t : K, spentWithin [] s t = 0 := fun s t => rfl
  refine ⟨h, fun s t hst _ => ?_, fun s t hst => ?_⟩
  · rw [hnone, zero_add]
    linarith [hgiven s t hst, h.le_capacity]
  · rw [hnone]
    linarith [hgiven s t hst, h.le_capacity, h.nonneg]

/-- One more use conforms, if the bucket has not been given more than there was time for. -/
theorem Conforms.spend {log : List (K × K)} {time : K} (h : Conforms log bucket)
    (hspend : Spends bucket bucket' elapsed spent) (hspent : 0 ≤ spent) (helapsed : 0 ≤ elapsed)
    (hlog : ∀ use ∈ log, use.1 ≤ time - elapsed) : Conforms (log ++ [(time, spent)]) bucket' := by
  have hbefore : ∀ use ∈ log, use.1 ≤ time := fun use hmem =>
    (hlog use hmem).trans (sub_le_self _ helapsed)
  -- What is spent within an interval and what is left have come from a full bucket and the rate.
  have hfill : ∀ s t, s ≤ t → (∀ use ∈ log ++ [(time, spent)], use.1 ≤ t) →
      spentWithin (log ++ [(time, spent)]) s t + bucket'.available ≤
        bucket'.capacity + (t - s) * bucket'.rate := by
    intro s t hst hall
    have htime : time ≤ t := hall (time, spent) (List.mem_append_right _ List.mem_cons_self)
    have hgiven : 0 ≤ (t - s) * bucket.rate :=
      mul_nonneg (sub_nonneg.2 hst) h.sound.rate_nonneg
    have hlast : (if s ≤ time ∧ time ≤ t then spent else 0) ≤ spent := by
      split
      · exact le_rfl
      · exact hspent
    rw [spentWithin_concat, hspend.capacity, hspend.rate]
    rcases le_or_gt s (time - elapsed) with hearly | hlate
    · -- The interval begins before the time that the bucket is given tokens for.
      have hold := h.fill s (time - elapsed) hearly hlog
      have hsame : spentWithin log s (time - elapsed) = spentWithin log s t :=
        spentWithin_congr hlog fun use hmem => (hbefore use hmem).trans htime
      rw [hsame] at hold
      have hrate : (time - elapsed - s) * bucket.rate + elapsed * bucket.rate ≤
          (t - s) * bucket.rate := by
        rw [← add_mul]
        exact mul_le_mul_of_nonneg_right (by linarith) h.sound.rate_nonneg
      linarith [hspend.le_available]
    -- An interval that begins later holds this use only.
    · rw [spentWithin_of_lt hlog hlate]
      linarith [hspend.le_capacity]
  refine ⟨hspend.sound, hfill, fun s t hst => ?_⟩
  rcases le_or_gt time t with htime | htime
  · have hall : ∀ use ∈ log ++ [(time, spent)], use.1 ≤ t := by
      intro use hmem
      rcases List.mem_append.1 hmem with hold | hnew
      · exact (hbefore use hold).trans htime
      · rw [List.mem_singleton.1 hnew]
        exact htime
    linarith [hfill s t hst hall, hspend.sound.nonneg]
  · -- The use is behind the interval.
    rw [spentWithin_concat, if_neg fun hin => absurd hin.2 htime.not_ge, add_zero, hspend.capacity,
      hspend.rate]
    exact h.window s t hst

end TokenBucket
