import Mathlib.Data.List.Chain
import Mathlib.Tactic

/-!
# Timelines

A queue of numbered pieces of work, each of which takes place in an interval of time, right behind
the one before. Both ends of a schedule see the same list: a producer appends a piece at its end
(`Timeline.concat`), and a consumer takes pieces from its front (`Timeline.suffix`). What they agree
on is the number of the last piece and the time at which it ends.
-/

/-- A piece of work and the interval in which it takes place. -/
structure Slot where
  /-- The number that the piece carries in the sequence. -/
  number : ℕ
  /-- The time from which the piece runs. -/
  start : ℕ
  /-- The time up to which the piece runs. -/
  stop : ℕ
  /-- Whether it is the last one of all. -/
  final : Bool
deriving DecidableEq, Repr

/-- One piece of work comes right behind another one, which is not final. -/
structure Slot.Follows (before after : Slot) : Prop where
  /-- The numbers of neighbours are consecutive. -/
  number : after.number = before.number + 1
  /-- There is no gap in time. -/
  start : after.start = before.stop
  /-- A final piece is the last one. -/
  notFinal : before.final = false

/-- The pieces follow each other, up to a number and a time, and end below a limit. -/
structure Timeline (limit : ℕ) (slots : List Slot) (number stop : ℕ) : Prop where
  /-- Each piece follows the one before. -/
  follows : slots.IsChain Slot.Follows
  /-- The last piece has the number. -/
  number : ∀ last ∈ slots.getLast?, last.number = number
  /-- The last piece ends at the time. -/
  stop : ∀ last ∈ slots.getLast?, last.stop = stop
  /-- The ends lie below the limit. -/
  stop_lt : ∀ slot ∈ slots, slot.stop < limit

namespace Timeline

variable {limit number stop : ℕ} {slots : List Slot} {slot : Slot}

/-- A timeline without pieces may end at any number and any time. -/
theorem nil (limit number stop : ℕ) : Timeline limit [] number stop := ⟨.nil, nofun, nofun, nofun⟩

/-- The pieces behind the first ones. -/
theorem suffix {first rest : List Slot} (h : Timeline limit (first ++ rest) number stop) :
    Timeline limit rest number stop := by
  have hlast : ∀ last ∈ rest.getLast?, last ∈ (first ++ rest).getLast? := by
    intro last hmem
    rw [List.getLast?_append, Option.mem_def.1 hmem]
    rfl
  exact ⟨(List.isChain_append.1 h.follows).2.1, fun last hmem => h.number last (hlast last hmem),
    fun last hmem => h.stop last (hlast last hmem),
    fun slot hmem => h.stop_lt slot (List.mem_append_right _ hmem)⟩

/-- One more piece at the end. -/
theorem concat (h : Timeline limit slots number stop)
    (hnumber : slots ≠ [] → slot.number = number + 1) (hstart : slots ≠ [] → slot.start = stop)
    (hfinal : ∀ last ∈ slots.getLast?, last.final = false) (hlimit : slot.stop < limit) :
    Timeline limit (slots ++ [slot]) slot.number slot.stop := by
  refine ⟨List.isChain_append.2 ⟨h.follows, .singleton _, fun last hlast next hnext => ?_⟩,
    fun last hlast => ?_, fun last hlast => ?_, fun slot' hmem => ?_⟩
  · obtain rfl := Option.some.inj hnext
    have hne : slots ≠ [] := by
      rintro rfl
      cases hlast
    refine ⟨?_, ?_, hfinal last hlast⟩
    · rw [h.number last hlast, hnumber hne]
    · rw [h.stop last hlast, hstart hne]
  · rw [List.getLast?_concat] at hlast
    obtain rfl := Option.some.inj hlast
    rfl
  · rw [List.getLast?_concat] at hlast
    obtain rfl := Option.some.inj hlast
    rfl
  · rcases List.mem_append.1 hmem with hmem | hmem
    · exact h.stop_lt slot' hmem
    · obtain rfl := List.mem_singleton.1 hmem
      exact hlimit

end Timeline
