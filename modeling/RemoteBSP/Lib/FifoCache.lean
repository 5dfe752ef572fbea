import Mathlib.Tactic
import RemoteBSP.Lib.Map

/-!
# Caches that evict the oldest entry

A cache of at most `capacity` entries that are looked up by their keys: a map, and beside it the
keys in the order of their insertions, of which the first one is evicted when there is no room.
Entries may also be erased by their keys. `Represents` relates the two to one list, the log: the
entries in order, no key twice. An insertion appends to the log and drops what is too old
(`Represents.insert`), an erasure filters it (`Represents.eraseIf`), so that the map and the order
cannot come apart.

`Recent` says how many entries of the log are younger than a given one. It grows by at most one with
an insertion and not with an erasure, and an entry that is not erased is evicted only when
`capacity` entries have been inserted since (`Recent.insert`, `Recent.eraseIf`).
-/

/-- A cache: the entries, and the keys in the order of their insertions. -/
structure FifoCache (K V : Type) where
  /-- The value under each key that the cache holds. -/
  entries : Map K V
  /-- The keys, the oldest one first. -/
  order : List K

namespace FifoCache

variable {K V : Type} [DecidableEq K]

/-- A cache in which nothing has been put yet. -/
def empty : FifoCache K V := ⟨∅, []⟩

/-- What the cache has under a key. -/
def lookup (cache : FifoCache K V) (key : K) : Option V := cache.entries.lookup key

/-- How many keys the cache holds. -/
def size (cache : FifoCache K V) : ℕ := cache.entries.entries.length

/-- The cache without its oldest entry. -/
def evict (cache : FifoCache K V) : FifoCache K V :=
  match cache.order with
  | [] => cache
  | oldest :: order => ⟨cache.entries.erase oldest, order⟩

/-- One more entry, for which the oldest one makes room. -/
def insert (capacity : ℕ) (cache : FifoCache K V) (key : K) (value : V) : FifoCache K V :=
  let cache := if cache.size = capacity then cache.evict else cache
  ⟨cache.entries.emplace key value, cache.order ++ [key]⟩

/-- The cache without the entries whose keys satisfy `p`. -/
def eraseIf (cache : FifoCache K V) (p : K → Bool) : FifoCache K V :=
  ⟨cache.entries.filterEntries fun key _ => !p key, cache.order.filter fun key => !p key⟩

/-! ## The log -/

/-- A cache holds exactly what a log lists: the values under their keys, the oldest first. -/
structure Represents (cache : FifoCache K V) (log : List (K × V)) : Prop where
  /-- The keys are in the order of the log. -/
  order : cache.order = log.map Prod.fst
  /-- A key stands in the log at most once. -/
  nodup : (log.map Prod.fst).Nodup
  /-- The map has the entries of the log. -/
  lookup : ∀ key value, cache.lookup key = some value ↔ (key, value) ∈ log

variable {cache : FifoCache K V} {log : List (K × V)} {capacity : ℕ} {key : K} {value : V}

/-- An empty cache holds what the empty log lists. -/
theorem represents_empty : (empty : FifoCache K V).Represents [] := by
  refine ⟨rfl, List.nodup_nil, fun key value => ?_⟩
  simp [lookup, empty]

/-- A key that is not found is not in the log. -/
theorem Represents.notMem (h : cache.Represents log) (hkey : cache.lookup key = none) :
    key ∉ log.map Prod.fst := by
  intro hmem
  obtain ⟨⟨_, value⟩, hentry, rfl⟩ := List.mem_map.1 hmem
  rw [(h.lookup _ value).2 hentry] at hkey
  exact nomatch hkey

/-- There are as many entries in the map as in the log. -/
theorem Represents.size (h : cache.Represents log) : cache.size = log.length := by
  have hkeys : (cache.entries.entries.map Sigma.fst).Perm (log.map Prod.fst) := by
    refine (List.perm_ext_iff_of_nodup cache.entries.nodupKeys h.nodup).2 fun key => ?_
    constructor
    · intro hmem
      obtain ⟨⟨_, value⟩, hentry, rfl⟩ := List.mem_map.1 hmem
      have hlookup := (Map.mem_entries_iff cache.entries _ value).1 hentry
      exact List.mem_map.2 ⟨_, (h.lookup _ value).1 hlookup, rfl⟩
    · intro hmem
      obtain ⟨⟨_, value⟩, hentry, rfl⟩ := List.mem_map.1 hmem
      have hlookup := (h.lookup _ value).2 hentry
      exact List.mem_map.2 ⟨_, (Map.mem_entries_iff cache.entries _ value).2 hlookup, rfl⟩
  have hlength := hkeys.length_eq
  rwa [List.length_map, List.length_map] at hlength

/-- An eviction takes the first entry of the log away. -/
theorem Represents.evict (h : cache.Represents log) : cache.evict.Represents log.tail := by
  cases log with
  -- An empty cache has nothing to evict.
  | nil =>
    have hnil : cache.order = [] := h.order
    have hsame : cache.evict = cache := by
      unfold FifoCache.evict
      rw [hnil]
    rw [hsame]
    exact h
  | cons oldest rest =>
    obtain ⟨hnew, hrest⟩ := List.nodup_cons.1 h.nodup
    -- The oldest key is the first one of the log.
    have hcons : cache.order = oldest.1 :: rest.map Prod.fst := h.order
    have heq : cache.evict = ⟨cache.entries.erase oldest.1, rest.map Prod.fst⟩ := by
      unfold FifoCache.evict
      rw [hcons]
    rw [heq]
    refine ⟨rfl, hrest, fun key value => ?_⟩
    unfold FifoCache.lookup
    rw [Map.lookup_erase_ite]
    have hlookup := h.lookup key value
    unfold FifoCache.lookup at hlookup
    by_cases hkey : key = oldest.1
    · -- The key of the evicted entry is not there a second time.
      rw [if_pos hkey]
      constructor
      · exact nofun
      · intro hmem
        exact absurd (List.mem_map.2 ⟨_, hmem, hkey⟩) hnew
    · rw [if_neg hkey, hlookup, List.tail_cons, List.mem_cons]
      constructor
      · rintro (heq | hmem)
        · exact absurd (congrArg Prod.fst heq) hkey
        · exact hmem
      · exact .inr

/-- What is left of a log when an entry is inserted. -/
def room (capacity : ℕ) (log : List (K × V)) : List (K × V) :=
  if log.length = capacity then log.tail else log

omit [DecidableEq K] in
/-- Room is made by leaving out. -/
theorem mem_of_mem_room {entry : K × V} (h : entry ∈ room capacity log) : entry ∈ log := by
  unfold room at h
  split_ifs at h
  · exact List.mem_of_mem_tail h
  · exact h

/-- An insertion of a new key appends to the log. -/
theorem Represents.insert (h : cache.Represents log) (hkey : cache.lookup key = none) :
    (cache.insert capacity key value).Represents (room capacity log ++ [(key, value)]) := by
  have hnew := h.notMem hkey
  -- The cache in which there is room.
  obtain ⟨middle, hmiddle, hroom⟩ : ∃ middle : FifoCache K V,
      middle = (if cache.size = capacity then cache.evict else cache) ∧
        middle.Represents (room capacity log) := by
    refine ⟨_, rfl, ?_⟩
    unfold room
    rw [h.size]
    split_ifs
    · exact h.evict
    · exact h
  -- The key is new to the log, and therefore to the cache with room.
  have hfresh : key ∉ (room capacity log).map Prod.fst := by
    intro hmem
    obtain ⟨entry, hentry, hfst⟩ := List.mem_map.1 hmem
    exact hnew (List.mem_map.2 ⟨entry, mem_of_mem_room hentry, hfst⟩)
  have hnone : middle.entries.lookup key = none := by
    rw [Option.eq_none_iff_forall_ne_some]
    intro value hvalue
    exact hfresh (List.mem_map.2 ⟨_, (hroom.lookup key value).1 hvalue, rfl⟩)
  have heq : cache.insert capacity key value =
      ⟨middle.entries.insert key value, middle.order ++ [key]⟩ := by
    unfold FifoCache.insert Map.emplace
    dsimp only
    rw [← hmiddle, hnone, if_neg (by simp)]
  rw [heq]
  -- The entry is appended to the order, and found in the map.
  refine ⟨?_, ?_, fun other found => ?_⟩
  · rw [hroom.order, List.map_append]
    rfl
  · rw [List.map_append, List.nodup_append]
    refine ⟨hroom.nodup, List.nodup_singleton key, ?_⟩
    intro a ha b hb hab
    rw [hab, List.mem_singleton.1 hb] at ha
    exact hfresh ha
  · have hlookup := hroom.lookup other found
    unfold FifoCache.lookup at hlookup ⊢
    rw [Map.lookup_insert_ite, List.mem_append, List.mem_singleton]
    by_cases hother : other = key
    · rw [if_pos hother]
      constructor
      · intro hfound
        exact .inr (by rw [hother, Option.some.inj hfound])
      · rintro (hmem | heq)
        · exact absurd (List.mem_map.2 ⟨_, hmem, hother⟩) hfresh
        · rw [(Prod.mk.inj heq).2]
    · rw [if_neg hother, hlookup]
      constructor
      · exact .inl
      · rintro (hmem | heq)
        · exact hmem
        · exact absurd (Prod.mk.inj heq).1 hother

/-- An erasure keeps the entries of the log that it does not name, in their order. -/
theorem Represents.eraseIf (h : cache.Represents log) (p : K → Bool) :
    (cache.eraseIf p).Represents (log.filter fun entry => !p entry.1) := by
  refine ⟨?_, ?_, fun key value => ?_⟩
  · unfold FifoCache.eraseIf
    rw [h.order, List.filter_map]
    rfl
  · exact h.nodup.sublist (List.filter_sublist.map Prod.fst)
  · have hlookup := h.lookup key value
    unfold FifoCache.lookup at hlookup
    unfold FifoCache.lookup FifoCache.eraseIf
    rw [Map.lookup_filterEntries, Option.filter_eq_some_iff, hlookup, List.mem_filter]

omit [DecidableEq K] in
/-- There is never more than the capacity. -/
theorem length_room_lt (hcapacity : 0 < capacity) (h : log.length ≤ capacity) :
    (room capacity log).length < capacity := by
  unfold room
  split_ifs with hfull
  · rw [List.length_tail]
    omega
  · omega

/-! ## How long an entry stays -/

/-- At most `count` entries of the log are younger than this one. -/
def Recent (log : List (K × V)) (entry : K × V) (count : ℕ) : Prop :=
  ∃ older younger, log = older ++ entry :: younger ∧ younger.length ≤ count

omit [DecidableEq K] in
/-- A recent entry is in the log. -/
theorem Recent.mem {entry : K × V} {count : ℕ} (h : Recent log entry count) : entry ∈ log := by
  obtain ⟨older, younger, rfl, _⟩ := h
  exact List.mem_append_right _ List.mem_cons_self

omit [DecidableEq K] in
/-- An entry that has just been inserted is the youngest. -/
theorem recent_insert (log : List (K × V)) (entry : K × V) :
    Recent (room capacity log ++ [entry]) entry 0 :=
  ⟨room capacity log, [], rfl, Nat.le_refl 0⟩

omit [DecidableEq K] in
/-- An entry stays while fewer than the capacity are inserted. -/
theorem Recent.insert {entry : K × V} {count : ℕ} (h : Recent log entry count)
    (hcount : count + 1 < capacity) (other : K × V) :
    Recent (room capacity log ++ [other]) entry (count + 1) := by
  obtain ⟨older, younger, rfl, hyounger⟩ := h
  unfold room
  split_ifs with hfull
  · -- What is evicted is older, since the younger ones do not fill the cache.
    cases older with
    | nil =>
      rw [List.nil_append, List.length_cons] at hfull
      omega
    | cons oldest older =>
      refine ⟨older, younger ++ [other], ?_, ?_⟩
      · simp
      · rw [List.length_append, List.length_singleton]
        omega
  · refine ⟨older, younger ++ [other], ?_, ?_⟩
    · simp
    · rw [List.length_append, List.length_singleton]
      omega

omit [DecidableEq K] in
/-- An entry stays when others are erased. -/
theorem Recent.eraseIf {entry : K × V} {count : ℕ} (h : Recent log entry count) {p : K → Bool}
    (hkeeps : p entry.1 = false) : Recent (log.filter fun entry => !p entry.1) entry count := by
  obtain ⟨older, younger, rfl, hyounger⟩ := h
  refine ⟨older.filter fun entry => !p entry.1, younger.filter fun entry => !p entry.1, ?_, ?_⟩
  · rw [List.filter_append, List.filter_cons_of_pos (by rw [hkeeps]; rfl)]
  · exact (List.length_filter_le _ younger).trans hyounger

end FifoCache
