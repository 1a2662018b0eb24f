import ActionGateway.Proofs.CacheEntries
import ActionGateway.Proofs.Sessions
import ActionGateway.Proofs.SharedResolver
import Mathlib.Data.List.Induction
import Mathlib.Data.List.Nodup

/-!
# Room in a cache

A cache never holds more than it may, and one context for each key. So making room for a context is
giving up at most one that could still be served: when the cache is full, those that are too old go
if there are any, and otherwise one that is kept for the longest time.
-/

namespace ActionGateway

namespace ContextCache

/-- **What may be given up for a new context**, and what is left then. -/
inductive LeavesFor (policy : CachePolicy) (now : Nat)
    (entries : List (ContextKey × CachedContext)) (key : ContextKey) :
    List (ContextKey × CachedContext) → Prop where
  /-- The key is held already; its entry alone is given up. -/
  | known :
      key ∈ entries.map Prod.fst →
      LeavesFor policy now entries key (without key entries)
  | room :
      key ∉ entries.map Prod.fst → entries.length < policy.capacity →
      LeavesFor policy now entries key entries
  /-- The cache is full, and what is too old is given up. -/
  | expired {old : ContextKey × CachedContext} :
      key ∉ entries.map Prod.fst → entries.length = policy.capacity →
      old ∈ entries → isFresh policy now old.2 = false →
      LeavesFor policy now entries key (entries.filter fun entry => isFresh policy now entry.2)
  /-- The cache is full and nothing is too old; one of the oldest entries is given up. -/
  | oldest {oldest : ContextKey × CachedContext} :
      key ∉ entries.map Prod.fst → entries.length = policy.capacity →
      (∀ entry ∈ entries, isFresh policy now entry.2 = true) →
      oldest ∈ entries → (∀ entry ∈ entries, oldest.2.cachedAt ≤ entry.2.cachedAt) →
      LeavesFor policy now entries key (entries.erase oldest)

/-- **The cache keeps to its capacity**, with one entry for each key. -/
structure Within (cache : ContextCache) (policy : CachePolicy) : Prop where
  bounded : cache.entries.length ≤ policy.capacity
  distinct : (cache.entries.map Prod.fst).Nodup

variable {cache : ContextCache} {policy : CachePolicy} {now : Nat} {key : ContextKey}
  {entries others : List (ContextKey × CachedContext)}

/-- An empty cache is within any capacity. -/
theorem within_empty (policy : CachePolicy) : empty.Within policy :=
  ⟨Nat.zero_le _, List.nodup_nil⟩

/-- With one entry for each key, leaving out the key of an entry leaves out that entry alone. -/
theorem without_eq_erase (distinct : (entries.map Prod.fst).Nodup)
    {entry : ContextKey × CachedContext} (member : entry ∈ entries) :
    without entry.1 entries = entries.erase entry := by
  rw [(List.Nodup.of_map Prod.fst distinct).erase_eq_filter]
  apply List.filter_congr
  intro other held
  by_cases same : other = entry
  · rw [same, bne_self_eq_false, bne_self_eq_false]
  · have otherKey : other.1 ≠ entry.1 := fun sameKey =>
      same (List.inj_on_of_nodup_map distinct held member sameKey)
    rw [bne_iff_ne.mpr same, bne_iff_ne.mpr otherKey]

/-- An entry is found exactly under the keys that there are. -/
theorem lookup_isSome_iff :
    (entries.lookup key).isSome = true ↔ key ∈ entries.map Prod.fst := by
  simp only [List.lookup_isSome_iff, beq_iff_eq, List.mem_map, eq_comm (a := key)]

namespace LeavesFor

/-- What leaves for a new entry is only taken out. -/
theorem sublist (leaves : LeavesFor policy now entries key others) : others.Sublist entries := by
  cases leaves with
  | known _ | expired _ _ _ _ => exact List.filter_sublist
  | room _ _ => exact List.Sublist.refl _
  | oldest _ _ _ _ _ => exact List.erase_sublist

/-- What is left has no entry of the key. -/
theorem not_mem (leaves : LeavesFor policy now entries key others) :
    key ∉ others.map Prod.fst := by
  have unknown (absent : key ∉ entries.map Prod.fst) : key ∉ others.map Prod.fst :=
    fun held => absent ((leaves.sublist.map Prod.fst).mem held)
  cases leaves with
  | known _ =>
      intro held
      obtain ⟨entry, member, same⟩ := List.mem_map.mp held
      have other : entry.1 ≠ key := ((mem_without key entries entry).mp member).2
      exact other same
  | room absent _ | expired absent _ _ _ | oldest absent _ _ _ _ => exact unknown absent

/-- What is left has room for one more. -/
theorem length_lt (leaves : LeavesFor policy now entries key others)
    (bounded : entries.length ≤ policy.capacity) : others.length < policy.capacity := by
  cases leaves with
  | known held =>
      obtain ⟨entry, member, same⟩ := List.mem_map.mp held
      have fewer : (without key entries).length < entries.length := by
        apply List.length_filter_lt_length_iff_exists.mpr
        exact ⟨entry, member, by simp [same]⟩
      exact Nat.lt_of_lt_of_le fewer bounded
  | room _ free => exact free
  | expired _ full member old =>
      rw [← full]
      apply List.length_filter_lt_length_iff_exists.mpr
      exact ⟨_, member, by simp [old]⟩
  | oldest _ full _ member _ =>
      have one := List.length_pos_of_mem member
      rw [List.length_erase_of_mem member, ← full]
      exact Nat.sub_lt one Nat.one_pos

end LeavesFor

/-- **Keeping a context** gives up what `LeavesFor` says, and adds the context. -/
theorem Within.keep_entries (within : cache.Within policy) (positive : 0 < policy.capacity)
    (now : Nat) (key : ContextKey) (context : ResolvedContext) :
    ∃ others, LeavesFor policy now cache.entries key others ∧
      (cache.keep policy now cache.generation key context).entries =
        (key, ⟨context, now⟩) :: others := by
  rw [keep, if_neg (not_not_intro rfl)]
  refine ⟨_, ?_, rfl⟩
  by_cases known : (cache.entries.lookup key).isSome = true
  · rw [if_pos known]
    exact .known (lookup_isSome_iff.mp known)
  have absent : key ∉ cache.entries.map Prod.fst := fun held => known (lookup_isSome_iff.mpr held)
  rw [if_neg known, makeRoom]
  by_cases free : cache.entries.length < policy.capacity
  · rw [if_pos free]
    exact .room absent free
  have full : cache.entries.length = policy.capacity :=
    Nat.le_antisymm within.bounded (Nat.le_of_not_lt free)
  simp only [free, ↓reduceIte]
  by_cases fewer : (cache.freshEntries policy now).length < policy.capacity
  · -- Something was too old, and the fresh entries alone leave room.
    rw [if_pos fewer]
    rw [← full] at fewer
    obtain ⟨old, member, stale⟩ := List.length_filter_lt_length_iff_exists.mp fewer
    exact .expired absent full member (Bool.eq_false_iff.mpr stale)
  · -- Nothing was too old, so the fresh entries are all there are.
    have young : ∀ entry ∈ cache.entries, isFresh policy now entry.2 = true := by
      intro entry member
      by_contra stale
      apply fewer
      rw [← full]
      exact List.length_filter_lt_length_iff_exists.mpr ⟨entry, member, stale⟩
    have all : cache.freshEntries policy now = cache.entries := List.filter_eq_self.mpr young
    rw [if_neg fewer, all]
    have some_ : cache.entries ≠ [] := List.ne_nil_of_length_pos (full ▸ positive)
    obtain ⟨oldest, member, picked, least⟩ :=
      policy.eviction.picks_oldest cache.misses cache.entries some_
    rw [picked]
    simp only [without_eq_erase within.distinct member]
    exact .oldest absent full young member least

/-- Keeping a context leaves a cache within its capacity. -/
theorem Within.keep (within : cache.Within policy) (positive : 0 < policy.capacity) (now : Nat)
    (generation : Nat) (key : ContextKey) (context : ResolvedContext) :
    (cache.keep policy now generation key context).Within policy := by
  by_cases current : cache.generation = generation
  · subst current
    obtain ⟨others, leaves, entries⟩ := within.keep_entries positive now key context
    refine ⟨?_, ?_⟩
    · rw [entries, List.length_cons]
      exact leaves.length_lt within.bounded
    · rw [entries, List.map_cons, List.nodup_cons]
      exact ⟨leaves.not_mem, within.distinct.sublist (leaves.sublist.map Prod.fst)⟩
  · rw [keep_of_ne cache policy now key context current]
    exact within

/-- Invalidating leaves a cache within its capacity. -/
theorem Within.invalidate (within : cache.Within policy) (invalidation : Invalidation) :
    (cache.invalidate invalidation).Within policy := by
  have fewer : (cache.invalidate invalidation).entries.Sublist cache.entries :=
    List.filter_sublist
  exact ⟨Nat.le_trans fewer.length_le within.bounded,
    within.distinct.sublist (fewer.map Prod.fst)⟩

/-- A call leaves a cache within its capacity. -/
theorem Within.resolve (within : cache.Within policy) (positive : 0 < policy.capacity)
    (reader : DefinitionReader) (now : Nat) (key : ContextKey) :
    (cache.resolve policy reader now key).2.Within policy := by
  cases found : cache.find? policy now key with
  | some context =>
      rw [resolve_of_kept _ _ _ found]
      exact ⟨within.bounded, within.distinct⟩
  | none =>
      have missed : cache.countMiss.Within policy := ⟨within.bounded, within.distinct⟩
      cases loaded : key.load reader with
      | error reason =>
          rw [resolve_of_refused _ _ _ found loaded]
          exact missed
      | ok context =>
          rw [resolve_of_loaded _ _ _ found loaded]
          exact missed.keep positive now cache.generation key context

end ContextCache

namespace Session

variable {policy : CachePolicy} {session : Session}

/-- Each step of a session leaves its cache within its capacity. -/
theorem within_next (positive : 0 < policy.capacity) (within : session.cache.Within policy)
    (step : SessionStep) : (session.next policy step).cache.Within policy := by
  cases step with
  | resolve key => exact within.resolve positive _ session.now key
  | invalidate invalidation => exact within.invalidate invalidation
  | put _ | advance _ => exact within

/-- A session leaves its cache within its capacity. -/
theorem within_after (positive : 0 < policy.capacity) (within : session.cache.Within policy)
    (steps : List SessionStep) : (session.after policy steps).cache.Within policy := by
  induction steps using List.reverseRecOn with
  | nil => exact within
  | append_singleton steps step ih =>
      rw [after_concat]
      exact within_next positive ih step

/-- A resolution that loads a context adds it and gives up what `LeavesFor` says. -/
theorem Loads.entries_next {key : ContextKey} {context : ResolvedContext}
    (loads : session.Loads policy key context) (positive : 0 < policy.capacity)
    (within : session.cache.Within policy) :
    ∃ others, ContextCache.LeavesFor policy session.now session.cache.entries key others ∧
      (session.next policy (.resolve key)).cache.entries =
        (key, ⟨context, session.now⟩) :: others := by
  have missed : session.cache.countMiss.Within policy := ⟨within.bounded, within.distinct⟩
  have kept := missed.keep_entries positive session.now key context
  rw [next, ContextCache.resolve_of_loaded _ _ _ loads.missed loads.loaded]
  exact kept

end Session

/-- Settings that leave room for no entry count as leaving room for one. -/
theorem CacheSettings.policy_capacity_pos (settings : CacheSettings) (eviction : Eviction) :
    0 < (settings.policy eviction).capacity :=
  Nat.lt_of_lt_of_le Nat.one_pos (Nat.le_max_right settings.maxEntries 1)

namespace Session

/-- **The session keeps to the capacity of its cache.** A resolution that loads a context adds its
entry to those that are left for it. -/
structure KeepsToCapacity (settings : CacheSettings) (eviction : Eviction) (session : Session) :
    Prop where
  bounded : session.cache.entries.length ≤ max settings.maxEntries 1
  distinct : (session.cache.entries.map Prod.fst).Nodup
  loading : ∀ key context, session.Loads (settings.policy eviction) key context →
    ∃ others,
      ContextCache.LeavesFor (settings.policy eviction) session.now session.cache.entries key
        others ∧
      (session.next (settings.policy eviction) (.resolve key)).cache.entries =
        (key, ⟨context, session.now⟩) :: others

/-- **A cache keeps to its capacity and gives up as little as it can**, whatever steps were taken
before and whichever of the oldest entries are given up. Its settings say how many entries there may
be; one is kept even if they allow none. -/
theorem cache_keeps_to_capacity (settings : CacheSettings) (eviction : Eviction)
    (definitions : Definitions) (steps : List SessionStep) :
    ((initial definitions).after (settings.policy eviction) steps).KeepsToCapacity settings
      eviction := by
  have positive := settings.policy_capacity_pos eviction
  have within : ((initial definitions).after (settings.policy eviction) steps).cache.Within
      (settings.policy eviction) :=
    within_after positive (ContextCache.within_empty _) steps
  refine ⟨within.bounded, within.distinct, fun key context loads => ?_⟩
  exact loads.entries_next positive within

end Session

/-- However calls are interleaved, they leave their cache within its capacity. -/
theorem SharedResolver.Run.within {policy : CachePolicy} {definitions : Definitions}
    {steps : List ResolverStep} {state : SharedResolver} (positive : 0 < policy.capacity)
    (run : Run policy (.initial definitions) steps state) : state.cache.Within policy := by
  induction run with
  | start => exact ContextCache.within_empty policy
  | step _ taken within =>
      cases taken with
      | hit _ _ | miss _ _ => exact ⟨within.bounded, within.distinct⟩
      | answer _ => exact within.keep positive _ _ _ _
      | invalidate invalidation => exact within.invalidate invalidation
      | readGeneration _ | readStore _ _ | reject _ | put _ | advance _ => exact within

end ActionGateway
