import ActionGateway.Resolution.Context
import ActionGateway.Settings

/-! # Cache of contexts

Contexts are kept for a limited time and up to a limited number. Invalidation drops the contexts
that a changed record may have gone into, and starts a new generation: a context whose reading
began in an earlier generation is not kept. Rejections are never kept.
-/

namespace ActionGateway

/-- A context with the time from which on it is kept, in milliseconds. -/
structure CachedContext where
  context : ResolvedContext
  cachedAt : Nat
  deriving DecidableEq, Repr

/-- **Eviction**: which entry is given up for a new one. It is one that no other is older than;
which of several such entries it is, is left open, and may change from turn to turn. -/
structure Eviction where
  pick : Nat → List (ContextKey × CachedContext) → Option (ContextKey × CachedContext)
  picks_oldest : ∀ turn entries, entries ≠ [] → ∃ oldest ∈ entries,
    pick turn entries = some oldest ∧ ∀ entry ∈ entries, oldest.2.cachedAt ≤ entry.2.cachedAt

/-- What the cache may keep, and what it gives up. -/
structure CachePolicy where
  ttlMs : Nat
  /-- At least one. -/
  capacity : Nat
  eviction : Eviction

/-- The policy of settings; room for no entry counts as room for one. -/
def CacheSettings.policy (settings : CacheSettings) (eviction : Eviction) : CachePolicy :=
  ⟨settings.ttlMs, max settings.maxEntries 1, eviction⟩

/-- **Cache of contexts**, with one entry for each key. -/
structure ContextCache where
  entries : List (ContextKey × CachedContext)
  generation : Nat
  hits : Nat
  misses : Nat
  deriving DecidableEq, Repr

/-- Which record was changed, or that all may have been. -/
inductive Invalidation where
  | action (id : String)
  | datasource (id : String)
  | application (id : String)
  | everything
  deriving DecidableEq, Repr

/-- The record may have gone into the context kept under a key. -/
def Invalidation.concerns (invalidation : Invalidation) (key : ContextKey)
    (context : ResolvedContext) : Bool :=
  match invalidation with
  | action id => key.actionId == id || context.action.id == id || context.action.baseId == id
  | datasource id => context.datasource.id == id
  | application id => context.action.applicationId == id
  | everything => true

namespace Eviction

/-- The first entry of a list that no other is older than. -/
def firstOldest? : List (ContextKey × CachedContext) → Option (ContextKey × CachedContext)
  | [] => none
  | entry :: rest =>
    match firstOldest? rest with
    | none => some entry
    | some other => if entry.2.cachedAt ≤ other.2.cachedAt then some entry else some other

theorem firstOldest?_eq_none_iff {entries : List (ContextKey × CachedContext)} :
    firstOldest? entries = none ↔ entries = [] := by
  cases entries with
  | nil => exact ⟨fun _ => rfl, fun _ => rfl⟩
  | cons entry rest =>
      refine ⟨fun absent => ?_, nofun⟩
      unfold firstOldest? at absent
      split at absent
      · exact nomatch absent
      · split at absent <;> exact nomatch absent

/-- What is found is an entry, and no other is older. -/
theorem of_firstOldest?_eq_some {entries : List (ContextKey × CachedContext)}
    {oldest : ContextKey × CachedContext} (found : firstOldest? entries = some oldest) :
    oldest ∈ entries ∧ ∀ entry ∈ entries, oldest.2.cachedAt ≤ entry.2.cachedAt := by
  induction entries generalizing oldest with
  | nil => exact nomatch found
  | cons entry rest ih =>
      unfold firstOldest? at found
      cases among : firstOldest? rest with
      | none =>
          rw [among] at found
          cases found
          rw [firstOldest?_eq_none_iff.mp among]
          exact ⟨List.mem_cons_self, fun other member =>
            List.mem_singleton.mp member ▸ Nat.le_refl _⟩
      | some other =>
          obtain ⟨held, least⟩ := ih among
          simp only [among] at found
          by_cases before : entry.2.cachedAt ≤ other.2.cachedAt
          · rw [if_pos before] at found
            cases found
            refine ⟨List.mem_cons_self, List.forall_mem_cons.mpr ⟨Nat.le_refl _, ?_⟩⟩
            exact fun later member => Nat.le_trans before (least later member)
          · rw [if_neg before] at found
            cases found
            refine ⟨List.mem_cons_of_mem _ held, List.forall_mem_cons.mpr ⟨?_, least⟩⟩
            exact Nat.le_of_not_le before

/-- The eviction of the first of the oldest entries. -/
def first : Eviction where
  pick _ entries := firstOldest? entries
  picks_oldest _ entries some_ := by
    cases found : firstOldest? entries with
    | none => exact absurd (firstOldest?_eq_none_iff.mp found) some_
    | some oldest =>
        obtain ⟨member, least⟩ := of_firstOldest?_eq_some found
        exact ⟨oldest, member, rfl, least⟩

end Eviction

namespace ContextCache

/-- Nothing kept. -/
def empty : ContextCache := ⟨[], 0, 0, 0⟩

/-- An entry may still be served. -/
def isFresh (policy : CachePolicy) (now : Nat) (entry : CachedContext) : Bool :=
  decide (now < entry.cachedAt + policy.ttlMs)

/-- The fresh context of a key. -/
def find? (cache : ContextCache) (policy : CachePolicy) (now : Nat) (key : ContextKey) :
    Option ResolvedContext :=
  ((cache.entries.lookup key).filter (isFresh policy now)).map CachedContext.context

/-- The entries without those that are no longer fresh. -/
def freshEntries (cache : ContextCache) (policy : CachePolicy) (now : Nat) :
    List (ContextKey × CachedContext) :=
  cache.entries.filter fun entry => isFresh policy now entry.2

/-- The entries without that of a key. -/
def without (key : ContextKey) (entries : List (ContextKey × CachedContext)) :
    List (ContextKey × CachedContext) :=
  entries.filter fun entry => entry.1 != key

/-- The entries with room for one more: when they are too many, those that are no longer fresh go
first, and if that does not help, one of the oldest goes. -/
def makeRoom (policy : CachePolicy) (now : Nat) (cache : ContextCache) :
    List (ContextKey × CachedContext) :=
  if cache.entries.length < policy.capacity then cache.entries
  else
    let fresh := cache.freshEntries policy now
    if fresh.length < policy.capacity then fresh
    else
      match policy.eviction.pick cache.misses fresh with
      | some oldest => without oldest.1 fresh
      | none => fresh

/-- Keep a context whose reading began in the given generation. -/
def keep (cache : ContextCache) (policy : CachePolicy) (now : Nat) (generation : Nat)
    (key : ContextKey) (context : ResolvedContext) : ContextCache :=
  if cache.generation ≠ generation then cache
  else
    let others :=
      if (cache.entries.lookup key).isSome then without key cache.entries
      else cache.makeRoom policy now
    { cache with entries := (key, ⟨context, now⟩) :: others }

/-- Drop what a change concerns, and start a new generation. -/
def invalidate (cache : ContextCache) (invalidation : Invalidation) : ContextCache :=
  { cache with
    entries := cache.entries.filter fun entry =>
      !invalidation.concerns entry.1 entry.2.context
    generation := cache.generation + 1 }

/-- Count a hit. -/
def countHit (cache : ContextCache) : ContextCache := { cache with hits := cache.hits + 1 }

/-- Count a miss. -/
def countMiss (cache : ContextCache) : ContextCache := { cache with misses := cache.misses + 1 }

/-- **Resolution in one go**: the context that is kept, or the one that the definitions give, which
is then kept. -/
def resolve (cache : ContextCache) (policy : CachePolicy) (reader : DefinitionReader) (now : Nat)
    (key : ContextKey) : Except Rejection ResolvedContext × ContextCache :=
  match cache.find? policy now key with
  | some context => (.ok context, cache.countHit)
  | none =>
    let cache := cache.countMiss
    match key.load reader with
    | .ok context => (.ok context, cache.keep policy now cache.generation key context)
    | .error reason => (.error reason, cache)

/-- Resolution with an invalidation that comes after the cache was looked at. When the context was
kept, the resolution is over by then. -/
def resolveRacing (cache : ContextCache) (policy : CachePolicy) (reader : DefinitionReader)
    (now : Nat) (key : ContextKey) (invalidation : Invalidation) :
    Except Rejection ResolvedContext × ContextCache :=
  match cache.find? policy now key with
  | some context => (.ok context, cache.countHit.invalidate invalidation)
  | none =>
    let begun := cache.countMiss
    let cache := begun.invalidate invalidation
    match key.load reader with
    | .ok context => (.ok context, cache.keep policy now begun.generation key context)
    | .error reason => (.error reason, cache)

end ContextCache

end ActionGateway
