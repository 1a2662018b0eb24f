import ActionGateway.Proofs.OrderedMaps
import ActionGateway.Resolution.Cache

/-!
# What stays in a cache

Which entries a cache has after one of its operations, in terms of those it had before. Making room
only ever drops entries, keeping a context adds one and drops the other entry of its key, and an
invalidation drops what it concerns.
-/

namespace ActionGateway.ContextCache

variable (cache : ContextCache) (policy : CachePolicy) (now : Nat)

theorem mem_without (key : ContextKey) (entries : List (ContextKey × CachedContext))
    (entry : ContextKey × CachedContext) :
    entry ∈ without key entries ↔ entry ∈ entries ∧ entry.1 ≠ key := by
  simp only [without, List.mem_filter, bne_iff_ne]

/-- Making room drops entries and neither adds nor moves any. -/
theorem makeRoom_sublist : (makeRoom policy now cache).Sublist cache.entries := by
  have fresh : (cache.freshEntries policy now).Sublist cache.entries := List.filter_sublist
  unfold makeRoom
  by_cases room : cache.entries.length < policy.capacity
  · simp only [room, ↓reduceIte]
    exact List.Sublist.refl _
  · simp only [room, ↓reduceIte]
    split
    · exact fresh
    · split
      · exact List.filter_sublist.trans fresh
      · exact fresh

/-- What is served is held under the key that was asked for, and is not too old. -/
theorem mem_entries_of_find? {key : ContextKey} {context : ResolvedContext}
    (found : cache.find? policy now key = some context) :
    ∃ cachedAt, (key, ⟨context, cachedAt⟩) ∈ cache.entries ∧ now < cachedAt + policy.ttlMs := by
  unfold find? at found
  obtain ⟨⟨kept, cachedAt⟩, served, rfl⟩ := Option.map_eq_some_iff.mp found
  obtain ⟨held, fresh⟩ := Option.filter_eq_some_iff.mp served
  obtain ⟨before, after, split, -⟩ := List.lookup_eq_some_iff.mp held
  refine ⟨cachedAt, ?_, of_decide_eq_true fresh⟩
  rw [split]
  exact List.mem_append_right _ List.mem_cons_self

/-- A context that was read in an earlier generation is not kept. -/
theorem keep_of_ne {generation : Nat} (key : ContextKey) (context : ResolvedContext)
    (outdated : cache.generation ≠ generation) :
    cache.keep policy now generation key context = cache := by
  rw [keep, if_pos outdated]

/-- After a context of the current generation was kept, every other entry is an earlier one of
another key. -/
theorem mem_entries_keep {key : ContextKey} {context : ResolvedContext}
    {entry : ContextKey × CachedContext}
    (member : entry ∈ (cache.keep policy now cache.generation key context).entries) :
    entry = (key, ⟨context, now⟩) ∨ (entry ∈ cache.entries ∧ entry.1 ≠ key) := by
  rw [keep, if_neg (not_not_intro rfl)] at member
  rcases List.mem_cons.mp member with added | other
  · exact .inl added
  · right
    by_cases known : (cache.entries.lookup key).isSome
    · rw [if_pos known] at other
      exact (mem_without key cache.entries entry).mp other
    · rw [if_neg known] at other
      have earlier := (makeRoom_sublist cache policy now).mem other
      refine ⟨earlier, ?_⟩
      have unknown := Option.not_isSome_iff_eq_none.mp known
      have absent := List.lookup_eq_none_iff.mp unknown entry earlier
      exact Ne.symm (bne_iff_ne.mp absent)

/-- Keeping a context, of whatever generation, adds at most that context. -/
theorem mem_entries_keep_of_generation {generation : Nat} {key : ContextKey}
    {context : ResolvedContext} {entry : ContextKey × CachedContext}
    (member : entry ∈ (cache.keep policy now generation key context).entries) :
    entry = (key, ⟨context, now⟩) ∨ entry ∈ cache.entries := by
  by_cases current : cache.generation = generation
  · subst current
    exact (mem_entries_keep cache policy now member).imp_right And.left
  · rw [keep_of_ne cache policy now key context current] at member
    exact .inr member

/-- Keeping a context stays in the generation. -/
@[simp] theorem keep_generation (generation : Nat) (key : ContextKey) (context : ResolvedContext) :
    (cache.keep policy now generation key context).generation = cache.generation := by
  unfold keep
  split <;> rfl

/-- An invalidation leaves exactly what it does not concern. -/
theorem mem_entries_invalidate (invalidation : Invalidation)
    (entry : ContextKey × CachedContext) :
    entry ∈ (cache.invalidate invalidation).entries ↔
      entry ∈ cache.entries ∧ invalidation.concerns entry.1 entry.2.context = false := by
  simp only [invalidate, List.mem_filter, Bool.not_eq_true']

section Resolve

variable {reader : DefinitionReader} {key : ContextKey} {context : ResolvedContext}

/-- A fresh context that is kept is served, and nothing changes but the count. -/
theorem resolve_of_kept (kept : cache.find? policy now key = some context) :
    cache.resolve policy reader now key = (.ok context, cache.countHit) := by
  simp only [resolve, kept]

/-- A context that the definitions give is kept. -/
theorem resolve_of_loaded (missed : cache.find? policy now key = none)
    (loaded : key.load reader = .ok context) :
    cache.resolve policy reader now key =
      (.ok context, cache.countMiss.keep policy now cache.generation key context) := by
  simp only [resolve, missed, loaded]
  rfl

/-- A rejection is not kept. -/
theorem resolve_of_refused {reason : Rejection} (missed : cache.find? policy now key = none)
    (refused : key.load reader = .error reason) :
    cache.resolve policy reader now key = (.error reason, cache.countMiss) := by
  simp only [resolve, missed, refused]

end Resolve

/-- A cache that holds only what the definitions give answers as they do. -/
theorem resolve_fst_eq_load {reader : DefinitionReader} (key : ContextKey)
    (current : ∀ entry ∈ cache.entries, entry.1.load reader = .ok entry.2.context) :
    (cache.resolve policy reader now key).1 = key.load reader := by
  unfold resolve
  cases found : cache.find? policy now key with
  | some context =>
      obtain ⟨cachedAt, member, -⟩ := mem_entries_of_find? cache policy now found
      exact (current _ member).symm
  | none => cases key.load reader <;> rfl

end ActionGateway.ContextCache
