import ActionGateway.Proofs.CacheEntries
import ActionGateway.Proofs.Loading
import Mathlib.Data.List.Induction

/-!
# Contexts fit their keys

Whatever happened to a cache, and whatever definitions were read on the way, a context that is
served for a key has the side of its action that the key asks for, and the storage of the
environment that the key names. Nothing of another key gets mixed in.
-/

namespace ActionGateway

/-- **The context fits the key.** -/
structure ResolvedContext.Fits (context : ResolvedContext) (key : ContextKey) : Prop where
  definition : context.action.definition? key.viewMode = some context.definition
  storage : context.datasource.storage? key.environmentId = some context.storage
  viewMode : context.viewMode = key.viewMode
  environmentId : context.environmentId = key.environmentId

namespace ContextKey

variable {reader : DefinitionReader} {key : ContextKey} {context : ResolvedContext}

/-- A context that is read for a key fits that key. -/
theorem fits_of_run_contextOf {action : Action}
    (read : (key.contextOf action).run reader = .ok context) : context.Fits key := by
  unfold contextOf at read
  cases side : action.definition? key.viewMode with
  | none =>
      rw [side] at read
      cases read
  | some definition =>
      simp only [side, Reading.run] at read
      cases found : reader.datasource definition.datasourceId with
      | error cause =>
          rw [found] at read
          cases read
      | ok answer =>
          simp only [found] at read
          cases answer with
          | none => cases read
          | some datasource =>
              cases stored : datasource.storage? key.environmentId with
              | none =>
                  simp only [stored] at read
                  cases read
              | some storage =>
                  simp only [stored, Reading.run, Except.ok.injEq] at read
                  subst read
                  exact ⟨side, stored, rfl, rfl⟩

/-- A context that is loaded for a key fits that key. -/
theorem fits_of_load (loaded : key.load reader = .ok context) : context.Fits key := by
  rw [ContextKey.load_eq_bind] at loaded
  cases selected : key.selectAction.run reader with
  | error reason =>
      rw [selected] at loaded
      exact nomatch loaded
  | ok action =>
      rw [selected] at loaded
      exact fits_of_run_contextOf loaded

end ContextKey

/-- What may happen to a cache. -/
inductive CacheEvent where
  | resolve (policy : CachePolicy) (reader : DefinitionReader) (now : Nat) (key : ContextKey)
  | resolveRacing (policy : CachePolicy) (reader : DefinitionReader) (now : Nat) (key : ContextKey)
      (invalidation : Invalidation)
  | invalidate (invalidation : Invalidation)

/-- The event may read a context for a key. -/
def CacheEvent.Reads (key : ContextKey) (context : ResolvedContext) : CacheEvent → Prop
  | .resolve _ reader _ asked | .resolveRacing _ reader _ asked _ =>
    asked = key ∧ asked.load reader = .ok context
  | .invalidate _ => False

/-- The event reads nothing but with the given reader. -/
def CacheEvent.ReadsWith (reader : DefinitionReader) : CacheEvent → Prop
  | .resolve _ own _ _ | .resolveRacing _ own _ _ _ => own = reader
  | .invalidate _ => True

namespace CacheEvent.Reads

variable {event : CacheEvent} {key : ContextKey} {context : ResolvedContext}

/-- Whatever an event reads for a key fits that key. -/
theorem fits (read : event.Reads key context) : context.Fits key := by
  cases event with
  | resolve | resolveRacing =>
      obtain ⟨rfl, loaded⟩ := read
      exact ContextKey.fits_of_load loaded
  | invalidate => exact read.elim

/-- What an event reads is what its reader gives. -/
theorem load {reader : DefinitionReader} (read : event.Reads key context)
    (own : event.ReadsWith reader) : key.load reader = .ok context := by
  cases event with
  | resolve | resolveRacing =>
      obtain ⟨rfl, loaded⟩ := read
      exact own ▸ loaded
  | invalidate => exact read.elim

end CacheEvent.Reads

namespace ContextCache

/-- The cache after an event. -/
def next (cache : ContextCache) : CacheEvent → ContextCache
  | .resolve policy reader now key => (cache.resolve policy reader now key).2
  | .resolveRacing policy reader now key invalidation =>
    (cache.resolveRacing policy reader now key invalidation).2
  | .invalidate invalidation => cache.invalidate invalidation

/-- **The cache after a history.** -/
def after (history : List CacheEvent) : ContextCache :=
  history.foldl next empty

variable {cache : ContextCache} {entry : ContextKey × CachedContext}

/-- What is kept after an event was kept before, or is what the event read. -/
theorem mem_entries_next (event : CacheEvent) (member : entry ∈ (cache.next event).entries) :
    entry ∈ cache.entries ∨ event.Reads entry.1 entry.2.context := by
  cases event with
  | resolve policy reader now key =>
      simp only [next] at member
      cases found : cache.find? policy now key with
      | some context =>
          rw [resolve_of_kept _ _ _ found] at member
          exact .inl member
      | none =>
          cases loaded : key.load reader with
          | error reason =>
              rw [resolve_of_refused _ _ _ found loaded] at member
              exact .inl member
          | ok context =>
              rw [resolve_of_loaded _ _ _ found loaded] at member
              rcases mem_entries_keep_of_generation _ policy now member with rfl | earlier
              · exact .inr ⟨rfl, loaded⟩
              · exact .inl earlier
  | resolveRacing policy reader now key invalidation =>
      simp only [next, ContextCache.resolveRacing] at member
      cases found : cache.find? policy now key with
      | some context =>
          rw [found] at member
          exact .inl ((mem_entries_invalidate _ invalidation entry).mp member).1
      | none =>
          cases loaded : key.load reader with
          | error reason =>
              simp only [found, loaded] at member
              exact .inl ((mem_entries_invalidate _ invalidation entry).mp member).1
          | ok context =>
              simp only [found, loaded] at member
              rcases mem_entries_keep_of_generation _ policy now member with rfl | earlier
              · exact .inr ⟨rfl, loaded⟩
              · exact .inl ((mem_entries_invalidate _ invalidation entry).mp earlier).1
  | invalidate invalidation =>
      exact .inl ((mem_entries_invalidate cache invalidation entry).mp member).1

/-- **After any history** every context that is kept was read by some event of it. -/
theorem exists_reads_of_mem_after (history : List CacheEvent)
    (member : entry ∈ (after history).entries) :
    ∃ event ∈ history, event.Reads entry.1 entry.2.context := by
  induction history using List.reverseRecOn with
  | nil => exact nomatch member
  | append_singleton earlier event ih =>
      rw [after, List.foldl_append] at member
      rcases mem_entries_next event member with before | read
      · obtain ⟨reading, past, read⟩ := ih before
        exact ⟨reading, List.mem_append_left _ past, read⟩
      · exact ⟨event, List.mem_append_right _ List.mem_cons_self, read⟩

/-- Every context that is kept fits its key. -/
def Fitting (cache : ContextCache) : Prop :=
  ∀ entry ∈ cache.entries, entry.2.context.Fits entry.1

/-- What is found in a fitting cache fits the key that it is asked for. -/
theorem Fitting.find? (fitting : cache.Fitting) {policy : CachePolicy} {now : Nat}
    {key : ContextKey} {context : ResolvedContext}
    (found : cache.find? policy now key = some context) : context.Fits key := by
  obtain ⟨cachedAt, member, -⟩ := mem_entries_of_find? cache policy now found
  exact fitting _ member

/-- What a resolution answers fits. -/
theorem Fitting.resolve (fitting : cache.Fitting) (policy : CachePolicy) (reader : DefinitionReader)
    (now : Nat) (key : ContextKey) :
    ∀ context, (cache.resolve policy reader now key).1 = .ok context → context.Fits key := by
  intro context answered
  cases found : cache.find? policy now key with
  | some kept =>
      rw [resolve_of_kept _ _ _ found] at answered
      cases answered
      exact fitting.find? found
  | none =>
      cases loaded : key.load reader with
      | error reason =>
          rw [resolve_of_refused _ _ _ found loaded] at answered
          exact nomatch answered
      | ok read =>
          rw [resolve_of_loaded _ _ _ found loaded] at answered
          cases answered
          exact ContextKey.fits_of_load loaded

/-- **After any history** every context that is kept fits its key. -/
theorem fitting_after (history : List CacheEvent) : (after history).Fitting := by
  intro entry member
  obtain ⟨event, -, read⟩ := exists_reads_of_mem_after history member
  exact read.fits

/-- As long as only one reader is read with, every context that is kept is the one that it gives. -/
theorem current_after {reader : DefinitionReader} {history : List CacheEvent}
    (own : ∀ event ∈ history, event.ReadsWith reader) :
    ∀ entry ∈ (after history).entries, entry.1.load reader = .ok entry.2.context := by
  intro entry member
  obtain ⟨event, past, read⟩ := exists_reads_of_mem_after history member
  exact read.load (own event past)

end ContextCache

end ActionGateway
