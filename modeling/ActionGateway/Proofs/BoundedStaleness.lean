import ActionGateway.Execution.Gateway
import ActionGateway.Proofs.CacheEntries
import ActionGateway.Proofs.Sessions
import Mathlib.Data.List.Induction

/-!
# How old an answer may be

A session whose definitions change without notice may answer with a context that they no longer
give. But each context that is kept was loaded by one of the steps, and what is served is younger
than the time for which it may be kept. Being served does not make it younger, and an invalidation
that concerns it ends it. A rejection is always up to date, and leaves what is kept as it was.
-/

namespace ActionGateway

namespace Session

variable {policy : CachePolicy} {origin session : Session} {step : SessionStep}
  {entry : ContextKey × CachedContext}

/-- **The loading that a context comes from.** After the earlier steps a resolution of its key
loaded it, and no invalidation among the later ones concerns it. -/
structure LoadedBetween (policy : CachePolicy) (origin : Session)
    (earlier later : List SessionStep) (key : ContextKey) (context : ResolvedContext) : Prop where
  loads : (origin.after policy earlier).Loads policy key context
  undisturbed : ∀ invalidation, .invalidate invalidation ∈ later →
    invalidation.concerns key context = false

theorem now_le_after (policy : CachePolicy) (session : Session) (steps : List SessionStep) :
    session.now ≤ (session.after policy steps).now := by
  induction steps using List.reverseRecOn with
  | nil => exact Nat.le_refl _
  | append_singleton steps step ih =>
      rw [after_concat]
      cases step with
      | resolve _ | put _ | invalidate _ => exact ih
      | advance ms => exact Nat.le_trans ih (Nat.le_add_right _ ms)

/-- What is kept after a step was loaded by it, or was kept before and is not concerned by it. -/
theorem mem_entries_next (member : entry ∈ (session.next policy step).cache.entries) :
    (step = .resolve entry.1 ∧ session.Loads policy entry.1 entry.2.context ∧
      session.now = entry.2.cachedAt) ∨
    (entry ∈ session.cache.entries ∧ ∀ invalidation, step = .invalidate invalidation →
      invalidation.concerns entry.1 entry.2.context = false) := by
  cases step with
  | resolve key =>
      simp only [next] at member
      cases found : session.cache.find? policy session.now key with
      | some context =>
          rw [ContextCache.resolve_of_kept _ _ _ found] at member
          exact .inr ⟨member, nofun⟩
      | none =>
          cases loaded : key.load session.definitions.reader with
          | error reason =>
              rw [ContextCache.resolve_of_refused _ _ _ found loaded] at member
              exact .inr ⟨member, nofun⟩
          | ok context =>
              rw [ContextCache.resolve_of_loaded _ _ _ found loaded] at member
              rcases ContextCache.mem_entries_keep session.cache.countMiss policy session.now member
                with rfl | ⟨earlier, -⟩
              · exact .inl ⟨rfl, ⟨found, loaded⟩, rfl⟩
              · exact .inr ⟨earlier, nofun⟩
  | put _ | advance _ => exact .inr ⟨member, nofun⟩
  | invalidate invalidation =>
      obtain ⟨earlier, unconcerned⟩ :=
        (ContextCache.mem_entries_invalidate session.cache invalidation entry).mp member
      refine .inr ⟨earlier, ?_⟩
      rintro other ⟨⟩
      exact unconcerned

/-- **Each context that is kept was loaded**, at the time from which on it is kept. -/
theorem exists_loadedBetween_of_mem (unused : origin.cache.entries = []) (steps : List SessionStep)
    (member : entry ∈ (origin.after policy steps).cache.entries) :
    ∃ earlier later, steps = earlier ++ .resolve entry.1 :: later ∧
      LoadedBetween policy origin earlier later entry.1 entry.2.context ∧
      (origin.after policy earlier).now = entry.2.cachedAt := by
  induction steps using List.reverseRecOn with
  | nil =>
      change entry ∈ origin.cache.entries at member
      rw [unused] at member
      exact (List.not_mem_nil member).elim
  | append_singleton steps step ih =>
      -- The last step loaded the entry, or the step that did is among the earlier ones and the last
      -- one is not an invalidation that concerns it.
      rw [after_concat] at member
      rcases mem_entries_next member with ⟨rfl, loads, since⟩ | ⟨before, unconcerned⟩
      · exact ⟨steps, [], rfl, ⟨loads, fun _ absent => (List.not_mem_nil absent).elim⟩, since⟩
      · obtain ⟨earlier, later, rfl, ⟨loads, undisturbed⟩, since⟩ := ih before
        refine ⟨earlier, later ++ [step], ?_, ⟨loads, fun invalidation among => ?_⟩, since⟩
        · rw [List.append_assoc, List.cons_append]
        · rcases List.mem_append.mp among with past | last
          · exact undisturbed invalidation past
          · exact unconcerned invalidation (List.mem_singleton.mp last).symm

/-- **Answered in time.** A context is loaded there and then, or was loaded less than the time to
live ago and has not been concerned by an invalidation since. A rejection is that of the
definitions there and then, and leaves the entries alone. -/
structure AnsweredInTime (policy : CachePolicy) (origin : Session) (steps : List SessionStep)
    (key : ContextKey) (resolved : Except Rejection ResolvedContext × ContextCache) : Prop where
  context : ∀ context, resolved.1 = .ok context →
    (origin.after policy steps).Loads policy key context ∨
    ∃ earlier later, steps = earlier ++ .resolve key :: later ∧
      LoadedBetween policy origin earlier later key context ∧
      (origin.after policy earlier).now ≤ (origin.after policy steps).now ∧
      (origin.after policy steps).now < (origin.after policy earlier).now + policy.ttlMs
  rejection : ∀ reason, resolved.1 = .error reason →
    key.load (origin.after policy steps).definitions.reader = .error reason ∧
    resolved.2.entries = (origin.after policy steps).cache.entries

theorem answeredInTime_resolve (unused : origin.cache.entries = []) (steps : List SessionStep)
    (key : ContextKey) :
    AnsweredInTime policy origin steps key
      ((origin.after policy steps).cache.resolve policy
        (origin.after policy steps).definitions.reader (origin.after policy steps).now key) := by
  generalize current : origin.after policy steps = session
  cases found : session.cache.find? policy session.now key with
  | some kept =>
      rw [ContextCache.resolve_of_kept _ _ _ found]
      refine ⟨?_, fun _ rejected => nomatch rejected⟩
      rintro context ⟨⟩
      obtain ⟨cachedAt, member, young⟩ := ContextCache.mem_entries_of_find? _ _ _ found
      rw [← current] at member
      obtain ⟨earlier, later, rfl, loaded, since⟩ := exists_loadedBetween_of_mem unused steps member
      refine .inr ⟨earlier, later, rfl, loaded, ?_, ?_⟩
      · rw [after_append]
        exact now_le_after policy _ _
      · rw [since, current]
        exact young
  | none =>
      cases loaded : key.load session.definitions.reader with
      | ok context =>
          rw [ContextCache.resolve_of_loaded _ _ _ found loaded]
          refine ⟨?_, fun _ rejected => nomatch rejected⟩
          rintro other ⟨⟩
          rw [current]
          exact .inl ⟨found, loaded⟩
      | error reason =>
          rw [ContextCache.resolve_of_refused _ _ _ found loaded]
          refine ⟨fun _ answered => (nomatch answered), ?_⟩
          rintro other ⟨⟩
          rw [current]
          exact ⟨loaded, rfl⟩

end Session

/-- What a call finds that is made in a session. -/
def Surroundings.within (surroundings : Surroundings) (session : Session) : Surroundings :=
  { surroundings with
    reader := session.definitions.reader
    nowMs := session.now }

/-- **Answers have a limited age.** Whatever was resolved, written and invalidated before, a call is
answered in time, for the key that it asks for. -/
theorem Gateway.resolve_answeredInTime (gateway : Gateway) (surroundings : Surroundings)
    (definitions : Definitions) (steps : List SessionStep) (id : String) (branch : Option String)
    (environmentId : String) (viewMode : ViewMode) :
    Session.AnsweredInTime gateway.policy (.initial definitions) steps
      (.ofCall gateway.settings.defaultEnvironment id branch environmentId viewMode)
      (gateway.resolve
        (surroundings.within
          ((Session.initial definitions).after gateway.policy steps))
        ((Session.initial definitions).after gateway.policy steps).cache
        id branch environmentId viewMode) :=
  Session.answeredInTime_resolve rfl steps _

end ActionGateway
