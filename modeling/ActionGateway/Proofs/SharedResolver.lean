import ActionGateway.Proofs.CacheEntries
import ActionGateway.Proofs.Loading
import ActionGateway.Proofs.Records
import Mathlib.Logic.Function.Basic

/-!
# Resolutions at the same time

Any number of calls resolve contexts with one cache, and each of them can be held up between any
two of its steps: the look into the cache, the reading of the generation, each look-up in the
definitions, and the answer with which it may write to the cache. In between, records are written,
invalidations take place and time passes.

What a cache then holds is never older than an invalidation that concerns it. A call remembers the
generation that was current before its first look-up, and an invalidation that overtakes it moves
the cache on to another one. So a call that may still write has made all of its look-ups after
every invalidation so far.
-/

namespace ActionGateway

/-- How far a call has come. -/
inductive CallStage where
  /-- The call has not begun. -/
  | idle
  /-- The cache had nothing for the key. -/
  | missed (key : ContextKey)
  /-- The definitions are being read, with the generation that was current before that. -/
  | reading (key : ContextKey) (generation : Nat) (rest : Reading ResolvedContext)
  | answered (key : ContextKey) (answer : Except Rejection ResolvedContext)

/-- One step of one of the calls, or of those that maintain the definitions. -/
inductive ResolverStep where
  /-- A call begins with a look into the cache. -/
  | lookUp (call : Nat) (key : ContextKey)
  | readGeneration (call : Nat)
  /-- A call looks up one record. -/
  | readStore (call : Nat)
  /-- A call that has nothing left to look up answers; a context is offered to the cache. -/
  | answer (call : Nat)
  | put (record : DefinitionRecord)
  | invalidate (invalidation : Invalidation)
  | advance (ms : Nat)

/-- The call that takes a step, if it is one of a call. -/
def ResolverStep.caller? : ResolverStep → Option Nat
  | lookUp call _ | readGeneration call | readStore call | answer call => some call
  | put _ | invalidate _ | advance _ => none

/-- **Shared resolver**: one cache over definitions that change, and the calls that use it. -/
structure SharedResolver where
  definitions : Definitions
  cache : ContextCache
  now : Nat
  calls : Nat → CallStage
  /-- The call that wrote last under a key. No step depends on it. -/
  writer : ContextKey → Option Nat

namespace SharedResolver

/-- Definitions with an empty cache, before the first call. -/
def initial (definitions : Definitions) : SharedResolver where
  definitions := definitions
  cache := .empty
  now := 0
  calls _ := .idle
  writer _ := none

/-- A call comes to a stage. -/
def setStage (state : SharedResolver) (call : Nat) (stage : CallStage) : SharedResolver :=
  { state with calls := Function.update state.calls call stage }

/-- A call offers a context to the cache, which takes it only in the generation of the call. -/
def offer (state : SharedResolver) (policy : CachePolicy) (call generation : Nat)
    (key : ContextKey) (context : ResolvedContext) : SharedResolver :=
  { state with
    cache := state.cache.keep policy state.now generation key context
    writer :=
      if state.cache.generation = generation then Function.update state.writer key (some call)
      else state.writer }

/-- **What one step does.** -/
inductive Step (policy : CachePolicy) :
    SharedResolver → ResolverStep → SharedResolver → Prop where
  | hit {state : SharedResolver} {call : Nat} {key : ContextKey} {context : ResolvedContext} :
      state.calls call = .idle →
      state.cache.find? policy state.now key = some context →
      Step policy state (.lookUp call key)
        ({ state with cache := state.cache.countHit }.setStage call (.answered key (.ok context)))
  | miss {state : SharedResolver} {call : Nat} {key : ContextKey} :
      state.calls call = .idle →
      state.cache.find? policy state.now key = none →
      Step policy state (.lookUp call key)
        ({ state with cache := state.cache.countMiss }.setStage call (.missed key))
  | readGeneration {state : SharedResolver} {call : Nat} {key : ContextKey} :
      state.calls call = .missed key →
      Step policy state (.readGeneration call)
        (state.setStage call (.reading key state.cache.generation key.reading))
  | readStore {state : SharedResolver} {call generation : Nat} {key : ContextKey}
      {rest : Reading ResolvedContext} :
      state.calls call = .reading key generation rest →
      rest.isOver = false →
      Step policy state (.readStore call)
        (state.setStage call (.reading key generation (rest.step state.definitions.reader)))
  | answer {state : SharedResolver} {call generation : Nat} {key : ContextKey}
      {context : ResolvedContext} :
      state.calls call = .reading key generation (.done context) →
      Step policy state (.answer call)
        ((state.offer policy call generation key context).setStage call
          (.answered key (.ok context)))
  | reject {state : SharedResolver} {call generation : Nat} {key : ContextKey}
      {reason : Rejection} :
      state.calls call = .reading key generation (.rejected reason) →
      Step policy state (.answer call) (state.setStage call (.answered key (.error reason)))
  | put {state : SharedResolver} (record : DefinitionRecord) :
      Step policy state (.put record)
        { state with definitions := state.definitions.put record }
  | invalidate {state : SharedResolver} (invalidation : Invalidation) :
      Step policy state (.invalidate invalidation)
        { state with cache := state.cache.invalidate invalidation }
  | advance {state : SharedResolver} (ms : Nat) :
      Step policy state (.advance ms) { state with now := state.now + ms }

/-- **Runs**: the steps that were taken from a state, in any order that their guards allow, and the
state that they led to. -/
inductive Run (policy : CachePolicy) (origin : SharedResolver) :
    List ResolverStep → SharedResolver → Prop where
  | start : Run policy origin [] origin
  | step {steps : List ResolverStep} {state next : SharedResolver} {step : ResolverStep} :
      Run policy origin steps state → Step policy state step next →
      Run policy origin (steps ++ [step]) next

variable {policy : CachePolicy} {origin state final : SharedResolver}

/-- A run goes on with another from where it ends. -/
theorem Run.append {first second : List ResolverStep} (before : Run policy origin first state)
    (after : Run policy state second final) : Run policy origin (first ++ second) final := by
  induction after with
  | start =>
      rw [List.append_nil]
      exact before
  | step _ taken ih =>
      rw [← List.append_assoc]
      exact ih.step taken

/-- A step before a run makes a run. -/
theorem Run.cons {first : ResolverStep} {steps : List ResolverStep}
    (taken : Step policy origin first state) (after : Run policy state steps final) :
    Run policy origin (first :: steps) final :=
  (Run.start.step taken : Run policy origin [first] state).append after

/-- Of two stages set for a call the second counts. -/
theorem setStage_setStage (state : SharedResolver) (call : Nat) (first second : CallStage) :
    (state.setStage call first).setStage call second = state.setStage call second := by
  simp only [setStage, Function.update_idem]

/-- A call is at the stage set for it. -/
theorem setStage_calls_self (state : SharedResolver) (call : Nat) (stage : CallStage) :
    (state.setStage call stage).calls call = stage :=
  Function.update_self ..

/-- What a call leaves behind when it answers. -/
def answerWith (state : SharedResolver) (policy : CachePolicy) (call generation : Nat)
    (key : ContextKey) : Except Rejection ResolvedContext → SharedResolver
  | .ok context =>
    (state.offer policy call generation key context).setStage call (.answered key (.ok context))
  | .error reason => state.setStage call (.answered key (.error reason))

/-- What a call is answered with replaces whatever stage it was at. -/
theorem answerWith_setStage (state : SharedResolver) (call generation : Nat) (key : ContextKey)
    (stage : CallStage) (outcome : Except Rejection ResolvedContext) :
    (state.setStage call stage).answerWith policy call generation key outcome =
      state.answerWith policy call generation key outcome := by
  cases outcome with
  | ok context => exact setStage_setStage (state.offer policy call generation key context) call _ _
  | error reason => exact setStage_setStage state call _ _

/-- Left alone, a call that reads the definitions makes its look-ups and answers with their
outcome. -/
theorem exists_run_answer (policy : CachePolicy) {call generation : Nat} {key : ContextKey}
    (rest : Reading ResolvedContext) (state : SharedResolver)
    (reading : state.calls call = .reading key generation rest) :
    ∃ steps, (∀ step ∈ steps, step.caller? = some call) ∧
      Run policy state steps
        (state.answerWith policy call generation key (rest.run state.definitions.reader)) := by
  generalize fixed : state.definitions.reader = reader
  induction rest using Reading.step_induction reader generalizing state with
  | ended rest ended =>
      refine ⟨[.answer call], fun step member => List.mem_singleton.mp member ▸ rfl, ?_⟩
      cases rest with
      | done context => exact Run.start.step (.answer reading)
      | rejected reason => exact Run.start.step (.reject reading)
      | application _ _ | action _ _ | copyOnBranch _ _ _ | datasource _ _ => exact nomatch ended
  | lookUp rest unfinished ih =>
      obtain ⟨steps, own, run⟩ :=
        ih (state.setStage call _) (setStage_calls_self state call _) fixed
      rw [answerWith_setStage, Reading.run_step] at run
      refine ⟨.readStore call :: steps, ?_, .cons (.readStore reading unfinished) (fixed ▸ run)⟩
      exact List.forall_mem_cons.mpr ⟨rfl, own⟩

/-- **Resolution in one go is a run.** A call that nothing interrupts answers as `resolve` does,
and leaves the cache as `resolve` leaves it. -/
theorem exists_run_resolve (policy : CachePolicy) (state : SharedResolver) (call : Nat)
    (key : ContextKey) (idle : state.calls call = .idle) :
    ∃ steps final, (∀ step ∈ steps, step.caller? = some call) ∧ Run policy state steps final ∧
      final.calls call = .answered key
        (state.cache.resolve policy state.definitions.reader state.now key).1 ∧
      final.cache = (state.cache.resolve policy state.definitions.reader state.now key).2 := by
  unfold ContextCache.resolve
  cases found : state.cache.find? policy state.now key with
  | some context =>
      have taken : Step policy state (.lookUp call key) _ := .hit idle found
      refine ⟨[.lookUp call key], _, fun step member => List.mem_singleton.mp member ▸ rfl,
        Run.start.step taken, setStage_calls_self _ call _, rfl⟩
  | none =>
      let missed := { state with cache := state.cache.countMiss }.setStage call (.missed key)
      have generationRead : Step policy missed (.readGeneration call)
          (missed.setStage call (.reading key missed.cache.generation key.reading)) :=
        .readGeneration (setStage_calls_self _ call _)
      obtain ⟨steps, own, run⟩ := exists_run_answer policy key.reading
        (missed.setStage call (.reading key missed.cache.generation key.reading))
        (setStage_calls_self missed call _)
      refine ⟨.lookUp call key :: .readGeneration call :: steps, _, ?_,
        .cons (.miss idle found) (.cons generationRead run), ?_⟩
      · exact List.forall_mem_cons.mpr ⟨rfl, List.forall_mem_cons.mpr ⟨rfl, own⟩⟩
      · change (answerWith _ policy call _ key (key.load state.definitions.reader)).calls call = _ ∧
          (answerWith _ policy call _ key (key.load state.definitions.reader)).cache = _
        cases key.load state.definitions.reader with
        | ok context => exact ⟨setStage_calls_self _ call _, rfl⟩
        | error reason => exact ⟨setStage_calls_self _ call _, rfl⟩

/-- **So is a resolution that an invalidation overtakes** once the cache was looked at. -/
theorem exists_run_resolveRacing (policy : CachePolicy) (state : SharedResolver) (call : Nat)
    (key : ContextKey) (invalidation : Invalidation) (idle : state.calls call = .idle) :
    ∃ steps final,
      (∀ step ∈ steps, step.caller? = some call ∨ step = .invalidate invalidation) ∧
      Run policy state steps final ∧
      final.calls call = .answered key (state.cache.resolveRacing policy state.definitions.reader
        state.now key invalidation).1 ∧
      final.cache = (state.cache.resolveRacing policy state.definitions.reader state.now key
        invalidation).2 := by
  unfold ContextCache.resolveRacing
  cases found : state.cache.find? policy state.now key with
  | some context =>
      have taken : Step policy state (.lookUp call key) _ := .hit idle found
      refine ⟨[.lookUp call key, .invalidate invalidation], _, ?_,
        (Run.start.step taken).step (.invalidate invalidation), setStage_calls_self _ call _, rfl⟩
      exact List.forall_mem_cons.mpr ⟨.inl rfl, List.forall_mem_singleton.mpr (.inr rfl)⟩
  | none =>
      let missed := { state with cache := state.cache.countMiss }.setStage call (.missed key)
      let begun := missed.setStage call (.reading key missed.cache.generation key.reading)
      have generationRead : Step policy missed (.readGeneration call) begun :=
        .readGeneration (setStage_calls_self _ call _)
      obtain ⟨steps, own, run⟩ := exists_run_answer policy key.reading
        { begun with cache := begun.cache.invalidate invalidation }
        (setStage_calls_self missed call _)
      refine ⟨.lookUp call key :: .readGeneration call :: .invalidate invalidation :: steps, _, ?_,
        .cons (.miss idle found) (.cons generationRead (.cons (.invalidate invalidation) run)), ?_⟩
      · exact List.forall_mem_cons.mpr ⟨.inl rfl, List.forall_mem_cons.mpr ⟨.inl rfl,
          List.forall_mem_cons.mpr ⟨.inr rfl, fun step member => .inl (own step member)⟩⟩⟩
      · change (answerWith _ policy call _ key (key.load state.definitions.reader)).calls call = _ ∧
          (answerWith _ policy call _ key (key.load state.definitions.reader)).cache = _
        cases key.load state.definitions.reader with
        | ok context => exact ⟨setStage_calls_self _ call _, rfl⟩
        | error reason => exact ⟨setStage_calls_self _ call _, rfl⟩

end SharedResolver

end ActionGateway
