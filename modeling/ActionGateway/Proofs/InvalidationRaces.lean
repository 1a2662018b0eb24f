import ActionGateway.Proofs.SharedResolver

/-!
# Invalidations that race with resolutions

A call that began its look-ups before an invalidation may hold records from before the change. The
generation that it remembers is then an earlier one, and what it offers is not kept. The invariant
says this of each call and each entry with respect to the steps that were taken so far: whatever
may still be written, and whatever is kept, was read after the invalidations that matter for it.
-/

namespace ActionGateway.SharedResolver

/-- A call has not looked anything up. -/
def Unread (steps : List ResolverStep) (call : Nat) : Prop :=
  ResolverStep.readStore call ∉ steps

/-- All look-ups of a call come after a position. -/
def ReadsAfter (steps : List ResolverStep) (position call : Nat) : Prop :=
  ∀ read, steps[read]? = some (.readStore call) → position < read

/-- All look-ups of a call come after each invalidation of a kind. -/
def ReadsFollow (steps : List ResolverStep) (kind : Invalidation → Bool) (call : Nat) : Prop :=
  ∀ position invalidation, steps[position]? = some (.invalidate invalidation) →
    kind invalidation = true → ReadsAfter steps position call

/-- What is known of a call at a stage. -/
def CallGuarded (steps : List ResolverStep) (generation call : Nat) : CallStage → Prop
  | .idle | .missed _ => Unread steps call
  | .reading _ begun _ =>
    begun ≤ generation ∧ (begun = generation → ReadsFollow steps (fun _ => true) call)
  | .answered _ _ => True

/-- What is known of an entry: the call that wrote it answered with it, and made its look-ups after
the invalidations that concern it. -/
def EntryGuarded (steps : List ResolverStep) (state : SharedResolver)
    (entry : ContextKey × CachedContext) : Prop :=
  ∃ call, state.writer entry.1 = some call ∧
    state.calls call = .answered entry.1 (.ok entry.2.context) ∧
    ReadsFollow steps (fun invalidation => invalidation.concerns entry.1 entry.2.context) call

/-- **The invariant of shared resolvers.** -/
structure Guarded (steps : List ResolverStep) (state : SharedResolver) : Prop where
  calls : ∀ call, CallGuarded steps state.cache.generation call (state.calls call)
  entries : ∀ entry ∈ state.cache.entries, EntryGuarded steps state entry

/-- A step of a run that is one step longer is one of the run or its last. -/
theorem getElem?_concat_eq_some {α : Type} {items : List α} {last found : α} {position : Nat}
    (present : (items ++ [last])[position]? = some found) :
    items[position]? = some found ∨ (position = items.length ∧ last = found) := by
  rcases Nat.lt_trichotomy position items.length with before | atEnd | beyond
  · left
    rwa [List.getElem?_append_left before] at present
  · right
    subst atEnd
    rw [List.getElem?_concat_length] at present
    exact ⟨rfl, Option.some.inj present⟩
  · have outside : (items ++ [last]).length ≤ position := by
      rw [List.length_append, List.length_singleton]
      omega
    rw [List.getElem?_eq_none outside] at present
    exact nomatch present

variable {steps : List ResolverStep} {step : ResolverStep} {call : Nat}

/-- A call that has looked nothing up has no look-up before any position. -/
theorem Unread.readsAfter (unread : Unread steps call) (position : Nat) :
    ReadsAfter steps position call :=
  fun _ present => (unread (List.mem_of_getElem? present)).elim

/-- So none of its look-ups comes before an invalidation of any kind. -/
theorem Unread.readsFollow (unread : Unread steps call) (kind : Invalidation → Bool) :
    ReadsFollow steps kind call :=
  fun position _ _ _ => unread.readsAfter position

/-- It has looked nothing up after one step more, unless that step is its own look-up. -/
theorem Unread.concat (unread : Unread steps call) (other : step ≠ .readStore call) :
    Unread (steps ++ [step]) call := by
  intro member
  rcases List.mem_append.mp member with earlier | last
  · exact unread earlier
  · exact other (List.mem_singleton.mp last).symm

/-- One more step leaves the look-ups of a call after a position that was reached before. -/
theorem ReadsAfter.concat {position : Nat} (after : ReadsAfter steps position call)
    (reached : position < steps.length) : ReadsAfter (steps ++ [step]) position call := by
  intro read present
  rcases getElem?_concat_eq_some present with earlier | ⟨last, -⟩
  · exact after read earlier
  · omega

/-- One more step that is no invalidation of a kind leaves the look-ups of a call after those. -/
theorem ReadsFollow.concat {kind : Invalidation → Bool} (follow : ReadsFollow steps kind call)
    (other : ∀ invalidation, step = .invalidate invalidation → kind invalidation = false) :
    ReadsFollow (steps ++ [step]) kind call := by
  intro position invalidation present concerned
  rcases getElem?_concat_eq_some present with earlier | ⟨-, last⟩
  · have reached : position < steps.length := (List.getElem?_eq_some_iff.mp earlier).1
    exact (follow position invalidation earlier concerned).concat reached
  · exact absurd concerned (Bool.eq_false_iff.mp (other invalidation last))

/-- What is known of a call outlasts the steps of others that are no invalidations. -/
theorem CallGuarded.concat {generation : Nat} {stage : CallStage}
    (guarded : CallGuarded steps generation call stage) (other : step ≠ .readStore call)
    (harmless : ∀ invalidation, step ≠ .invalidate invalidation) :
    CallGuarded (steps ++ [step]) generation call stage := by
  cases stage with
  | idle => exact Unread.concat guarded other
  | missed key => exact Unread.concat guarded other
  | reading key begun rest =>
      refine ⟨guarded.1, fun current => (guarded.2 current).concat ?_⟩
      exact fun invalidation same => (harmless invalidation same).elim
  | answered key answer => trivial

/-- An invalidation ends the generation of every call that has begun its look-ups. -/
theorem CallGuarded.invalidate {generation : Nat} {stage : CallStage}
    (guarded : CallGuarded steps generation call stage) (invalidation : Invalidation) :
    CallGuarded (steps ++ [.invalidate invalidation]) (generation + 1) call stage := by
  cases stage with
  | idle => exact Unread.concat guarded nofun
  | missed key => exact Unread.concat guarded nofun
  | reading key begun rest =>
      have outdated : begun ≤ generation := guarded.1
      refine ⟨by omega, fun current => ?_⟩
      omega
  | answered key answer => trivial

variable {policy : CachePolicy} {state next : SharedResolver}

/-- A call answers once. -/
theorem Step.answered_stays (taken : Step policy state step next) {key : ContextKey}
    {answer : Except Rejection ResolvedContext}
    (answered : state.calls call = .answered key answer) :
    next.calls call = .answered key answer := by
  have untouched (acting : Nat) (stage : CallStage)
      (open_ : state.calls acting ≠ .answered key answer) :
      Function.update state.calls acting stage call = .answered key answer := by
    have different : call ≠ acting := fun same => open_ (same ▸ answered)
    rw [Function.update_of_ne different, answered]
  cases taken with
  | hit idle _ => exact untouched _ _ (by rw [idle]; exact nofun)
  | miss idle _ => exact untouched _ _ (by rw [idle]; exact nofun)
  | readGeneration missed => exact untouched _ _ (by rw [missed]; exact nofun)
  | readStore reading _ => exact untouched _ _ (by rw [reading]; exact nofun)
  | answer reading => exact untouched _ _ (by rw [reading]; exact nofun)
  | reject reading => exact untouched _ _ (by rw [reading]; exact nofun)
  | put _ | invalidate _ | advance _ => exact answered

/-- What is known of the calls stays known when one of them takes a step to a stage for which it
is. -/
theorem callGuarded_update {generation other : Nat} {calls : Nat → CallStage} {stage : CallStage}
    (guarded : ∀ other, CallGuarded steps generation other (calls other))
    (own : step.caller? = some call)
    (reached : CallGuarded (steps ++ [step]) generation call stage) :
    CallGuarded (steps ++ [step]) generation other (Function.update calls call stage other) := by
  by_cases same : other = call
  · subst same
    rw [Function.update_self]
    exact reached
  · rw [Function.update_of_ne same]
    apply (guarded other).concat
    · rintro rfl
      exact same (Option.some.inj own)
    · rintro invalidation rfl
      exact nomatch own

/-- Each step keeps what is known of the calls. -/
theorem Guarded.calls_step (guarded : Guarded steps state) (taken : Step policy state step next)
    (other : Nat) :
    CallGuarded (steps ++ [step]) next.cache.generation other (next.calls other) := by
  cases taken with
  | hit idle _ => exact callGuarded_update guarded.calls rfl trivial
  | @miss call key idle _ =>
      have unread := guarded.calls call
      rw [idle] at unread
      exact callGuarded_update guarded.calls rfl (Unread.concat unread nofun)
  | @readGeneration call key missed =>
      have unread := guarded.calls call
      rw [missed] at unread
      refine callGuarded_update guarded.calls rfl ⟨Nat.le_refl _, fun _ => ?_⟩
      apply Unread.readsFollow
      exact Unread.concat unread nofun
  | @readStore call generation key rest reading _ =>
      have begun := guarded.calls call
      rw [reading] at begun
      refine callGuarded_update guarded.calls rfl ⟨begun.1, fun current => ?_⟩
      exact (begun.2 current).concat nofun
  | answer reading =>
      change CallGuarded _ (ContextCache.keep _ _ _ _ _ _).generation other _
      rw [ContextCache.keep_generation]
      exact callGuarded_update guarded.calls rfl trivial
  | reject reading => exact callGuarded_update guarded.calls rfl trivial
  | put record => exact (guarded.calls other).concat nofun nofun
  | invalidate invalidation => exact (guarded.calls other).invalidate invalidation
  | advance ms => exact (guarded.calls other).concat nofun nofun

/-- What is known of an entry outlasts a step that neither writes under its key nor is an
invalidation that concerns it. -/
theorem EntryGuarded.outlasts {entry : ContextKey × CachedContext}
    (guarded : EntryGuarded steps state entry) (taken : Step policy state step next)
    (unwritten : next.writer entry.1 = state.writer entry.1)
    (harmless : ∀ invalidation, step = .invalidate invalidation →
      invalidation.concerns entry.1 entry.2.context = false) :
    EntryGuarded (steps ++ [step]) next entry := by
  obtain ⟨call, wrote, answered, follow⟩ := guarded
  exact ⟨call, unwritten.trans wrote, taken.answered_stays answered, follow.concat harmless⟩

/-- What a call of the current generation writes was read after every invalidation so far. -/
theorem Guarded.entries_answer (guarded : Guarded steps state) {generation : Nat}
    {key : ContextKey} {context : ResolvedContext}
    (reading : state.calls call = .reading key generation (.done context)) :
    ∀ entry ∈ (state.offer policy call generation key context).cache.entries,
      EntryGuarded (steps ++ [.answer call])
        ((state.offer policy call generation key context).setStage call
          (.answered key (.ok context))) entry := by
  have taken : Step policy state (.answer call) _ := .answer reading
  intro entry member
  by_cases current : state.cache.generation = generation
  · subst current
    rcases ContextCache.mem_entries_keep state.cache policy state.now member with
      rfl | ⟨earlier, different⟩
    · -- No invalidation came since the call began, or the generation would be another.
      have begun := guarded.calls call
      rw [reading] at begun
      refine ⟨call, ?_, Function.update_self .., ?_⟩
      · change (if _ then Function.update _ _ _ else _) key = _
        rw [if_pos rfl, Function.update_self]
      · have follow : ReadsFollow (steps ++ [.answer call]) (fun _ => true) call :=
          (begun.2 rfl).concat nofun
        exact fun position invalidation present _ => follow position invalidation present rfl
    · refine (guarded.entries entry earlier).outlasts taken ?_ nofun
      change (if _ then Function.update _ _ _ else _) entry.1 = _
      rw [if_pos rfl, Function.update_of_ne different]
  · -- An invalidation overtook the call, and nothing is written.
    change entry ∈ (ContextCache.keep _ _ _ _ _ _).entries at member
    rw [ContextCache.keep_of_ne _ _ _ _ _ current] at member
    refine (guarded.entries entry member).outlasts taken ?_ nofun
    change (if _ then Function.update _ _ _ else _) entry.1 = _
    rw [if_neg current]

/-- Each step keeps what is known of the entries. -/
theorem Guarded.entries_step (guarded : Guarded steps state)
    (taken : Step policy state step next) :
    ∀ entry ∈ next.cache.entries, EntryGuarded (steps ++ [step]) next entry := by
  intro entry member
  have whole := taken
  cases taken with
  | answer reading => exact guarded.entries_answer reading entry member
  | invalidate invalidation =>
      obtain ⟨earlier, unconcerned⟩ :=
        (ContextCache.mem_entries_invalidate state.cache invalidation entry).mp member
      refine (guarded.entries entry earlier).outlasts whole rfl ?_
      rintro other ⟨⟩
      exact unconcerned
  | hit _ _ | miss _ _ | readGeneration _ | readStore _ _ | reject _ | put _ | advance _ =>
      exact (guarded.entries entry member).outlasts whole rfl nofun

/-- **The invariant holds along every run.** -/
theorem Run.guarded {definitions : Definitions}
    (run : Run policy (.initial definitions) steps state) : Guarded steps state := by
  induction run with
  | start => exact ⟨fun _ => List.not_mem_nil, fun _ member => (List.not_mem_nil member).elim⟩
  | step _ taken ih => exact ⟨ih.calls_step taken, ih.entries_step taken⟩

/-- **No entry is older than an invalidation that concerns it.** However calls, changes of the
definitions and invalidations are interleaved, what is kept after an invalidation and concerned by
it was written by a call that answered with it, and that made all of its look-ups after the
invalidation. -/
theorem kept_context_read_after_invalidation (policy : CachePolicy) (definitions : Definitions)
    (steps : List ResolverStep) (state : SharedResolver)
    (run : Run policy (.initial definitions) steps state)
    (position : Nat) (invalidation : Invalidation)
    (invalidated : steps[position]? = some (.invalidate invalidation))
    (entry : ContextKey × CachedContext) (kept : entry ∈ state.cache.entries)
    (concerned : invalidation.concerns entry.1 entry.2.context = true) :
    ∃ call, state.writer entry.1 = some call ∧
      state.calls call = .answered entry.1 (.ok entry.2.context) ∧
      ∀ read, steps[read]? = some (.readStore call) → position < read := by
  obtain ⟨call, wrote, answered, follow⟩ := run.guarded.entries entry kept
  exact ⟨call, wrote, answered, follow position invalidation invalidated concerned⟩

/-- Call 0 has looked up the report when the report is said to have changed; call 1 comes later. -/
def overtakenSteps : List ResolverStep := [
  .lookUp 0 Report.key, .readGeneration 0, .readStore 0, .invalidate (.action "report"),
  .readStore 0, .answer 0,
  .lookUp 1 Report.key, .readGeneration 1, .readStore 1, .readStore 1, .answer 1]

/-- What the overtaken call offers is not kept. What is kept comes from the later call. -/
theorem kept_context_read_after_overtaking_invalidation :
    ∃ state,
      Run ⟨1000, 1, .first⟩ (.initial (.ofRecords Report.records))
        overtakenSteps state ∧
      overtakenSteps[3]? = some (.invalidate (.action "report")) ∧
      (Report.key, ⟨Report.context, 0⟩) ∈ state.cache.entries ∧
      (Invalidation.action "report").concerns Report.key Report.context = true ∧
      ∃ call, state.writer Report.key = some call ∧
        state.calls call = .answered Report.key (.ok Report.context) ∧
        ∀ read, overtakenSteps[read]? = some (.readStore call) → 3 < read := by
  obtain ⟨state, run, kept⟩ : ∃ state,
      Run ⟨1000, 1, .first⟩ (.initial (.ofRecords Report.records))
        overtakenSteps state ∧
      (Report.key, ⟨Report.context, 0⟩) ∈ state.cache.entries :=
    ⟨_, .cons (.miss rfl rfl) <| .cons (.readGeneration rfl) <| .cons (.readStore rfl rfl) <|
      .cons (.invalidate _) <| .cons (.readStore rfl rfl) <| .cons (.answer rfl) <|
      .cons (.miss rfl rfl) <| .cons (.readGeneration rfl) <| .cons (.readStore rfl rfl) <|
      .cons (.readStore rfl rfl) <| .cons (.answer rfl) .start, List.mem_singleton_self _⟩
  have concerned : (Invalidation.action "report").concerns Report.key Report.context = true := by
    decide
  exact ⟨state, run, rfl, kept, concerned,
    kept_context_read_after_invalidation _ _ _ state run 3 _ rfl _ kept concerned⟩

end ActionGateway.SharedResolver
