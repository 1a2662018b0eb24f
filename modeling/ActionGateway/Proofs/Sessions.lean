import ActionGateway.Proofs.Records

/-!
# Sessions

A session is a cache over definitions that change, used by one call at a time: keys are resolved,
records are written, invalidations take place and time passes, in any order. Definitions alone go
through the same steps. They answer each resolution with the context that they give at that moment.
-/

namespace ActionGateway

/-- One step of a session. -/
inductive SessionStep where
  | resolve (key : ContextKey)
  | put (record : DefinitionRecord)
  | invalidate (invalidation : Invalidation)
  | advance (ms : Nat)

/-- **Session**: definitions, their cache and the time. -/
structure Session where
  definitions : Definitions
  cache : ContextCache
  now : Nat

namespace Session

/-- Definitions with an empty cache. -/
def initial (definitions : Definitions) : Session := ⟨definitions, .empty, 0⟩

/-- The session after a step. -/
def next (policy : CachePolicy) (session : Session) : SessionStep → Session
  | .resolve key =>
    { session with
      cache := (session.cache.resolve policy session.definitions.reader session.now key).2 }
  | .put record => { session with definitions := session.definitions.put record }
  | .invalidate invalidation => { session with cache := session.cache.invalidate invalidation }
  | .advance ms => { session with now := session.now + ms }

/-- The session after steps. -/
def after (policy : CachePolicy) (session : Session) (steps : List SessionStep) : Session :=
  steps.foldl (next policy) session

/-- The last step of a session is taken last. -/
theorem after_concat (policy : CachePolicy) (session : Session) (steps : List SessionStep)
    (step : SessionStep) :
    session.after policy (steps ++ [step]) = (session.after policy steps).next policy step :=
  List.foldl_append

/-- Steps taken in two parts are taken one part after the other. -/
theorem after_append (policy : CachePolicy) (session : Session)
    (first second : List SessionStep) :
    session.after policy (first ++ second) = (session.after policy first).after policy second :=
  List.foldl_append

/-- **A resolution loads a context**: nothing fresh is kept for the key, and the definitions give
the context. -/
structure Loads (policy : CachePolicy) (session : Session) (key : ContextKey)
    (context : ResolvedContext) : Prop where
  missed : session.cache.find? policy session.now key = none
  loaded : key.load session.definitions.reader = .ok context

/-- The answer to a step. Only resolutions are answered. -/
def answer? (policy : CachePolicy) (session : Session) :
    SessionStep → Option (Except Rejection ResolvedContext)
  | .resolve key =>
    some (session.cache.resolve policy session.definitions.reader session.now key).1
  | .put _ | .invalidate _ | .advance _ => none

/-- The answers to steps, one after the other. -/
def answers (policy : CachePolicy) (session : Session) :
    List SessionStep → List (Except Rejection ResolvedContext)
  | [] => []
  | step :: rest =>
    (session.answer? policy step).toList ++ (session.next policy step).answers policy rest

end Session

namespace Definitions

/-- The definitions after a step of a session. -/
def next (definitions : Definitions) : SessionStep → Definitions
  | .put record => definitions.put record
  | .resolve _ | .invalidate _ | .advance _ => definitions

/-- The answer to a step without a cache. -/
def answer? (definitions : Definitions) :
    SessionStep → Option (Except Rejection ResolvedContext)
  | .resolve key => some (key.load definitions.reader)
  | .put _ | .invalidate _ | .advance _ => none

/-- **The answers to steps without a cache.** -/
def answers (definitions : Definitions) :
    List SessionStep → List (Except Rejection ResolvedContext)
  | [] => []
  | step :: rest => (definitions.answer? step).toList ++ (definitions.next step).answers rest

/-- The definitions from before the first step to after the last one. -/
def along (definitions : Definitions) : List SessionStep → List Definitions
  | [] => [definitions]
  | step :: rest => definitions :: (definitions.next step).along rest

end Definitions

end ActionGateway
