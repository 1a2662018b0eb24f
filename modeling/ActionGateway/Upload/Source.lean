import ActionGateway.Upload.Part

/-! # Sources

A body that is still on its way is a source: it is asked for one item after the other. A source may
have no end, it may fail at every request, and it may go on after a failure. The body of a part is
such a source up to its first failure. Only requests that are answered count, however long that
takes.
-/

namespace ActionGateway

/-- **Source**: what a request in some state gets, if there is anything left, and the state in which
the source is after it. -/
structure Source (σ α : Type) where
  ask : σ → Option α × σ

namespace Source

variable {σ α β ε κ : Type}

/-- What a request gets after `n` others. -/
def answer (source : Source σ α) : σ → Nat → Option α
  | state, 0 => (source.ask state).1
  | state, n + 1 => source.answer (source.ask state).2 n

/-- The items of a list, one for each request. -/
def ofList : Source (List α) α where
  ask
    | [] => (none, [])
    | item :: rest => (some item, rest)

/-- Every item changed, whatever its number. -/
def map (change : α → β) (source : Source σ α) : Source σ β where
  ask state := ((source.ask state).1.map change, (source.ask state).2)

/-- Every item as `step` hands it on, with what `step` keeps for the next one. Where `step` hands on
nothing the source has ended, and what lies behind it is not asked again. -/
def scan (step : κ → α → Option (β × κ)) (source : Source σ α) : Source (Option κ × σ) β where
  ask
    | (none, state) => (none, none, state)
    | (some kept, state) =>
      match source.ask state with
      | (none, next) => (none, some kept, next)
      | (some item, next) =>
        match step kept item with
        | none => (none, none, next)
        | some (result, kept) => (some result, some kept, next)

/-- Hand on an item unless there was a failure before it, and keep whether there was one. -/
def unlessFailed (failed : Bool) (item : Except ε α) : Option (Except ε α × Bool) :=
  if failed then none
  else some (item, match item with
    | .error _ => true
    | .ok _ => false)

/-- **A source up to its first failure.** -/
def upToFailure (source : Source σ (Except ε α)) : Source (Option Bool × σ) (Except ε α) :=
  source.scan unlessFailed

/-- A source from which nothing has been taken yet. -/
def untouched (start : σ) : Option Bool × σ :=
  (some false, start)

/-- What a request gets after `n` others when `step` unfolds a seed: the item with that number. The
first request for which `step` gives nothing gets nothing. No request may come after that one; what
such a request gets all the same is left open, and `late` says it. -/
def unfolded (late : Nat → Option α) (step : κ → Option (α × κ)) : κ → Nat → Option α
  | seed, 0 => (step seed).map Prod.fst
  | seed, n + 1 =>
    match step seed with
    | none => late n
    | some (_, next) => unfolded late step next n

end Source

end ActionGateway
