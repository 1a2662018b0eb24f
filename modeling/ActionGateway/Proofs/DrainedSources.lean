import ActionGateway.Upload.Source

/-!
# Sources that are drained

What a source answers is a sequence, one answer for each request, that goes on whether or not there
is anything left. Such a sequence may close after the first answer of some kind: up to there it is
that of another source, and then a request gets nothing. It ends there if no request beyond gets
anything. This is shown by looking at one request at a time (`EndsAfter.of_steps`).

A loop that drains a source takes one item at a time and may leave whenever it wants to. If there is
some request that gets nothing, every such loop comes to an end, and its result is what it makes of
the items before that request (`Loop.drains_iff`).
-/

namespace ActionGateway

variable {α β τ ρ : Type}

/-- What the requests after the first one get. -/
def later (answers : Nat → Option α) : Nat → Option α :=
  fun n => answers (n + 1)

/-! ## Ending after an answer -/

section EndsAfter

variable {last : Option α → Prop}

/-- **Closing after the first answer of a kind**: until then the answers are the given ones, that
one included, and if there is something in it the next request gets nothing. The requests beyond are
left open. -/
structure ClosesAfter (last : Option α → Prop) (answers closing : Nat → Option α) : Prop where
  alike : ∀ n, (∀ m < n, ¬ last (answers m)) → closing n = answers n
  closes : ∀ n, (∀ m < n, ¬ last (answers m)) → last (answers n) →
    closing n = none ∨ closing (n + 1) = none

/-- **Ending after the first answer of a kind**: until then the answers are the given ones, that one
included, and then there is nothing. -/
structure EndsAfter (last : Option α → Prop) (answers ending : Nat → Option α) : Prop where
  alike : ∀ n, (∀ m < n, ¬ last (answers m)) → ending n = answers n
  beyond : ∀ m n, m < n → last (answers m) → ending n = none

section Steps

variable (Related : (Nat → Option α) → (Nat → Option α) → Prop)
  (first : ∀ answers ending, Related answers ending → ending 0 = answers 0)
  (goesOn : ∀ answers ending, Related answers ending → ¬ last (answers 0) →
    Related (later answers) (later ending))
  {answers ending : Nat → Option α} (related : Related answers ending)

include first goesOn related

/-- What is related request by request is alike up to the first answer of the kind. -/
theorem alike_of_steps (n : Nat) (before : ∀ m < n, ¬ last (answers m)) :
    ending n = answers n := by
  induction n generalizing answers ending with
  | zero => exact first answers ending related
  | succ n ih =>
      have next := goesOn answers ending related (before 0 (Nat.succ_pos n))
      exact ih next fun m earlier => before (m + 1) (Nat.succ_lt_succ earlier)

/-- It is enough to look at one request: it gets the same, and either it or the next one gets
nothing or the same holds of the requests after it. -/
theorem ClosesAfter.of_steps
    (closes : ∀ answers ending, Related answers ending → last (answers 0) →
      ending 0 = none ∨ ending 1 = none) :
    ClosesAfter last answers ending where
  alike := alike_of_steps Related first goesOn related
  closes n := by
    induction n generalizing answers ending with
    | zero => exact fun _ => closes answers ending related
    | succ n ih =>
        intro before
        have next := goesOn answers ending related (before 0 (Nat.succ_pos n))
        exact ih next fun m earlier => before (m + 1) (Nat.succ_lt_succ earlier)

/-- It is enough to look at one request: it gets the same, and either there is nothing after it or
the same holds of the requests after it. -/
theorem EndsAfter.of_steps
    (stops : ∀ answers ending, Related answers ending → last (answers 0) →
      ∀ n, ending (n + 1) = none) :
    EndsAfter last answers ending where
  alike := alike_of_steps Related first goesOn related
  beyond m := by
    induction m generalizing answers ending with
    | zero =>
        intro n beyond isLast
        obtain ⟨n, rfl⟩ := Nat.exists_eq_succ_of_ne_zero (Nat.ne_of_gt beyond)
        exact stops answers ending related isLast n
    | succ m ih =>
        intro n beyond isLast
        obtain ⟨n, rfl⟩ := Nat.exists_eq_succ_of_ne_zero (Nat.ne_of_gt (Nat.zero_lt_of_lt beyond))
        by_cases already : last (answers 0)
        · exact stops answers ending related already n
        · exact ih (goesOn answers ending related already) n (Nat.lt_of_succ_lt_succ beyond) isLast

end Steps

/-- A sequence that ends closes. -/
theorem EndsAfter.closesAfter {answers ending : Nat → Option α}
    (ends : EndsAfter last answers ending) : ClosesAfter last answers ending where
  alike := ends.alike
  closes n _ isLast := .inr (ends.beyond n (n + 1) (Nat.lt_succ_self n) isLast)

/-- As long as there is something, no answer of the kind has come before the last one. -/
theorem ClosesAfter.not_last_before {answers closing : Nat → Option α}
    (closes : ClosesAfter last answers closing) {n : Nat} (got : ∀ m ≤ n, closing m ≠ none) :
    ∀ m < n, ¬ last (answers m) := by
  intro m
  induction m using Nat.strongRecOn with
  | ind m ih =>
      intro earlier isLast
      rcases closes.closes m (fun k before => ih k before (Nat.lt_trans before earlier)) isLast with
        nothing | nothing
      · exact got m (Nat.le_of_lt earlier) nothing
      · exact got (m + 1) earlier nothing

/-- Nothing follows such an answer of the sequence itself. -/
theorem ClosesAfter.closes_own {answers closing : Nat → Option α}
    (closes : ClosesAfter last answers closing) {n : Nat} (got : ∀ m ≤ n, closing m ≠ none)
    (isLast : last (closing n)) : closing (n + 1) = none := by
  have before := closes.not_last_before got
  rw [closes.alike n before] at isLast
  exact (closes.closes n before isLast).resolve_left (got n (Nat.le_refl n))

/-- Nothing follows such an answer of the sequence itself. -/
theorem EndsAfter.beyond_own {answers ending : Nat → Option α}
    (ends : EndsAfter last answers ending)
    {m n : Nat} (beyond : m < n) (isLast : last (ending m)) : ending n = none := by
  by_cases already : ∃ k < m, last (answers k)
  · obtain ⟨k, earlier, found⟩ := already
    exact ends.beyond k n (Nat.lt_trans earlier beyond) found
  · have same : ending m = answers m :=
      ends.alike m fun k earlier found => already ⟨k, earlier, found⟩
    exact ends.beyond m n beyond (same ▸ isLast)

/-- Where there was nothing anyway there is nothing. -/
theorem EndsAfter.none_of_none {answers ending : Nat → Option α}
    (ends : EndsAfter last answers ending) {n : Nat} (nothing : answers n = none) :
    ending n = none := by
  by_cases already : ∃ m < n, last (answers m)
  · obtain ⟨m, earlier, found⟩ := already
    exact ends.beyond m n earlier found
  · rw [ends.alike n fun m earlier found => already ⟨m, earlier, found⟩, nothing]

end EndsAfter

/-! ## Sources up to a failure -/

/-- The answer is a failure. -/
def Fails {ε α : Type} (answer : Option (Except ε α)) : Prop :=
  ∃ reason, answer = some (.error reason)

namespace Source

section

variable {σ ε α : Type} (source : Source σ (Except ε α))

/-- A failure is handed on, and it is kept that there was one. -/
theorem ask_untouched_of_fails {state : σ} (fails : Fails (source.ask state).1) :
    source.upToFailure.ask (untouched state) =
      ((source.ask state).1, some true, (source.ask state).2) := by
  obtain ⟨reason, failed⟩ := fails
  rcases asked : source.ask state with ⟨answer, next⟩
  rw [asked] at failed
  subst failed
  simp only [upToFailure, scan, untouched, asked]
  rfl

/-- Anything else is handed on, and nothing has changed. -/
theorem ask_untouched_of_not_fails {state : σ} (sound : ¬ Fails (source.ask state).1) :
    source.upToFailure.ask (untouched state) =
      ((source.ask state).1, untouched (source.ask state).2) := by
  rcases asked : source.ask state with ⟨answer, next⟩
  rw [asked] at sound
  simp only [upToFailure, scan, untouched, asked]
  match answer with
  | none => rfl
  | some (.ok _) => rfl
  | some (.error reason) => exact absurd ⟨reason, rfl⟩ sound

/-- After a failure one more request may reach the source, but nothing of it is handed on. -/
theorem ask_after_failure {kept : Option Bool} (failed : kept ≠ some false) (state : σ) :
    ∃ after next, after ≠ some false ∧
      source.upToFailure.ask (kept, state) = (none, after, next) := by
  match kept with
  | none => exact ⟨none, state, failed, rfl⟩
  | some false => exact absurd rfl failed
  | some true =>
      rcases asked : source.ask state with ⟨answer, next⟩
      simp only [upToFailure, scan, asked]
      cases answer with
      | none => exact ⟨some true, next, failed, rfl⟩
      | some item => exact ⟨none, next, by decide, rfl⟩

/-- After a failure nothing is handed on for ever. -/
theorem answer_after_failure {kept : Option Bool} (failed : kept ≠ some false) (state : σ)
    (n : Nat) : source.upToFailure.answer (kept, state) n = none := by
  induction n generalizing kept state with
  | zero =>
      obtain ⟨after, next, -, asked⟩ := source.ask_after_failure failed state
      rw [answer, asked]
  | succ n ih =>
      obtain ⟨after, next, still, asked⟩ := source.ask_after_failure failed state
      rw [answer, asked]
      exact ih still next

/-- **A source up to its first failure** ends after that failure. -/
theorem endsAfter_upToFailure (start : σ) :
    EndsAfter Fails (source.answer start) (source.upToFailure.answer (untouched start)) := by
  apply EndsAfter.of_steps fun answers ending => ∃ state,
    answers = source.answer state ∧ ending = source.upToFailure.answer (untouched state)
  case related => exact ⟨start, rfl, rfl⟩
  case first =>
    rintro _ _ ⟨state, rfl, rfl⟩
    by_cases fails : Fails (source.ask state).1
    · exact congrArg Prod.fst (source.ask_untouched_of_fails fails)
    · exact congrArg Prod.fst (source.ask_untouched_of_not_fails fails)
  case stops =>
    rintro _ _ ⟨state, rfl, rfl⟩ fails n
    have failed : some true ≠ some false := by decide
    rw [answer, source.ask_untouched_of_fails fails]
    exact source.answer_after_failure failed _ n
  case goesOn =>
    rintro _ _ ⟨state, rfl, rfl⟩ sound
    refine ⟨(source.ask state).2, rfl, funext fun n => ?_⟩
    rw [later, answer, source.ask_untouched_of_not_fails sound]

end

/-- The items of a list come one by one. -/
theorem answer_ofList {α : Type} (items : List α) (n : Nat) :
    ofList.answer items n = items[n]? := by
  induction n generalizing items with
  | zero => cases items <;> rfl
  | succ n ih =>
      cases items with
      | nil => exact (ih []).trans List.getElem?_nil
      | cons item rest => exact ih rest

/-- Changed items come as the items do. -/
theorem answer_map {σ : Type} (change : α → β) (source : Source σ α) (state : σ) (n : Nat) :
    (source.map change).answer state n = (source.answer state n).map change := by
  induction n generalizing state with
  | zero => rfl
  | succ n ih => exact ih _

end Source

/-! ## The items before an answer -/

/-- The items that the first `n` requests get, as long as they get any. -/
def given : Nat → (Nat → Option α) → List α
  | 0, _ => []
  | n + 1, answers =>
    match answers 0 with
    | none => []
    | some item => item :: given n (later answers)

/-- What is given depends on the requests that count only. -/
theorem given_congr {n : Nat} {answers others : Nat → Option α}
    (alike : ∀ m < n, answers m = others m) : given n answers = given n others := by
  induction n generalizing answers others with
  | zero => rfl
  | succ n ih =>
      have rest : given n (later answers) = given n (later others) :=
        ih fun m earlier => alike (m + 1) (Nat.succ_lt_succ earlier)
      rw [given, given, alike 0 (Nat.succ_pos n), rest]

/-- A request that gets nothing gives nothing. -/
theorem given_succ_of_none {n : Nat} {answers : Nat → Option α} (nothing : answers n = none) :
    given (n + 1) answers = given n answers := by
  induction n generalizing answers with
  | zero => simp only [given, nothing]
  | succ n ih =>
      have rest : given (n + 1) (later answers) = given n (later answers) := ih nothing
      rw [given, rest, given]

/-- Changed answers give changed items. -/
theorem given_map (change : α → β) (n : Nat) (answers : Nat → Option α) :
    given n (fun m => (answers m).map change) = (given n answers).map change := by
  induction n generalizing answers with
  | zero => rfl
  | succ n ih =>
      rw [given, given]
      cases answers 0 with
      | none => rfl
      | some item => exact congrArg (change item :: ·) (ih (later answers))

/-- A list gives its first items. -/
theorem given_getElem? (items : List α) (n : Nat) : given n (items[·]?) = items.take n := by
  induction n generalizing items with
  | zero => rfl
  | succ n ih =>
      cases items with
      | nil => rfl
      | cons item rest => exact congrArg (item :: ·) (ih rest)

/-! ## Loops -/

/-- **Loop**: what is done with one item, which either ends the loop with a result or goes on with
what the loop then holds, and what becomes of that when there are no more items. -/
structure Loop (τ α ρ : Type) where
  turn : τ → α → ρ ⊕ τ
  finish : τ → ρ

namespace Loop

variable (loop : Loop τ α ρ)

/-- What the loop makes of a list of items. -/
def through : τ → List α → ρ
  | held, [] => loop.finish held
  | held, item :: rest =>
    match loop.turn held item with
    | .inl result => result
    | .inr held => through held rest

/-- **Draining**: the loop, run on what a source answers, ends with the result. A loop that goes on
for ever drains to no result. -/
inductive Drains : (Nat → Option α) → τ → ρ → Prop
  | ended {answers : Nat → Option α} {held : τ} (nothing : answers 0 = none) :
      Drains answers held (loop.finish held)
  | left {answers : Nat → Option α} {held : τ} {item : α} {result : ρ}
      (got : answers 0 = some item) (leaves : loop.turn held item = .inl result) :
      Drains answers held result
  | turned {answers : Nat → Option α} {held next : τ} {item : α} {result : ρ}
      (got : answers 0 = some item) (goesOn : loop.turn held item = .inr next)
      (rest : Drains (later answers) next result) :
      Drains answers held result

variable {loop}

/-- A loop that gets nothing at once ends with what it holds. -/
theorem drains_of_nothing {answers : Nat → Option α} {held : τ} {result : ρ}
    (nothing : answers 0 = none) : loop.Drains answers held result ↔ result = loop.finish held := by
  constructor
  · intro drains
    cases drains with
    | ended _ => rfl
    | left got _ => exact nomatch nothing.symm.trans got
    | turned got _ _ => exact nomatch nothing.symm.trans got
  · rintro rfl
    exact .ended nothing

/-- A loop that gets an item leaves, or goes on with the other requests. -/
theorem drains_of_item {answers : Nat → Option α} {held : τ} {item : α} {result : ρ}
    (got : answers 0 = some item) :
    loop.Drains answers held result ↔
      match loop.turn held item with
      | .inl left => result = left
      | .inr next => loop.Drains (later answers) next result := by
  constructor
  · intro drains
    cases drains with
    | ended nothing => exact nomatch nothing.symm.trans got
    | left own leaves =>
        cases Option.some.inj (got.symm.trans own)
        rw [leaves]
    | turned own goesOn rest =>
        cases Option.some.inj (got.symm.trans own)
        rw [goesOn]
        exact rest
  · intro made
    cases turn : loop.turn held item with
    | inl left =>
        rw [turn] at made
        subst made
        exact .left got turn
    | inr next =>
        rw [turn] at made
        exact .turned got turn made

/-- **A loop ends where there is nothing more**, if not before, and only the items up to there
count. The induction is on the number of requests that get something first. -/
theorem drains_iff {n : Nat} {answers : Nat → Option α} (nothing : answers n = none) (held : τ)
    (result : ρ) :
    loop.Drains answers held result ↔ result = loop.through held (given n answers) := by
  induction n generalizing answers held with
  | zero => exact drains_of_nothing nothing
  | succ n ih =>
      rw [given]
      cases first : answers 0 with
      | none => exact drains_of_nothing first
      | some item =>
          rw [drains_of_item first]
          simp only [through]
          cases loop.turn held item with
          | inl left => exact Iff.rfl
          | inr next => exact ih nothing next

end Loop

/-- **Every loop ends** that drains the second sequence, and its result is what it makes of the
items that the first one gives up to the request with that number, that one included. -/
def EveryLoopEnds (answers ending : Nat → Option α) (number : Nat) : Prop :=
  ∀ {τ ρ : Type} (loop : Loop τ α ρ) (held : τ) (result : ρ),
    loop.Drains ending held result ↔ result = loop.through held (given (number + 1) answers)

/-- Every loop ends that drains a sequence which closes. -/
theorem ClosesAfter.everyLoopEnds {last : Option α → Prop} {answers closing : Nat → Option α}
    (closes : ClosesAfter last answers closing) {number : Nat} (isLast : last (answers number))
    (before : ∀ m < number, ¬ last (answers m)) : EveryLoopEnds answers closing number := by
  intro τ ρ loop held result
  have alike : ∀ n ≤ number, closing n = answers n := fun n within =>
    closes.alike n fun m earlier => before m (Nat.lt_of_lt_of_le earlier within)
  rcases closes.closes number before isLast with nothing | nothing
  · have same : given number closing = given number answers :=
      given_congr fun n within => alike n (Nat.le_of_lt within)
    have nothingThere : answers number = none := (alike number (Nat.le_refl _)).symm.trans nothing
    rw [Loop.drains_iff nothing, same, given_succ_of_none nothingThere]
  · have same : given (number + 1) closing = given (number + 1) answers :=
      given_congr fun n within => alike n (Nat.le_of_lt_succ within)
    rw [Loop.drains_iff nothing, same]

end ActionGateway
