import ActionGateway.Proofs.JsonPaths
import ActionGateway.Redaction

/-!
# What sanitizing hides

A string, a number or a boolean is hidden when it stands directly in a field with a sensitive name.
One that stands farther below such a field, inside an array or an object, is shown unless the last
field on the way to it is sensitive as well.
-/

namespace ActionGateway.Json

/-- A string, a number or a boolean: what a secret can be. -/
def canBeSecret (value : Json) : Bool :=
  value.isScalar && value != .null

/-- A step into a field with a sensitive name. -/
def Step.isSensitive : Step → Bool
  | .field name => Redaction.isSensitive name
  | .item _ => false

/-- What sanitizing shows for a value, given the step to it. -/
def shownAfter (step : Option Step) (value : Json) : Json :=
  if step.any Step.isSensitive && value.canBeSecret then Redaction.mask else value.sanitized

/-- A scalar on its own is shown. -/
theorem sanitized_of_isScalar {value : Json} (scalar : value.isScalar = true) :
    value.sanitized = value := by
  cases value with
  | arr items => exact nomatch scalar
  | obj fields => exact nomatch scalar
  | _ => exact sanitized.eq_3 _ nofun nofun

/-- The items of an array are sanitized one by one. -/
theorem sanitizedItems_eq_map (items : List Json) : sanitizedItems items = items.map sanitized := by
  induction items with
  | nil => rfl
  | cons item rest ih => rw [sanitizedItems, ih, List.map_cons]

/-- A field is shown by its own name. -/
theorem sanitizedFields_cons (name : String) (value : Json) (rest : List (String × Json)) :
    sanitizedFields ((name, value) :: rest) =
      (name, value.shownAfter (some (.field name))) :: sanitizedFields rest := by
  rw [sanitizedFields, shownAfter, canBeSecret, Option.any_some, Step.isSensitive, Bool.and_comm]

/-- What is found under a name is what that name lets be shown. -/
theorem lookup_sanitizedFields (fields : List (String × Json)) (name : String) :
    (sanitizedFields fields).lookup name =
      (fields.lookup name).map (shownAfter (some (.field name))) := by
  induction fields with
  | nil => rfl
  | cons field rest ih =>
      obtain ⟨other, value⟩ := field
      rw [sanitizedFields_cons, List.lookup_cons, List.lookup_cons]
      by_cases same : name = other
      · rw [same, beq_self_eq_true]
        rfl
      · rw [beq_false_of_ne same]
        exact ih

/-- One step into a sanitized value shows what the step leads to. -/
theorem child?_sanitized (value : Json) (step : Step) :
    value.sanitized.child? step = (value.child? step).map (shownAfter (some step)) := by
  cases value with
  | arr items =>
      rw [sanitized]
      cases step with
      | field name => rfl
      | item index =>
          rw [child?, child?, sanitizedItems_eq_map, List.getElem?_map]
          rfl
  | obj fields =>
      rw [sanitized]
      cases step with
      | field name => exact lookup_sanitizedFields fields name
      | item index => rfl
  | _ => rfl

/-- Hidden or not, a value has the same places below it. -/
theorem child?_shownAfter (place : Option Step) (value : Json) (step : Step) :
    (value.shownAfter place).child? step = value.sanitized.child? step := by
  unfold shownAfter
  split
  · rename_i hidden
    have scalar : value.isScalar = true := by
      simp only [canBeSecret, Bool.and_eq_true] at hidden
      exact hidden.2.1
    rw [sanitized_of_isScalar scalar, child?_of_isScalar scalar, child?_of_isScalar rfl]
  · rfl

/-- **What is shown at a place.** Only the last step to it matters. -/
theorem at?_sanitized (value : Json) (path : List Step) :
    value.sanitized.at? path = (value.at? path).map (shownAfter path.getLast?) := by
  induction path generalizing value with
  | nil => rfl
  | cons step rest ih =>
      rw [at?, at?, child?_sanitized]
      cases value.child? step with
      | none => rfl
      | some child =>
          cases rest with
          | nil => rfl
          | cons next later =>
              have below := ih child
              rw [at?] at below
              rw [Option.map_some, Option.bind_some, Option.bind_some, at?, child?_shownAfter,
                below, List.getLast?_cons_cons]

mutual

/-- Two values differ only in what stands directly in sensitive fields and can be a secret. -/
inductive DifferInHidden : Json → Json → Prop where
  | same {value : Json} : value.isScalar = true → DifferInHidden value value
  | items {first second : List Json} :
      DifferInHiddenItems first second → DifferInHidden (.arr first) (.arr second)
  | fields {first second : List (String × Json)} :
      DifferInHiddenFields first second → DifferInHidden (.obj first) (.obj second)

/-- The same for lists of values. -/
inductive DifferInHiddenItems : List Json → List Json → Prop where
  | nil : DifferInHiddenItems [] []
  | cons {first second : Json} {rest others : List Json} :
      DifferInHidden first second → DifferInHiddenItems rest others →
      DifferInHiddenItems (first :: rest) (second :: others)

/-- The same for fields: here a secret may differ. -/
inductive DifferInHiddenFields : List (String × Json) → List (String × Json) → Prop where
  | nil : DifferInHiddenFields [] []
  | secret {name : String} {first second : Json} {rest others : List (String × Json)} :
      Redaction.isSensitive name = true → first.canBeSecret = true → second.canBeSecret = true →
      DifferInHiddenFields rest others →
      DifferInHiddenFields ((name, first) :: rest) ((name, second) :: others)
  | shown {name : String} {first second : Json} {rest others : List (String × Json)} :
      DifferInHidden first second → DifferInHiddenFields rest others →
      DifferInHiddenFields ((name, first) :: rest) ((name, second) :: others)

end

/-- Values that differ in what is hidden are both scalars that can be secret, or neither is. -/
theorem DifferInHidden.canBeSecret_eq {first second : Json} (alike : DifferInHidden first second) :
    first.canBeSecret = second.canBeSecret := by
  cases alike with
  | same _ | items _ | fields _ => rfl

mutual

/-- Values that differ in nothing but what is hidden are the same once sanitized. -/
theorem DifferInHidden.sanitized_eq {first second : Json} :
    DifferInHidden first second → first.sanitized = second.sanitized
  | .same _ => rfl
  | .items alike => by rw [sanitized, sanitized, alike.sanitizedItems_eq]
  | .fields alike => by rw [sanitized, sanitized, alike.sanitizedFields_eq]

theorem DifferInHiddenItems.sanitizedItems_eq {first second : List Json} :
    DifferInHiddenItems first second → sanitizedItems first = sanitizedItems second
  | .nil => rfl
  | .cons alike others => by
      rw [sanitizedItems, sanitizedItems, alike.sanitized_eq, others.sanitizedItems_eq]

theorem DifferInHiddenFields.sanitizedFields_eq {first second : List (String × Json)} :
    DifferInHiddenFields first second → sanitizedFields first = sanitizedFields second
  | .nil => rfl
  | .secret sensitive secret otherSecret others => by
      rw [sanitizedFields_cons, sanitizedFields_cons, others.sanitizedFields_eq]
      simp only [shownAfter, Option.any_some, Step.isSensitive, sensitive, secret, otherSecret,
        Bool.and_self, ↓reduceIte]
  | .shown alike others => by
      rw [sanitizedFields_cons, sanitizedFields_cons, others.sanitizedFields_eq, shownAfter,
        shownAfter, alike.canBeSecret_eq, alike.sanitized_eq]

end

/-- Nothing but the mask looks like the mask, unless it was hidden. -/
theorem eq_mask_of_sanitized_eq {value : Json} (masked : value.sanitized = Redaction.mask) :
    value = Redaction.mask := by
  cases value with
  | arr items =>
      rw [sanitized] at masked
      exact nomatch masked
  | obj fields =>
      rw [sanitized] at masked
      exact nomatch masked
  | _ => exact masked

/-- Values that a field shows alike are both hidden, or sanitized to the same value. -/
theorem hidden_or_sanitized_eq {name : String} {first second : Json}
    (alike : first.shownAfter (some (.field name)) = second.shownAfter (some (.field name))) :
    (Redaction.isSensitive name = true ∧ first.canBeSecret = true ∧ second.canBeSecret = true) ∨
      first.sanitized = second.sanitized := by
  simp only [shownAfter, Option.any_some, Step.isSensitive, Bool.and_eq_true] at alike
  by_cases hidden : Redaction.isSensitive name = true ∧ first.canBeSecret = true
  · left
    by_cases otherHidden : Redaction.isSensitive name = true ∧ second.canBeSecret = true
    · exact ⟨hidden.1, hidden.2, otherHidden.2⟩
    · rw [if_pos hidden, if_neg otherHidden] at alike
      rw [eq_mask_of_sanitized_eq alike.symm]
      exact ⟨hidden.1, hidden.2, rfl⟩
  · by_cases otherHidden : Redaction.isSensitive name = true ∧ second.canBeSecret = true
    · rw [if_neg hidden, if_pos otherHidden] at alike
      exact .inl ⟨otherHidden.1, by rw [eq_mask_of_sanitized_eq alike]; rfl, otherHidden.2⟩
    · rw [if_neg hidden, if_neg otherHidden] at alike
      exact .inr alike

/-- A scalar and a value that are the same once sanitized are the same before. -/
theorem differInHidden_of_isScalar {first second : Json} (scalar : first.isScalar = true)
    (same : first.sanitized = second.sanitized) : DifferInHidden first second := by
  rw [sanitized_of_isScalar scalar] at same
  cases second with
  | arr items =>
      rw [sanitized] at same
      subst same
      exact nomatch scalar
  | obj fields =>
      rw [sanitized] at same
      subst same
      exact nomatch scalar
  | _ =>
      subst same
      exact .same scalar

mutual

/-- Values that are the same once sanitized differ in nothing but what is hidden. -/
theorem differInHidden_of_sanitized_eq (first second : Json)
    (same : first.sanitized = second.sanitized) : DifferInHidden first second := by
  cases first with
  | arr items =>
      cases second with
      | arr others =>
          rw [sanitized, sanitized] at same
          exact .items (differInHiddenItems_of_sanitizedItems_eq items others (arr.inj same))
      | _ =>
          rw [sanitized] at same
          exact nomatch same
  | obj fields =>
      cases second with
      | obj others =>
          rw [sanitized, sanitized] at same
          exact .fields (differInHiddenFields_of_sanitizedFields_eq fields others (obj.inj same))
      | _ =>
          rw [sanitized] at same
          exact nomatch same
  | _ => exact differInHidden_of_isScalar rfl same

theorem differInHiddenItems_of_sanitizedItems_eq (first second : List Json)
    (same : sanitizedItems first = sanitizedItems second) : DifferInHiddenItems first second := by
  cases first with
  | nil =>
      cases second with
      | nil => exact .nil
      | cons other others => exact nomatch same
  | cons item rest =>
      cases second with
      | nil => exact nomatch same
      | cons other others =>
          rw [sanitizedItems, sanitizedItems] at same
          obtain ⟨items, rests⟩ := List.cons.inj same
          exact .cons (differInHidden_of_sanitized_eq item other items)
            (differInHiddenItems_of_sanitizedItems_eq rest others rests)

theorem differInHiddenFields_of_sanitizedFields_eq (first second : List (String × Json))
    (same : sanitizedFields first = sanitizedFields second) :
    DifferInHiddenFields first second := by
  cases first with
  | nil =>
      cases second with
      | nil => exact .nil
      | cons other others => exact nomatch same
  | cons field rest =>
      cases second with
      | nil => exact nomatch same
      | cons other others =>
          obtain ⟨name, value⟩ := field
          obtain ⟨otherName, otherValue⟩ := other
          rw [sanitizedFields_cons, sanitizedFields_cons] at same
          obtain ⟨fields, rests⟩ := List.cons.inj same
          obtain ⟨rfl, shown⟩ := Prod.mk.inj fields
          have below := differInHiddenFields_of_sanitizedFields_eq rest others rests
          rcases hidden_or_sanitized_eq shown with ⟨sensitive, secret, otherSecret⟩ | alike
          · exact .secret sensitive secret otherSecret below
          · exact .shown (differInHidden_of_sanitized_eq value otherValue alike) below

end

/-- **What sanitizing hides, and nothing more.** Of strings, numbers and booleans, those are masked
that stand directly in a sensitive field, or that are the mask. Another value looks the same
afterwards exactly when it differs in nothing else than these. -/
theorem sanitized_hides_exactly (value : Json) :
    (∀ (path : List Step) (leaf : Json),
      value.at? path = some leaf → leaf.canBeSecret = true →
        (value.sanitized.at? path = some Redaction.mask ↔
          path.getLast?.any Step.isSensitive = true ∨ leaf = Redaction.mask)) ∧
      ∀ other : Json, value.sanitized = other.sanitized ↔ DifferInHidden value other := by
  constructor
  · intro path leaf found secret
    rw [at?_sanitized, found, Option.map_some, Option.some.injEq, shownAfter, secret, Bool.and_true]
    by_cases sensitive : path.getLast?.any Step.isSensitive = true
    · rw [if_pos sensitive]
      exact ⟨fun _ => .inl sensitive, fun _ => rfl⟩
    · rw [if_neg sensitive]
      constructor
      · intro masked
        exact .inr (eq_mask_of_sanitized_eq masked)
      · rintro (impossible | rfl)
        · exact absurd impossible sensitive
        · rfl
  · intro other
    exact ⟨differInHidden_of_sanitized_eq value other, DifferInHidden.sanitized_eq⟩

/-- A secret below a sensitive field survives when a field between them is not sensitive. -/
theorem sanitized_shows_nested_secret :
    let credentials := fun user => obj [("credentials", obj [("user", str user)])]
    let path := [Step.field "credentials", Step.field "user"]
    path.any Step.isSensitive = true ∧ (credentials "sa").at? path = some (str "sa") ∧
      (credentials "sa").sanitized.at? path = some (str "sa") ∧
      (credentials "sa").sanitized ≠ (credentials "root").sanitized := by
  exact ⟨by decide, rfl, rfl, by decide⟩

end ActionGateway.Json
