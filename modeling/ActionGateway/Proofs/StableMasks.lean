import ActionGateway.Proofs.MaskedCredentials

/-!
# Masks are stable

Sanitizing changes a value only in secrets that stand in sensitive fields, so the value keeps its
shape, and sanitizing or redacting it afterwards gives what they would have given at once. Redacting
leaves nothing to sanitize.
-/

namespace ActionGateway.Json

/-! ## What sanitizing changes -/

mutual

/-- **Sanitizing changes only what it hides.** -/
theorem differInHidden_sanitized (value : Json) : DifferInHidden value value.sanitized := by
  cases value with
  | arr items =>
      rw [sanitized]
      exact .items (differInHiddenItems_sanitizedItems items)
  | obj fields =>
      rw [sanitized]
      exact .fields (differInHiddenFields_sanitizedFields fields)
  | null | bool _ | num _ | str _ => exact .same rfl

/-- Sanitized items differ from the items in nothing but what is hidden. -/
theorem differInHiddenItems_sanitizedItems (items : List Json) :
    DifferInHiddenItems items (sanitizedItems items) := by
  cases items with
  | nil => exact .nil
  | cons item rest =>
      exact .cons (differInHidden_sanitized item) (differInHiddenItems_sanitizedItems rest)

theorem differInHiddenFields_sanitizedFields (fields : List (String × Json)) :
    DifferInHiddenFields fields (sanitizedFields fields) := by
  cases fields with
  | nil => exact .nil
  | cons field rest =>
      obtain ⟨name, value⟩ := field
      have below := differInHiddenFields_sanitizedFields rest
      rw [sanitizedFields_cons, shownAfter]
      by_cases hidden : (Redaction.isSensitive name && value.canBeSecret) = true
      · obtain ⟨sensitive, secret⟩ := Bool.and_eq_true_iff.mp hidden
        rw [Option.any_some, Step.isSensitive, if_pos hidden]
        exact .secret sensitive secret rfl below
      · rw [Option.any_some, Step.isSensitive, if_neg hidden]
        exact .shown (differInHidden_sanitized value) below

end

/-- A scalar differs from itself in no more than secrets. -/
theorem differInSecrets_of_isScalar {value : Json} (scalar : value.isScalar = true) :
    DifferInSecrets value value := by
  cases value with
  | arr items => cases scalar
  | obj fields => cases scalar
  | null => exact .null
  | bool _ | num _ | str _ => exact .secret rfl rfl

mutual

/-- What sanitizing hides are secrets. -/
theorem DifferInHidden.differInSecrets {first second : Json} :
    DifferInHidden first second → DifferInSecrets first second
  | .same scalar => differInSecrets_of_isScalar scalar
  | .items alike => .items alike.differInSecretItems
  | .fields alike => .fields alike.differInSecretFields

/-- Items that differ in what is hidden differ in secrets. -/
theorem DifferInHiddenItems.differInSecretItems {first second : List Json} :
    DifferInHiddenItems first second → DifferInSecretItems first second
  | .nil => .nil
  | .cons alike others => .cons alike.differInSecrets others.differInSecretItems

theorem DifferInHiddenFields.differInSecretFields {first second : List (String × Json)} :
    DifferInHiddenFields first second → DifferInSecretFields first second
  | .nil => .nil
  | .secret _ secret otherSecret others =>
      .cons (.secret secret otherSecret) others.differInSecretFields
  | .shown alike others => .cons alike.differInSecrets others.differInSecretFields

end

/-! ## Masking again -/

/-- What a field shows of a redacted value is the redacted value. -/
theorem shownAfter_redacted {step : Option Step} {value : Json}
    (stable : value.redacted.sanitized = value.redacted) :
    value.redacted.shownAfter step = value.redacted := by
  rw [shownAfter, stable]
  split
  · rename_i hidden
    have secret := (Bool.and_eq_true_iff.mp hidden).2
    cases value with
    | null => cases secret
    | arr items =>
        rw [redacted] at secret
        cases secret
    | obj fields =>
        rw [redacted] at secret
        cases secret
    | bool _ | num _ | str _ => rfl
  · rfl

mutual

/-- **Redacting leaves nothing to sanitize.** -/
theorem sanitized_redacted (value : Json) : value.redacted.sanitized = value.redacted := by
  cases value with
  | arr items => rw [redacted, sanitized, sanitizedItems_redactedItems items]
  | obj fields => rw [redacted, sanitized, sanitizedFields_redactedFields fields]
  | null | bool _ | num _ | str _ => rfl

/-- Redacted items have nothing left to be sanitized. -/
theorem sanitizedItems_redactedItems (items : List Json) :
    sanitizedItems (redactedItems items) = redactedItems items := by
  cases items with
  | nil => rfl
  | cons item rest =>
      rw [redactedItems, sanitizedItems, sanitized_redacted item, sanitizedItems_redactedItems rest]

theorem sanitizedFields_redactedFields (fields : List (String × Json)) :
    sanitizedFields (redactedFields fields) = redactedFields fields := by
  cases fields with
  | nil => rfl
  | cons field rest =>
      rw [redactedFields, sanitizedFields_cons, shownAfter_redacted (sanitized_redacted field.2),
        sanitizedFields_redactedFields rest]

end

/-! ## Place by place -/

/-- **What sanitizing shows for a value at a place.** An array keeps its length, an object its
names. A string, a number or a boolean may be masked if the way to it passes a sensitive field. -/
inductive ShownAs (path : List Step) : Json → Json → Prop where
  | null : ShownAs path .null .null
  | plain {leaf : Json} (secret : leaf.canBeSecret = true) : ShownAs path leaf leaf
  | masked {leaf : Json} (secret : leaf.canBeSecret = true)
      (sensitive : path.any Step.isSensitive = true) : ShownAs path leaf Redaction.mask
  | items {items shown : List Json} (length : items.length = shown.length) :
      ShownAs path (.arr items) (.arr shown)
  | fields {fields shown : List (String × Json)}
      (names : fields.map Prod.fst = shown.map Prod.fst) : ShownAs path (.obj fields) (.obj shown)

/-- Sanitizing keeps the names and their order. -/
theorem names_sanitizedFields (fields : List (String × Json)) :
    (sanitizedFields fields).map Prod.fst = fields.map Prod.fst := by
  induction fields with
  | nil => rfl
  | cons field rest ih =>
      rw [sanitizedFields_cons, List.map_cons, List.map_cons, ih]

/-- Below any path a value is shown as it is sanitized. -/
theorem shownAs_sanitized (path : List Step) (value : Json) :
    ShownAs path value value.sanitized := by
  cases value with
  | arr items =>
      rw [sanitized]
      apply ShownAs.items
      rw [sanitizedItems_eq_map, List.length_map]
  | obj fields =>
      rw [sanitized]
      exact .fields (names_sanitizedFields fields).symm
  | null => exact .null
  | bool _ | num _ | str _ => exact .plain rfl

/-- Every place is there before and after. -/
theorem shownAs_at? (value : Json) (path : List Step) :
    Option.Rel (ShownAs path) (value.at? path) (value.sanitized.at? path) := by
  rw [at?_sanitized]
  cases value.at? path with
  | none => exact .none
  | some inner =>
      apply Option.Rel.some
      rw [shownAfter]
      split
      · rename_i hidden
        obtain ⟨sensitive, secret⟩ := Bool.and_eq_true_iff.mp hidden
        cases last : path.getLast? with
        | none =>
            rw [last] at sensitive
            cases sensitive
        | some step =>
            rw [last] at sensitive
            have passed := List.mem_of_getLast? last
            exact .masked secret (List.any_eq_true.mpr ⟨step, passed, sensitive⟩)
      · exact shownAs_sanitized path inner

/-- **Sanitizing is stable and changes only secrets.** A value that is sanitized or redacted stays
as it is when it is sanitized, and a sanitized value is redacted as it would have been before.
Sanitizing changes nothing but secrets in sensitive fields: at every place the value has the same
names, as many items and null where it had them, and whatever is different was below a sensitive
field. -/
theorem sanitizing_changes_only_secrets (value : Json) :
    value.sanitized.sanitized = value.sanitized ∧
      value.sanitized.redacted = value.redacted ∧
      value.redacted.sanitized = value.redacted ∧
      DifferInHidden value value.sanitized ∧
      ∀ path, Option.Rel (ShownAs path) (value.at? path) (value.sanitized.at? path) := by
  have hidden := differInHidden_sanitized value
  refine ⟨hidden.sanitized_eq.symm, hidden.differInSecrets.redacted_eq.symm,
    sanitized_redacted value, hidden, ?_⟩
  intro path
  exact shownAs_at? value path

end ActionGateway.Json
