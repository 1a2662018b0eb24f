import ActionGateway.Proofs.LeafSubstitution
import ActionGateway.Proofs.WrittenDoubles

/-!
# Dotted names

A name that is not bound itself is read as a path from a bound name: each further part leads into a
field of an object or to an item of an array. `Json.Leads` says where a path leads and `Json.Breaks`
that a part of it leads nowhere. A placeholder with a dotted name stands for what its path leads to,
whatever that is. So each value inside a bound one has a name, unless a field on the way to it has a
dot in its own.
-/

namespace ActionGateway

/-! ## Indices as text -/

namespace Literal

/-- Decimal digits, at least one, and the number that they stand for. -/
structure IsNumeral (text : List Char) (number : Nat) : Prop where
  written : text ≠ []
  digits : ∀ c ∈ text, c.isDigit = true
  value : digitsValue text = number

/-- **A natural number as it may be spelled**: in decimal, perhaps with a plus sign in front. -/
inductive Spells : List Char → Nat → Prop where
  | plain {text : List Char} {number : Nat} : IsNumeral text number → Spells text number
  | plus {text : List Char} {number : Nat} : IsNumeral text number → Spells ('+' :: text) number

/-- Nothing but a digit is read as one. -/
theorem digit?_eq_none {c : Char} (other : c.isDigit = false) : digit? 10 c = none := by
  have outside : ¬ ('0' ≤ c ∧ c ≤ '9') := by
    intro range
    have digit : c.isDigit = true := by simpa [Char.isDigit, Char.le_def] using range
    rw [digit] at other
    cases other
  rw [digit?, if_neg outside]
  split
  · rename_i letter
    have low : 97 ≤ c.toNat := UInt32.le_iff_toNat_le.mp letter.1
    rw [Option.filter_some, if_neg]
    rw [decide_eq_true_eq]
    omega
  · split
    · rename_i letter
      have low : 65 ≤ c.toNat := UInt32.le_iff_toNat_le.mp letter.1
      rw [Option.filter_some, if_neg]
      rw [decide_eq_true_eq]
      omega
    · rfl

/-- What is read as a number is a numeral of it. -/
theorem digits?_eq_some_iff {text : List Char} {number : Nat} :
    digits? 10 text = some number ↔ IsNumeral text number := by
  constructor
  · intro read
    have written : text ≠ [] := by
      rintro rfl
      cases read
    have digits : ∀ c ∈ text, c.isDigit = true := by
      intro c member
      by_contra other
      rw [digits?_of_mem (digit?_eq_none (Bool.eq_false_iff.mpr other)) member] at read
      cases read
    rw [digits?_of_isDigit written digits, ← Digits.value_eq_foldl] at read
    exact ⟨written, digits, Option.some.inj read⟩
  · rintro ⟨written, digits, rfl⟩
    rw [digits?_of_isDigit written digits, ← Digits.value_eq_foldl]
    rfl

/-- **What is read as a number of 64 bits** is what spells one. -/
theorem unsigned?_eq_some_iff {text : List Char} {number : Nat} :
    unsigned? 64 10 text = some number ↔ Spells text number ∧ number < Nat.pow 2 64 := by
  unfold unsigned?
  rw [Option.filter_eq_some_iff, decide_eq_true_eq]
  apply and_congr_left
  intro fits
  split
  · rename_i rest
    rw [digits?_eq_some_iff]
    constructor
    · exact .plus
    · intro spelled
      cases spelled with
      | plus numeral => exact numeral
      | plain numeral => exact absurd (numeral.digits '+' List.mem_cons_self) (by decide)
  · rename_i unsigned
    rw [digits?_eq_some_iff]
    constructor
    · exact .plain
    · intro spelled
      cases spelled with
      | plain numeral => exact numeral
      | plus numeral => exact absurd rfl (unsigned _)

/-- A number is spelled by its text. -/
theorem spells_toString (number : Nat) : Spells (toString number).toList number := by
  change Spells number.repr.toList number
  rw [Nat.toList_repr]
  exact .plain ⟨Nat.toDigits_ne_nil, isDigit_of_mem_toDigits, digitsValue_toDigits number⟩

/-- A text spells one number at most. -/
theorem Spells.eq {text : List Char} {number other : Nat} (spelled : Spells text number)
    (again : Spells text other) : number = other := by
  cases spelled with
  | plain numeral =>
      cases again with
      | plain same => rw [← numeral.value, same.value]
      | plus same => exact absurd (numeral.digits '+' List.mem_cons_self) (by decide)
  | plus numeral =>
      cases again with
      | plain same => exact absurd (same.digits '+' List.mem_cons_self) (by decide)
      | plus same => rw [← numeral.value, same.value]

end Literal

/-! ## Paths into values -/

namespace Json

/-- Where one part of a path leads: into the field with that name, or to the item with the index
that it spells. An index has 64 bits; no array is longer than that. -/
inductive StepsTo : Json → String → Json → Prop where
  | field {fields : List (String × Json)} {name : String} {child : Json} :
      fields.lookup name = some child → StepsTo (.obj fields) name child
  | item {items : List Json} {segment : String} {index : Nat} {child : Json} :
      Literal.Spells segment.toList index → index < Nat.pow 2 64 → items[index]? = some child →
      StepsTo (.arr items) segment child

/-- One part of a path leads nowhere. -/
inductive Stops : Json → String → Prop where
  | noField {fields : List (String × Json)} {name : String} :
      (∀ field ∈ fields, field.1 ≠ name) → Stops (.obj fields) name
  | noIndex {items : List Json} {segment : String} :
      (∀ index, ¬ Literal.Spells segment.toList index) → Stops (.arr items) segment
  | outOfRange {items : List Json} {segment : String} {index : Nat} :
      Literal.Spells segment.toList index → items.length ≤ index → Stops (.arr items) segment
  | scalar {value : Json} {segment : String} : value.isScalar = true → Stops value segment

/-- **A path leads to a value.** -/
inductive Leads : Json → List String → Json → Prop where
  | here (value : Json) : Leads value [] value
  | step {value child node : Json} {segment : String} {rest : List String} :
      StepsTo value segment child → Leads child rest node → Leads value (segment :: rest) node

/-- **A path breaks off**: a part of it leads nowhere. -/
inductive Breaks : Json → List String → Prop where
  | stop {value : Json} {segment : String} {rest : List String} :
      Stops value segment → Breaks value (segment :: rest)
  | step {value child : Json} {segment : String} {rest : List String} :
      StepsTo value segment child → Breaks child rest → Breaks value (segment :: rest)

variable {value child node : Json} {segment : String} {path : List String}

/-- A segment that steps to a child is followed to it. -/
theorem StepsTo.step?_eq (steps : StepsTo value segment child) :
    value.step? segment = some child := by
  cases steps with
  | field found => exact found
  | item spelled fits found =>
      have read := Literal.unsigned?_eq_some_iff.mpr ⟨spelled, fits⟩
      rw [step?, read]
      exact found

/-- A segment that leads nowhere is not followed. -/
theorem Stops.step?_eq (stops : Stops value segment) : value.step? segment = none := by
  cases stops with
  | noField others =>
      apply List.lookup_eq_none_iff.mpr
      intro field member
      exact bne_iff_ne.mpr (others field member).symm
  | noIndex unspelled =>
      have unread : Literal.unsigned? 64 10 segment.toList = none := by
        apply Option.eq_none_iff_forall_ne_some.mpr
        intro index read
        exact unspelled index (Literal.unsigned?_eq_some_iff.mp read).1
      rw [step?, unread]
      rfl
  | outOfRange spelled far =>
      rw [step?]
      cases read : Literal.unsigned? 64 10 segment.toList with
      | none => rfl
      | some other =>
          rw [← spelled.eq (Literal.unsigned?_eq_some_iff.mp read).1]
          exact List.getElem?_eq_none far
  | scalar scalar =>
      cases value with
      | arr items => cases scalar
      | obj fields => cases scalar
      | null | bool _ | num _ | str _ => rfl

/-- A path that leads to a node is followed to it. -/
theorem Leads.descend_eq (leads : Leads value path node) :
    Bindings.descend path value = some node := by
  induction leads with
  | here value => rfl
  | step steps _ ih =>
      rw [Bindings.descend, steps.step?_eq]
      exact ih

/-- A path that breaks off gives nothing. -/
theorem Breaks.descend_eq (breaks : Breaks value path) : Bindings.descend path value = none := by
  induction breaks with
  | stop stops =>
      rw [Bindings.descend, stops.step?_eq]
      rfl
  | step steps _ ih =>
      rw [Bindings.descend, steps.step?_eq]
      exact ih

/-- **The names of fields and the indices of items lead to the value at a place.** -/
theorem leads_of_at? {place : List Step} (found : value.at? place = some node)
    (indices : ∀ index, .item index ∈ place → index < Nat.pow 2 64) :
    value.Leads (place.map Step.segment) node := by
  induction place generalizing value with
  | nil =>
      cases found
      exact .here _
  | cons step rest ih =>
      obtain ⟨child, here, below⟩ := Option.bind_eq_some_iff.mp found
      have later := ih below fun index member => indices index (List.mem_cons_of_mem _ member)
      apply Leads.step _ later
      cases value with
      | obj fields =>
          cases step with
          | item index => cases here
          | field name => exact .field here
      | arr items =>
          cases step with
          | field name => cases here
          | item index =>
              exact .item (Literal.spells_toString index) (indices index List.mem_cons_self) here
      | null | bool _ | num _ | str _ => cases here

end Json

/-! ## Names of placeholders -/

namespace Bindings

/-- Parts without dots, joined by dots, are taken apart into the same parts. -/
theorem segments_intercalate {parts : List String} (some_ : parts ≠ [])
    (undotted : ∀ part ∈ parts, '.' ∉ part.toList) :
    segments (".".intercalate parts) = parts := by
  have chars : (".".intercalate parts).toList = ['.'].intercalate (parts.map String.toList) :=
    String.toList_intercalate
  have apart : ∀ part ∈ parts.map String.toList, '.' ∉ part := List.forall_mem_map.mpr undotted
  rw [segments, chars, List.splitOn_intercalate '.' apart (by simpa using some_), List.map_map]
  simp

variable {bindings : Bindings} {key : String} {value : Json} {path : List String}

/-- A dotted name that is not bound itself stands for what its path leads to. -/
theorem resolve?_dotted (bound : bindings.get? key = some value)
    (undotted : ∀ part ∈ key :: path, '.' ∉ part.toList)
    (unbound : bindings.get? (".".intercalate (key :: path)) = none) :
    bindings.resolve? (".".intercalate (key :: path)) = descend path value := by
  rw [resolve?, unbound, segments_intercalate (List.cons_ne_nil _ _) undotted]
  dsimp only
  rw [bound, Option.bind_some]

end Bindings

namespace Template

/-- **A template stands for a value**: wherever it is in what is substituted, and in either mode, it
is replaced by the value, with no warning. -/
def StandsFor (bindings : Bindings) (template : String) (value : Json) : Prop :=
  ∀ mode,
    (∀ path, Substitution.json ⟨bindings, mode⟩ path (.str template) = .ok ⟨value, []⟩) ∧
    ∀ (whole : Json) (place : List Json.Step) (substituted : Substituted Json),
      whole.at? place = some (.str template) → whole.substitute bindings mode = .ok substituted →
        substituted.value.at? place = some value

/-- **A template is unresolved**: wherever it is, a strict substitution fails on its name, and a
lenient one leaves it empty and warns of the name. -/
def IsUnresolved (bindings : Bindings) (template name : String) : Prop :=
  ∀ path,
    Substitution.json ⟨bindings, .strict⟩ path (.str template) = .error ⟨name, path⟩ ∧
    Substitution.json ⟨bindings, .lenient⟩ path (.str template) =
      .ok ⟨.str "", [⟨name, path⟩]⟩

variable {bindings : Bindings} (padded : PaddedName)

/-- A padded placeholder is a marker as a whole, of its name. -/
theorem wholeMarker?_padded :
    Text.wholeMarker? placeholder (String.ofList padded.text).toList = some padded.name := by
  rw [String.toList_ofList]
  exact wholeMarker?_eq_some_iff.mpr ⟨padded, rfl, rfl⟩

/-- A padded placeholder stands for what its name resolves to. -/
theorem standsFor_padded {value : Json} (resolved : bindings.resolve? padded.name = some value) :
    StandsFor bindings (String.ofList padded.text) value := by
  intro mode
  constructor
  · intro path
    exact Substitution.renderString_of_bound _ path (wholeMarker?_padded padded) resolved
  · intro whole place substituted found succeeded
    obtain ⟨rfl, -⟩ := Json.eq_leafwise_of_substitute succeeded
    rw [Json.leafwise, Json.at?_mapTexts _ found, Json.mapTexts, filled_padded resolved]

/-- A padded placeholder whose name resolves to nothing is unresolved. -/
theorem isUnresolved_padded (missing : bindings.resolve? padded.name = none) :
    IsUnresolved bindings (String.ofList padded.text) padded.name := by
  intro path
  unfold Substitution.json Substitution.renderString
  simp only [wholeMarker?_padded, missing]
  exact ⟨rfl, rfl⟩

end Template

open Template (StandsFor IsUnresolved)

/-- **Every value inside a bound one has a dotted name.** A placeholder for such a name, with any
blank space around it, stands for the value that its path leads to, whatever the type of that; in
particular the names of fields and the indices of items lead to the value at any place. If the path
breaks off, the placeholder is unresolved. A name that is bound itself stands for what it is bound
to, wherever its path would lead. -/
theorem dotted_name_stands_for_node {bindings : Bindings} {key : String} {value : Json}
    {path : List String} (bound : bindings.get? key = some value)
    (undotted : ∀ part ∈ key :: path, '.' ∉ part.toList) (padded : PaddedName)
    (named : padded.name = ".".intercalate (key :: path)) :
    let placeholder := String.ofList padded.text
    (∀ literal, bindings.get? padded.name = some literal →
      StandsFor bindings placeholder literal) ∧
    (bindings.get? padded.name = none →
      (∀ node, value.Leads path node → StandsFor bindings placeholder node) ∧
      (∀ place node, value.at? place = some node → place.map Json.Step.segment = path →
        (∀ index, .item index ∈ place → index < Nat.pow 2 64) →
        StandsFor bindings placeholder node) ∧
      (value.Breaks path → IsUnresolved bindings placeholder padded.name)) := by
  intro placeholder
  constructor
  · intro literal own
    apply Template.standsFor_padded
    rw [Bindings.resolve?, own]
  · intro unbound
    rw [named] at unbound
    have resolved : bindings.resolve? padded.name = Bindings.descend path value := by
      rw [named]
      exact Bindings.resolve?_dotted bound undotted unbound
    have leading (node : Json) (leads : value.Leads path node) :
        StandsFor bindings placeholder node :=
      Template.standsFor_padded padded (resolved.trans leads.descend_eq)
    refine ⟨leading, ?_, ?_⟩
    · rintro place node found rfl indices
      exact leading node (Json.leads_of_at? found indices)
    · intro breaks
      exact Template.isUnresolved_padded padded (resolved.trans breaks.descend_eq)

theorem blank_of_mem_nil : ∀ c ∈ ([] ++ [] : List Char), Text.isBlank c = true := nofun

/-- A placeholder without blank space around its name. -/
def PaddedName.bare (name : String) (plain : Template.IsPlain name.toList)
    (trimmed : Text.trim name.toList = name.toList) : PaddedName :=
  ⟨[], name, [], blank_of_mem_nil, plain, trimmed⟩

/-- A user whose second role has a number for a name, and a literal binding in the way of the first.
-/
def userBindings : Bindings := .ofList [
  ("user", .obj [("roles", .arr [.null, .obj [("0", .bool true)]])]),
  ("user.roles.0", .str "guest")]

/-- An index in a path leads into an array, and one past its end breaks off. -/
theorem dotted_name_stands_for_node_user :
    StandsFor userBindings "\x7b\x7buser.roles.1.0\x7d\x7d" (.bool true) ∧
      StandsFor userBindings "\x7b\x7buser.roles.0\x7d\x7d" (.str "guest") ∧
      IsUnresolved userBindings "\x7b\x7buser.roles.2\x7d\x7d" "user.roles.2" := by
  have inside := @dotted_name_stands_for_node userBindings "user" _ ["roles", "1", "0"] rfl
    (by decide) (.bare "user.roles.1.0" (by decide) (by decide)) rfl
  have literal := @dotted_name_stands_for_node userBindings "user" _ ["roles", "0"] rfl (by decide)
    (.bare "user.roles.0" (by decide) (by decide)) rfl
  have beyond := @dotted_name_stands_for_node userBindings "user" _ ["roles", "2"] rfl (by decide)
    (.bare "user.roles.2" (by decide) (by decide)) rfl
  refine ⟨?_, literal.1 (.str "guest") rfl, ?_⟩
  · apply (inside.2 rfl).2.1 [.field "roles", .item 1, .field "0"] (.bool true) rfl rfl
    intro index member
    have same : index = 1 := by simpa using member
    rw [same]
    decide
  · apply (beyond.2 rfl).2.2
    exact .step (.field rfl) (.stop (.outOfRange (Literal.spells_toString 2) (by decide)))

end ActionGateway
