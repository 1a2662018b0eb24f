import ActionGateway.Document.Format
import ActionGateway.Proofs.VariableReferences

/-!
# Well-formed values

Objects have their fields strictly in the order of their names. What a document says is read as such
a value, whatever its format, and resolving the references of a well-formed value leaves it
well-formed: a text may become any value that a variable spells, but that one was read too.
-/

namespace ActionGateway

namespace Json

mutual

/-- Whether the fields are in order throughout can be computed. -/
def decWellFormed : (value : Json) → Decidable value.WellFormed
  | .null | .bool _ | .num _ | .str _ => isTrue trivial
  | .arr items => decWellFormedItems items
  | .obj fields => @instDecidableAnd _ _ inferInstance (decWellFormedFields fields)

def decWellFormedItems : (items : List Json) → Decidable (WellFormedItems items)
  | [] => isTrue trivial
  | item :: rest => @instDecidableAnd _ _ (decWellFormed item) (decWellFormedItems rest)

def decWellFormedFields : (fields : List (String × Json)) → Decidable (WellFormedFields fields)
  | [] => isTrue trivial
  | (_, value) :: rest => @instDecidableAnd _ _ (decWellFormed value) (decWellFormedFields rest)

end

instance : DecidablePred WellFormed := decWellFormed

/-- Items are well formed when each of them is. -/
theorem wellFormedItems_iff (items : List Json) :
    WellFormedItems items ↔ ∀ item ∈ items, item.WellFormed := by
  induction items with
  | nil => exact iff_of_true trivial nofun
  | cons item rest ih => rw [WellFormedItems, ih, List.forall_mem_cons]

theorem wellFormedFields_iff (fields : List (String × Json)) :
    WellFormedFields fields ↔ ∀ field ∈ fields, field.2.WellFormed := by
  induction fields with
  | nil => exact iff_of_true trivial nofun
  | cons field rest ih => rw [WellFormedFields, ih, List.forall_mem_cons]

/-- Scalars are well formed. -/
theorem wellFormed_of_isScalar {value : Json} (scalar : value.isScalar = true) :
    value.WellFormed := by
  cases value with
  | arr items => exact nomatch scalar
  | obj fields => exact nomatch scalar
  | _ => trivial

/-! ## Fields in order -/

section Fields

variable {α : Type}

/-- Names strictly in their order. -/
def InOrder (fields : List (String × α)) : Prop :=
  (fields.map Prod.fst).Pairwise (· < ·)

/-- Fields are in order when the first is below the others, and these are in order. -/
theorem inOrder_cons_iff (field : String × α) (rest : List (String × α)) :
    InOrder (field :: rest) ↔ (∀ other ∈ rest, field.1 < other.1) ∧ InOrder rest := by
  unfold InOrder
  rw [List.map_cons, List.pairwise_cons, List.forall_mem_map]

/-- Putting a field in adds nothing else. -/
theorem mem_putField {name : String} {value : α} {fields : List (String × α)}
    {field : String × α} (member : field ∈ putField name value fields) :
    field = (name, value) ∨ field ∈ fields := by
  induction fields with
  | nil => exact .inl (List.mem_singleton.mp member)
  | cons first rest ih =>
      rw [putField] at member
      by_cases before : name < first.1
      · rw [if_pos before] at member
        exact List.mem_cons.mp member
      rw [if_neg before] at member
      by_cases same : name = first.1
      · rw [if_pos same] at member
        rcases List.mem_cons.mp member with put | kept
        · exact .inl put
        · exact .inr (List.mem_cons_of_mem _ kept)
      · rw [if_neg same] at member
        rcases List.mem_cons.mp member with rfl | later
        · exact .inr List.mem_cons_self
        · exact (ih later).imp_right (List.mem_cons_of_mem _)

theorem inOrder_putField (name : String) (value : α) {fields : List (String × α)}
    (ordered : InOrder fields) : InOrder (putField name value fields) := by
  induction fields with
  | nil => exact List.pairwise_singleton _ _
  | cons first rest ih =>
      obtain ⟨least, others⟩ := (inOrder_cons_iff first rest).mp ordered
      rw [putField]
      by_cases before : name < first.1
      · rw [if_pos before, inOrder_cons_iff]
        refine ⟨List.forall_mem_cons.mpr ⟨before, fun other member => ?_⟩, ordered⟩
        exact String.lt_trans before (least other member)
      rw [if_neg before]
      by_cases same : name = first.1
      · rw [if_pos same, inOrder_cons_iff]
        exact ⟨fun other member => same ▸ least other member, others⟩
      · rw [if_neg same, inOrder_cons_iff]
        refine ⟨fun other member => ?_, ih others⟩
        rcases mem_putField member with rfl | kept
        · have after : first.1 ≤ name := String.not_lt.mp before
          refine String.not_le.mp fun back => same ?_
          exact String.le_antisymm back after
        · exact least other kept

/-- Sorted fields are in order. -/
theorem inOrder_sortFields (fields : List (String × α)) : InOrder (sortFields fields) :=
  List.foldlRecOn fields _ List.Pairwise.nil fun _ ordered field _ =>
    inOrder_putField field.1 field.2 ordered

/-- Sorting adds no field. -/
theorem mem_of_mem_sortFields {fields : List (String × α)} :
    ∀ field ∈ sortFields fields, field ∈ fields := by
  apply List.foldlRecOn
    (motive := fun sorted : List (String × α) => ∀ field ∈ sorted, field ∈ fields)
  · exact fun field member => nomatch member
  · intro sorted known field present other member
    rcases mem_putField member with rfl | kept
    · exact present
    · exact known other kept

/-- A field above all others is put at the end. -/
theorem putField_of_greatest {name : String} (value : α) {fields : List (String × α)}
    (greatest : ∀ field ∈ fields, field.1 < name) :
    putField name value fields = fields ++ [(name, value)] := by
  induction fields with
  | nil => rfl
  | cons first rest ih =>
      obtain ⟨before, others⟩ := List.forall_mem_cons.mp greatest
      have different : name ≠ first.1 := fun same => String.lt_irrefl _ (same ▸ before)
      rw [putField, if_neg (String.lt_asymm before), if_neg different, ih others,
        List.cons_append]

/-- Fields in order stay as they are. -/
theorem sortFields_of_inOrder {fields : List (String × α)} (ordered : InOrder fields) :
    sortFields fields = fields := by
  suffices grows : ∀ rest sorted : List (String × α), InOrder (sorted ++ rest) →
      rest.foldl (fun sorted field => putField field.1 field.2 sorted) sorted = sorted ++ rest from
    grows fields [] ordered
  intro rest
  induction rest with
  | nil => exact fun sorted _ => (List.append_nil sorted).symm
  | cons field rest ih =>
      intro sorted ordered
      have least : ∀ other ∈ sorted, other.1 < field.1 := by
        intro other member
        unfold InOrder at ordered
        rw [List.map_append, List.pairwise_append] at ordered
        exact ordered.2.2 _ (List.mem_map_of_mem member) _ List.mem_cons_self
      have split : sorted ++ field :: rest = (sorted ++ [field]) ++ rest := by
        rw [List.append_assoc]
        rfl
      rw [List.foldl_cons, putField_of_greatest field.2 least, split]
      exact ih _ (split ▸ ordered)

end Fields

/-- An object made of well-formed values is well formed. -/
theorem wellFormed_object {fields : List (String × Json)}
    (values : ∀ field ∈ fields, field.2.WellFormed) : (object fields).WellFormed := by
  refine ⟨inOrder_sortFields fields, (wellFormedFields_iff _).mpr fun field member => ?_⟩
  exact values field (mem_of_mem_sortFields field member)

/-! ## What is read -/

mutual

/-- Every value read from raw JSON is well formed. -/
theorem wellFormed_of_value? {room : Nat} (raw : Raw) {value : Json}
    (read : raw.value? room = some value) : value.WellFormed := by
  cases raw with
  | null =>
      cases read
      trivial
  | bool flag =>
      cases read
      trivial
  | num number =>
      obtain ⟨_, _, rfl⟩ := Option.map_eq_some_iff.mp read
      trivial
  | str content =>
      obtain ⟨_, _, rfl⟩ := Option.map_eq_some_iff.mp read
      trivial
  | arr items =>
      cases room with
      | zero => exact nomatch read
      | succ room =>
          rw [Raw.value?] at read
          obtain ⟨values, inner, rfl⟩ := Option.map_eq_some_iff.mp read
          exact (wellFormedItems_iff values).mpr (wellFormed_of_values? items inner)
  | obj fields =>
      cases room with
      | zero => exact nomatch read
      | succ room =>
          rw [Raw.value?] at read
          obtain ⟨values, inner, rfl⟩ := Option.map_eq_some_iff.mp read
          exact wellFormed_object (wellFormed_of_fieldValues? fields inner)

theorem wellFormed_of_values? {room : Nat} (raws : List Raw) {values : List Json}
    (read : Raw.values? room raws = some values) : ∀ value ∈ values, value.WellFormed := by
  cases raws with
  | nil =>
      cases read
      exact nofun
  | cons raw rest =>
      rw [Raw.values?] at read
      obtain ⟨value, own, read⟩ := Option.bind_eq_some_iff.mp read
      obtain ⟨others, later, read⟩ := Option.bind_eq_some_iff.mp read
      obtain rfl := Option.some.inj read
      exact List.forall_mem_cons.mpr
        ⟨wellFormed_of_value? raw own, wellFormed_of_values? rest later⟩

theorem wellFormed_of_fieldValues? {room : Nat} (raws : List (Option String × Raw))
    {fields : List (String × Json)} (read : Raw.fieldValues? room raws = some fields) :
    ∀ field ∈ fields, field.2.WellFormed := by
  cases raws with
  | nil =>
      cases read
      exact nofun
  | cons raw rest =>
      rw [Raw.fieldValues?] at read
      obtain ⟨name, -, read⟩ := Option.bind_eq_some_iff.mp read
      obtain ⟨value, own, read⟩ := Option.bind_eq_some_iff.mp read
      obtain ⟨others, later, read⟩ := Option.bind_eq_some_iff.mp read
      obtain rfl := Option.some.inj read
      exact List.forall_mem_cons.mpr
        ⟨wellFormed_of_value? raw.2 own, wellFormed_of_fieldValues? rest later⟩

end

/-- A JSON text is read as a well-formed value. -/
theorem wellFormed_of_ofText? {text : String} {value : Json} (read : ofText? text = some value) :
    value.WellFormed := by
  obtain ⟨raw, -, read⟩ := Option.bind_eq_some_iff.mp read
  exact wellFormed_of_value? raw read

end Json

namespace Yaml

/-- Whatever a computation gives has a property. -/
def Following.Ensures {α : Type} (computation : Following α) (property : α → Prop) : Prop :=
  ∀ left value rest, computation left = some (value, rest) → property value

namespace Following

variable {α β : Type} {property : α → Prop} {other : β → Prop}

/-- A computation that gives a value ensures what holds of it. -/
theorem ensures_pure {value : α} (holds : property value) :
    (pure value : Following α).Ensures property := by
  rintro left given rest ⟨⟩
  exact holds

/-- A computation that fails ensures anything. -/
theorem ensures_failure : (failure : Following α).Ensures property :=
  fun _ _ _ given => nomatch given

/-- What a first computation ensures may be used for a second. -/
theorem Ensures.bind {first : Following α} {next : α → Following β}
    (ensured : first.Ensures property)
    (follows : ∀ value, property value → (next value).Ensures other) :
    (first >>= next).Ensures other := by
  intro left value rest given
  obtain ⟨⟨middle, between⟩, before, after⟩ := Option.bind_eq_some_iff.mp given
  exact follows middle (ensured left middle between before) between value rest after

/-- A sequence ensures what its second computation does for every value. -/
theorem ensures_bind {first : Following α} {next : α → Following β}
    (follows : ∀ value, (next value).Ensures other) : (first >>= next).Ensures other := by
  have nothing : first.Ensures fun _ => True := fun _ _ _ _ => trivial
  exact nothing.bind fun value _ => follows value

/-- An optional value ensures what holds of it. -/
theorem ensures_lift {found : Option α} (ensured : ∀ value, found = some value → property value) :
    Ensures (liftM found) property := by
  intro left value rest given
  obtain ⟨inner, read, same⟩ := Option.bind_eq_some_iff.mp given
  cases same
  exact ensured _ read

/-- A computation for each of a list ensures of all results what each one does. -/
theorem ensures_mapM {γ : Type} {computation : γ → Following α} (entries : List γ)
    (each : ∀ entry, (computation entry).Ensures property) :
    (entries.mapM computation).Ensures fun values => ∀ value ∈ values, property value := by
  induction entries with
  | nil =>
      rw [List.mapM_nil]
      exact ensures_pure nofun
  | cons entry rest ih =>
      rw [List.mapM_cons]
      refine (each entry).bind fun value holds => ih.bind fun values all => ?_
      exact ensures_pure (List.forall_mem_cons.mpr ⟨holds, all⟩)

end Following

/-- Plain scalars of YAML are scalars. -/
theorem isScalar_of_json? {plain : Plain} {text : String} {value : Json}
    (read : plain.json? text = some value) : value.isScalar = true := by
  cases plain with
  | int number =>
      rw [Plain.json?, Option.ite_none_right_eq_some] at read
      cases read.2
      rfl
  | null | bool _ | real _ | notFinite | text =>
      cases read
      rfl

theorem isScalar_of_untagged? {plain : Bool} {text : String} {value : Json}
    (read : untagged? plain text = some value) : value.isScalar = true := by
  cases plain with
  | true => exact isScalar_of_json? read
  | false =>
      cases read
      rfl

theorem isScalar_of_tagged? {tag : Tag} {plain : Bool} {text : String} {value : Json}
    (read : tagged? tag plain text = some value) : value.isScalar = true := by
  unfold tagged? at read
  split at read
  · rw [Option.ite_none_right_eq_some] at read
    cases read.2
    rfl
  split at read
  · obtain ⟨_, -, rfl⟩ := Option.map_eq_some_iff.mp read
    rfl
  split at read
  · obtain ⟨_, -, spelled⟩ := Option.bind_eq_some_iff.mp read
    exact isScalar_of_json? spelled
  split at read
  · obtain ⟨_, -, spelled⟩ := Option.bind_eq_some_iff.mp read
    exact isScalar_of_json? spelled
  split at read
  · exact nomatch read
  split at read
  · exact isScalar_of_untagged? read
  · cases read
    rfl

theorem isScalar_of_scalar? {tag : Option Tag} {plain : Bool} {text : String} {value : Json}
    (read : scalar? tag plain text = some value) : value.isScalar = true := by
  cases tag with
  | none => exact isScalar_of_untagged? read
  | some tag => exact isScalar_of_tagged? read

/-- **The value of a node** is well-formed, on every level. -/
theorem ensures_valueOf (anchored : List (Nat × Node Nat)) (room : Nat) (node : Node Nat) :
    (valueOf anchored room node).Ensures Json.WellFormed := by
  have scalars (tag : Option Tag) (plain : Bool) (text : String) :
      Following.Ensures (liftM (scalar? tag plain text)) Json.WellFormed :=
    Following.ensures_lift fun _ read => Json.wellFormed_of_isScalar (isScalar_of_scalar? read)
  induction room generalizing node with
  | zero =>
      rw [valueOf]
      refine Following.ensures_bind fun followed => ?_
      cases followed with
      | scalar properties plain text => exact scalars properties.tag plain text
      | «alias» _ | sequence _ _ | mapping _ _ => exact Following.ensures_failure
  | succ room ih =>
      rw [valueOf]
      refine Following.ensures_bind fun followed => ?_
      cases followed with
      | «alias» _ => exact Following.ensures_failure
      | scalar properties plain text => exact scalars properties.tag plain text
      | sequence properties items =>
          by_cases allowed : allowsCollection properties.tag = true
          · simp only [allowed, ↓reduceIte]
            refine (Following.ensures_mapM items ih).bind fun values all => ?_
            exact Following.ensures_pure ((Json.wellFormedItems_iff values).mpr all)
          · simp only [allowed, ↓reduceIte, Bool.false_eq_true]
            exact Following.ensures_failure
      | mapping properties entries =>
          have each (entry : Node Nat × Node Nat) : Following.Ensures (do
              let name ← keyText anchored entry.1
              let value ← valueOf anchored room entry.2
              pure (name, value)) fun field : String × Json => field.2.WellFormed := by
            refine Following.ensures_bind fun name => (ih entry.2).bind fun value sound => ?_
            exact Following.ensures_pure sound
          by_cases allowed : allowsCollection properties.tag = true
          · simp only [allowed, ↓reduceIte]
            refine (Following.ensures_mapM entries each).bind fun fields all => ?_
            exact Following.ensures_pure (Json.wellFormed_object all)
          · simp only [allowed, ↓reduceIte, Bool.false_eq_true]
            exact Following.ensures_failure

/-- A YAML text is read as a well-formed value. -/
theorem wellFormed_of_ofText? {text : String} {value : Json} (read : ofText? text = some value) :
    value.WellFormed := by
  obtain ⟨tokens, -, read⟩ := Option.bind_eq_some_iff.mp read
  obtain ⟨node, -, read⟩ := Option.bind_eq_some_iff.mp read
  cases node with
  | none =>
      cases read
      trivial
  | some node =>
      obtain ⟨resolved, -, read⟩ := Option.bind_eq_some_iff.mp read
      obtain ⟨⟨given, left⟩, ran, rfl⟩ := Option.map_eq_some_iff.mp read
      exact ensures_valueOf _ _ _ _ given left ran

end Yaml

/-- **Documents are read as well-formed values.** -/
theorem DocumentFormat.wellFormed_of_read {format : DocumentFormat} {content : String}
    {document : Json} (read : format.read content = .ok document) : document.WellFormed := by
  cases format with
  | yaml =>
      unfold DocumentFormat.read at read
      cases given : Yaml.ofText? content with
      | none =>
          rw [given] at read
          exact nomatch read
      | some value =>
          rw [given] at read
          cases read
          exact Yaml.wellFormed_of_ofText? given
  | json =>
      unfold DocumentFormat.read at read
      cases given : Json.ofText? content with
      | none =>
          rw [given] at read
          exact nomatch read
      | some value =>
          rw [given] at read
          cases read
          exact Json.wellFormed_of_ofText? given

/-! ## What references are resolved to -/

namespace Variables

/-- The value that a text spells is well formed. -/
theorem wellFormed_coerce (text : String) : (coerce text).WellFormed := by
  unfold coerce
  cases contained : container? text with
  | some value =>
      unfold container? at contained
      split at contained
      · exact Json.wellFormed_of_ofText? contained
      · exact Json.wellFormed_of_ofText? contained
      · exact nomatch contained
  | none =>
      cases spelled : scalar? text with
      | none => trivial
      | some value =>
          apply Json.wellFormed_of_isScalar
          unfold scalar? at spelled
          split at spelled
          · cases spelled
            rfl
          · cases spelled
            rfl
          · split at spelled
            · cases spelled
              rfl
            · obtain ⟨_, -, rfl⟩ := Option.map_eq_some_iff.mp spelled
              rfl

variable {known : Variables}

/-- A resolved text is well formed. -/
theorem wellFormed_of_resolveText {text : String} {result : Json}
    (resolved : known.resolveText text = .ok result) : result.WellFormed := by
  cases whole : Text.wholeMarker? VariableReference.recognise text.toList with
  | some reference =>
      rw [resolveText_of_whole whole] at resolved
      cases given : known.textOf reference with
      | error reason =>
          rw [given] at resolved
          exact nomatch resolved
      | ok text =>
          rw [given] at resolved
          cases resolved
          exact wellFormed_coerce text
  | none =>
      simp only [resolveText, whole] at resolved
      obtain ⟨after, -, same⟩ := of_bind_eq_ok resolved
      cases same
      trivial

mutual

/-- **A resolved value is well-formed** when the value was. -/
theorem wellFormed_of_resolve (value : Json) {result : Json} (sound : value.WellFormed)
    (resolved : known.resolve value = .ok result) : result.WellFormed := by
  cases value with
  | str text => exact wellFormed_of_resolveText resolved
  | arr items =>
      obtain ⟨results, inner, rfl⟩ := of_resolve_arr resolved
      exact wellFormed_of_resolveItems items sound inner
  | obj fields =>
      obtain ⟨results, inner, rfl⟩ := of_resolve_obj resolved
      have names : fields.map Prod.fst = results.map Prod.fst := by
        rw [← List.forall₂_eq_eq_eq, List.forall₂_map_left_iff, List.forall₂_map_right_iff]
        exact (forall₂_of_resolveFields inner).imp fun _ _ same => same.1
      exact ⟨names ▸ sound.1, wellFormed_of_resolveFields fields sound.2 inner⟩
  | null | bool _ | num _ =>
      cases resolved
      trivial

/-- Resolved items are well formed if the items were. -/
theorem wellFormed_of_resolveItems (items : List Json) {results : List Json}
    (sound : Json.WellFormedItems items) (resolved : known.resolveItems items = .ok results) :
    Json.WellFormedItems results := by
  cases items with
  | nil =>
      cases resolved
      trivial
  | cons item rest =>
      rw [resolveItems] at resolved
      obtain ⟨result, own, resolved⟩ := of_bind_eq_ok resolved
      obtain ⟨others, later, same⟩ := of_bind_eq_ok resolved
      cases same
      exact ⟨wellFormed_of_resolve item sound.1 own, wellFormed_of_resolveItems rest sound.2 later⟩

theorem wellFormed_of_resolveFields (fields : List (String × Json))
    {results : List (String × Json)} (sound : Json.WellFormedFields fields)
    (resolved : known.resolveFields fields = .ok results) : Json.WellFormedFields results := by
  cases fields with
  | nil =>
      cases resolved
      trivial
  | cons field rest =>
      rw [resolveFields] at resolved
      obtain ⟨result, own, resolved⟩ := of_bind_eq_ok resolved
      obtain ⟨others, later, same⟩ := of_bind_eq_ok resolved
      cases same
      exact ⟨wellFormed_of_resolve field.2 sound.1 own,
        wellFormed_of_resolveFields rest sound.2 later⟩

end

end Variables

end ActionGateway
