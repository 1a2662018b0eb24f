import ActionGateway.Proofs.BindingLayers

/-!
# Layers of parameters

The parameters of a call are bound over bindings that are already there. For a name the last query
parameter counts, without one the last header parameter; a name that no parameter has keeps its
binding, and so does the empty name, whatever parameters there are without a name. Names that are
new come behind the others, as they first appear among the header parameters and then among the
query parameters. This says all there is to the result: no other bindings are like that.
-/

namespace ActionGateway

open OrderedMap (latest?)

/-- No later parameter of the list has the same name. -/
def Parameter.IsLastIn (parameter : Parameter) (parameters : List Parameter) : Prop :=
  ∃ before after, parameters = before ++ parameter :: after ∧
    parameter.name ∉ after.map Parameter.name

namespace CallParameters

variable {parameters : List Parameter}

/-- A name among the parameters has a last parameter. -/
theorem exists_isLastIn {name : String} (present : name ∈ parameters.map Parameter.name) :
    ∃ parameter : Parameter, parameter.name = name ∧ parameter.IsLastIn parameters := by
  induction parameters with
  | nil => exact nomatch present
  | cons parameter rest ih =>
      by_cases later : name ∈ rest.map Parameter.name
      · obtain ⟨last, named, before, after, rfl, unrepeated⟩ := ih later
        exact ⟨last, named, parameter :: before, after, rfl, unrepeated⟩
      · obtain rfl := (List.mem_cons.mp present).resolve_right later
        exact ⟨parameter, rfl, [], rest, rfl, later⟩

/-- The last parameter of a name is the one found. -/
theorem latest?_of_isLastIn {parameter : Parameter} (last : parameter.IsLastIn parameters) :
    latest? (parameters.map Parameter.binding) parameter.name = some (.str parameter.value) := by
  obtain ⟨before, after, rfl, unrepeated⟩ := last
  have nothing := latest?_binding_eq_none_iff.mpr unrepeated
  have own : latest? [parameter.binding] parameter.name = some (.str parameter.value) :=
    List.lookup_cons_self
  rw [List.map_append, List.map_cons, ← List.singleton_append, OrderedMap.latest?_append,
    OrderedMap.latest?_append, nothing, own]
  rfl

/-- Leaving out parameters without a name is leaving out the empty name. -/
theorem map_binding_named (parameters : List Parameter) :
    (parameters.filter fun parameter => !parameter.isUnnamed).map Parameter.binding =
      (parameters.map Parameter.binding).filter fun entry => !entry.1.isEmpty := by
  rw [List.filter_map]
  rfl

section Bound

variable (parameters : CallParameters) (lower : Bindings)

/-- Under a name the query is found before the header, and the header before what was bound already.
-/
theorem get?_bindOnto (name : String) :
    (parameters.bindOnto lower).get? name =
      if name = "" then lower.get? name
      else ((latest? (parameters.query.map Parameter.binding) name).or
        (latest? (parameters.header.map Parameter.binding) name)).or (lower.get? name) := by
  rw [bindOnto_eq_insertAll, OrderedMap.get?_insertAll, map_binding_named,
    OrderedMap.latest?_filter (fun name => !name.isEmpty), inOrder, List.map_append,
    OrderedMap.latest?_append]
  by_cases unnamed : name = ""
  · subst unnamed
    rfl
  · have named : (!name.isEmpty) = true := by simpa using unnamed
    rw [if_pos named, if_neg unnamed]

/-- New names follow the bound ones in the order in which they first come, header before query. -/
theorem names_bindOnto :
    (parameters.bindOnto lower).names = lower.names ++
      (((parameters.header ++ parameters.query).map Parameter.name).filter fun name =>
        name ≠ "" ∧ name ∉ lower.names).eraseDups := by
  have named : ((parameters.inOrder.map Parameter.binding).filter fun entry =>
        !entry.1.isEmpty).map Prod.fst =
      ((parameters.header ++ parameters.query).map Parameter.name).filter (!·.isEmpty) := by
    rw [List.filter_map, List.map_map, List.filter_map]
    rfl
  have known : lower.names.eraseDups = lower.names := OrderedMap.eraseDups_eq_self lower.nodup
  rw [bindOnto_eq_insertAll, OrderedMap.names_insertAll, map_binding_named, named,
    List.eraseDups_append, known, List.removeAll, List.filter_filter]
  congr 2
  apply List.filter_congr
  intro name _
  have unnamed : name.isEmpty = decide (name = "") := by
    rw [Bool.eq_iff_iff, String.isEmpty_iff, decide_eq_true_eq]
  rw [unnamed]
  simp [Bool.and_comm]

end Bound

/-- **Parameters over bindings**: what the bindings are once the parameters are bound over those
that were there. -/
structure LayeredOver (parameters : CallParameters) (lower upper : Bindings) : Prop where
  /-- The last query parameter of a name gives its value. -/
  queried : ∀ parameter : Parameter, parameter.name ≠ "" → parameter.IsLastIn parameters.query →
    upper.get? parameter.name = some (.str parameter.value)
  /-- Without a query parameter of that name the last header parameter does. -/
  headed : ∀ parameter : Parameter, parameter.name ≠ "" → parameter.IsLastIn parameters.header →
    parameter.name ∉ parameters.query.map Parameter.name →
      upper.get? parameter.name = some (.str parameter.value)
  /-- The empty name and the names of no parameter are bound as they were, or not at all. -/
  kept : ∀ name, name = "" ∨ name ∉ (parameters.header ++ parameters.query).map Parameter.name →
    upper.get? name = lower.get? name
  /-- Names that were bound stay in front; the others follow as they first appear. -/
  order : upper.names = lower.names ++
    (((parameters.header ++ parameters.query).map Parameter.name).filter fun name =>
      name ≠ "" ∧ name ∉ lower.names).eraseDups

/-- Binding parameters layers them over what was bound. -/
theorem layeredOver_bindOnto (parameters : CallParameters) (lower : Bindings) :
    parameters.LayeredOver lower (parameters.bindOnto lower) where
  queried := by
    intro parameter named last
    rw [get?_bindOnto, if_neg named, latest?_of_isLastIn last]
    rfl
  headed := by
    intro parameter named last unqueried
    rw [get?_bindOnto, if_neg named, latest?_binding_eq_none_iff.mpr unqueried, Option.none_or,
      latest?_of_isLastIn last]
    rfl
  kept := by
    intro name free
    rw [get?_bindOnto]
    by_cases unnamed : name = ""
    · rw [if_pos unnamed]
    · have absent := free.resolve_left unnamed
      rw [List.map_append, List.mem_append, not_or] at absent
      rw [if_neg unnamed, latest?_binding_eq_none_iff.mpr absent.1,
        latest?_binding_eq_none_iff.mpr absent.2]
      rfl
  order := names_bindOnto parameters lower

/-- The layers leave no room: every name is one of a last query parameter, of a last header
parameter or of neither. -/
theorem LayeredOver.unique {parameters : CallParameters} {lower upper other : Bindings}
    (layered : parameters.LayeredOver lower upper) (alike : parameters.LayeredOver lower other) :
    upper = other := by
  refine OrderedMap.eq_of_names_of_get? (layered.order.trans alike.order.symm) fun name => ?_
  by_cases free :
      name = "" ∨ name ∉ (parameters.header ++ parameters.query).map Parameter.name
  · rw [layered.kept name free, alike.kept name free]
  · obtain ⟨named, present⟩ := not_or.mp free
    by_cases queried : name ∈ parameters.query.map Parameter.name
    · obtain ⟨parameter, rfl, last⟩ := exists_isLastIn queried
      rw [layered.queried parameter named last, alike.queried parameter named last]
    · rw [not_not, List.map_append, List.mem_append] at present
      obtain ⟨parameter, rfl, last⟩ := exists_isLastIn (present.resolve_right queried)
      rw [layered.headed parameter named last queried, alike.headed parameter named last queried]

/-- **Binding parameters is layering them**: the bindings that result are those, and only those, in
which query parameters lie over header parameters and both over what was bound before. -/
theorem eq_bindOnto_iff_layeredOver (parameters : CallParameters) (lower upper : Bindings) :
    upper = parameters.bindOnto lower ↔ parameters.LayeredOver lower upper := by
  constructor
  · rintro rfl
    exact layeredOver_bindOnto parameters lower
  · intro layered
    exact layered.unique (layeredOver_bindOnto parameters lower)

/-- Repeats within and across both kinds, a parameter without a name, and names bound before. -/
example :
    ((⟨[⟨"b", "1"⟩, ⟨"a", "2"⟩, ⟨"", "3"⟩, ⟨"b", "4"⟩], [⟨"c", "5"⟩, ⟨"a", "6"⟩, ⟨"c", "7"⟩]⟩ :
        CallParameters).bindOnto (.ofList [("", .null), ("a", .null), ("z", .null)])).entries =
      [("", .null), ("a", .str "2"), ("z", .null), ("c", .str "7"), ("b", .str "4")] := by
  decide

end CallParameters

end ActionGateway
