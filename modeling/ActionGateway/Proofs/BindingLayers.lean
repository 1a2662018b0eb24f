import ActionGateway.Proofs.EntryPoints
import ActionGateway.Proofs.PartContents

/-!
# Layers of bindings

The bindings of an upload come in layers: header parameters, query parameters, the bindings of the
descriptor, the values that keep the names of their parts, the values that the parameter map
renames. Whatever goes into the layers one by one, the result is what one gets by writing all of it
into one map, from the lowest layer up. So a name is bound by the highest layer that has it, and
the names stand in the order in which the layers first mention them.

A call may have parameters of its own beside those of the descriptor. They lie below both layers of
the descriptor, so a header parameter of the descriptor stands above a query parameter of the call.
-/

namespace ActionGateway

open OrderedMap (latest?)

/-- The binding that a parameter makes. -/
def Parameter.binding (parameter : Parameter) : String × Json :=
  (parameter.name, .str parameter.value)

namespace CallParameters

/-- Parameters bind by being written one after the other, those without a name left out. -/
theorem bindOnto_eq_insertAll (parameters : CallParameters) (bindings : Bindings) :
    parameters.bindOnto bindings = bindings.insertAll
      ((parameters.inOrder.filter fun parameter => !parameter.isUnnamed).map
        Parameter.binding) := by
  unfold bindOnto
  induction parameters.inOrder generalizing bindings with
  | nil => rfl
  | cons parameter rest ih =>
      rw [List.foldl_cons, ih, bindOne]
      cases unnamed : parameter.isUnnamed with
      | true => rw [if_pos rfl, List.filter_cons_of_neg (by rw [unnamed]; decide)]
      | false =>
          rw [if_neg Bool.false_ne_true, List.filter_cons_of_pos (by rw [unnamed]; rfl)]
          rfl

/-- Parameters with names are bound one after the other, those of the query last. -/
theorem bindOnto_eq_insertAll_of_named {parameters : CallParameters}
    (named : parameters.hasUnnamed = false) (bindings : Bindings) :
    parameters.bindOnto bindings =
      (bindings.insertAll (parameters.header.map Parameter.binding)).insertAll
        (parameters.query.map Parameter.binding) := by
  have all : (parameters.inOrder.filter fun parameter => !parameter.isUnnamed) =
      parameters.inOrder := by
    rw [List.filter_eq_self]
    intro parameter member
    rw [hasUnnamed, List.any_eq_false] at named
    rw [Bool.eq_false_iff.mpr (named parameter member)]
    rfl
  rw [bindOnto_eq_insertAll, all, inOrder, List.map_append, OrderedMap.insertAll_append]

/-- What is bound last under a name is the value of a parameter of that name. -/
theorem mem_of_latest?_binding {parameters : List Parameter} {name : String} {value : Json}
    (found : latest? (parameters.map Parameter.binding) name = some value) :
    ∃ parameter ∈ parameters, parameter.name = name ∧ .str parameter.value = value := by
  obtain ⟨parameter, member, same⟩ := List.mem_map.mp (OrderedMap.mem_of_latest?_eq_some found)
  cases same
  exact ⟨parameter, member, rfl, rfl⟩

/-- Nothing is bound under a name that no parameter has. -/
theorem latest?_binding_eq_none_iff {parameters : List Parameter} {name : String} :
    latest? (parameters.map Parameter.binding) name = Option.none ↔
      name ∉ parameters.map Parameter.name := by
  rw [OrderedMap.latest?_eq_none_iff, List.map_map]
  rfl

/-- The value that a name has from these parameters over the query parameters of others: from the
query parameters first, then from the header parameters, then from those below. -/
def value? (parameters below : CallParameters) (name : String) : Option Json :=
  (latest? (parameters.query.map Parameter.binding) name).or
    ((latest? (parameters.header.map Parameter.binding) name).or
      (latest? (below.query.map Parameter.binding) name))

section Queried

variable {parameters below : CallParameters} {name : String}
  (asked : name ∈ (below.query ++ parameters.query).map Parameter.name)

include asked

/-- A name that is bound by no query parameter above is bound by one below. -/
theorem exists_latest?_below (absent : name ∉ parameters.query.map Parameter.name) :
    ∃ value, latest? (below.query.map Parameter.binding) name = some value := by
  rw [List.map_append, List.mem_append] at asked
  apply Option.ne_none_iff_exists'.mp
  intro unknown
  exact latest?_binding_eq_none_iff.mp unknown (asked.resolve_right absent)

/-- The header parameters below count for no name that some query parameter has. -/
theorem value?_eq_or :
    parameters.value? below name =
      ((latest? (parameters.query.map Parameter.binding) name).or
        (latest? (parameters.header.map Parameter.binding) name)).or
          ((latest? (below.query.map Parameter.binding) name).or
            (latest? (below.header.map Parameter.binding) name)) := by
  rw [value?, Option.or_assoc]
  cases queried : latest? (parameters.query.map Parameter.binding) name with
  | some value => rfl
  | none =>
      obtain ⟨value, lower⟩ := exists_latest?_below asked (latest?_binding_eq_none_iff.mp queried)
      rw [lower, Option.some_or]

/-- The value is that of a query parameter unless a header parameter comes between. -/
theorem value?_of_query_iff :
    (∃ parameter ∈ below.query ++ parameters.query, parameter.name = name ∧
        parameters.value? below name = some (.str parameter.value)) ↔
      name ∈ parameters.query.map Parameter.name ∨ name ∉ parameters.header.map Parameter.name ∨
      ∃ parameter ∈ below.query, parameter.name = name ∧
        latest? (parameters.header.map Parameter.binding) name = some (.str parameter.value) := by
  unfold value?
  cases queried : latest? (parameters.query.map Parameter.binding) name with
  | some value =>
      obtain ⟨parameter, member, named, rfl⟩ := mem_of_latest?_binding queried
      refine iff_of_true ⟨parameter, List.mem_append_right _ member, named, rfl⟩ (.inl ?_)
      exact List.mem_map.mpr ⟨parameter, member, named⟩
  | none =>
      have unqueried := latest?_binding_eq_none_iff.mp queried
      rw [Option.none_or]
      cases headed : latest? (parameters.header.map Parameter.binding) name with
      | none =>
          obtain ⟨value, lower⟩ := exists_latest?_below asked unqueried
          obtain ⟨parameter, member, named, rfl⟩ := mem_of_latest?_binding lower
          refine iff_of_true ⟨parameter, List.mem_append_left _ member, named, lower⟩ ?_
          exact .inr (.inl (latest?_binding_eq_none_iff.mp headed))
      | some value =>
          have inHeader : name ∈ parameters.header.map Parameter.name := by
            by_contra absent
            exact nomatch headed.symm.trans (latest?_binding_eq_none_iff.mpr absent)
          rw [Option.some_or]
          constructor
          · rintro ⟨parameter, member, named, same⟩
            refine .inr (.inr ⟨parameter, ?_, named, same⟩)
            refine (List.mem_append.mp member).resolve_right fun own => ?_
            exact unqueried (List.mem_map.mpr ⟨parameter, own, named⟩)
          · rintro (own | absent | ⟨parameter, member, named, same⟩)
            · exact absurd own unqueried
            · exact absurd inHeader absent
            · exact ⟨parameter, List.mem_append_left _ member, named, same⟩

end Queried

end CallParameters

namespace PartContent

variable (contents : List PartContent)

/-- The parameter map that counts: the last one, or an empty one. -/
def lastParameterMap : OrderedMap String :=
  (contents.filterMap parameterMap?).getLast?.getD .empty

/-- The values that parts carry, in order of arrival. -/
def carried : List (String × Json) :=
  contents.filterMap carried?

/-- Some entry of the parameter map leads to the part. -/
def isMapped (part : String) : Bool :=
  ((lastParameterMap contents).entries.map Prod.snd).contains part

/-- The value that the parameter map gives to a name: the last value of the part that the name leads
to. -/
def mappedValue? (name : String) : Option Json :=
  ((lastParameterMap contents).get? name).bind (latest? (carried contents))

/-- The value that a name has as the name of a part: the last value of that part, unless the
parameter map leads to the part. -/
def ownValue? (name : String) : Option Json :=
  if isMapped contents name then none else latest? (carried contents) name

/-- What the parts write, first under their own names, then under those of the parameter map. -/
def written : List (String × Json) :=
  (carried contents).filter (fun entry => !isMapped contents entry.1) ++
    (lastParameterMap contents).entries.filterMap fun entry =>
      (latest? (carried contents) entry.2).map fun value => (entry.1, value)

section Renaming

variable (value? : String → Option Json) (entries : List (String × String))

/-- Renaming keeps the names that lead to a value. -/
theorem names_renamed :
    (entries.filterMap fun entry => (value? entry.2).map fun value => (entry.1, value)).map
        Prod.fst =
      (entries.filter fun entry => (value? entry.2).isSome).map Prod.fst := by
  induction entries with
  | nil => rfl
  | cons entry rest ih =>
      cases found : value? entry.2 with
      | none => simp [found, ih]
      | some value => simp [found, ih]

/-- Renaming entries by a map with names of its own finds what the map sends a name to. -/
theorem latest?_renamed (nodup : (entries.map Prod.fst).Nodup) (name : String) :
    latest? (entries.filterMap fun entry => (value? entry.2).map fun value => (entry.1, value))
        name =
      (entries.lookup name).bind value? := by
  have distinct := nodup.sublist
    ((List.filter_sublist (p := fun entry => (value? entry.2).isSome)).map Prod.fst)
  rw [← names_renamed] at distinct
  apply Option.ext
  intro value
  rw [OrderedMap.latest?_eq_some_iff_mem distinct, List.mem_filterMap, Option.bind_eq_some_iff]
  constructor
  · rintro ⟨entry, member, renamed⟩
    obtain ⟨_, found, same⟩ := Option.map_eq_some_iff.mp renamed
    cases same
    exact ⟨entry.2, (OrderedMap.lookup_eq_some_iff_mem nodup _ _).mpr member, found⟩
  · rintro ⟨part, leads, found⟩
    refine ⟨(name, part), (OrderedMap.lookup_eq_some_iff_mem nodup _ _).mp leads, ?_⟩
    rw [found]
    rfl

end Renaming

/-- Of what the parts write under a name the renamed value is the last. -/
theorem latest?_written (name : String) :
    latest? (written contents) name =
      (mappedValue? contents name).or (ownValue? contents name) := by
  rw [written, OrderedMap.latest?_append, latest?_renamed _ _ (lastParameterMap contents).nodup,
    OrderedMap.latest?_filter (fun part => !isMapped contents part)]
  congr 1
  unfold ownValue?
  cases isMapped contents name <;> rfl

/-- The names that contents write: their own, unless they are renamed, and the renamed ones after
them. -/
theorem names_written :
    (written contents).map Prod.fst =
      ((carried contents).map Prod.fst).filter (fun part => !isMapped contents part) ++
        (lastParameterMap contents).names.filter fun name =>
          (mappedValue? contents name).isSome := by
  have leads : ∀ entry ∈ (lastParameterMap contents).entries,
      (latest? (carried contents) entry.2).isSome = (mappedValue? contents entry.1).isSome := by
    intro entry member
    rw [mappedValue?, (OrderedMap.get?_eq_some_iff_mem _ entry.1 entry.2).mpr member]
    rfl
  rw [written, List.map_append, names_renamed, List.filter_congr leads, OrderedMap.names,
    List.filter_map, List.filter_map]
  rfl

end PartContent

/-! ## All layers -/

namespace Descriptor

/-- The parameters of the descriptor, if there is one. -/
def paramsOf (described : Option Descriptor) : CallParameters :=
  described.elim .none params

/-- The bindings of the descriptor, if there is one. -/
def bindingsOf (described : Option Descriptor) : Bindings :=
  described.elim .empty bindings

/-- What the descriptor writes, from its lowest layer up. -/
def written (described : Option Descriptor) : List (String × Json) :=
  (paramsOf described).header.map Parameter.binding ++
    (paramsOf described).query.map Parameter.binding ++ (bindingsOf described).entries

theorem latest?_written (described : Option Descriptor) (name : String) :
    latest? (written described) name =
      ((bindingsOf described).get? name).or
        ((latest? ((paramsOf described).query.map Parameter.binding) name).or
          (latest? ((paramsOf described).header.map Parameter.binding) name)) := by
  rw [written, OrderedMap.latest?_append, OrderedMap.latest?_append, OrderedMap.latest?_entries]

end Descriptor

namespace Intake

variable {intake : Intake} {contents : List PartContent}

/-- The bindings that the parts make write what the parts write. -/
theorem insertAll_bindings (contents : List PartContent) (base : Bindings) :
    base.insertAll (contents.foldl add empty).bindings.entries =
      base.insertAll (PartContent.written contents) := by
  have values : (contents.foldl add empty).values =
      OrderedMap.ofList (PartContent.carried contents) :=
    values_foldl_add contents
  have parameterMap : (contents.foldl add empty).parameterMap =
      PartContent.lastParameterMap contents :=
    parameterMap_foldl_add contents
  have own : (contents.foldl add empty).unmapped =
      (OrderedMap.ofList ((PartContent.carried contents).filter fun entry =>
        !PartContent.isMapped contents entry.1)).entries := by
    rw [unmapped, mappedParts, values, parameterMap]
    exact OrderedMap.filter_entries_ofList (fun part => !PartContent.isMapped contents part) _
  have renamed : (contents.foldl add empty).mapped =
      (PartContent.lastParameterMap contents).entries.filterMap fun entry =>
        (latest? (PartContent.carried contents) entry.2).map fun value => (entry.1, value) := by
    have found : (OrderedMap.ofList (PartContent.carried contents)).get? =
        latest? (PartContent.carried contents) :=
      funext (OrderedMap.get?_ofList _)
    rw [mapped, values, parameterMap, found]
  rw [bindings, OrderedMap.insertAll_ofList, OrderedMap.insertAll_append, own, renamed,
    OrderedMap.insertAll_ofList, PartContent.written, OrderedMap.insertAll_append]

/-- **Bindings are written layer by layer**: the parameters of the call, what the descriptor writes
and what the parts write. -/
theorem bindingsOver_eq_insertAll
    (named : ∀ descriptor, (contents.foldl add empty).descriptor = some descriptor →
      descriptor.params.hasUnnamed = false) (params : CallParameters) :
    (contents.foldl add empty).bindingsOver params =
      (params.bindings.insertAll
        (Descriptor.written (contents.foldl add empty).descriptor)).insertAll
          (PartContent.written contents) := by
  rw [bindingsOver, insertAll_bindings]
  congr 1
  cases held : (contents.foldl add empty).descriptor with
  | none => rfl
  | some descriptor =>
      simp only [CallParameters.bindOnto_eq_insertAll_of_named (named descriptor held),
        Descriptor.written, OrderedMap.insertAll_append]
      rfl

/-- So a name is bound by the highest layer that has it. -/
theorem get?_bindingsOver
    (named : ∀ descriptor, (contents.foldl add empty).descriptor = some descriptor →
      descriptor.params.hasUnnamed = false) {params : CallParameters}
    (unnamed : params.hasUnnamed = false) (name : String) :
    ((contents.foldl add empty).bindingsOver params).get? name =
      ((PartContent.mappedValue? contents name).or (PartContent.ownValue? contents name)).or
        (((Descriptor.bindingsOf (contents.foldl add empty).descriptor).get? name).or
          (((latest? ((Descriptor.paramsOf (contents.foldl add empty).descriptor).query.map
              Parameter.binding) name).or
            (latest? ((Descriptor.paramsOf (contents.foldl add empty).descriptor).header.map
              Parameter.binding) name)).or
          ((latest? (params.query.map Parameter.binding) name).or
            (latest? (params.header.map Parameter.binding) name)))) := by
  have lowest : params.bindings.get? name = (latest? (params.query.map Parameter.binding) name).or
      (latest? (params.header.map Parameter.binding) name) := by
    rw [CallParameters.bindings, CallParameters.bindOnto_eq_insertAll_of_named unnamed,
      ← OrderedMap.insertAll_append]
    exact (OrderedMap.get?_ofList _ name).trans (OrderedMap.latest?_append ..)
  rw [bindingsOver_eq_insertAll named, OrderedMap.get?_insertAll, OrderedMap.get?_insertAll,
    PartContent.latest?_written, Descriptor.latest?_written, lowest]
  simp only [Option.or_assoc]

/-- The bindings of an invocation are those over no parameters of the call. -/
theorem mergedBindings_of_invocation {invocation : Invocation}
    (asked : intake.invocation = .ok invocation) :
    invocation.mergedBindings = intake.bindingsOver .none := by
  obtain ⟨descriptor, actionId, held, -, rfl⟩ := invocation_eq_ok_iff.mp asked
  rw [Invocation.mergedBindings, invocationOf, OrderedMap.insertAll_insertAll]
  simp only [bindingsOver, held]
  rfl

end Intake

section Uploads

variable {settings : UploadSettings} {spool : Spool} {arrivals : List Arrival}

/-- **What an upload was made of.** When a whole upload was taken in, its parts brought in at most
one descriptor, and that one was accepted. -/
theorem exists_contents_of_takeAll {intake : Intake}
    (taken : Intake.empty.takeAll settings spool arrivals = (intake, .done ())) :
    ∃ contents, Arrival.AllBring settings spool arrivals contents ∧
      intake = contents.foldl Intake.add Intake.empty ∧
      contents.filterMap PartContent.descriptor? = intake.descriptor.toList ∧
      ∀ descriptor, intake.descriptor = some descriptor →
        descriptor.params.hasUnnamed = false := by
  obtain ⟨contents, brought, whole, descriptors⟩ := Intake.contents_of_takeAll taken
  refine ⟨contents, brought, whole, descriptors.symm, fun descriptor held => ?_⟩
  have accepted : (Intake.empty.takeAll settings spool arrivals).1.DescriptorAccepted :=
    Intake.descriptorAccepted_empty.takeAll arrivals
  rw [taken] at accepted
  obtain ⟨hint, accepts, -⟩ := accepted.described descriptor held
  exact (Descriptor.hint_eq_ok_iff.mp accepts).2.1

/-- What the layers of an upload make of its bindings. A name has the value to which the parameter
map leads it; else the last value of the part with that name, if no entry of the map leads to this
part; else the value that the descriptor binds; else that of the last query parameter and else that
of the last header parameter of the descriptor. The names stand in the order in which they first
appear when the layers are read from the lowest up. -/
structure PartContent.Layered (contents : List PartContent) (descriptor : Descriptor)
    (bindings : Bindings) : Prop where
  value : ∀ name, bindings.get? name =
    (mappedValue? contents name).or
      ((ownValue? contents name).or
        ((descriptor.bindings.get? name).or
          ((latest? (descriptor.params.query.map Parameter.binding) name).or
            (latest? (descriptor.params.header.map Parameter.binding) name))))
  order : bindings.names =
    (descriptor.params.header.map Parameter.name ++
      descriptor.params.query.map Parameter.name ++
      descriptor.bindings.names ++
      ((carried contents).map Prod.fst).filter (fun part => !isMapped contents part) ++
      (lastParameterMap contents).names.filter
        (fun name => (mappedValue? contents name).isSome)).eraseDups

/-- **Precedence of bindings.** The bindings of an accepted upload are layered from what its parts
brought in. -/
theorem uploaded_bindings_by_precedence {invocation : Invocation}
    (asked : (invocationOfUpload settings spool arrivals).invocation = .done invocation) :
    ∃ contents descriptor, Arrival.AllBring settings spool arrivals contents ∧
      contents.filterMap PartContent.descriptor? = [descriptor] ∧
      PartContent.Layered contents descriptor invocation.mergedBindings := by
  obtain ⟨intake, taken, made⟩ := takeAll_of_invocationOfUpload asked
  obtain ⟨contents, brought, rfl, descriptors, named⟩ := exists_contents_of_takeAll taken
  obtain ⟨descriptor, -, held, -⟩ := Intake.invocation_eq_ok_iff.mp made
  rw [held] at descriptors
  have layers : invocation.mergedBindings =
      .ofList (Descriptor.written (some descriptor) ++ PartContent.written contents) := by
    rw [Intake.mergedBindings_of_invocation made, Intake.bindingsOver_eq_insertAll named, held,
      OrderedMap.ofList, OrderedMap.insertAll_append]
    rfl
  refine ⟨contents, descriptor, brought, descriptors, fun name => ?_, ?_⟩
  · rw [layers, OrderedMap.get?_ofList, OrderedMap.latest?_append, PartContent.latest?_written,
      Descriptor.latest?_written, Option.or_assoc]
    rfl
  · rw [layers, OrderedMap.names_ofList, List.map_append, PartContent.names_written,
      Descriptor.written, List.map_append, List.map_append, List.map_map, List.map_map,
      ← List.append_assoc]
    rfl

/-- An upload whose last parameter map swaps the names of two parts, gives a third name to one of
them, and leads nowhere from a fourth. -/
def swappedUpload : List Arrival :=
  let json (name content : String) : Arrival :=
    .part (.ofBytes name none (some "application/json") (Bytes.ofText content))
  [.part (.text "a" "1"),
    json parameterMapName "\x7b\"z\":\"a\"\x7d",
    json descriptorName
      ("[\"r\",false,[[\"q\",\"7\"],[\"b\",\"8\"]],[[\"h\",\"9\"],[\"q\",\"0\"]]," ++
        "\x7b\"k\":1,\"a\":2\x7d]"),
    .part (.text "b" "2"),
    json parameterMapName "\x7b\"a\":\"b\",\"b\":\"a\",\"y\":\"gone\",\"x\":\"a\"\x7d",
    .part (.text "a" "3")]

set_option maxRecDepth 20000 in
/-- An upload whose two parts swap their values by the map. -/
theorem uploaded_bindings_by_precedence_swapped :
    ∃ invocation,
      (invocationOfUpload .standard (fun _ => .ok "") swappedUpload).invocation = .done invocation ∧
      invocation.mergedBindings.entries =
        [("h", .str "9"), ("q", .str "7"), ("b", .str "3"), ("k", .num (.int 1)), ("a", .str "2"),
          ("x", .str "3")] ∧
      ∃ contents descriptor, Arrival.AllBring .standard (fun _ => .ok "") swappedUpload contents ∧
        contents.filterMap PartContent.descriptor? = [descriptor] ∧
        PartContent.Layered contents descriptor invocation.mergedBindings := by
  have made :
      ((invocationOfUpload .standard (fun _ => .ok "") swappedUpload).invocation.toOption.map
        fun invocation => invocation.mergedBindings.entries) =
      some [("h", .str "9"), ("q", .str "7"), ("b", .str "3"), ("k", .num (.int 1)),
        ("a", .str "2"), ("x", .str "3")] := by
    decide +kernel
  obtain ⟨invocation, found, entries⟩ := Option.map_eq_some_iff.mp made
  have asked := Outcome.toOption_eq_some_iff.mp found
  exact ⟨invocation, asked, entries, uploaded_bindings_by_precedence asked⟩

/-! ## Parameters of the call -/

/-- An upload that is normalized was taken in as a whole, and the parameters of the call have
names. -/
theorem takeAll_of_normalizeUpload {params : CallParameters} {normalized : NormalizedUpload}
    (accepted : normalizeUpload settings spool params arrivals = .done normalized) :
    ∃ intake, Intake.empty.takeAll settings spool arrivals = (intake, .done ()) ∧
      params.hasUnnamed = false ∧
        normalized = ⟨intake.bindingsOver params, intake.attachments⟩ := by
  obtain ⟨⟨⟩, checked, accepted⟩ := Outcome.bind_eq_done_iff.mp accepted
  obtain ⟨⟨⟩, ended, made⟩ := Outcome.bind_eq_done_iff.mp accepted
  cases made
  refine ⟨_, Prod.ext rfl ended, ?_, rfl⟩
  have passed := Outcome.ofExcept_eq_done_iff.mp checked
  cases unnamed : params.hasUnnamed with
  | false => rfl
  | true =>
      rw [CallParameters.checkNamed, unnamed] at passed
      cases passed

/-- A name of some query parameter that is bound neither by the descriptor nor by a part. -/
structure PartContent.OnlyQueried (contents : List PartContent) (described : Option Descriptor)
    (params : CallParameters) (name : String) : Prop where
  queried : name ∈ (params.query ++ (Descriptor.paramsOf described).query).map Parameter.name
  undescribed : (Descriptor.bindingsOf described).get? name = none
  unmapped : mappedValue? contents name = none
  unowned : ownValue? contents name = none

/-- **Query parameters against header parameters.** A name that only parameters bind, some query
parameter among them, has the value of the last query parameter of the descriptor, else of its last
header parameter, else of the last query parameter of the call. So its value is that of a query
parameter exactly when the descriptor has a query parameter or no header parameter of that name, or
when the last such header parameter repeats the value of a query parameter. -/
theorem query_value_bound_iff {params : CallParameters} {normalized : NormalizedUpload}
    (accepted : normalizeUpload settings spool params arrivals = .done normalized) :
    ∃ contents described, Arrival.AllBring settings spool arrivals contents ∧
      contents.filterMap PartContent.descriptor? = Option.toList described ∧
      ∀ name, PartContent.OnlyQueried contents described params name →
        normalized.bindings.get? name = (Descriptor.paramsOf described).value? params name ∧
        ((∃ parameter ∈ params.query ++ (Descriptor.paramsOf described).query,
            parameter.name = name ∧
              normalized.bindings.get? name = some (.str parameter.value)) ↔
          name ∈ (Descriptor.paramsOf described).query.map Parameter.name ∨
          name ∉ (Descriptor.paramsOf described).header.map Parameter.name ∨
          ∃ parameter ∈ params.query, parameter.name = name ∧
            latest? ((Descriptor.paramsOf described).header.map Parameter.binding) name =
              some (.str parameter.value)) := by
  obtain ⟨intake, taken, unnamed, rfl⟩ := takeAll_of_normalizeUpload accepted
  obtain ⟨contents, brought, rfl, descriptors, named⟩ := exists_contents_of_takeAll taken
  refine ⟨contents, _, brought, descriptors, fun name only => ?_⟩
  have value : ((contents.foldl Intake.add Intake.empty).bindingsOver params).get? name =
      (Descriptor.paramsOf (contents.foldl Intake.add Intake.empty).descriptor).value? params
        name := by
    rw [Intake.get?_bindingsOver named unnamed, only.unmapped, only.unowned, only.undescribed,
      CallParameters.value?_eq_or only.queried]
    rfl
  exact ⟨value, value ▸ CallParameters.value?_of_query_iff only.queried⟩

/-- An upload of nothing but a descriptor, which has a header parameter. -/
def headedUpload : List Arrival :=
  [.part (.ofBytes descriptorName none (some "application/json") (Bytes.ofText
    ("\x7b\"actionId\":\"r\",\"headerParams\":" ++
      "[\x7b\"name\":\"n\",\"value\":\"header\"\x7d]\x7d")))]

/-- A call with one query parameter. -/
def queriedCall : CallParameters := ⟨[⟨"n", "query"⟩], []⟩

set_option maxRecDepth 20000 in
/-- The header parameter of the descriptor is bound over the query parameter of the call. -/
theorem normalizeUpload_headedUpload :
    ((normalizeUpload .standard (fun _ => .ok "") queriedCall headedUpload).toOption.map
      fun normalized => normalized.bindings.entries) = some [("n", .str "header")] := by
  decide +kernel

theorem query_value_bound_iff_headed :
    ∃ normalized, normalizeUpload .standard (fun _ => .ok "") queriedCall headedUpload =
        .done normalized ∧
      ∃ contents described, Arrival.AllBring .standard (fun _ => .ok "") headedUpload contents ∧
        contents.filterMap PartContent.descriptor? = Option.toList described ∧
        ∀ name, PartContent.OnlyQueried contents described queriedCall name →
          normalized.bindings.get? name =
            (Descriptor.paramsOf described).value? queriedCall name ∧
          ((∃ parameter ∈ queriedCall.query ++ (Descriptor.paramsOf described).query,
              parameter.name = name ∧
                normalized.bindings.get? name = some (.str parameter.value)) ↔
            name ∈ (Descriptor.paramsOf described).query.map Parameter.name ∨
            name ∉ (Descriptor.paramsOf described).header.map Parameter.name ∨
            ∃ parameter ∈ queriedCall.query, parameter.name = name ∧
              latest? ((Descriptor.paramsOf described).header.map Parameter.binding) name =
                some (.str parameter.value)) := by
  obtain ⟨normalized, found, -⟩ := Option.map_eq_some_iff.mp normalizeUpload_headedUpload
  have accepted := Outcome.toOption_eq_some_iff.mp found
  exact ⟨normalized, accepted, query_value_bound_iff accepted⟩

/-- A header parameter of the descriptor hides a query parameter of the call. -/
theorem described_header_hides_query :
    ∃ normalized, normalizeUpload .standard (fun _ => .ok "") queriedCall headedUpload =
        .done normalized ∧
      "n" ∈ queriedCall.query.map Parameter.name ∧
      ∀ parameter ∈ queriedCall.query,
        normalized.bindings.get? parameter.name ≠ some (.str parameter.value) := by
  obtain ⟨normalized, found, entries⟩ := Option.map_eq_some_iff.mp normalizeUpload_headedUpload
  refine ⟨normalized, Outcome.toOption_eq_some_iff.mp found, by decide, ?_⟩
  intro parameter member
  rw [List.mem_singleton.mp member, OrderedMap.get?, entries]
  decide

end Uploads

end ActionGateway
