import ActionGateway.Proofs.BodyLimits
import ActionGateway.Proofs.EntryPoints
import ActionGateway.Proofs.Normalizations

/-!
# Early hints

The descriptor of an upload tells a hint as soon as it is taken in, while other parts may still be
on their way. A second descriptor is refused, so there is one hint at most. It is told if and only
if the parts up to the first descriptor are taken in and that descriptor is accepted: what comes
after it is not looked at. An upload with an invocation has told its hint, so its context is never
resolved late.
-/

namespace ActionGateway

/-- **An accepted descriptor**, and what it tells: a part of that name whose content is within the
limit of a field and is a descriptor with an action that is not blank and without a parameter that
has no name. -/
structure UploadPart.Describes (settings : UploadSettings) (part : UploadPart)
    (descriptor : Descriptor) (hint : Hint) : Prop where
  named : part.name = descriptorName
  content : ∃ chunks : List Bytes, part.body = chunks.map .chunk ∧
    chunks.flatten.length ≤ settings.maxFieldBytes ∧
    Descriptor.decoder.ofBytes? chunks.flatten = some descriptor
  action : descriptor.actionId = some hint.actionId
  visible : Text.isBlankText hint.actionId = false
  parameters : ∀ parameter ∈ descriptor.params.query ++ descriptor.params.header,
    parameter.name ≠ ""
  side : hint.viewMode = .ofFlag descriptor.viewMode

/-- What arrives is a part with the name of a descriptor. -/
def Arrival.IsDescriptor (arrival : Arrival) : Prop :=
  ∃ part, arrival = .part part ∧ part.name = descriptorName

/-! ## Accepted descriptors -/

/-- A body has a content if and only if it is nothing but chunks that are within the limit. -/
theorem readBody_eq_done_iff {limit : Nat} {excess : Rejection} {body : List BodyItem}
    {content : Bytes} :
    readBody limit excess 0 body = .done content ↔
      ∃ chunks : List Bytes, body = chunks.map .chunk ∧ chunks.flatten.length ≤ limit ∧
        chunks.flatten = content := by
  constructor
  · intro read
    obtain ⟨chunks, rest, rfl, ending⟩ := exists_chunks body
    rw [readBody_append excess (Nat.zero_le limit), Nat.zero_add] at read
    by_cases exceeds : limit < chunks.flatten.length
    · rw [if_pos exceeds] at read
      cases read
    · rw [if_neg exceeds] at read
      rcases ending with rfl | ⟨reason, later, rfl⟩ | ⟨later, rfl⟩
      · simp only [readBody, Outcome.andThen, List.append_nil, Outcome.done.injEq] at read
        exact ⟨chunks, List.append_nil _, Nat.not_lt.mp exceeds, read⟩
      · cases read
      · cases read
  · rintro ⟨chunks, rfl, fits, rfl⟩
    rw [readBody_chunks excess (Nat.zero_le limit), Nat.zero_add, if_neg (Nat.not_lt.mpr fits)]

namespace CallParameters

/-- No parameter lacks a name when each of them has one. -/
theorem hasUnnamed_eq_false_iff (parameters : CallParameters) :
    parameters.hasUnnamed = false ↔
      ∀ parameter ∈ parameters.query ++ parameters.header, parameter.name ≠ "" := by
  simp only [hasUnnamed, inOrder, Parameter.isUnnamed, List.any_eq_false, List.mem_append,
    String.isEmpty_iff, ne_eq, or_comm]

end CallParameters

namespace Descriptor

/-- A descriptor names an action when that is not blank. -/
theorem action?_eq_some_iff {descriptor : Descriptor} {action : String} :
    descriptor.action? = some action ↔
      descriptor.actionId = some action ∧ Text.isBlankText action = false := by
  unfold action? Text.nonBlank
  rw [Option.bind_eq_some_iff]
  constructor
  · rintro ⟨given, present, kept⟩
    split at kept
    · exact nomatch kept
    · rename_i visible
      cases kept
      exact ⟨present, Bool.eq_false_iff.mpr visible⟩
  · rintro ⟨present, visible⟩
    exact ⟨action, present, if_neg (Bool.eq_false_iff.mp visible)⟩

end Descriptor

namespace Intake

variable {settings : UploadSettings} {spool : Spool} {intake next final : Intake}
  {part : UploadPart} {descriptor : Descriptor} {hint : Hint} {arrivals : List Arrival}

/-- JSON is read from a part whose chunks fit the limit and hold it as a whole. -/
theorem readJson_eq_done_iff {α : Type} {decoder : Json.Decoder α} {value : α} :
    readJson settings decoder part = .done value ↔
      ∃ chunks : List Bytes, part.body = chunks.map .chunk ∧
        chunks.flatten.length ≤ settings.maxFieldBytes ∧
        decoder.ofBytes? chunks.flatten = some value := by
  unfold readJson readField
  rw [Outcome.bind_eq_done_iff]
  constructor
  · rintro ⟨content, read, decoded⟩
    obtain ⟨chunks, body, fits, rfl⟩ := readBody_eq_done_iff.mp read
    refine ⟨chunks, body, fits, ?_⟩
    cases found : decoder.ofBytes? chunks.flatten with
    | none =>
        rw [found] at decoded
        exact nomatch decoded
    | some other =>
        rw [found] at decoded
        cases decoded
        rfl
  · rintro ⟨chunks, body, fits, decoded⟩
    refine ⟨chunks.flatten, readBody_eq_done_iff.mpr ⟨chunks, body, fits, rfl⟩, ?_⟩
    rw [decoded]
    rfl

/-- A part is accepted as a descriptor by what is read of it. -/
theorem describes_iff :
    part.Describes settings descriptor hint ↔
      part.name = descriptorName ∧ readJson settings Descriptor.decoder part = .done descriptor ∧
        descriptor.hint = .ok hint := by
  rw [readJson_eq_done_iff, Descriptor.hint_eq_ok_iff, Descriptor.action?_eq_some_iff,
    CallParameters.hasUnnamed_eq_false_iff]
  constructor
  · intro described
    exact ⟨described.named, described.content, ⟨described.action, described.visible⟩,
      described.parameters, described.side.symm⟩
  · rintro ⟨named, content, ⟨action, visible⟩, parameters, side⟩
    exact ⟨named, content, action, visible, parameters, side.symm⟩

/-- **Taking in a descriptor**: it is the first one, and it is accepted. -/
theorem take_descriptor_iff (named : part.name = descriptorName) :
    intake.take settings spool part = .done next ↔
      intake.descriptor = none ∧ ∃ descriptor hint, part.Describes settings descriptor hint ∧
        next = { intake with descriptor := some descriptor, told := intake.told ++ [hint] } := by
  constructor
  · intro taken
    cases takes_of_take taken with
    | descriptor _ first read told =>
        exact ⟨first, _, _, describes_iff.mpr ⟨named, read, told⟩, rfl⟩
    | parameterMap other => exact absurd (named.symm.trans other) (by decide)
    | file _ file => exact absurd named file.1
    | value _ other => exact absurd named other
  · rintro ⟨first, descriptor, hint, described, rfl⟩
    obtain ⟨-, read, told⟩ := describes_iff.mp described
    have present : part.name.isEmpty = false := by
      rw [named]
      rfl
    unfold take takeDescriptor
    rw [present, if_neg Bool.false_ne_true, if_pos named, first]
    simp only [read, told, bind, Outcome.andThen, Outcome.ofExcept]
    rfl

/-- Only a descriptor changes which one is held. -/
theorem descriptor_take (other : part.name ≠ descriptorName)
    (taken : intake.take settings spool part = .done next) :
    next.descriptor = intake.descriptor := by
  cases takes_of_take taken with
  | descriptor named => exact absurd named other
  | parameterMap => rfl
  | file => rfl
  | value => rfl

/-! ## What is told -/

/-- What was told is what the descriptor tells that is held. -/
theorem DescriptorAccepted.mem_told_iff (accepted : intake.DescriptorAccepted) :
    hint ∈ intake.told ↔
      ∃ descriptor, intake.descriptor = some descriptor ∧ descriptor.hint = .ok hint := by
  cases held : intake.descriptor with
  | none =>
      rw [accepted.undescribed held]
      exact ⟨nofun, nofun⟩
  | some descriptor =>
      obtain ⟨own, accepts, told⟩ := accepted.described descriptor held
      rw [told, List.mem_singleton]
      constructor
      · rintro rfl
        exact ⟨descriptor, rfl, accepts⟩
      · rintro ⟨_, ⟨⟩, tells⟩
        exact Except.ok.inj (tells.symm.trans accepts)

/-- No hint but the first one is told. -/
theorem DescriptorAccepted.told_eq_head? (accepted : intake.DescriptorAccepted) :
    intake.told = intake.told.head?.toList := by
  cases held : intake.descriptor with
  | none =>
      rw [accepted.undescribed held]
      rfl
  | some descriptor =>
      obtain ⟨own, -, told⟩ := accepted.described descriptor held
      rw [told]
      rfl

/-- A descriptor that is held stays. -/
theorem descriptor_takeAll_of_held (held : intake.descriptor = some descriptor)
    (arrivals : List Arrival) :
    (intake.takeAll settings spool arrivals).1.descriptor = some descriptor := by
  have keeps : ∀ intake part next, Takes settings spool intake part next →
      intake.descriptor = some descriptor → next.descriptor = some descriptor := by
    intro intake part next takes held
    cases takes with
    | descriptor _ first => exact nomatch held.symm.trans first
    | parameterMap => exact held
    | file => exact held
    | value => exact held
  exact takeAll_induction keeps held arrivals

/-- Without a descriptor among the parts none is held after them. -/
theorem descriptor_takeAll_of_undescribed
    (taken : intake.takeAll settings spool arrivals = (final, .done ()))
    (others : ∀ arrival ∈ arrivals, ¬ arrival.IsDescriptor) :
    final.descriptor = intake.descriptor := by
  induction arrivals generalizing intake with
  | nil =>
      cases taken
      rfl
  | cons arrival rest ih =>
      obtain ⟨own, later⟩ := List.forall_mem_cons.mp others
      obtain ⟨part, next, rfl, first, taken⟩ := takeAll_cons_eq_done_iff.mp taken
      have other : part.name ≠ descriptorName := fun named => own ⟨part, rfl, named⟩
      rw [ih taken later, descriptor_take other first]

/-- **Which descriptor is held** is decided by the first one that arrives. The induction is on what
arrives; it carries that no descriptor has been taken in so far. -/
theorem descriptor_takeAll_eq_some_iff (nothing : intake.descriptor = none) :
    (intake.takeAll settings spool arrivals).1.descriptor = some descriptor ↔
      ∃ before part after, arrivals = before ++ .part part :: after ∧
        (∀ arrival ∈ before, ¬ arrival.IsDescriptor) ∧
        (intake.takeAll settings spool before).2 = .done () ∧
        ∃ hint, part.Describes settings descriptor hint := by
  constructor
  · intro held
    induction arrivals generalizing intake with
    | nil => exact nomatch nothing.symm.trans held
    | cons arrival rest ih =>
        cases arrival with
        | failed reason => exact nomatch nothing.symm.trans held
        | part part =>
            rw [takeAll] at held
            cases taken : intake.take settings spool part with
            | rejected reason =>
                rw [taken] at held
                exact nomatch nothing.symm.trans held
            | stalled =>
                rw [taken] at held
                exact nomatch nothing.symm.trans held
            | done next =>
                rw [taken] at held
                by_cases named : part.name = descriptorName
                · obtain ⟨-, own, hint, described, rfl⟩ := (take_descriptor_iff named).mp taken
                  cases (descriptor_takeAll_of_held rfl rest).symm.trans held
                  exact ⟨[], part, rest, rfl, List.forall_mem_nil _, rfl, hint, described⟩
                · obtain ⟨before, descriptorPart, after, rfl, others, complete, described⟩ :=
                    ih ((descriptor_take named taken).trans nothing) held
                  refine ⟨.part part :: before, descriptorPart, after, rfl, ?_, ?_, described⟩
                  · refine List.forall_mem_cons.mpr ⟨?_, others⟩
                    rintro ⟨_, ⟨⟩, same⟩
                    exact named same
                  · rw [takeAll_cons_of_take taken]
                    exact complete
  · rintro ⟨before, part, after, rfl, others, complete, hint, described⟩
    have taken : intake.takeAll settings spool before =
        ((intake.takeAll settings spool before).1, .done ()) := Prod.ext rfl complete
    have first : (intake.takeAll settings spool before).1.descriptor = none :=
      (descriptor_takeAll_of_undescribed taken others).trans nothing
    rw [takeAll_append taken, takeAll_cons_of_take
      ((take_descriptor_iff described.named).mpr ⟨first, descriptor, hint, described, rfl⟩)]
    exact descriptor_takeAll_of_held rfl after

/-- **When a hint is told.** -/
theorem mem_told_takeAll_iff :
    hint ∈ (empty.takeAll settings spool arrivals).1.told ↔
      ∃ before part after, arrivals = before ++ .part part :: after ∧
        (∀ arrival ∈ before, ¬ arrival.IsDescriptor) ∧
        (empty.takeAll settings spool before).2 = .done () ∧
        ∃ descriptor, part.Describes settings descriptor hint := by
  rw [(descriptorAccepted_empty.takeAll arrivals).mem_told_iff]
  constructor
  · rintro ⟨descriptor, held, tells⟩
    obtain ⟨before, part, after, whole, others, complete, own, described⟩ :=
      (descriptor_takeAll_eq_some_iff rfl).mp held
    obtain ⟨-, -, accepts⟩ := describes_iff.mp described
    obtain rfl := Except.ok.inj (accepts.symm.trans tells)
    exact ⟨before, part, after, whole, others, complete, descriptor, described⟩
  · rintro ⟨before, part, after, whole, others, complete, descriptor, described⟩
    refine ⟨descriptor, ?_, (describes_iff.mp described).2.2⟩
    exact (descriptor_takeAll_eq_some_iff rfl).mpr
      ⟨before, part, after, whole, others, complete, hint, described⟩

end Intake

/-! ## Hints of uploads -/

/-- **Early hints.** In the course of an upload one hint is told at most, and it is the hint that
the context is resolved from. It is told if and only if everything before the first descriptor is
taken in and that descriptor is accepted, whatever comes after it. An upload that has an invocation
has told the action and the side that the invocation asks for. So wherever there is an invocation to
execute, its context was resolved early, and it is the one that the invocation asks for. -/
theorem hint_told_iff_described (settings : UploadSettings) (spool : Spool)
    (arrivals : List Arrival) :
    let told := (Intake.empty.takeAll settings spool arrivals).1.told
    told.length ≤ 1 ∧ told = (invocationOfUpload settings spool arrivals).hint.toList ∧
    (∀ hint, hint ∈ told ↔
      ∃ before part after, arrivals = before ++ .part part :: after ∧
        (∀ arrival ∈ before, ¬ arrival.IsDescriptor) ∧
        (Intake.empty.takeAll settings spool before).2 = .done () ∧
        ∃ descriptor, part.Describes settings descriptor hint) ∧
    (∀ invocation, (invocationOfUpload settings spool arrivals).invocation = .done invocation →
      told = [⟨invocation.actionId, invocation.viewMode⟩]) ∧
    ∀ (gateway : Gateway) (surroundings : Surroundings) (cache : ContextCache)
      (branch : Option String) (environmentId : String),
      let uploaded := invocationOfUpload gateway.settings.upload surroundings.spool arrivals
      ∀ invocation, uploaded.invocation = .done invocation →
        let resolved := gateway.resolve surroundings cache invocation.actionId branch environmentId
          invocation.viewMode
        gateway.resolveHint surroundings cache uploaded.hint branch environmentId =
          (some resolved.1, resolved.2) := by
  intro told
  have listed : told = (invocationOfUpload settings spool arrivals).hint.toList :=
    (Intake.descriptorAccepted_empty.takeAll arrivals).told_eq_head?
  refine ⟨?_, listed, fun _ => Intake.mem_told_takeAll_iff, ?_, ?_⟩
  · rw [listed]
    exact Option.length_toList_le
  · intro invocation asked
    rw [listed, (hint_of_invocationOfUpload asked).1, Option.toList_some]
  · intro gateway surroundings cache branch environmentId uploaded invocation asked resolved
    rw [(hint_of_invocationOfUpload asked).1]
    rfl

end ActionGateway
