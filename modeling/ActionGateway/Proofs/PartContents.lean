import ActionGateway.Proofs.Intakes
import ActionGateway.Proofs.OrderedMaps

/-!
# What the parts of an upload bring in

Each part is read on its own, whatever arrived before it. It brings in the descriptor, a parameter
map, a file or a value. Taking in a part adds what it brings in, except that a second descriptor is
refused. So an upload that was taken in is known from the list of what its parts brought in, in the
order in which they arrived.
-/

namespace ActionGateway

/-- **What a part brings in.** -/
inductive PartContent where
  | descriptor (descriptor : Descriptor)
  | parameterMap (parameterMap : OrderedMap String)
  | file (attachment : Attachment)
  | value (part : String) (value : Json)

namespace PartContent

/-- The descriptor that a part carries. -/
def descriptor? : PartContent → Option Descriptor
  | descriptor given => some given
  | _ => none

/-- The map of parameters that a part carries. -/
def parameterMap? : PartContent → Option (OrderedMap String)
  | parameterMap given => some given
  | _ => none

/-- The value that a part carries, with the name of the part. A file carries its description. -/
def carried? : PartContent → Option (String × Json)
  | file attachment => some (attachment.partName, attachment.json)
  | value name given => some (name, given)
  | _ => none

end PartContent

/-- What a part brings in, read on its own. -/
def UploadPart.content (settings : UploadSettings) (spool : Spool) (part : UploadPart) :
    Outcome PartContent :=
  if part.name.isEmpty then .rejected (.malformed .unnamedPart)
  else if part.name = descriptorName then do
    let descriptor ← Intake.readJson settings Descriptor.decoder part
    let _ ← Outcome.ofExcept descriptor.hint
    pure (.descriptor descriptor)
  else if part.name = parameterMapName then do
    let parameterMap ← Intake.readJson settings (.ordered .text) part
    pure (.parameterMap parameterMap)
  else if part.isAttachment then do
    let attachment ← Intake.readAttachment settings spool part
    pure (.file attachment)
  else do
    let value ← Intake.readValue settings part
    pure (.value part.name value)

/-- What an arrival brings in. -/
def Arrival.content (settings : UploadSettings) (spool : Spool) : Arrival → Outcome PartContent
  | .part arrived => arrived.content settings spool
  | .failed reason => .rejected reason

/-- Each arrival brought in the content in its place. -/
def Arrival.AllBring (settings : UploadSettings) (spool : Spool) (arrivals : List Arrival)
    (contents : List PartContent) : Prop :=
  List.Forall₂ (fun arrival content => arrival.content settings spool = .done content) arrivals
    contents

/-- Every arrival brings one of the contents. -/
theorem Arrival.AllBring.exists_content {settings : UploadSettings} {spool : Spool}
    {arrivals : List Arrival} {contents : List PartContent}
    (brought : AllBring settings spool arrivals contents) {arrival : Arrival}
    (member : arrival ∈ arrivals) :
    ∃ content ∈ contents, arrival.content settings spool = .done content := by
  induction brought with
  | nil => exact (List.not_mem_nil member).elim
  | cons own others ih =>
      rcases List.mem_cons.mp member with rfl | later
      · exact ⟨_, List.mem_cons_self, own⟩
      · obtain ⟨content, present, read⟩ := ih later
        exact ⟨content, List.mem_cons_of_mem _ present, read⟩

instance : LawfulMonad Outcome :=
  LawfulMonad.mk' Outcome
    (fun outcome => by cases outcome <;> rfl)
    (fun _ _ => rfl)
    (fun outcome _ _ => by cases outcome <;> rfl)

namespace Intake

/-- Add what a part brought in. -/
def add (intake : Intake) : PartContent → Intake
  | .descriptor descriptor => { intake with
      descriptor := some descriptor
      told := intake.told ++ descriptor.hint.toOption.toList }
  | .parameterMap parameterMap => { intake with parameterMap := parameterMap }
  | .file attachment => { intake with
      values := intake.values.insert attachment.partName attachment.json
      attachments := intake.attachments ++ [attachment] }
  | .value part value => { intake with values := intake.values.insert part value }

variable {settings : UploadSettings} {spool : Spool} {intake final : Intake} {part : UploadPart}

/-- A second descriptor is refused. -/
theorem take_eq_of_descriptor (named : part.name = descriptorName) {earlier : Descriptor}
    (first : intake.descriptor = some earlier) :
    intake.take settings spool part = .rejected (.malformed .duplicateDescriptor) := by
  have nonempty : part.name.isEmpty = false := by rw [named]; rfl
  rw [take, nonempty, if_neg Bool.false_ne_true, if_pos named, takeDescriptor, first]

/-- **A part is taken in by adding what it brings in**, unless it is a second descriptor. -/
theorem take_eq (single : part.name = descriptorName → intake.descriptor = none) :
    intake.take settings spool part =
      (part.content settings spool >>= fun content => pure (intake.add content)) := by
  unfold take UploadPart.content
  by_cases unnamed : part.name.isEmpty = true
  · rw [if_pos unnamed, if_pos unnamed]
    rfl
  rw [if_neg unnamed, if_neg unnamed]
  by_cases describes : part.name = descriptorName
  · rw [if_pos describes, if_pos describes, takeDescriptor, single describes]
    simp only [bind_assoc]
    refine bind_congr fun descriptor => ?_
    simp only [pure_bind, add]
    cases descriptor.hint <;> rfl
  rw [if_neg describes, if_neg describes]
  by_cases maps : part.name = parameterMapName
  · rw [if_pos maps, if_pos maps, takeParameterMap, bind_assoc]
    rfl
  rw [if_neg maps, if_neg maps]
  by_cases file : part.isAttachment = true
  · rw [if_pos file, if_pos file, takeAttachment, bind_assoc]
    rfl
  · rw [if_neg file, if_neg file, takeValue, bind_assoc]
    rfl

/-! ## Whole uploads -/

/-- A part with the name of the descriptor brings in a descriptor, which is accepted. -/
theorem content_of_named_descriptor {content : PartContent} (named : part.name = descriptorName)
    (read : part.content settings spool = .done content) :
    ∃ descriptor hint, content = .descriptor descriptor ∧ descriptor.hint = .ok hint := by
  have nonempty : part.name.isEmpty = false := by rw [named]; rfl
  rw [UploadPart.content, nonempty, if_neg Bool.false_ne_true, if_pos named] at read
  obtain ⟨descriptor, -, read⟩ := Outcome.bind_eq_done_iff.mp read
  obtain ⟨hint, told, read⟩ := Outcome.bind_eq_done_iff.mp read
  cases read
  exact ⟨descriptor, hint, rfl, Outcome.ofExcept_eq_done_iff.mp told⟩

/-- What is read as a descriptor has the name of one. -/
theorem name_of_content_descriptor {descriptor : Descriptor}
    (read : part.content settings spool = .done (.descriptor descriptor)) :
    part.name = descriptorName := by
  by_contra other
  unfold UploadPart.content at read
  rw [if_neg other] at read
  split at read
  · exact nomatch read
  · split at read
    · obtain ⟨_, -, read⟩ := Outcome.bind_eq_done_iff.mp read
      exact nomatch read
    · split at read
      · obtain ⟨_, -, read⟩ := Outcome.bind_eq_done_iff.mp read
        exact nomatch read
      · obtain ⟨_, -, read⟩ := Outcome.bind_eq_done_iff.mp read
        exact nomatch read

/-- A part that was taken in was read, and what it brought in was added. If it brought in a
descriptor, there was none before. -/
theorem content_of_take (taken : intake.take settings spool part = .done final) :
    ∃ content, part.content settings spool = .done content ∧ final = intake.add content ∧
      (content.descriptor?.isSome = true → intake.descriptor = none) := by
  have single : part.name = descriptorName → intake.descriptor = none := by
    intro named
    by_contra held
    obtain ⟨earlier, first⟩ := Option.ne_none_iff_exists'.mp held
    rw [take_eq_of_descriptor named first] at taken
    exact nomatch taken
  rw [take_eq single] at taken
  obtain ⟨content, read, taken⟩ := Outcome.bind_eq_done_iff.mp taken
  cases taken
  refine ⟨content, read, rfl, fun describes => single ?_⟩
  cases content with
  | descriptor descriptor => exact name_of_content_descriptor read
  | parameterMap _ | file _ | value _ _ => exact nomatch describes

/-- **A whole upload is what its parts brought in**, added one after the other. At most one of them
is a descriptor. -/
theorem contents_of_takeAll {arrivals : List Arrival}
    (taken : intake.takeAll settings spool arrivals = (final, .done ())) :
    ∃ contents, Arrival.AllBring settings spool arrivals contents ∧
      final = contents.foldl add intake ∧
      final.descriptor.toList =
        intake.descriptor.toList ++ contents.filterMap PartContent.descriptor? := by
  induction arrivals generalizing intake with
  | nil =>
      cases taken
      exact ⟨[], .nil, rfl, (List.append_nil _).symm⟩
  | cons arrival rest ih =>
      obtain ⟨part, next, rfl, first, taken⟩ := takeAll_cons_eq_done_iff.mp taken
      obtain ⟨content, read, rfl, single⟩ := content_of_take first
      obtain ⟨contents, others, whole, descriptors⟩ := ih taken
      refine ⟨content :: contents, .cons read others, whole, ?_⟩
      rw [descriptors]
      cases content with
      | descriptor descriptor =>
          rw [single rfl]
          rfl
      | parameterMap _ | file _ | value _ _ => rfl

section Adding

variable (contents : List PartContent)

/-- The last map of parameters counts. -/
theorem parameterMap_foldl_add :
    (contents.foldl add intake).parameterMap =
      (contents.filterMap PartContent.parameterMap?).getLast?.getD intake.parameterMap := by
  induction contents generalizing intake with
  | nil => rfl
  | cons content rest ih =>
      rw [List.foldl_cons, ih]
      cases content with
      | parameterMap parameterMap =>
          change _ =
            (parameterMap :: rest.filterMap PartContent.parameterMap?).getLast?.getD _
          rw [List.getLast?_cons]
          rfl
      | descriptor _ | file _ | value _ _ => rfl

/-- The values of parts are inserted in the order of their arrival. -/
theorem values_foldl_add :
    (contents.foldl add intake).values =
      intake.values.insertAll (contents.filterMap PartContent.carried?) := by
  induction contents generalizing intake with
  | nil => rfl
  | cons content rest ih =>
      rw [List.foldl_cons, ih]
      cases content <;> rfl

end Adding

end Intake

end ActionGateway
