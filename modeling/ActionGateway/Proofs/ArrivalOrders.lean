import ActionGateway.Proofs.Normalizations
import Mathlib.Data.List.Perm.Basic

/-!
# Parts in any order

Parts with names of their own can arrive in any order. Each is read on its own, the descriptor and
the parameter map are found by their names and count for the whole upload, and a value is looked up
by the name of its part. So an upload is accepted in one order exactly when it is in another, and
asks for the same invocation, but for the order of its files and for the places where they are kept.
-/

namespace ActionGateway

open OrderedMap (latest?)

/-! ## Up to the places of files -/

/-- An attachment without the place where it is kept. -/
def Attachment.unplaced (attachment : Attachment) : Attachment :=
  { attachment with path := "" }

/-- Where a file is kept says nothing about the name of its part. -/
theorem Attachment.partName_eq_of_unplaced {first second : Attachment}
    (same : first.unplaced = second.unplaced) : first.partName = second.partName := by
  have names := congrArg Attachment.partName same
  exact names

/-- The same value, but that a file which it describes may be kept at another place. -/
inductive SameValue : Json → Json → Prop where
  | refl (value : Json) : SameValue value value
  | file {first second : Attachment} :
      first.unplaced = second.unplaced → SameValue first.json second.json

/-- **The same invocation**, whatever the order of its files and wherever they are kept. -/
structure Invocation.Agrees (first second : Invocation) : Prop where
  actionId : first.actionId = second.actionId
  branchName : first.branchName = second.branchName
  params : first.params = second.params
  viewMode : first.viewMode = second.viewMode
  substitutionMode : first.substitutionMode = second.substitutionMode
  timeoutMs : first.timeoutMs = second.timeoutMs
  bindings : ∀ name,
    Option.Rel SameValue (first.bindings.get? name) (second.bindings.get? name)
  attachments : (first.attachments.map Attachment.unplaced).Perm
    (second.attachments.map Attachment.unplaced)

section Rel

variable {α : Type} {related : α → α → Prop}

theorem optionRel_refl (same : ∀ value, related value value) (found : Option α) :
    Option.Rel related found found := by
  cases found with
  | none => exact .none
  | some value => exact .some (same value)

theorem optionRel_or {first second lower other : Option α}
    (upper : Option.Rel related first second) (below : Option.Rel related lower other) :
    Option.Rel related (first.or lower) (second.or other) := by
  cases upper with
  | none => exact below
  | some same => exact .some same

end Rel

namespace PartContent

/-- The name of the part that a content came from. -/
def partName : PartContent → String
  | descriptor _ => descriptorName
  | parameterMap _ => parameterMapName
  | file attachment => attachment.partName
  | value name _ => name

/-- The file that a content brings. -/
def file? : PartContent → Option Attachment
  | file attachment => some attachment
  | _ => none

/-- The same content, but that a file may be kept at another place. -/
inductive SameContent : PartContent → PartContent → Prop where
  | refl (content : PartContent) : SameContent content content
  | file {first second : Attachment} :
      first.unplaced = second.unplaced → SameContent (file first) (file second)

/-- **Contents that make the same of an upload.** -/
structure MakeSame (contents others : List PartContent) : Prop where
  descriptors : contents.filterMap descriptor? = others.filterMap descriptor?
  parameterMaps : contents.filterMap parameterMap? = others.filterMap parameterMap?
  values : ∀ name,
    Option.Rel SameValue (latest? (carried contents) name) (latest? (carried others) name)
  files : ((contents.filterMap file?).map Attachment.unplaced).Perm
    ((others.filterMap file?).map Attachment.unplaced)

/-! ## Contents in another order -/

section Order

variable {contents others : List PartContent}

/-- Of contents from one part there is only one, so their order is the same. -/
theorem filterMap_eq_of_perm {α : Type} {kind? : PartContent → Option α} (name : String)
    (named : ∀ content, (kind? content).isSome = true → content.partName = name)
    (permuted : contents.Perm others) (distinct : (contents.map partName).Nodup) :
    contents.filterMap kind? = others.filterMap kind? := by
  induction permuted with
  | nil => rfl
  | cons content _ ih =>
      have rest := ih (List.nodup_cons.mp distinct).2
      simp only [List.filterMap_cons, rest]
  | swap second first rest =>
      have apart : first.partName ≠ second.partName := by
        intro same
        exact (List.nodup_cons.mp distinct).1 (same ▸ List.mem_cons_self)
      cases own : kind? first with
      | none => simp only [List.filterMap_cons, own]
      | some value =>
          -- Both of the kind would be both from the part of that name.
          have other : kind? second = none := by
            by_contra present
            have firstName := named first (by rw [own]; rfl)
            exact apart (firstName.trans
              (named second (Option.isSome_iff_ne_none.mpr present)).symm)
          simp only [List.filterMap_cons, own, other]
  | trans before _ ihBefore ihAfter =>
      have later := (before.map partName).nodup_iff.mp distinct
      exact (ihBefore distinct).trans (ihAfter later)

/-- Of parts with names of their own at most one is the descriptor. -/
theorem length_descriptors_le_one (distinct : (contents.map partName).Nodup) :
    (contents.filterMap descriptor?).length ≤ 1 := by
  induction contents with
  | nil => exact Nat.zero_le 1
  | cons content rest ih =>
      obtain ⟨apart, later⟩ := List.nodup_cons.mp distinct
      cases content with
      | descriptor given =>
          have others : rest.filterMap descriptor? = [] := by
            rw [List.filterMap_eq_nil_iff]
            intro other member
            cases other with
            | descriptor other =>
                have again := List.mem_map_of_mem (f := partName) member
                exact (apart again).elim
            | parameterMap _ | file _ | value _ _ => rfl
          have only : (descriptor given :: rest).filterMap descriptor? = [given] :=
            congrArg (List.cons given) others
          rw [only]
          exact le_rfl
      | parameterMap _ | file _ | value _ _ => exact ih later

/-- What a content carries is carried under the name of its part. -/
theorem partName_of_carried? {content : PartContent} {entry : String × Json}
    (carries : content.carried? = some entry) : entry.1 = content.partName := by
  cases content with
  | descriptor _ | parameterMap _ => exact nomatch carries
  | file attachment =>
      cases carries
      rfl
  | value name given =>
      cases carries
      rfl

/-- The names of what is carried are names of parts, in order. -/
theorem names_carried_sublist (contents : List PartContent) :
    ((carried contents).map Prod.fst).Sublist (contents.map partName) := by
  induction contents with
  | nil => exact .slnil
  | cons content rest ih =>
      unfold carried at ih ⊢
      rw [List.map_cons]
      cases carries : content.carried? with
      | none =>
          rw [List.filterMap_cons_none carries]
          exact ih.cons _
      | some entry =>
          rw [List.filterMap_cons_some carries, List.map_cons, partName_of_carried? carries]
          exact ih.cons_cons _

/-- Among parts with names of their own, the order does not decide what is carried under a name. -/
theorem latest?_carried_of_perm (permuted : contents.Perm others)
    (distinct : (contents.map partName).Nodup) (name : String) :
    latest? (carried contents) name = latest? (carried others) name := by
  have own := distinct.sublist (names_carried_sublist contents)
  have otherDistinct := (permuted.map partName).nodup_iff.mp distinct
  have others := otherDistinct.sublist (names_carried_sublist others)
  apply Option.ext
  intro value
  rw [OrderedMap.latest?_eq_some_iff_mem own, OrderedMap.latest?_eq_some_iff_mem others]
  exact (permuted.filterMap carried?).mem_iff

end Order

/-! ## Files at other places -/

section Places

variable {contents others : List PartContent}

/-- The same contents carry the same values under the same names. -/
theorem SameContent.carried?_rel {content other : PartContent} (same : SameContent content other) :
    Option.Rel (fun entry written => entry.1 = written.1 ∧ SameValue entry.2 written.2)
      content.carried? other.carried? := by
  cases same with
  | refl => exact optionRel_refl (fun entry => ⟨rfl, .refl entry.2⟩) _
  | file unplaced => exact .some ⟨Attachment.partName_eq_of_unplaced unplaced, .file unplaced⟩

/-- Contents of another kind than files are the same. -/
theorem filterMap_eq_of_forall₂ {α : Type} {kind? : PartContent → Option α}
    (unfiled : ∀ attachment, kind? (file attachment) = none)
    (same : List.Forall₂ SameContent contents others) :
    contents.filterMap kind? = others.filterMap kind? := by
  rw [← List.forall₂_eq_eq_eq]
  refine List.rel_filterMap ?_ same
  intro content other own
  cases own with
  | refl => exact optionRel_refl (fun _ => rfl) _
  | file _ =>
      rw [unfiled, unfiled]
      exact .none

/-- The latest of entries that are the same one by one are the same. -/
theorem latest?_rel_of_forall₂ {entries written : List (String × Json)}
    (same : List.Forall₂ (fun entry other => entry.1 = other.1 ∧ SameValue entry.2 other.2)
      entries written) (name : String) :
    Option.Rel SameValue (latest? entries name) (latest? written name) := by
  unfold latest?
  have reversed := List.rel_reverse same
  generalize entries.reverse = entries at reversed ⊢
  generalize written.reverse = written at reversed ⊢
  induction reversed with
  | nil => exact .none
  | @cons entry other _ _ own _ ih =>
      rw [OrderedMap.lookup_cons_eq_ite, OrderedMap.lookup_cons_eq_ite, ← own.1]
      by_cases found : name = entry.1
      · rw [if_pos found, if_pos found]
        exact .some own.2
      · rw [if_neg found, if_neg found]
        exact ih

/-- The same contents bring the same files, wherever these are kept. -/
theorem SameContent.file?_rel {content other : PartContent} (same : SameContent content other) :
    Option.Rel (fun first second => first.unplaced = second.unplaced) content.file?
      other.file? := by
  cases same with
  | refl =>
      apply optionRel_refl
      intro attachment
      rfl
  | file unplaced => exact .some unplaced

/-- The same contents bring the same files in the same order, wherever these are kept. -/
theorem unplaced_files_of_forall₂ (same : List.Forall₂ SameContent contents others) :
    (contents.filterMap file?).map Attachment.unplaced =
      (others.filterMap file?).map Attachment.unplaced := by
  rw [← List.forall₂_eq_eq_eq, List.forall₂_map_left_iff, List.forall₂_map_right_iff]
  exact List.rel_filterMap (fun _ _ own => own.file?_rel) same

end Places

/-- **Contents in another order, with their files at other places, make the same.** -/
theorem makeSame_of_perm {contents middle others : List PartContent}
    (distinct : (contents.map partName).Nodup) (permuted : contents.Perm middle)
    (same : List.Forall₂ SameContent middle others) : MakeSame contents others where
  descriptors := by
    refine (filterMap_eq_of_perm descriptorName ?_ permuted distinct).trans
      (filterMap_eq_of_forall₂ (fun _ => rfl) same)
    intro content describes
    cases content with
    | descriptor _ => rfl
    | parameterMap _ | file _ | value _ _ => exact nomatch describes
  parameterMaps := by
    refine (filterMap_eq_of_perm parameterMapName ?_ permuted distinct).trans
      (filterMap_eq_of_forall₂ (fun _ => rfl) same)
    intro content maps
    cases content with
    | parameterMap _ => rfl
    | descriptor _ | file _ | value _ _ => exact nomatch maps
  values name := by
    rw [latest?_carried_of_perm permuted distinct]
    exact latest?_rel_of_forall₂ (List.rel_filterMap (fun _ _ own => own.carried?_rel) same) name
  files := by
    rw [← unplaced_files_of_forall₂ same]
    exact (permuted.filterMap file?).map Attachment.unplaced

/-- What parts write under a name depends on no more than that. -/
theorem MakeSame.latest?_written_rel {contents others : List PartContent}
    (same : MakeSame contents others) (name : String) :
    Option.Rel SameValue (latest? (written contents) name) (latest? (written others) name) := by
  have maps : lastParameterMap contents = lastParameterMap others := by
    rw [lastParameterMap, lastParameterMap, same.parameterMaps]
  have leads : isMapped contents name = isMapped others name := by
    rw [isMapped, isMapped, maps]
  rw [latest?_written, latest?_written]
  apply optionRel_or
  · rw [mappedValue?, mappedValue?, maps]
    cases (lastParameterMap others).get? name with
    | none => exact .none
    | some part => exact same.values part
  · rw [ownValue?, ownValue?, leads]
    cases isMapped others name with
    | true => exact .none
    | false => exact same.values name

end PartContent

/-! ## Parts read on their own -/

/-- There is a place for files. -/
def Spool.FindsPlace (spool : Spool) (settings : UploadSettings) : Prop :=
  ∃ path, spool settings.spoolDirectory = .ok path

section Reading

variable {settings : UploadSettings} {spool elsewhere : Spool}

/-- An attachment is read when a place is found for it and its body is within the limit. -/
theorem Intake.readAttachment_eq_done_iff {part : UploadPart} {attachment : Attachment} :
    readAttachment settings spool part = .done attachment ↔
      ∃ path content, spool settings.spoolDirectory = .ok path ∧
        readBody settings.maxAttachmentBytes
          (.malformed (.attachmentTooLarge part.name settings.maxAttachmentBytes)) 0 part.body =
            .done content ∧
        attachment = ⟨part.name, part.filename.getD part.name, part.contentType, content.length,
          path, content⟩ := by
  unfold readAttachment
  cases spool settings.spoolDirectory with
  | error failed => exact ⟨nofun, nofun⟩
  | ok path =>
      dsimp only
      rw [spoolBody_eq]
      constructor
      · intro kept
        obtain ⟨_, written, made⟩ := Outcome.bind_eq_done_iff.mp kept
        obtain ⟨content, read, pair⟩ := Outcome.bind_eq_done_iff.mp written
        cases pair
        cases made
        exact ⟨path, content, rfl, read, by rw [Nat.zero_add]⟩
      · rintro ⟨_, content, ⟨⟩, read, rfl⟩
        rw [read]
        simp only [Outcome.andThen, Nat.zero_add]
        rfl

/-- A file is kept in the same way wherever there is a place for it. -/
theorem Intake.exists_readAttachment_elsewhere {part : UploadPart} {attachment : Attachment}
    {place : String} (found : elsewhere settings.spoolDirectory = .ok place)
    (kept : readAttachment settings spool part = .done attachment) :
    ∃ moved, readAttachment settings elsewhere part = .done moved ∧
      attachment.unplaced = moved.unplaced := by
  obtain ⟨path, content, -, read, rfl⟩ := readAttachment_eq_done_iff.mp kept
  exact ⟨_, readAttachment_eq_done_iff.mpr ⟨place, content, found, read, rfl⟩, rfl⟩

namespace UploadPart

variable {part : UploadPart} {content : PartContent}

/-- A file part brings the file that is read from it. -/
theorem content_of_file (named : part.name ≠ "") (file : part.IsFilePart) :
    part.content settings spool =
      (Intake.readAttachment settings spool part >>= fun attachment =>
        pure (.file attachment)) := by
  have nonempty : ¬ part.name.isEmpty = true := by
    rw [String.isEmpty_iff]
    exact named
  rw [UploadPart.content, if_neg nonempty, if_neg file.1, if_neg file.2.1, if_pos file.2.2]

/-- What any other part brings does not depend on where files are kept. -/
theorem content_eq_of_not_file (other : ¬ part.IsFilePart) :
    part.content settings spool = part.content settings elsewhere := by
  unfold UploadPart.content
  by_cases describes : part.name = descriptorName
  · rw [if_pos describes, if_pos describes]
  by_cases maps : part.name = parameterMapName
  · rw [if_neg describes, if_neg describes, if_pos maps, if_pos maps]
  · have value : ¬ part.isAttachment = true := fun file => other ⟨describes, maps, file⟩
    rw [if_neg describes, if_neg describes, if_neg maps, if_neg maps, if_neg value, if_neg value]

/-- Only parts with a name bring anything. -/
theorem name_ne_empty_of_content (read : part.content settings spool = .done content) :
    part.name ≠ "" := by
  intro unnamed
  have empty : part.name.isEmpty = true := String.isEmpty_iff.mpr unnamed
  rw [UploadPart.content, if_pos empty] at read
  cases read

/-- A content goes by the name of the part that brings it. -/
theorem partName_of_content (read : part.content settings spool = .done content) :
    content.partName = part.name := by
  unfold UploadPart.content at read
  by_cases unnamed : part.name.isEmpty = true
  · rw [if_pos unnamed] at read
    exact nomatch read
  rw [if_neg unnamed] at read
  by_cases describes : part.name = descriptorName
  · rw [if_pos describes] at read
    obtain ⟨_, -, read⟩ := Outcome.bind_eq_done_iff.mp read
    obtain ⟨_, -, read⟩ := Outcome.bind_eq_done_iff.mp read
    cases read
    exact describes.symm
  rw [if_neg describes] at read
  by_cases maps : part.name = parameterMapName
  · rw [if_pos maps] at read
    obtain ⟨_, -, read⟩ := Outcome.bind_eq_done_iff.mp read
    cases read
    exact maps.symm
  rw [if_neg maps] at read
  by_cases file : part.isAttachment = true
  · rw [if_pos file] at read
    obtain ⟨attachment, kept, read⟩ := Outcome.bind_eq_done_iff.mp read
    obtain ⟨_, _, -, -, rfl⟩ := Intake.readAttachment_eq_done_iff.mp kept
    cases read
    rfl
  · rw [if_neg file] at read
    obtain ⟨_, -, read⟩ := Outcome.bind_eq_done_iff.mp read
    cases read
    rfl

/-- **A part brings in the same wherever files are kept**, as long as there is a place for them. -/
theorem exists_content_elsewhere
    (found : spool.FindsPlace settings → elsewhere.FindsPlace settings)
    (read : part.content settings spool = .done content) :
    ∃ moved, part.content settings elsewhere = .done moved ∧ content.SameContent moved := by
  by_cases file : part.IsFilePart
  · have named := name_ne_empty_of_content read
    rw [content_of_file named file] at read ⊢
    obtain ⟨attachment, kept, read⟩ := Outcome.bind_eq_done_iff.mp read
    cases read
    obtain ⟨path, _, placed, -, -⟩ := Intake.readAttachment_eq_done_iff.mp kept
    obtain ⟨place, placedElsewhere⟩ := found ⟨path, placed⟩
    obtain ⟨moved, keptElsewhere, same⟩ :=
      Intake.exists_readAttachment_elsewhere placedElsewhere kept
    refine ⟨.file moved, ?_, .file same⟩
    rw [keptElsewhere]
    rfl
  · rw [content_eq_of_not_file file] at read
    exact ⟨content, read, .refl content⟩

/-- Parts that are read in one place bring the same in another one, if that is found as well. -/
theorem exists_contents_elsewhere {parts : List UploadPart} {contents : List PartContent}
    (found : spool.FindsPlace settings → elsewhere.FindsPlace settings)
    (read : List.Forall₂ (fun part content => part.content settings spool = .done content) parts
      contents) :
    ∃ others,
      List.Forall₂ (fun part content => part.content settings elsewhere = .done content) parts
        others ∧ List.Forall₂ PartContent.SameContent contents others := by
  induction read with
  | nil => exact ⟨[], .nil, .nil⟩
  | cons own _ ih =>
      obtain ⟨content, readElsewhere, same⟩ := exists_content_elsewhere found own
      obtain ⟨others, rest, alike⟩ := ih
      exact ⟨content :: others, .cons readElsewhere rest, .cons same alike⟩

end UploadPart

namespace Arrival

variable {parts permuted : List UploadPart} {contents : List PartContent}

/-- Parts bring contents one by one. -/
theorem allBring_map_part_iff :
    AllBring settings spool (parts.map .part) contents ↔
      List.Forall₂ (fun part content => part.content settings spool = .done content) parts
        contents :=
  List.forall₂_map_left_iff

/-- Parts bring contents if and only if each of them does. -/
theorem exists_allBring_iff :
    (∃ contents, AllBring settings spool (parts.map .part) contents) ↔
      ∀ part ∈ parts, ∃ content, part.content settings spool = .done content := by
  constructor
  · rintro ⟨contents, brought⟩ part member
    obtain ⟨content, -, read⟩ := brought.exists_content (List.mem_map_of_mem member)
    exact ⟨content, read⟩
  · intro readable
    induction parts with
    | nil => exact ⟨[], .nil⟩
    | cons part rest ih =>
        obtain ⟨own, others⟩ := List.forall_mem_cons.mp readable
        obtain ⟨content, read⟩ := own
        obtain ⟨contents, later⟩ := ih others
        exact ⟨content :: contents, .cons read later⟩

/-- Contents go by the names of the parts in order. -/
theorem map_partName_of_allBring (brought : AllBring settings spool (parts.map .part) contents) :
    contents.map PartContent.partName = parts.map UploadPart.name := by
  rw [← List.forall₂_eq_eq_eq, List.forall₂_map_left_iff, List.forall₂_map_right_iff]
  apply (allBring_map_part_iff.mp brought).flip.imp
  intro content part read
  exact UploadPart.partName_of_content read

/-- **Parts with names of their own make the same in any order.** -/
theorem exists_makeSame_of_perm
    (found : spool.FindsPlace settings → elsewhere.FindsPlace settings)
    (distinct : (parts.map UploadPart.name).Nodup) (permutation : parts.Perm permuted)
    (brought : AllBring settings spool (parts.map .part) contents) :
    ∃ others, AllBring settings elsewhere (permuted.map .part) others ∧
      PartContent.MakeSame contents others := by
  rw [← map_partName_of_allBring brought] at distinct
  obtain ⟨middle, read, reordered⟩ :=
    List.perm_comp_forall₂ permutation.symm (allBring_map_part_iff.mp brought)
  obtain ⟨others, readElsewhere, same⟩ := UploadPart.exists_contents_elsewhere found read
  exact ⟨others, allBring_map_part_iff.mpr readElsewhere,
    PartContent.makeSame_of_perm distinct reordered.symm same⟩

end Arrival

end Reading

/-! ## What an upload asks for -/

namespace Intake

variable {settings : UploadSettings} {spool : Spool} {intake : Intake}

/-- The last descriptor is held. -/
theorem descriptor_foldl_add (contents : List PartContent) :
    (contents.foldl add intake).descriptor =
      (contents.filterMap PartContent.descriptor?).getLast?.or intake.descriptor := by
  induction contents generalizing intake with
  | nil => rfl
  | cons content rest ih =>
      rw [List.foldl_cons, ih]
      cases content with
      | descriptor given =>
          change _ = (given :: rest.filterMap PartContent.descriptor?).getLast?.or _
          rw [List.getLast?_cons]
          exact Option.or_some
      | parameterMap _ | file _ | value _ _ => rfl

/-- Files are attached in the order in which they arrive. -/
theorem attachments_foldl_add (contents : List PartContent) :
    (contents.foldl add intake).attachments =
      intake.attachments ++ contents.filterMap PartContent.file? := by
  induction contents generalizing intake with
  | nil => exact (List.append_nil _).symm
  | cons content rest ih =>
      rw [List.foldl_cons, ih]
      cases content with
      | file attachment => exact List.append_assoc intake.attachments [attachment] _
      | descriptor _ | parameterMap _ | value _ _ => rfl

/-- **Parts that can be read are taken in**, as long as there is no second descriptor. -/
theorem takeAll_of_allBring {arrivals : List Arrival} {contents : List PartContent}
    (brought : Arrival.AllBring settings spool arrivals contents)
    (single : (intake.descriptor.toList ++ contents.filterMap PartContent.descriptor?).length ≤ 1) :
    intake.takeAll settings spool arrivals = (contents.foldl add intake, .done ()) := by
  -- The descriptors taken in and those still to come are counted together, so the sum is kept.
  induction brought generalizing intake with
  | nil => rfl
  | @cons arrival content arrivals contents read _ ih =>
      cases arrival with
      | failed reason => exact nomatch read
      | part part =>
          have first : part.name = descriptorName → intake.descriptor = none := by
            intro named
            obtain ⟨descriptor, _, rfl, -⟩ := content_of_named_descriptor named read
            cases held : intake.descriptor with
            | none => rfl
            | some earlier =>
                rw [held] at single
                exact absurd single (by simp [PartContent.descriptor?])
          have taken : intake.take settings spool part = .done (intake.add content) := by
            rw [take_eq first]
            exact Outcome.bind_eq_done_iff.mpr ⟨content, read, rfl⟩
          rw [takeAll_cons_of_take taken, List.foldl_cons]
          apply ih
          cases content with
          | descriptor descriptor =>
              rw [first (name_of_content_descriptor read)] at single
              exact single
          | parameterMap _ | file _ | value _ _ => exact single

/-- Contents that make the same ask for the same invocation. -/
theorem exists_invocation_of_makeSame {contents others : List PartContent}
    (same : PartContent.MakeSame contents others) {invocation : Invocation}
    (asked : (contents.foldl add empty).invocation = .ok invocation) :
    ∃ other, (others.foldl add empty).invocation = .ok other ∧ invocation.Agrees other := by
  have described : (contents.foldl add empty).descriptor = (others.foldl add empty).descriptor := by
    rw [descriptor_foldl_add, descriptor_foldl_add, same.descriptors]
  have bound (base : Bindings) (name : String) :
      Option.Rel SameValue ((base.insertAll (contents.foldl add empty).bindings.entries).get? name)
        ((base.insertAll (others.foldl add empty).bindings.entries).get? name) := by
    rw [insertAll_bindings, insertAll_bindings, OrderedMap.get?_insertAll,
      OrderedMap.get?_insertAll]
    exact optionRel_or (same.latest?_written_rel name) (optionRel_refl .refl _)
  have kept : ((contents.foldl add empty).attachments.map Attachment.unplaced).Perm
      ((others.foldl add empty).attachments.map Attachment.unplaced) := by
    rw [attachments_foldl_add, attachments_foldl_add]
    exact same.files
  obtain ⟨descriptor, actionId, held, named, rfl⟩ := invocation_eq_ok_iff.mp asked
  refine ⟨(others.foldl add empty).invocationOf descriptor actionId, ?_, ?_⟩
  · exact invocation_eq_ok_iff.mpr ⟨descriptor, actionId, described ▸ held, named, rfl⟩
  · exact ⟨rfl, rfl, rfl, rfl, rfl, rfl, bound descriptor.bindings, kept⟩

end Intake

section Uploads

variable {settings : UploadSettings} {spool elsewhere : Spool} {parts permuted : List UploadPart}

/-- **Which uploads are accepted.** Each part can be read on its own, and one of them is the
descriptor. -/
theorem exists_invocation_iff (distinct : (parts.map UploadPart.name).Nodup) :
    (∃ invocation,
        (invocationOfUpload settings spool (parts.map .part)).invocation = .done invocation) ↔
      (∀ part ∈ parts, ∃ content, part.content settings spool = .done content) ∧
        descriptorName ∈ parts.map UploadPart.name := by
  constructor
  · rintro ⟨invocation, asked⟩
    obtain ⟨intake, taken, made⟩ := takeAll_of_invocationOfUpload asked
    obtain ⟨contents, brought, rfl, descriptors, -⟩ := exists_contents_of_takeAll taken
    obtain ⟨descriptor, -, held, -⟩ := Intake.invocation_eq_ok_iff.mp made
    refine ⟨Arrival.exists_allBring_iff.mp ⟨contents, brought⟩, ?_⟩
    have listed : descriptor ∈ contents.filterMap PartContent.descriptor? := by
      rw [descriptors, held]
      exact List.mem_singleton_self descriptor
    obtain ⟨content, present, describes⟩ := List.mem_filterMap.mp listed
    rw [← Arrival.map_partName_of_allBring brought, List.mem_map]
    refine ⟨content, present, ?_⟩
    cases content with
    | descriptor _ => rfl
    | parameterMap _ | file _ | value _ _ => exact nomatch describes
  · rintro ⟨readable, described⟩
    obtain ⟨contents, brought⟩ := Arrival.exists_allBring_iff.mpr readable
    rw [← Arrival.map_partName_of_allBring brought] at distinct
    have taken : Intake.empty.takeAll settings spool (parts.map .part) =
        (contents.foldl Intake.add Intake.empty, .done ()) :=
      Intake.takeAll_of_allBring brought (PartContent.length_descriptors_le_one distinct)
    obtain ⟨part, member, named⟩ := List.mem_map.mp described
    obtain ⟨invocation, made⟩ :=
      Intake.exists_invocation_of_takeAll taken (List.mem_map_of_mem member) named
    refine ⟨invocation, ?_⟩
    rw [invocationOfUpload_of_takeAll taken, made]
    rfl

/-- An upload in another order asks for the same invocation. -/
theorem agrees_of_perm (found : spool.FindsPlace settings → elsewhere.FindsPlace settings)
    (distinct : (parts.map UploadPart.name).Nodup) (permutation : parts.Perm permuted)
    {first second : Invocation}
    (asked : (invocationOfUpload settings spool (parts.map .part)).invocation = .done first)
    (askedElsewhere :
      (invocationOfUpload settings elsewhere (permuted.map .part)).invocation = .done second) :
    first.Agrees second := by
  obtain ⟨intake, taken, made⟩ := takeAll_of_invocationOfUpload asked
  obtain ⟨contents, brought, rfl, descriptors, -⟩ := exists_contents_of_takeAll taken
  obtain ⟨others, broughtElsewhere, same⟩ :=
    Arrival.exists_makeSame_of_perm found distinct permutation brought
  have single : (others.filterMap PartContent.descriptor?).length ≤ 1 := by
    rw [← same.descriptors, descriptors]
    exact Option.length_toList_le
  have takenElsewhere : Intake.empty.takeAll settings elsewhere (permuted.map .part) =
      (others.foldl Intake.add Intake.empty, .done ()) :=
    Intake.takeAll_of_allBring broughtElsewhere single
  obtain ⟨other, madeElsewhere, agrees⟩ := Intake.exists_invocation_of_makeSame same made
  rw [invocationOfUpload_of_takeAll takenElsewhere, madeElsewhere] at askedElsewhere
  cases askedElsewhere
  exact agrees

variable (settings spool elsewhere)

/-- **Parts can arrive in any order.** Let the parts of an upload have names of their own. The
upload is accepted when each part can be read on its own and one of them is the descriptor, so it is
accepted in one order exactly when it is in another. It then asks for the same invocation, wherever
its files are kept, if only there is a place for files in one case when there is in the other. -/
theorem accepted_in_every_order
    (alike : spool.FindsPlace settings ↔ elsewhere.FindsPlace settings)
    (distinct : (parts.map UploadPart.name).Nodup) (permutation : parts.Perm permuted) :
    ((∃ invocation,
        (invocationOfUpload settings spool (parts.map .part)).invocation = .done invocation) ↔
      (∀ part ∈ parts, ∃ content, part.content settings spool = .done content) ∧
        descriptorName ∈ parts.map UploadPart.name) ∧
    ((∃ invocation,
        (invocationOfUpload settings spool (parts.map .part)).invocation = .done invocation) ↔
      ∃ invocation,
        (invocationOfUpload settings elsewhere (permuted.map .part)).invocation =
          .done invocation) ∧
    ∀ first second,
      (invocationOfUpload settings spool (parts.map .part)).invocation = .done first →
      (invocationOfUpload settings elsewhere (permuted.map .part)).invocation = .done second →
      first.Agrees second := by
  have distinctPermuted := (permutation.map UploadPart.name).nodup_iff.mp distinct
  have readAlike (part : UploadPart) :
      (∃ content, part.content settings spool = .done content) ↔
        ∃ content, part.content settings elsewhere = .done content := by
    constructor
    · rintro ⟨content, read⟩
      obtain ⟨moved, readElsewhere, -⟩ := UploadPart.exists_content_elsewhere alike.mp read
      exact ⟨moved, readElsewhere⟩
    · rintro ⟨content, read⟩
      obtain ⟨moved, readElsewhere, -⟩ := UploadPart.exists_content_elsewhere alike.mpr read
      exact ⟨moved, readElsewhere⟩
  refine ⟨exists_invocation_iff distinct, ?_, ?_⟩
  · rw [exists_invocation_iff distinct, exists_invocation_iff distinctPermuted,
      (permutation.map UploadPart.name).mem_iff]
    simp only [readAlike, permutation.mem_iff]
  · intro first second asked askedElsewhere
    exact agrees_of_perm alike.mp distinct permutation asked askedElsewhere

/-- A part of each kind: the parameter map comes after the part that it concerns, and the descriptor
last. -/
def mixedUpload : List UploadPart :=
  [.text "a" "1",
    .file "f" "f.txt" (some "text/plain") (Bytes.ofText "2"),
    .ofBytes parameterMapName none (some "application/json")
      (Bytes.ofText "\x7b\"x\":\"a\"\x7d"),
    .ofBytes descriptorName none (some "application/json")
      (Bytes.ofText "\x7b\"actionId\":\"r\",\"params\":\x7b\"k\":3\x7d\x7d")]

set_option maxRecDepth 20000 in
theorem accepted_in_every_order_mixed :
    (mixedUpload.map UploadPart.name).Nodup ∧
    ∃ first second,
      (invocationOfUpload .standard (fun _ => .ok "here") (mixedUpload.map .part)).invocation =
        .done first ∧
      (invocationOfUpload .standard (fun _ => .ok "there")
        (mixedUpload.reverse.map .part)).invocation = .done second ∧
      first.Agrees second ∧
      first.bindings.entries.map Prod.fst = ["k", "f", "x"] ∧
      first.bindings.get? "x" = some (.str "1") ∧
        first.attachments.map Attachment.path = ["here"] := by
  have distinct : (mixedUpload.map UploadPart.name).Nodup := by decide
  have made :
      ((invocationOfUpload .standard (fun _ => .ok "here")
        (mixedUpload.map .part)).invocation.toOption.map fun invocation =>
          (invocation.bindings.entries.map Prod.fst, invocation.bindings.get? "x",
            invocation.attachments.map Attachment.path)) =
      some (["k", "f", "x"], some (.str "1"), ["here"]) := by
    decide +kernel
  obtain ⟨first, found, shown⟩ := Option.map_eq_some_iff.mp made
  have asked := Outcome.toOption_eq_some_iff.mp found
  have orders := accepted_in_every_order .standard (fun _ => .ok "here") (fun _ => .ok "there")
    (iff_of_true (Exists.intro "here" rfl) (Exists.intro "there" rfl)) distinct
      (List.reverse_perm mixedUpload).symm
  obtain ⟨second, askedSecond⟩ := orders.2.1.mp ⟨first, asked⟩
  have agrees := orders.2.2 first second asked askedSecond
  obtain ⟨names, value, paths⟩ : _ ∧ _ ∧ _ := by simpa only [Prod.mk.injEq] using shown
  exact ⟨distinct, first, second, asked, askedSecond, agrees, names, value, paths⟩

end Uploads

end ActionGateway
