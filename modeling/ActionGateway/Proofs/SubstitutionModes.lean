import ActionGateway.Proofs.MarkerNames

/-!
# Strict and lenient substitution

A strict substitution is a lenient one that ends at its first warning. This holds of a pass that
meets one marker, and putting passes together keeps it, so it holds of every part of a substitution
and of values of every shape.
-/

namespace ActionGateway

variable {α β : Type}

/-- What a strict pass makes of the result of a lenient one: it ends at the first warning. -/
def Substituted.tightened (result : Substituted α) : Pass α :=
  match result.warnings with
  | [] => .ok result
  | first :: _ => .error first

/-- A result without warnings is kept by the strict mode. -/
theorem Substituted.tightened_eq_ok_iff (result strict : Substituted α) :
    result.tightened = .ok strict ↔ result.warnings = [] ∧ strict = result := by
  unfold tightened
  cases result.warnings with
  | nil => exact ⟨fun same => ⟨rfl, (Except.ok.inj same).symm⟩, fun same => congrArg _ same.2.symm⟩
  | cons first rest => exact ⟨nofun, fun same => nomatch same.1⟩

/-- The first warning of a result is its error in the strict mode. -/
theorem Substituted.tightened_eq_error_iff (result : Substituted α) (unresolved : Unresolved) :
    result.tightened = .error unresolved ↔ result.warnings.head? = some unresolved := by
  unfold tightened
  cases result.warnings with
  | nil => exact ⟨nofun, nofun⟩
  | cons first rest =>
      rw [List.head?_cons, Option.some.injEq]
      exact ⟨Except.error.inj, congrArg _⟩

/-- **Agreement of passes.** The lenient one has a result, the strict one ends at its first warning,
and what is warned of are markers. -/
def Pass.Agree (strict lenient : Pass α) : Prop :=
  ∃ result : Substituted α, lenient = .ok result ∧ strict = result.tightened ∧
    ∀ warning ∈ result.warnings, Template.IsMarkerName warning.placeholder

namespace Pass.Agree

/-- Passes that are done with one value agree. -/
theorem done (value : α) : Agree (Pass.done value) (Pass.done value) :=
  ⟨⟨value, []⟩, rfl, rfl, fun _ member => (List.not_mem_nil member).elim⟩

/-- Passes that agree and go on with passes that agree do so together. -/
theorem andThen {strict lenient : Pass α} {strictNext lenientNext : α → Pass β}
    (first : Agree strict lenient) (next : ∀ value, Agree (strictNext value) (lenientNext value)) :
    Agree (strict >>= strictNext) (lenient >>= lenientNext) := by
  obtain ⟨⟨value, earlier⟩, rfl, rfl, earlierMarkers⟩ := first
  obtain ⟨⟨result, later⟩, ran, tight, laterMarkers⟩ := next value
  refine ⟨⟨result, earlier ++ later⟩, ?_, ?_, ?_⟩
  · change Pass.andThen _ _ = _
    rw [Pass.andThen, ran]
  · cases earlier with
    | cons warning rest => rfl
    | nil =>
        change Pass.andThen _ _ = _
        simp only [Pass.andThen, Substituted.tightened, tight]
        cases later with
        | nil => rfl
        | cons warning rest => rfl
  · exact fun warning member => (List.mem_append.mp member).elim (earlierMarkers warning)
      (laterMarkers warning)

/-- Agreement goes through a change of the value. -/
theorem map {strict lenient : Pass α} (first : Agree strict lenient) (f : α → β) :
    Agree (strict >>= fun value => pure (f value)) (lenient >>= fun value => pure (f value)) :=
  first.andThen fun value => done (f value)

end Pass.Agree

namespace Substitution

variable (bindings : Bindings) (path : List String)

/-- A marker ends a strict pass and is warned of in a lenient one. -/
theorem agree_unresolved {name : String} (marker : Template.IsMarkerName name) :
    Pass.Agree (unresolved ⟨bindings, .strict⟩ path name)
      (unresolved ⟨bindings, .lenient⟩ path name) :=
  ⟨⟨(), [⟨name, path⟩]⟩, rfl, rfl, fun _ member => List.mem_singleton.mp member ▸ marker⟩

/-- The modes agree on stray markers. -/
theorem agree_renderStrays (pieces : List (String × List Char))
    (markers : ∀ name ∈ pieces.map Prod.fst, Template.IsMarkerName name) :
    Pass.Agree (renderStrays ⟨bindings, .strict⟩ path pieces)
      (renderStrays ⟨bindings, .lenient⟩ path pieces) := by
  induction pieces with
  | nil => exact .done []
  | cons piece rest ih =>
      obtain ⟨own, others⟩ := List.forall_mem_cons.mp markers
      exact (agree_unresolved bindings path own).andThen fun _ => (ih others).map _

/-- The modes agree on literals. -/
theorem agree_renderLiteral (literal : List Char) :
    Pass.Agree (renderLiteral ⟨bindings, .strict⟩ path literal)
      (renderLiteral ⟨bindings, .lenient⟩ path literal) := by
  refine (agree_renderStrays bindings path _ fun name member => ?_).map _
  obtain ⟨start, size, recognised⟩ := Text.recognised_of_mem_cut member
  exact Template.isMarkerName_of_strayMarker recognised

/-- The modes agree on a placeholder whose name can stand in a marker. -/
theorem agree_renderPlaceholder {name : String} (marker : Template.IsMarkerName name) :
    Pass.Agree (renderPlaceholder ⟨bindings, .strict⟩ path name)
      (renderPlaceholder ⟨bindings, .lenient⟩ path name) := by
  unfold renderPlaceholder
  cases bindings.resolve? name with
  | some value => exact .done _
  | none => exact (agree_unresolved bindings path marker).map _

/-- The modes agree on the pieces of a template, one after the other. -/
theorem agree_renderPieces (pieces : List (String × List Char))
    (markers : ∀ name ∈ pieces.map Prod.fst, Template.IsMarkerName name) :
    Pass.Agree (renderPieces ⟨bindings, .strict⟩ path pieces)
      (renderPieces ⟨bindings, .lenient⟩ path pieces) := by
  induction pieces with
  | nil => exact .done []
  | cons piece rest ih =>
      obtain ⟨name, literal⟩ := piece
      obtain ⟨own, others⟩ := List.forall_mem_cons.mp markers
      refine (agree_renderPlaceholder bindings path own).andThen fun value => ?_
      refine (agree_renderLiteral bindings path literal).andThen fun literal => ?_
      exact (ih others).map _

/-- So the modes agree on templates. -/
theorem agree_renderText (template : String) :
    Pass.Agree (renderText ⟨bindings, .strict⟩ path template)
      (renderText ⟨bindings, .lenient⟩ path template) := by
  let pieces := Text.cut Template.placeholder template.toList
  refine (agree_renderLiteral bindings path pieces.head).andThen fun head => ?_
  refine (agree_renderPieces bindings path _ fun name member => ?_).map _
  obtain ⟨start, size, recognised⟩ := Text.recognised_of_mem_cut member
  exact Template.isMarkerName_of_placeholder recognised

/-- The modes agree on leaves, whether they become a text or a native value. -/
theorem agree_renderString (template : String) :
    Pass.Agree (renderString ⟨bindings, .strict⟩ path template)
      (renderString ⟨bindings, .lenient⟩ path template) := by
  unfold renderString
  cases whole : Text.wholeMarker? Template.placeholder template.toList with
  | none => exact (agree_renderText bindings path template).map _
  | some name =>
      obtain ⟨size, recognised⟩ := Text.recognised_of_wholeMarker? whole
      have marker := Template.isMarkerName_of_placeholder recognised
      dsimp only
      cases bindings.resolve? name with
      | some value => exact .done value
      | none => exact (agree_unresolved bindings path marker).map _

mutual

/-- Passes over a value agree, whichever string of it they meet a marker in. -/
theorem agree_json (path : List String) (value : Json) :
    Pass.Agree (json ⟨bindings, .strict⟩ path value) (json ⟨bindings, .lenient⟩ path value) := by
  cases value with
  | str template => exact agree_renderString bindings path template
  | arr items => exact (agree_jsonItems path 0 items).map _
  | obj fields => exact (agree_jsonFields path fields).map _
  | _ => exact .done _

/-- The modes agree on the items of an array. -/
theorem agree_jsonItems (path : List String) (index : Nat) (items : List Json) :
    Pass.Agree (jsonItems ⟨bindings, .strict⟩ path index items)
      (jsonItems ⟨bindings, .lenient⟩ path index items) := by
  cases items with
  | nil => exact .done []
  | cons item rest =>
      refine (agree_json (path ++ [toString index]) item).andThen fun item => ?_
      exact (agree_jsonItems path (index + 1) rest).map _

theorem agree_jsonFields (path : List String) (fields : List (String × Json)) :
    Pass.Agree (jsonFields ⟨bindings, .strict⟩ path fields)
      (jsonFields ⟨bindings, .lenient⟩ path fields) := by
  cases fields with
  | nil => exact .done []
  | cons field rest =>
      refine (agree_json (path ++ [field.1]) field.2).andThen fun value => ?_
      exact (agree_jsonFields path rest).map _

end

variable {each eachLenient : List String → α → Pass α}

/-- If they agree on each member of a list, they agree on the list. -/
theorem agree_list (agree : ∀ path value, Pass.Agree (each path value) (eachLenient path value))
    (index : Nat) (items : List α) :
    Pass.Agree (list path each index items) (list path eachLenient index items) := by
  induction items generalizing index with
  | nil => exact .done []
  | cons item rest ih =>
      refine (agree (path ++ [toString index]) item).andThen fun item => ?_
      exact (ih (index + 1)).map _

/-- If they agree on each value of a map, they agree on the map. -/
theorem agree_entries (agree : ∀ path value, Pass.Agree (each path value) (eachLenient path value))
    (fields : List (String × α)) :
    Pass.Agree (entries path each fields) (entries path eachLenient fields) := by
  induction fields with
  | nil => exact .done []
  | cons field rest ih =>
      refine (agree (path ++ [field.1]) field.2).andThen fun value => ?_
      exact ih.map _

end Substitution

namespace Shape

/-- **Strict and lenient passes agree** over values of every shape. -/
theorem agree_substituteAt (bindings : Bindings) (shape : Shape) (path : List String)
    (value : shape.Value) :
    Pass.Agree (substituteAt ⟨bindings, .strict⟩ shape path value)
      (substituteAt ⟨bindings, .lenient⟩ shape path value) := by
  induction shape generalizing path with
  | json => exact Substitution.agree_json bindings path value
  | text => exact Substitution.agree_renderText bindings path value
  | list item ih => exact Substitution.agree_list path ih 0 value
  | option item ih =>
      cases value with
      | none => exact .done none
      | some value => exact (ih path value).map some
  | map item ih => exact (Substitution.agree_entries path ih value.entries).map OrderedMap.ofList

/-- **A strict substitution is a lenient one that ends at its first warning.** A lenient one never
fails. A strict one has its result when that comes without a warning, and fails with its first
warning otherwise. The text of that warning is the one for the marker and the path of the failure,
and for no other marker and path. -/
theorem substitute_strict_iff_lenient (shape : Shape) (value : shape.Value) (bindings : Bindings) :
    ∃ lenient, shape.substitute value bindings .lenient = .ok lenient ∧
      (∀ strict, shape.substitute value bindings .strict = .ok strict ↔
        lenient.warnings = [] ∧ strict = lenient) ∧
      (∀ unresolved, shape.substitute value bindings .strict = .error unresolved ↔
        lenient.warnings.head? = some unresolved) ∧
      ∀ placeholder path,
        (∃ unresolved, shape.substitute value bindings .strict = .error unresolved ∧
          unresolved.placeholder = placeholder ∧ unresolved.pathText = path) ↔
        Template.IsMarkerName placeholder ∧
          (lenient.warnings.map Unresolved.warning).head? =
            some (Unresolved.warningText placeholder path) := by
  obtain ⟨lenient, ran, tight, markers⟩ := agree_substituteAt bindings shape [] value
  have fails (unresolved : Unresolved) :
      shape.substitute value bindings .strict = .error unresolved ↔
        lenient.warnings.head? = some unresolved := by
    rw [← lenient.tightened_eq_error_iff, ← tight]
    rfl
  refine ⟨lenient, ran, fun strict => ?_, fails, fun placeholder path => ⟨?_, ?_⟩⟩
  · rw [← lenient.tightened_eq_ok_iff, ← tight]
    rfl
  · rintro ⟨unresolved, failed, rfl, rfl⟩
    have first := (fails unresolved).mp failed
    refine ⟨markers unresolved (List.mem_of_head? first), ?_⟩
    rw [List.head?_map, first, Option.map_some, unresolved.warning_eq]
  · rintro ⟨marker, text⟩
    rw [List.head?_map] at text
    obtain ⟨unresolved, first, same⟩ := Option.map_eq_some_iff.mp text
    rw [unresolved.warning_eq] at same
    obtain ⟨named, place⟩ := Unresolved.warningText_injective
      (markers unresolved (List.mem_of_head? first)) marker same
    exact ⟨unresolved, (fails unresolved).mpr first, named, place⟩

/-- A key may read like the end of one warning and the start of another. The first warning is then
also the text for a placeholder that no marker has, and a strict substitution does not fail with
that one. -/
theorem first_warning_reads_two_ways :
    let value := Json.obj [("k\x7d\x7d' at $.z", .str "\x7b\x7ba\x7d\x7d")]
    ∃ lenient, value.substitute .empty .lenient = .ok lenient ∧
      ¬ ((∃ unresolved, value.substitute .empty .strict = .error unresolved ∧
          unresolved.placeholder = "a\x7d\x7d' at $.k" ∧ unresolved.pathText = "$.z") ↔
        (lenient.warnings.map Unresolved.warning).head? =
          some (Unresolved.warningText "a\x7d\x7d' at $.k" "$.z")) := by
  intro value
  have warned : value.substitute .empty .lenient =
      .ok ⟨.obj [("k\x7d\x7d' at $.z", .str "")], [⟨"a", ["k\x7d\x7d' at $.z"]⟩]⟩ := by
    rfl
  have failed : value.substitute .empty .strict = .error ⟨"a", ["k\x7d\x7d' at $.z"]⟩ := by
    rfl
  refine ⟨_, warned, fun readsOneWay => ?_⟩
  obtain ⟨unresolved, other, placeholder, -⟩ := readsOneWay.mpr (by decide +kernel)
  cases failed.symm.trans other
  exact absurd placeholder (by decide)

end Shape

end ActionGateway
