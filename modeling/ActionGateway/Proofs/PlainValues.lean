import ActionGateway.Binding
import ActionGateway.Json.Printer
import ActionGateway.Proofs.MarkerScan
import ActionGateway.Proofs.OrderedMaps

/-!
# Values without braces

Of the scalar values only a text can have a brace in it: numbers are written with digits, signs,
points and exponents. What a name stands for in bindings of such values is one of the values itself.
-/

namespace ActionGateway

namespace Template.IsPlain

variable {first second text : List Char}

/-- Plain texts make a plain text. -/
theorem append (plain : IsPlain first) (other : IsPlain second) : IsPlain (first ++ second) := by
  intro c member
  rcases List.mem_append.mp member with early | late
  · exact plain c early
  · exact other c late

theorem cons {c : Char} (own : isNameChar c = true) (plain : IsPlain text) : IsPlain (c :: text) :=
  List.forall_mem_cons.mpr ⟨own, plain⟩

/-- A text of the characters of a plain one is plain. -/
theorem of_subset (plain : IsPlain text) (subset : first ⊆ text) : IsPlain first :=
  fun c member => plain c (subset member)

/-- A repeated character of a name is plain. -/
theorem replicate (count : Nat) {c : Char} (own : isNameChar c = true) :
    IsPlain (List.replicate count c) := by
  intro other member
  rw [List.eq_of_mem_replicate member]
  exact own

/-- Decimal digits are plain. -/
theorem digits (value : Nat) : IsPlain (Nat.toDigits 10 value) := by
  intro c member
  have digit : c.isDigit = true := Nat.isDigit_of_mem_toDigits (by decide) (by decide) member
  unfold isNameChar
  rw [Bool.and_eq_true, bne_iff_ne, bne_iff_ne]
  constructor
  · rintro rfl
    exact absurd digit (by decide)
  · rintro rfl
    exact absurd digit (by decide)

/-- Natural numbers are written plainly. -/
theorem nat (value : Nat) : IsPlain (toString value).toList := by
  change IsPlain value.repr.toList
  rw [Nat.toList_repr]
  exact digits value

theorem int (value : Int) : IsPlain (toString value).toList := by
  cases value with
  | ofNat value => exact nat value
  | negSucc value =>
      change IsPlain ("-" ++ (value + 1).repr).toList
      rw [String.toList_append, Nat.toList_repr]
      exact cons (by decide) (digits _)

end Template.IsPlain

open Template (IsPlain)

/-! ## Numbers -/

theorem Binary64.isPlain_write (style : Style) (sign : IsPlain style.positiveSign.toList)
    (value : Decimal) : IsPlain (style.write value).toList := by
  have digits := IsPlain.digits value.digits
  unfold Style.write
  dsimp only
  split
  · -- Scientific notation: mantissa, sign and exponent.
    rw [String.toList_append, String.toList_append, String.toList_append, String.toList_ofList]
    refine IsPlain.append (IsPlain.append (IsPlain.append ?_ (by decide)) ?_) (IsPlain.nat _)
    · split
      · rename_i first second rest split
        rw [split] at digits
        obtain ⟨own, others⟩ := List.forall_mem_cons.mp digits
        exact IsPlain.cons own (IsPlain.cons (by decide) others)
      · exact digits
    · split
      · decide
      · exact sign
  · split
    · rw [String.toList_ofList]
      exact (digits.append (IsPlain.replicate _ (by decide))).append (by decide)
    · split
      · rw [String.toList_ofList]
        have before (count : Nat) := digits.of_subset (List.take_subset count _)
        have after (count : Nat) := digits.of_subset (List.drop_subset count _)
        exact (before _).append ((after _).cons (by decide))
      · rw [String.toList_ofList]
        have zeros (count : Nat) : IsPlain ('0' :: '.' :: List.replicate count '0') :=
          ((IsPlain.replicate count (by decide)).cons (by decide)).cons (by decide)
        exact (zeros _).append digits

/-- **There is no brace in a number.** -/
theorem Json.Number.isPlain_text (number : Json.Number) : IsPlain number.text.toList := by
  cases number with
  | int value => exact IsPlain.int value
  | real value =>
      have magnitude : IsPlain
          (if value.significand = 0 then "0.0" else numberStyle.write value.shortest).toList := by
        split
        · decide
        · exact Binary64.isPlain_write numberStyle (by decide) value.shortest
      unfold Json.Number.text Binary64.text
      dsimp only
      split
      · rw [String.toList_append]
        exact IsPlain.append (by decide) magnitude
      · exact magnitude

/-! ## Values of bindings -/

namespace Json

/-- The value is a scalar, and no text with a brace in it. -/
def IsPlain : Json → Prop
  | .str text => Template.IsPlain text.toList
  | .arr _ | .obj _ => False
  | .null | .bool _ | .num _ => True

/-- Plain values are scalars. -/
theorem IsPlain.isScalar {value : Json} (plain : value.IsPlain) : value.isScalar = true := by
  cases value with
  | arr items => exact plain.elim
  | obj fields => exact plain.elim
  | _ => rfl

/-- Their texts are plain. -/
theorem IsPlain.stringify {value : Json} (plain : value.IsPlain) :
    Template.IsPlain value.stringify.toList := by
  cases value with
  | null => decide
  | bool value => cases value <;> decide
  | num number =>
      change Template.IsPlain (String.ofList number.text.toList).toList
      rw [String.toList_ofList]
      exact number.isPlain_text
  | str text => exact plain
  | arr items => exact plain.elim
  | obj fields => exact plain.elim

end Json

namespace Bindings

/-- All values are plain. -/
def ArePlain (bindings : Bindings) : Prop :=
  ∀ entry ∈ bindings.entries, entry.2.IsPlain

/-- A path leads nowhere in a scalar. -/
theorem eq_of_descend {path : List String} {value found : Json} (scalar : value.isScalar = true)
    (descends : descend path value = some found) : found = value := by
  cases path with
  | nil => exact (Option.some.inj descends).symm
  | cons segment rest =>
      cases value with
      | arr items => exact nomatch scalar
      | obj fields => exact nomatch scalar
      | _ => exact nomatch descends

/-- What a name stands for in plain bindings is plain. -/
theorem ArePlain.resolve? {bindings : Bindings} (plain : bindings.ArePlain) {name : String}
    {value : Json} (resolved : bindings.resolve? name = some value) : value.IsPlain := by
  have held {name : String} {value : Json} (found : bindings.get? name = some value) :
      value.IsPlain :=
    plain _ ((OrderedMap.get?_eq_some_iff_mem bindings name value).mp found)
  unfold Bindings.resolve? at resolved
  cases found : bindings.get? name with
  | some other =>
      simp only [found, Option.some.injEq] at resolved
      rw [← resolved]
      exact held found
  | none =>
      simp only [found] at resolved
      split at resolved
      · rename_i first rest _
        obtain ⟨root, bound, descends⟩ := Option.bind_eq_some_iff.mp resolved
        rw [eq_of_descend (held bound).isScalar descends]
        exact held bound
      · exact nomatch resolved

end Bindings

end ActionGateway
