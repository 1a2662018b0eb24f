/-! # The value of digits

A sequence of digits, the most significant one first, stands for a number in positional notation.
A long sequence is halved again and again and the values of its halves are put together, because
taking in one digit at a time means a multiplication of the whole value for each of them.
`Digits.value_eq_foldl` says that both ways give the same number.
-/

namespace ActionGateway.Digits

/-- One digit more at the end of a sequence with the given value. -/
def push (radix value digit : Nat) : Nat :=
  value * radix + digit

/-- **A run of digits**: its value, and what a digit in front of it counts for. -/
structure Run where
  value : Nat
  weight : Nat
  deriving DecidableEq, Repr

namespace Run

/-- No digits. -/
def empty : Run := ⟨0, 1⟩

/-- A single digit. -/
def digit (radix value : Nat) : Run := ⟨value, radix⟩

/-- A run of digits and the run that follows it. -/
def append (high low : Run) : Run :=
  ⟨high.value * low.weight + low.value, high.weight * low.weight⟩

end Run

/-- The run of at most `2 ^ depth` digits at the start of a sequence, and the digits after it. -/
def takeRun (radix : Nat) : Nat → List Nat → Run × List Nat
  | 0, [] => (.empty, [])
  | 0, digit :: rest => (.digit radix digit, rest)
  | depth + 1, digits =>
    let (high, rest) := takeRun radix depth digits
    let (low, rest) := takeRun radix depth rest
    (high.append low, rest)

/-- The value of a sequence of digits. -/
def value (radix : Nat) (digits : List Nat) : Nat :=
  (takeRun radix (digits.length.log2 + 1) digits).1.value

/-- The value so far moves up by as many places as digits follow. -/
theorem foldl_push (radix start : Nat) (digits : List Nat) :
    digits.foldl (push radix) start =
      start * Nat.pow radix digits.length + digits.foldl (push radix) 0 := by
  induction digits generalizing start with
  | nil => simp
  | cons digit rest ih =>
    rw [List.foldl_cons, List.foldl_cons, ih (push radix start digit), ih (push radix 0 digit)]
    have place : Nat.pow radix (rest.length + 1) = Nat.pow radix rest.length * radix := rfl
    simp only [push, List.length_cons, place]
    grind

/-- A run holds the value of its digits one by one, and one place for each of them. -/
theorem takeRun_eq (radix depth : Nat) (digits : List Nat) :
    takeRun radix depth digits =
      (⟨(digits.take (Nat.pow 2 depth)).foldl (push radix) 0,
          Nat.pow radix (digits.take (Nat.pow 2 depth)).length⟩,
        digits.drop (Nat.pow 2 depth)) := by
  induction depth generalizing digits with
  | zero =>
    cases digits with
    | nil => rfl
    | cons digit rest =>
      have first : (digit :: rest).take (Nat.pow 2 0) = [digit] := rfl
      have single : [digit].foldl (push radix) 0 = digit := by
        simp only [List.foldl_cons, List.foldl_nil, push, Nat.zero_mul, Nat.zero_add]
      have place : Nat.pow radix 1 = radix := Nat.pow_one radix
      rw [first, single, List.length_singleton, place]
      rfl
  | succ depth ih =>
    have double : Nat.pow 2 (depth + 1) = Nat.pow 2 depth + Nat.pow 2 depth := Nat.mul_two _
    have places (first second : Nat) :
        Nat.pow radix (first + second) = Nat.pow radix first * Nat.pow radix second :=
      Nat.pow_add radix first second
    simp only [takeRun, ih, double, List.take_add, List.drop_drop, Run.append, List.foldl_append,
      List.length_append, places]
    rw [← foldl_push]

/-- The value of a sequence is the one that taking in its digits one by one gives. -/
theorem value_eq_foldl (radix : Nat) (digits : List Nat) :
    value radix digits = digits.foldl (push radix) 0 := by
  have short : digits.length ≤ Nat.pow 2 (digits.length.log2 + 1) := Nat.le_of_lt Nat.lt_log2_self
  rw [value, takeRun_eq, List.take_of_length_le short]

end ActionGateway.Digits
