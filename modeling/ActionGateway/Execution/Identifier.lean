import ActionGateway.Text.Quoted

/-! # Identifiers of executions

An execution has an id made from random bytes: hexadecimal digits in five groups, where six bits
tell how the id was made.
-/

namespace ActionGateway.Identifier

/-- A byte with the upper bits replaced. -/
def marked (mark keep byte : Nat) : Nat := mark + byte % keep

/-- The bytes of an id: the seventh carries the version and the ninth the variant. -/
def stamp : List Nat → List Nat
  | a :: b :: c :: d :: e :: f :: version :: h :: variant :: rest =>
    a :: b :: c :: d :: e :: f :: marked 64 16 version :: h :: marked 128 64 variant :: rest
  | bytes => bytes

/-- The digits of bytes. -/
def digits (bytes : List Nat) : List Char :=
  bytes.flatMap fun byte => [Text.hexDigit (byte / 16 % 16), Text.hexDigit (byte % 16)]

/-- The text of an id from sixteen random bytes. -/
def ofRandom (bytes : List Nat) : String :=
  let stamped := stamp bytes
  String.ofList (digits (stamped.take 4) ++ '-' :: digits ((stamped.drop 4).take 2) ++
    '-' :: digits ((stamped.drop 6).take 2) ++ '-' :: digits ((stamped.drop 8).take 2) ++
    '-' :: digits (stamped.drop 10))

end ActionGateway.Identifier
