import ActionGateway.Definitions
import ActionGateway.Rejection

/-! # Reading definitions step by step

A reading is a computation that looks up definitions one after the other and ends in a value or a
rejection. It says which record it wants next and how it goes on from the answer, so it can be run
in one go or one look-up at a time, with other things happening in between.
-/

namespace ActionGateway

/-- **Reading.** -/
inductive Reading (α : Type) where
  | done (value : α)
  | rejected (reason : Rejection)
  | application (id : String) (next : Option Application → Reading α)
  | action (id : String) (next : Option Action → Reading α)
  | copyOnBranch (base branch : String) (next : Option Action → Reading α)
  | datasource (id : String) (next : Option Datasource → Reading α)

namespace Reading

variable {α β : Type}

/-- Go on with the value of a reading. -/
def andThen : Reading α → (α → Reading β) → Reading β
  | done value, next => next value
  | rejected reason, _ => rejected reason
  | application id rest, next => application id fun found => (rest found).andThen next
  | action id rest, next => action id fun found => (rest found).andThen next
  | copyOnBranch base branch rest, next =>
    copyOnBranch base branch fun found => (rest found).andThen next
  | datasource id rest, next => datasource id fun found => (rest found).andThen next

instance : Monad Reading where
  pure := done
  bind := andThen

/-- What was found, or a rejection when nothing was. -/
def orReject (found : Option α) (reason : Rejection) : Reading α :=
  match found with
  | some value => done value
  | none => rejected reason

/-- Go on with what a reader answers. A reader that fails ends the reading. -/
def receive (answer : Except StoreError (Option β)) (next : Option β → Reading α) : Reading α :=
  match answer with
  | .ok found => next found
  | .error cause => rejected (.storeFailed cause)

/-- One look-up. A reading that is over stays as it is. -/
def step (reader : DefinitionReader) : Reading α → Reading α
  | done value => done value
  | rejected reason => rejected reason
  | application id next => receive (reader.application id) next
  | action id next => receive (reader.action id) next
  | copyOnBranch base branch next => receive (reader.copyOnBranch base branch) next
  | datasource id next => receive (reader.datasource id) next

/-- All look-ups, with one reader. -/
def run (reader : DefinitionReader) : Reading α → Except Rejection α
  | done value => .ok value
  | rejected reason => .error reason
  | application id next =>
    match reader.application id with
    | .ok found => run reader (next found)
    | .error cause => .error (.storeFailed cause)
  | action id next =>
    match reader.action id with
    | .ok found => run reader (next found)
    | .error cause => .error (.storeFailed cause)
  | copyOnBranch base branch next =>
    match reader.copyOnBranch base branch with
    | .ok found => run reader (next found)
    | .error cause => .error (.storeFailed cause)
  | datasource id next =>
    match reader.datasource id with
    | .ok found => run reader (next found)
    | .error cause => .error (.storeFailed cause)

end Reading

end ActionGateway
