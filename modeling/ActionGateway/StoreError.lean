/-! # Errors of definition stores -/

namespace ActionGateway

/-- **Store error.** What a store of definitions reports when it cannot answer. -/
inductive StoreError where
  /-- The definitions are not valid. -/
  | invalid (reason : String)
  /-- The definitions could not be decoded. -/
  | undecodable (reason : String)
  /-- The definitions could not be read. -/
  | unreadable (reason : String)
  deriving DecidableEq, Repr

namespace StoreError

/-- The text of an error. -/
def message : StoreError → String
  | invalid reason => "invalid: " ++ reason
  | undecodable reason => "serde: " ++ reason
  | unreadable reason => "io: " ++ reason

end StoreError

end ActionGateway
