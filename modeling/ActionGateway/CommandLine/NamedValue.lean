import ActionGateway.CommandLine.Error
import ActionGateway.Json.Reader
import ActionGateway.Text.Blank

/-! # Named values

Arguments that give a name and a value, with an equals sign between them.
-/

namespace ActionGateway.NamedValue

/-- The name and the text in an argument. Blank space around the name does not count, and the name
is not empty. The first equals sign ends it. -/
def parse (argument : String) : Except CommandError (String × String) :=
  match argument.toList.span (· != '=') with
  | (name, _ :: value) =>
    if Text.isBlankText (String.ofList name) then
      .error (.invalidArgument (.notNamed argument))
    else .ok (Text.trimmed (String.ofList name), String.ofList value)
  | _ => .error (.invalidArgument (.notNamed argument))

/-- The value that a text spells in JSON; the text itself when it spells none. -/
def valueOf (text : String) : Json :=
  (Json.ofText? text).getD (.str text)

/-- The name and the value in an argument. -/
def parseBinding (argument : String) : Except CommandError (String × Json) := do
  let (name, text) ← parse argument
  .ok (name, valueOf text)

/-- All arguments; the first that is wrong is reported. -/
def parseAll {α : Type} (parse : String → Except CommandError α) :
    List String → Except CommandError (List α)
  | [] => .ok []
  | argument :: rest => do
    let value ← parse argument
    let rest ← parseAll parse rest
    .ok (value :: rest)

end ActionGateway.NamedValue
