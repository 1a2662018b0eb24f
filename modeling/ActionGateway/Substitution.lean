import ActionGateway.Binding
import ActionGateway.Json.Printer
import ActionGateway.Template.Marker

/-! # Substitution of bindings into configurations

Every string in a configuration is a template. A string that is exactly one placeholder takes the
bound value with its own type; in any other string each placeholder is replaced by the text of its
value. Text that comes from a value is never looked at again, so a value that looks like a
placeholder stays as it is.

A marker that does not resolve ends a strict substitution; a lenient one leaves it empty, records a
warning and goes on.
-/

namespace ActionGateway

/-- What an unresolved marker does. -/
inductive SubstitutionMode where
  | strict
  | lenient
  deriving DecidableEq, Repr, Inhabited

/-- An unresolved marker and the path of the string that holds it. -/
structure Unresolved where
  placeholder : String
  path : List String
  deriving DecidableEq, Repr

namespace Unresolved

/-- The path from the root, in dots. -/
def pathText (unresolved : Unresolved) : String :=
  ".".intercalate ("$" :: unresolved.path)

/-- The marker and its path. -/
def place (unresolved : Unresolved) : String :=
  "Unresolved binding '\x7b\x7b" ++ unresolved.placeholder ++ "\x7d\x7d' at " ++
    unresolved.pathText

/-- The text of the failure of a strict substitution. -/
def message (unresolved : Unresolved) : String := unresolved.place

/-- The text of the warning of a lenient substitution. -/
def warning (unresolved : Unresolved) : String := unresolved.place ++ " left empty"

end Unresolved

/-- The result of a substitution with what was left empty, in order. -/
structure Substituted (α : Type) where
  value : α
  warnings : List Unresolved
  deriving DecidableEq, Repr

/-- Part of a substitution: it ends at an unresolved marker, or gives a value and warnings. -/
def Pass (α : Type) : Type := Except Unresolved (Substituted α)

namespace Pass

variable {α β : Type}

/-- A value without warnings. -/
def done (value : α) : Pass α := .ok ⟨value, []⟩

/-- Go on with the value; warnings add up in order. -/
def andThen (first : Pass α) (next : α → Pass β) : Pass β :=
  match first with
  | .error unresolved => .error unresolved
  | .ok before =>
    match next before.value with
    | .error unresolved => .error unresolved
    | .ok after => .ok ⟨after.value, before.warnings ++ after.warnings⟩

instance : Monad Pass where
  pure := done
  bind := andThen

end Pass

/-- What a substitution works with: the bindings and the mode. -/
structure Substitution where
  bindings : Bindings
  mode : SubstitutionMode

namespace Substitution

/-- Meet an unresolved marker in the string at the given path. -/
def unresolved (pass : Substitution) (path : List String) (placeholder : String) : Pass Unit :=
  match pass.mode with
  | .strict => .error ⟨placeholder, path⟩
  | .lenient => .ok ⟨(), [⟨placeholder, path⟩]⟩

/-- Literal text after its first piece: each marker is unresolved, the text between stays. -/
def renderStrays (pass : Substitution) (path : List String) :
    List (String × List Char) → Pass (List Char)
  | [] => pure []
  | (marker, literal) :: rest => do
    pass.unresolved path marker
    let after ← renderStrays pass path rest
    pure (literal ++ after)

/-- Literal text. A marker in it is no placeholder and so never resolves. -/
def renderLiteral (pass : Substitution) (path : List String) (literal : List Char) :
    Pass (List Char) := do
  let pieces := Text.cut Template.strayMarker literal
  let after ← pass.renderStrays path pieces.tail
  pure (pieces.head ++ after)

/-- The text of one placeholder. -/
def renderPlaceholder (pass : Substitution) (path : List String) (name : String) :
    Pass (List Char) :=
  match pass.bindings.resolve? name with
  | some value => pure value.stringify.toList
  | none => do
    pass.unresolved path name
    pure []

/-- A template after its first literal: each placeholder and the literal that follows it. -/
def renderPieces (pass : Substitution) (path : List String) :
    List (String × List Char) → Pass (List Char)
  | [] => pure []
  | (name, literal) :: rest => do
    let value ← pass.renderPlaceholder path name
    let literal ← pass.renderLiteral path literal
    let after ← renderPieces pass path rest
    pure (value ++ (literal ++ after))

/-- A template as text. -/
def renderText (pass : Substitution) (path : List String) (template : String) : Pass String := do
  let pieces := Text.cut Template.placeholder template.toList
  let head ← pass.renderLiteral path pieces.head
  let after ← pass.renderPieces path pieces.tail
  pure (String.ofList (head ++ after))

/-- A template as a value. Exactly one placeholder gives the bound value itself. -/
def renderString (pass : Substitution) (path : List String) (template : String) : Pass Json :=
  match Text.wholeMarker? Template.placeholder template.toList with
  | some name =>
    match pass.bindings.resolve? name with
    | some value => pure value
    | none => do
      pass.unresolved path name
      pure (.str "")
  | none => do
    let text ← pass.renderText path template
    pure (.str text)

mutual

/-- Substitute into a value at the given path. -/
def json (pass : Substitution) (path : List String) : Json → Pass Json
  | .str template => pass.renderString path template
  | .arr items => do
    let items ← jsonItems pass path 0 items
    pure (.arr items)
  | .obj fields => do
    let fields ← jsonFields pass path fields
    pure (.obj fields)
  | scalar => pure scalar

/-- Substitute into the items of an array, from the given index on. -/
def jsonItems (pass : Substitution) (path : List String) (index : Nat) :
    List Json → Pass (List Json)
  | [] => pure []
  | item :: rest => do
    let item ← json pass (path ++ [toString index]) item
    let rest ← jsonItems pass path (index + 1) rest
    pure (item :: rest)

/-- Substitute into the values of the fields of an object. -/
def jsonFields (pass : Substitution) (path : List String) :
    List (String × Json) → Pass (List (String × Json))
  | [] => pure []
  | (name, value) :: rest => do
    let value ← json pass (path ++ [name]) value
    let rest ← jsonFields pass path rest
    pure ((name, value) :: rest)

end

/-- Substitute into each of a list, from the given index on. -/
def list {α : Type} (path : List String) (each : List String → α → Pass α) (index : Nat) :
    List α → Pass (List α)
  | [] => pure []
  | item :: rest => do
    let item ← each (path ++ [toString index]) item
    let rest ← list path each (index + 1) rest
    pure (item :: rest)

/-- Substitute into the values of the entries of a map. -/
def entries {α : Type} (path : List String) (each : List String → α → Pass α) :
    List (String × α) → Pass (List (String × α))
  | [] => pure []
  | (name, value) :: rest => do
    let value ← each (path ++ [name]) value
    let rest ← entries path each rest
    pure ((name, value) :: rest)

end Substitution

/-- What substitution applies to: values, texts, and lists, options and maps of these. -/
inductive Shape where
  | json
  | text
  | list (item : Shape)
  | option (item : Shape)
  | map (item : Shape)
  deriving DecidableEq, Repr

namespace Shape

/-- The values of a shape. -/
@[reducible] def Value : Shape → Type
  | json => Json
  | text => String
  | list item => List item.Value
  | option item => Option item.Value
  | map item => OrderedMap item.Value

/-- Substitute into a value of any shape. -/
def substituteAt (pass : Substitution) : (shape : Shape) → List String → shape.Value →
    Pass shape.Value
  | json, path, value => pass.json path value
  | text, path, template => pass.renderText path template
  | list item, path, items => Substitution.list path (substituteAt pass item) 0 items
  | option _, _, none => Pass.done none
  | option item, path, some value =>
    (substituteAt pass item path value).andThen fun value => Pass.done (some value)
  | map item, path, value =>
    (Substitution.entries path (substituteAt pass item) value.entries).andThen fun entries =>
      Pass.done (OrderedMap.ofList entries)

/-- **Substitution.** Put the bindings into a value of any shape. -/
def substitute (shape : Shape) (value : shape.Value) (bindings : Bindings)
    (mode : SubstitutionMode) : Except Unresolved (Substituted shape.Value) :=
  substituteAt ⟨bindings, mode⟩ shape [] value

end Shape

/-- Put the bindings into a JSON value. -/
def Json.substitute (value : Json) (bindings : Bindings) (mode : SubstitutionMode) :
    Except Unresolved (Substituted Json) :=
  Shape.json.substitute value bindings mode

end ActionGateway
