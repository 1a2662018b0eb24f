import ActionGateway.Yaml.Printer

/-! # Formats of output

What a command has to show is a JSON value, written in one of three ways.
-/

namespace ActionGateway

/-- **Output format.** -/
inductive OutputFormat where
  /-- JSON with a line for each item and field. -/
  | pretty
  /-- JSON in one line. -/
  | json
  | yaml
  deriving DecidableEq, Repr

namespace OutputFormat

/-- All formats. -/
def all : List OutputFormat := [pretty, json, yaml]

/-- The name of a format. -/
def name : OutputFormat → String
  | pretty => "pretty"
  | json => "json"
  | yaml => "yaml"

/-- The format with a name. -/
def ofName? (name : String) : Option OutputFormat :=
  all.find? fun format => format.name == name

/-- The text of a value. That of YAML ends its last line. -/
def text (format : OutputFormat) (value : Json) : String :=
  match format with
  | pretty => value.pretty
  | json => value.compact
  | yaml => Yaml.text value

end OutputFormat

end ActionGateway
