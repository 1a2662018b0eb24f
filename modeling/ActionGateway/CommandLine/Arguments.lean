import ActionGateway.CommandLine.Usage
import ActionGateway.Number.Literal

/-! # Arguments

A command takes options, in any place, and operands, in their order. An option has a long name,
written after two dashes, and may have a letter, written after one; letters can be written together.
Its value is attached to it or is the argument that follows. After two dashes alone there are only
operands.

An option whose value may still follow is pending: it is checked when the next option or operand
comes, or at the end. An argument that nobody knows is reported before what is wrong with the
pending option.
-/

namespace ActionGateway

/-- What the value of an option has to be. -/
inductive ValueKind where
  | text
  /-- A number of 64 bits. -/
  | unsigned
  | choice (names : List String)
  deriving DecidableEq, Repr

/-- How an option is used. -/
inductive OptionRole where
  /-- It takes no value and is given once. -/
  | switch
  /-- It takes a value and is given once. -/
  | single (value : ValueKind)
  /-- It takes a value and is given any number of times. -/
  | repeated
  | help
  | version
  deriving DecidableEq, Repr

/-- **Option of a command.** -/
structure OptionSpec where
  name : String
  letter : Option Char
  role : OptionRole
  deriving DecidableEq, Repr

/-- An option takes a value. -/
def OptionSpec.takesValue (option : OptionSpec) : Bool :=
  match option.role with
  | .single _ | .repeated => true
  | _ => false

/-- **What a command takes.** Subcommands have arguments of their own. -/
structure ArgumentSpec where
  options : List OptionSpec
  operands : List String
  subcommands : List String
  deriving DecidableEq, Repr

/-- An option with its value, which may not have come yet. -/
structure PendingOption where
  option : OptionSpec
  value : Option String
  deriving DecidableEq, Repr

/-- **Arguments given**: options with their values in their order, where the value of a switch is
empty, and operands. -/
structure GivenArguments where
  options : List (String × String)
  operands : List String
  pending : Option PendingOption
  deriving DecidableEq, Repr

/-- How an argument is written. -/
inductive ArgumentForm where
  | terminator
  | long (name : String) (value : Option String)
  | letters (letters : List Char)
  | plain
  deriving DecidableEq, Repr

namespace ArgumentForm

/-- The part before the first equals sign, and the part after it if there is one. -/
def splitValue (text : List Char) : String × Option String :=
  match text.span (· != '=') with
  | (name, _ :: value) => (String.ofList name, some (String.ofList value))
  | (name, []) => (String.ofList name, none)

/-- The form of an argument. One dash alone is plain. -/
def ofText (argument : String) : ArgumentForm :=
  match argument.toList with
  | ['-', '-'] => terminator
  | '-' :: '-' :: rest => long (splitValue rest).1 (splitValue rest).2
  | ['-'] => plain
  | '-' :: rest => letters rest
  | _ => plain

end ArgumentForm

namespace GivenArguments

/-- Nothing is given. -/
def none : GivenArguments := ⟨[], [], .none⟩

/-- The option was given. -/
def has (given : GivenArguments) (name : String) : Bool :=
  given.options.any fun entry => entry.1 == name

/-- The values of an option in their order. -/
def values (given : GivenArguments) (name : String) : List String :=
  (given.options.filter fun entry => entry.1 == name).map Prod.snd

/-- The value of an option. -/
def value? (given : GivenArguments) (name : String) : Option String :=
  given.options.lookup name

/-- The next argument is the value of an option. -/
def awaitsValue (given : GivenArguments) : Bool :=
  given.pending.any fun pending => pending.value.isNone

/-- Write down an option. -/
def add (given : GivenArguments) (name value : String) : GivenArguments :=
  { given with options := given.options ++ [(name, value)] }

/-- Write down an option that can be given once. -/
def addOnce (given : GivenArguments) (name value : String) : Except UsageError GivenArguments :=
  if given.has name then .error (.repeatedOption name) else .ok (given.add name value)

/-- Check the value of an option. -/
def checkValue (name value : String) : ValueKind → Except UsageError Unit
  | .text => .ok ()
  | .unsigned =>
    if (Literal.unsigned? 64 10 value.toList).isSome then .ok ()
    else .error (.malformedValue name value)
  | .choice names =>
    if names.contains value then .ok () else .error (.unknownChoice name value)

/-- Take an option with its value, which is empty for an option that takes none. -/
def accept (given : GivenArguments) (option : OptionSpec) (value : String) :
    Except UsageError GivenArguments :=
  match option.role with
  | .switch => given.addOnce option.name value
  | .single kind => do
    let given ← given.addOnce option.name value
    checkValue option.name value kind
    .ok given
  | .repeated => .ok (given.add option.name value)
  | .help => .error .helpWanted
  | .version => .error .versionWanted

/-- Check the pending option. -/
def settle (given : GivenArguments) : Except UsageError GivenArguments :=
  match given.pending with
  | .none => .ok given
  | .some ⟨option, .none⟩ => .error (.missingValue option.name)
  | .some ⟨option, .some value⟩ => { given with pending := .none }.accept option value

/-- An option whose value has to follow. -/
def await (given : GivenArguments) (option : OptionSpec) : Except UsageError GivenArguments := do
  let given ← given.settle
  .ok { given with pending := .some ⟨option, .none⟩ }

/-- An option that is complete. -/
def takeOption (given : GivenArguments) (option : OptionSpec) (value : String) :
    Except UsageError GivenArguments := do
  let given ← given.settle
  given.accept option value

/-- Take an option by its name. -/
def takeLong (given : GivenArguments) (spec : ArgumentSpec) (name : String)
    (value : Option String) : Except UsageError GivenArguments :=
  match spec.options.find? fun option => option.name == name with
  | .none => .error (.unknownArgument ("--" ++ name))
  | .some option =>
    match option.takesValue, value with
    | true, .some value => given.takeOption option value
    | true, .none => given.await option
    | false, .some value => .error (.unwantedValue option.name value)
    | false, .none => given.takeOption option ""

/-- What is attached to a letter, without an equals sign in front. -/
def attached : List Char → String
  | '=' :: value => String.ofList value
  | value => String.ofList value

/-- Take options by their letters. What follows the letter of an option with a value is the
value. -/
def takeLetters (spec : ArgumentSpec) (given : GivenArguments) :
    List Char → Except UsageError GivenArguments
  | [] => .ok given
  | letter :: rest =>
    match spec.options.find? fun option => option.letter == .some letter with
    | .none => .error (.unknownArgument ("-" ++ letter.toString))
    | .some option =>
      if option.takesValue then
        if rest.isEmpty then given.await option else given.takeOption option (attached rest)
      else do
        let given ← given.takeOption option ""
        takeLetters spec given rest

/-- The error for an operand that is one too many. -/
def surplus (spec : ArgumentSpec) (onlyOperands : Bool) (argument : String) : UsageError :=
  if spec.subcommands.isEmpty || onlyOperands && spec.subcommands.contains argument then
    .unknownArgument argument
  else .unknownSubcommand argument

/-- Take an operand. -/
def takeOperand (given : GivenArguments) (spec : ArgumentSpec) (onlyOperands : Bool)
    (argument : String) : Except UsageError GivenArguments :=
  if given.operands.length < spec.operands.length then do
    let given ← given.settle
    .ok { given with operands := given.operands ++ [argument] }
  else .error (surplus spec onlyOperands argument)

/-- Take an argument that is written like no option: the value of the pending option when that
waits for one, or else an operand. -/
def takePlain (given : GivenArguments) (spec : ArgumentSpec) (argument : String) :
    Except UsageError GivenArguments :=
  match given.pending with
  | .some ⟨option, .none⟩ => .ok { given with pending := .some ⟨option, .some argument⟩ }
  | _ => given.takeOperand spec false argument

/-- Take one argument; the answer tells whether only operands can follow. -/
def take (given : GivenArguments) (spec : ArgumentSpec) (argument : String) :
    Except UsageError (GivenArguments × Bool) :=
  match ArgumentForm.ofText argument with
  | .terminator => .ok (given, true)
  | .long name value => (given.takeLong spec name value).map (·, false)
  | .letters letters => (takeLetters spec given letters).map (·, false)
  | .plain => (given.takePlain spec argument).map (·, false)

/-- The first operand that is missing. -/
def missingOperand? (given : GivenArguments) (spec : ArgumentSpec) : Option String :=
  (spec.operands.drop given.operands.length).head?

/-- Check the pending option and that there are all operands. -/
def finish (given : GivenArguments) (spec : ArgumentSpec) : Except UsageError GivenArguments := do
  let given ← given.settle
  match given.missingOperand? spec with
  | .some name => .error (.missingOperand name)
  | .none => .ok given

end GivenArguments

/-- Arguments up to a subcommand. -/
structure ScannedArguments where
  given : GivenArguments
  /-- The subcommand with the arguments after it. -/
  subcommand : Option (String × List String)
  deriving DecidableEq, Repr

namespace ArgumentSpec

/-- Take arguments up to a subcommand or the end. -/
def scan (spec : ArgumentSpec) (given : GivenArguments) (onlyOperands : Bool) :
    List String → Except UsageError ScannedArguments
  | [] => .ok ⟨given, none⟩
  | argument :: rest =>
    if onlyOperands then do
      let given ← given.takeOperand spec true argument
      spec.scan given true rest
    else if !given.awaitsValue && spec.subcommands.contains argument then
      .ok ⟨given, some (argument, rest)⟩
    else do
      let (given, onlyOperands) ← given.take spec argument
      spec.scan given onlyOperands rest

/-- **Arguments of a command** that has no subcommands. -/
def read (spec : ArgumentSpec) (arguments : List String) : Except UsageError GivenArguments := do
  let scanned ← spec.scan .none false arguments
  scanned.given.finish spec

end ArgumentSpec

end ActionGateway
