import ActionGateway.CommandLine.Error
import ActionGateway.CommandLine.Command
import ActionGateway.Envelope

/-! # Reports

What a command has to show once it has run: warnings, a text for the output or for a file, and how
it ended. The transcript of a report is what is written to the two streams.
-/

namespace ActionGateway

/-- **Report of a command.** -/
structure CommandReport where
  warnings : List String
  text : String
  /-- The file that the text goes to instead of the output. -/
  destination : Option String
  /-- A closing line about success. -/
  closing : Option String
  failure : Option CommandError
  /-- The time that the command waited for an executor. -/
  waitMs : Nat
  deriving DecidableEq, Repr

/-- **Transcript**: what a command wrote, and the error it ended with. -/
structure Transcript where
  output : String
  messages : String
  error : Option CommandError
  deriving DecidableEq, Repr

/-- Text as a line. -/
def asLine (text : String) : String := text ++ "\n"

/-- Lines one after the other. -/
def asLines (texts : List String) : String :=
  String.join (texts.map asLine)

namespace Transcript

/-- The transcript of a command that has nothing to show but an error. -/
def ofError (error : CommandError) : Transcript := ⟨"", "", some error⟩

end Transcript

namespace CommandReport

/-- The lines for warnings. -/
def warningLines (report : CommandReport) : String :=
  asLines (report.warnings.map fun warning => "Warning: " ++ warning)

/-- The transcript when the text is written to the output. -/
def printed (report : CommandReport) (output : String) : Transcript where
  output := asLine output
  messages := report.warningLines ++ asLines report.closing.toList
  error := report.failure

/-- **Transcript of a report**, given whether its text could be written to the file. -/
def transcript (report : CommandReport) (written : Except FileError Unit) : Transcript :=
  match report.destination, written with
  | none, _ => report.printed report.text
  | some path, .ok () => report.printed ("✓ Output written to: " ++ path)
  | some _, .error cause => ⟨"", report.warningLines, some (.fileFailed cause)⟩

end CommandReport

/-- The closing line about an envelope. Only the format that is made for readers has one. -/
def Envelope.closingLine? (envelope : Envelope) (format : OutputFormat) : Option String :=
  if format = .pretty ∧ envelope.failure = none then
    some ("✓ " ++ envelope.actionId ++ " in " ++ toString envelope.durationMs ++ "ms")
  else none

/-- The report of an execution that took some time. -/
def Envelope.report (envelope : Envelope) (waitMs : Nat) (options : RunOptions) :
    CommandReport where
  warnings := envelope.warnings
  text := options.format.text envelope.json
  destination := options.output
  closing := envelope.closingLine? options.format
  failure := envelope.failure.map CommandError.executionFailed
  waitMs := waitMs

end ActionGateway
