import ActionGateway.Document.Error
import ActionGateway.Failure
import ActionGateway.Substitution

/-! # Rejections

Why an invocation is stopped before any executor runs, cause by cause, and how each is told.
-/

namespace ActionGateway

/-- The part of an upload that describes the invocation. -/
def descriptorName : String := "executeActionDTO"

/-- The part of an upload that says which part carries the value of which binding. -/
def parameterMapName : String := "parameterMap"

/-- Why a content type gives no boundary. -/
inductive BoundaryFault where
  | notMediaType
  | notFormData
  | noBoundary
  deriving DecidableEq, Repr

/-- The text of a fault. -/
def BoundaryFault.message : BoundaryFault → String
  | notMediaType => "failed to decode Content-Type"
  | notFormData => "Content-Type is not multipart/form-data"
  | noBoundary => "multipart boundary not found in Content-Type"

/-- What is wrong with the input of a caller. -/
inductive Malformation where
  /-- What the transport says about a failure of its own. -/
  | transport (reason : String)
  | unnamedPart
  | unnamedParameter
  | duplicateDescriptor
  | missingDescriptor
  | descriptorWithoutAction
  | notJson (part : String)
  | notText (part : String)
  | unsupportedCharset (part charset : String)
  | fieldTooLarge (part : String) (limit : Nat)
  | attachmentTooLarge (part : String) (limit : Nat)
  /-- A decoder cannot go on with a multipart body, for the given reason. -/
  | multipart (reason : String)
  | unreadablePart (part reason : String)
  | boundary (fault : BoundaryFault)
  deriving DecidableEq, Repr

/-- The text of a malformation. -/
def Malformation.message : Malformation → String
  | transport reason => reason
  | unnamedPart => "Upload part without a name"
  | unnamedParameter => "Query or header parameter without a name"
  | duplicateDescriptor => "Duplicate '" ++ descriptorName ++ "' part"
  | missingDescriptor => "Missing '" ++ descriptorName ++ "' part"
  | descriptorWithoutAction => "'" ++ descriptorName ++ "' has no actionId"
  | notJson part => "Part '" ++ part ++ "' is not valid JSON: <detail>"
  | notText part => "Part '" ++ part ++ "' is not valid UTF-8 text"
  | unsupportedCharset part charset =>
    "Part '" ++ part ++ "' uses unsupported charset '" ++ charset ++ "'"
  | fieldTooLarge part limit =>
    "Part '" ++ part ++ "' exceeds the " ++ toString limit ++ " byte field limit"
  | attachmentTooLarge part limit =>
    "Attachment '" ++ part ++ "' exceeds the " ++ toString limit ++ " byte limit"
  | multipart reason => "Invalid multipart body: " ++ reason
  | unreadablePart part reason => "Failed to read part '" ++ part ++ "': " ++ reason
  | boundary fault => "Invalid multipart content type: " ++ fault.message

/-- Why no version of an action can be run. -/
inductive MissingAction where
  | unknown (action : String)
  | noApplication (application action : String)
  | noDefaultLine (base : String)
  | notOnBranch (base branch : String)
  | notPublished (action : String)
  deriving DecidableEq, Repr

/-- The text of a cause. -/
def MissingAction.message : MissingAction → String
  | unknown action => "No action with id '" ++ action ++ "'"
  | noApplication application action =>
    "Application '" ++ application ++ "' of action '" ++ action ++ "' does not exist"
  | noDefaultLine base => "No default-line action with id '" ++ base ++ "'"
  | notOnBranch base branch =>
    "Action '" ++ base ++ "' does not exist on branch '" ++ branch ++ "'"
  | notPublished action => "Action '" ++ action ++ "' has no published definition"

/-- **Rejection.** -/
inductive Rejection where
  | malformed (cause : Malformation)
  | branchNotFound (application branch : String)
  | environmentNotConfigured (datasource environment : String)
  | actionNotFound (cause : MissingAction)
  | datasourceNotFound (datasource : String)
  | unresolvedBinding (unresolved : Unresolved)
  | storeFailed (cause : StoreError)
  /-- A file cannot be read, or a new one cannot be kept at a path. -/
  | fileFailed (cause : FileError) (path : Option String)
  deriving DecidableEq, Repr

namespace Rejection

/-- The text of a rejection. -/
def message : Rejection → String
  | malformed cause => "Malformed parameter: " ++ cause.message
  | branchNotFound application branch =>
    "Branch '" ++ branch ++ "' not found for application '" ++ application ++ "'"
  | environmentNotConfigured datasource environment =>
    "Datasource '" ++ datasource ++ "' is not configured for environment '" ++ environment ++ "'"
  | actionNotFound cause => "Action not found: " ++ cause.message
  | datasourceNotFound datasource => "Datasource not found: " ++ datasource
  | unresolvedBinding unresolved => unresolved.message
  | storeFailed cause => "Store error: " ++ cause.message
  | fileFailed cause none => "IO error: " ++ cause.message
  | fileFailed cause (some path) =>
    "IO error: " ++ cause.message ++ " at path " ++ Text.quoted path

/-- The kind of failure that callers see. -/
def kind : Rejection → FailureKind
  | malformed _ => .malformedParameter
  | branchNotFound _ _ => .branchNotFound
  | environmentNotConfigured _ _ => .environmentNotConfigured
  | actionNotFound _ => .actionNotFound
  | datasourceNotFound _ => .datasourceNotFound
  | unresolvedBinding _ => .unresolvedBinding
  | storeFailed _ | fileFailed _ _ => .internal

end Rejection

end ActionGateway
