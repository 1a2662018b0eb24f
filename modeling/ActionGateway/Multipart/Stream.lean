import ActionGateway.Multipart.Field
import ActionGateway.Upload.Source

/-! # Streams of parts

A decoder is asked for one field of a form after the other. The stream of parts asks it until it
fails or has nothing more, and gives it up then: there is no way to tell whether a decoder that has
failed goes on, or fails again at every request.
-/

namespace ActionGateway

/-- **Decoder of forms**: where it starts, given a boundary, the chunks of a body and whether the
transport breaks off behind them, and what it gives at each request. Its faults come as texts. -/
structure FormDecoder (δ : Type) where
  start : String → List Bytes → Bool → δ
  fields : Source δ (Except String FormField)

namespace Multipart

section

variable {δ ε : Type} (told : ε → Rejection) (decoder : Source δ (Except ε UploadPart))

/-- What arrives next from a decoder, and the decoder after it unless it has failed. -/
def next : Option δ → Option (Arrival × Option δ)
  | none => none
  | some state =>
    match (decoder.ask state).1 with
    | none => none
    | some (.ok part) => some (.part part, some (decoder.ask state).2)
    | some (.error fault) => some (.failed (told fault), none)

/-- **The stream of parts** that comes from a decoder. Nobody asks it again once it has ended;
`late` says what would be answered. -/
def stream (start : δ) (late : Nat → Option Arrival) : Nat → Option Arrival :=
  Source.unfolded late (next told decoder) (some start)

end

end Multipart

namespace FormDecoder

variable {δ : Type} (decoder : FormDecoder δ)

/-- The parts that the fields become. -/
def parts : Source δ (Except String UploadPart) :=
  decoder.fields.map (Except.map FormField.part)

/-- The stream of the parts of a body. -/
def stream (boundary : String) (chunks : List Bytes) (interrupted : Bool)
    (late : Nat → Option Arrival) : Nat → Option Arrival :=
  Multipart.stream (fun reason => .malformed (.multipart reason)) decoder.parts
    (decoder.start boundary chunks interrupted) late

end FormDecoder

end ActionGateway
