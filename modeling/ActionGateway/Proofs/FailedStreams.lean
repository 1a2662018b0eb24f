import ActionGateway.Multipart.Reader
import ActionGateway.Proofs.DrainedSources
import ActionGateway.Upload.Intake

/-!
# Streams that fail

The body of a part and the parts of an upload are streams that may fail. A decoder repeats its
failure at every request, so what ends the loops over such streams is that the streams themselves
close: each gives what comes up to its first failure and then nothing. This holds of every source
and of every decoder, with or without an end and whatever they give after a failure. A body stays
silent for ever; a stream of parts may do anything when it is asked again after its end, which no
loop does. The contents of bodies and the intake of an upload are what the loops over these streams
make of them.
-/

namespace ActionGateway

/-! ## Contents of bodies -/

/-- What comes of a body is a chunk or a failure. -/
def BodyItem.ofResult : Except Rejection Bytes → BodyItem
  | .ok bytes => .chunk bytes
  | .error reason => .failed reason

/-- Cutting a body after its first failure makes it no longer. -/
theorem length_upToFailure_le (items : List BodyItem) :
    (upToFailure items).length ≤ items.length := by
  induction items with
  | nil => exact Nat.le_refl 0
  | cons item rest ih =>
      cases item with
      | chunk bytes => exact Nat.succ_le_succ ih
      | failed reason => exact Nat.succ_le_succ (Nat.zero_le _)
      | stall => exact Nat.succ_le_succ ih

section Contents

variable (results : List (Except Rejection Bytes))

/-- What a part holds of a body that is at hand is what the requests for it get. -/
theorem answer_upToFailure_ofList (n : Nat) :
    ((Source.ofList.upToFailure.answer (Source.untouched results) n).map BodyItem.ofResult) =
      (upToFailure (results.map .ofResult))[n]? := by
  induction results generalizing n with
  | nil =>
      have nothing := (Source.endsAfter_upToFailure Source.ofList
        ([] : List (Except Rejection Bytes))).none_of_none (Source.answer_ofList [] n)
      rw [nothing]
      rfl
  | cons result rest ih =>
      cases result with
      | ok bytes =>
          cases n with
          | zero => rfl
          | succ n => exact ih n
      | error reason =>
          cases n with
          | zero => rfl
          | succ n =>
              have failed : some true ≠ some false := by decide
              exact congrArg (Option.map BodyItem.ofResult)
                (Source.ofList.answer_after_failure failed rest n)

/-- The loop that puts together the content of a body, which may have at most `limit` bytes. -/
def reading (limit : Nat) (excess : Rejection) :
    Loop Bytes (Except Rejection Bytes) (Outcome Bytes) where
  turn
    | _, .error reason => .inl (.rejected reason)
    | content, .ok bytes =>
      if limit < content.length + bytes.length then .inl (.rejected excess)
      else .inr (content ++ bytes)
  finish := .done

/-- Going on with a reading is `readBody`, started from the content read so far. -/
theorem reading_through (limit : Nat) (excess : Rejection) (content : Bytes) :
    (reading limit excess).through content results =
      (readBody limit excess content.length (results.map .ofResult)).andThen fun after =>
        .done (content ++ after) := by
  induction results generalizing content with
  | nil => exact congrArg Outcome.done (List.append_nil content).symm
  | cons result rest ih =>
      cases result with
      | error reason => rfl
      | ok bytes =>
          rw [Loop.through, List.map_cons, BodyItem.ofResult, readBody]
          by_cases large : limit < content.length + bytes.length
          · simp only [reading, if_pos large]
            rfl
          · have whole := ih (content ++ bytes)
            rw [List.length_append] at whole
            simp only [reading, if_neg large]
            refine whole.trans ?_
            cases readBody limit excess (content.length + bytes.length)
                (rest.map BodyItem.ofResult) with
            | done after => exact congrArg Outcome.done (List.append_assoc content bytes after)
            | rejected reason => rfl
            | stalled => rfl

/-- The content of a part is what the loop makes of its body, and reading it ends as the loop
does. -/
theorem readBody_eq_iff_drains (name : String) (filename contentType : Option String) (limit : Nat)
    (excess : Rejection) (outcome : Outcome Bytes) :
    readBody limit excess 0
        (UploadPart.ofBody name filename contentType (results.map .ofResult)).body = outcome ↔
      (reading limit excess).Drains
        (Source.ofList.upToFailure.answer (Source.untouched results)) [] outcome := by
  have nothing : Source.ofList.upToFailure.answer (Source.untouched results) results.length =
      none :=
    (Source.endsAfter_upToFailure Source.ofList results).none_of_none
      ((Source.answer_ofList results _).trans (List.getElem?_eq_none (Nat.le_refl _)))
  have held : (given results.length
      (Source.ofList.upToFailure.answer (Source.untouched results))).map BodyItem.ofResult =
        upToFailure (results.map .ofResult) := by
    have short := length_upToFailure_le (results.map .ofResult)
    rw [List.length_map] at short
    rw [← given_map, funext (answer_upToFailure_ofList results), given_getElem?,
      List.take_of_length_le short]
  have whole : (readBody limit excess 0 (upToFailure (results.map .ofResult))).andThen
      (fun after => .done ([] ++ after)) =
        readBody limit excess 0 (upToFailure (results.map .ofResult)) := by
    cases readBody limit excess 0 (upToFailure (results.map .ofResult)) <;> rfl
  rw [Loop.drains_iff nothing, reading_through, held, List.length_nil, whole]
  exact eq_comm

end Contents

/-! ## Streams of parts -/

/-- What arrives when a decoder gives a part or fails. -/
def Arrival.ofDecoded {ε : Type} (told : ε → Rejection) : Except ε UploadPart → Arrival
  | .ok decoded => .part decoded
  | .error fault => .failed (told fault)

/-- The answer is anything but a part. -/
def NoPart (answer : Option Arrival) : Prop :=
  ∀ part, answer ≠ some (.part part)

/-- The end of the stream is no part. -/
theorem noPart_none : NoPart none :=
  fun _ same => nomatch same

/-- A failure is no part. -/
theorem noPart_failed (reason : Rejection) : NoPart (some (.failed reason)) :=
  fun _ same => nomatch same

/-- Nothing comes when a stream is asked again after its end. -/
def Silent (late : Nat → Option Arrival) : Prop :=
  ∀ n, late n = none

/-- The request does not come after that for the end of so many items, unless nothing comes after
the end. -/
def Awaited (late : Nat → Option Arrival) (count n : Nat) : Prop :=
  n ≤ count ∨ Silent late

/-- An answer awaited one place further of a stream with one part more is awaited here. -/
theorem Awaited.of_succ {late : Nat → Option Arrival} {count n : Nat}
    (awaited : Awaited late (count + 1) (n + 1)) : Awaited late count n :=
  awaited.imp_left Nat.le_of_succ_le_succ

section Decoders

variable {δ ε : Type} (told : ε → Rejection) (decoder : Source δ (Except ε UploadPart))
  (late : Nat → Option Arrival)

/-- An answer of the decoder that gives a part is a decoded part. -/
theorem exists_part_of_not_noPart {answer : Option (Except ε UploadPart)}
    (found : ¬ NoPart (answer.map (.ofDecoded told))) : ∃ part, answer = some (.ok part) := by
  match answer with
  | none => exact absurd noPart_none found
  | some (.ok part) => exact ⟨part, rfl⟩
  | some (.error fault) => exact absurd (noPart_failed _) found

namespace Multipart

/-- The first answer of the stream is that of the decoder, a fault told as a rejection. -/
theorem stream_zero (state : δ) :
    stream told decoder state late 0 = (decoder.ask state).1.map (.ofDecoded told) := by
  rw [stream, Source.unfolded, next]
  match (decoder.ask state).1 with
  | none => rfl
  | some (.ok _) => rfl
  | some (.error _) => rfl

/-- After a decoded part the stream goes on from the next state of the decoder. -/
theorem stream_succ_of_part {state : δ} {part : UploadPart}
    (decoded : (decoder.ask state).1 = some (.ok part)) (n : Nat) :
    stream told decoder state late (n + 1) = stream told decoder (decoder.ask state).2 late n := by
  rw [stream, Source.unfolded, next, decoded]
  rfl

/-- Behind a fault of the decoder the stream has ended. -/
theorem stream_one_of_failed {state : δ} {fault : ε}
    (failed : (decoder.ask state).1 = some (.error fault)) :
    stream told decoder state late 1 = none := by
  rw [stream, Source.unfolded, next, failed]
  rfl

variable {late} in
/-- If nothing comes late, no answer stands behind an end or a fault. -/
theorem stream_succ_of_silent (silent : Silent late) {state : δ}
    (noPart : NoPart ((decoder.ask state).1.map (.ofDecoded told))) (n : Nat) :
    stream told decoder state late (n + 1) = none := by
  rw [stream, Source.unfolded, next]
  match answer : (decoder.ask state).1 with
  | none => exact silent n
  | some (.ok part) =>
      rw [answer] at noPart
      exact absurd rfl (noPart part)
  | some (.error _) =>
      cases n with
      | zero => rfl
      | succ n => exact silent n

/-- What a stream of parts and its decoder have to do with each other at each request. -/
def Streams (answers ending : Nat → Option Arrival) : Prop :=
  ∃ state, answers = (fun n => (decoder.answer state n).map (.ofDecoded told)) ∧
    ending = stream told decoder state late

/-- A stream and its ending agree on their first answer. -/
theorem Streams.first (answers ending : Nat → Option Arrival)
    (streams : Streams told decoder late answers ending) : ending 0 = answers 0 := by
  obtain ⟨state, rfl, rfl⟩ := streams
  exact stream_zero told decoder late state

/-- Behind a part they stream again, each less its first answer. -/
theorem Streams.goesOn (answers ending : Nat → Option Arrival)
    (streams : Streams told decoder late answers ending) (decoded : ¬ NoPart (answers 0)) :
    Streams told decoder late (later answers) (later ending) := by
  obtain ⟨state, rfl, rfl⟩ := streams
  obtain ⟨part, decoded⟩ := exists_part_of_not_noPart told decoded
  exact ⟨(decoder.ask state).2, rfl, funext (stream_succ_of_part told decoder late decoded)⟩

/-- **A stream of parts closes** after the first answer of its decoder that is no part. -/
theorem closesAfter_stream (start : δ) :
    ClosesAfter NoPart (fun n => (decoder.answer start n).map (.ofDecoded told))
      (stream told decoder start late) := by
  apply ClosesAfter.of_steps (Streams told decoder late) (Streams.first told decoder late)
    (Streams.goesOn told decoder late) ⟨start, rfl, rfl⟩
  rintro _ _ ⟨state, rfl, rfl⟩ noPart
  match answer : (decoder.ask state).1 with
  | none =>
      left
      rw [stream_zero, answer]
      rfl
  | some (.ok part) =>
      change NoPart ((decoder.ask state).1.map _) at noPart
      rw [answer] at noPart
      exact absurd rfl (noPart part)
  | some (.error _) => exact .inr (stream_one_of_failed told decoder late answer)

variable {late} in
/-- Where nothing comes after the end, a stream of parts ends there. -/
theorem endsAfter_stream (silent : Silent late) (start : δ) :
    EndsAfter NoPart (fun n => (decoder.answer start n).map (.ofDecoded told))
      (stream told decoder start late) := by
  apply EndsAfter.of_steps (Streams told decoder late) (Streams.first told decoder late)
    (Streams.goesOn told decoder late) ⟨start, rfl, rfl⟩
  rintro _ _ ⟨state, rfl, rfl⟩ noPart n
  exact stream_succ_of_silent told decoder silent noPart n

/-- A failure is the last thing that a stream of parts gives. -/
theorem stream_after_failure (start : δ) {m n : Nat} {reason : Rejection}
    (got : ∀ k < m, stream told decoder start late k ≠ none) (beyond : m < n)
    (awaited : Awaited late (m + 1) n)
    (failed : stream told decoder start late m = some (.failed reason)) :
    stream told decoder start late n = none := by
  have isLast : NoPart (stream told decoder start late m) := failed ▸ noPart_failed reason
  rcases awaited with first | silent
  · obtain rfl : n = m + 1 := Nat.le_antisymm first beyond
    refine (closesAfter_stream told decoder late start).closes_own (fun k within => ?_) isLast
    rcases Nat.lt_or_eq_of_le within with earlier | rfl
    · exact got k earlier
    · rw [failed]
      exact Option.some_ne_none _
  · exact (endsAfter_stream told decoder silent start).beyond_own beyond isLast

variable {told decoder late} {state : δ}

/-- A decoder at its end streams nothing wherever an answer is awaited. -/
theorem stream_of_none (nothing : (decoder.ask state).1 = none) {n : Nat}
    (awaited : Awaited late 0 n) :
    stream told decoder state late n = ([] : List Arrival)[n]? := by
  cases n with
  | zero => rw [stream_zero, nothing]; rfl
  | succ n =>
      have silent := awaited.resolve_left (Nat.not_succ_le_zero n)
      exact stream_succ_of_silent told decoder silent (by rw [nothing]; exact noPart_none) n

/-- A decoder at a fault streams that failure alone. -/
theorem stream_of_fault {fault : ε} (failed : (decoder.ask state).1 = some (.error fault))
    {n : Nat} (awaited : Awaited late 1 n) :
    stream told decoder state late n = [Arrival.failed (told fault)][n]? := by
  match n with
  | 0 => rw [stream_zero, failed]; rfl
  | 1 => exact stream_one_of_failed told decoder late failed
  | n + 2 =>
      have silent := awaited.resolve_left (by omega)
      exact stream_succ_of_silent told decoder silent (by rw [failed]; exact noPart_failed _) _

/-- A decoder at a part streams it before whatever its next state streams. -/
theorem stream_of_part {part : UploadPart} {rest : List Arrival}
    (decoded : (decoder.ask state).1 = some (.ok part))
    (others : ∀ {n}, Awaited late rest.length n →
      stream told decoder (decoder.ask state).2 late n = rest[n]?)
    {n : Nat} (awaited : Awaited late (rest.length + 1) n) :
    stream told decoder state late n = (.part part :: rest)[n]? := by
  cases n with
  | zero => rw [stream_zero, decoded]; rfl
  | succ n => exact (stream_succ_of_part told decoder late decoded n).trans (others awaited.of_succ)

end Multipart

end Decoders

/-! ## What the decoder makes of a body -/

namespace Multipart

/-- What stands behind a prefix is shorter by the length of the prefix. -/
theorem length_after?_le {expected bytes rest : Bytes} (found : after? expected bytes = some rest) :
    rest.length + expected.length ≤ bytes.length := by
  unfold after? at found
  by_cases starts : expected.isPrefixOf bytes = true
  · rw [if_pos starts, Option.some_inj] at found
    have fits := (List.isPrefixOf_iff_prefix.mp starts).length_le
    rw [← found, List.length_drop]
    omega
  · rw [if_neg starts] at found
    exact nomatch found

/-- What stands behind the first mark is no longer than the whole. -/
theorem length_splitAtMark_le {mark before bytes passed rest : Bytes}
    (found : splitAtMark mark before bytes = some (passed, rest)) :
    rest.length ≤ bytes.length := by
  induction bytes generalizing before with
  | nil => exact nomatch found
  | cons byte others ih =>
      rw [splitAtMark] at found
      split at found
      · cases found
        rw [List.length_drop]
        exact Nat.sub_le _ _
      · exact Nat.le_succ_of_le (ih found)

/-- A field takes at least the line break after the delimiter. -/
theorem length_continuation_lt {boundary : String} {bytes content rest : Bytes}
    {headers : List PartHeader}
    (continued : continuation boundary bytes = .field headers content rest) :
    rest.length < bytes.length := by
  unfold continuation at continued
  split at continued
  · exact nomatch continued
  split at continued
  · exact nomatch continued
  split at continued
  · exact nomatch continued
  next behind line =>
  split at continued
  · exact nomatch continued
  next block body headed =>
  split at continued
  · exact nomatch continued
  split at continued
  next closed =>
    cases continued
    have breaks := length_after?_le line
    have unblank := (List.dropWhile_sublist PartHeader.isBlankByte (l := bytes)).length_le
    have headers := length_splitAtMark_le headed
    have closes := length_splitAtMark_le closed
    have two : lineBreak.length = 2 := rfl
    omega
  next => exact nomatch continued

section Reader

variable {boundary : String} {late : Nat → Option Arrival}

/-- The parts of the decoder that runs uploads. -/
def readParts : Source Progress (Except String UploadPart) :=
  (reader Disposition.attribute?).parts

/-- What follows a delimiter arrives as the decoder goes on from there. The induction is on the
fuel, which is more than the bytes that are left. -/
theorem stream_of_continuation {fuel : Nat} {bytes : Bytes} (enough : bytes.length < fuel)
    {state : Progress}
    (asked : (reader Disposition.attribute?).fields.ask state =
      (continuation boundary bytes).decoded Disposition.attribute? boundary) {n : Nat}
    (awaited : Awaited late (arrivals boundary fuel bytes).length n) :
    stream (fun reason => .malformed (.multipart reason)) readParts state late n =
      (arrivals boundary fuel bytes)[n]? := by
  have answer : (readParts.ask state).1 =
      ((continuation boundary bytes).decoded Disposition.attribute? boundary).1.map
        (Except.map FormField.part) := by
    rw [← asked]
    rfl
  have after : (readParts.ask state).2 =
      ((continuation boundary bytes).decoded Disposition.attribute? boundary).2 := by
    rw [← asked]
    rfl
  induction fuel generalizing bytes state n with
  | zero => exact absurd enough (Nat.not_lt_zero _)
  | succ fuel ih =>
      rw [arrivals] at awaited ⊢
      cases continued : continuation boundary bytes with
      | finished =>
          rw [continued] at answer awaited
          exact stream_of_none answer awaited
      | broken fault =>
          rw [continued] at answer awaited
          exact stream_of_fault answer awaited
      | openField headers =>
          rw [continued] at answer after awaited
          refine stream_of_part answer (fun others => ?_) awaited
          rw [after]
          exact stream_of_none rfl others
      | field headers content rest =>
          rw [continued] at answer after awaited
          have shorter := length_continuation_lt continued
          refine stream_of_part answer (fun others => ?_) awaited
          rw [after]
          exact ih (Nat.lt_of_lt_of_le shorter (Nat.le_of_lt_succ enough)) rfl others rfl rfl

/-- **The parts of a body** are the stream of what the decoder gives. -/
theorem streamChunks_eq (chunks : List Bytes) (interrupted : Bool) {n : Nat}
    (awaited : Awaited late (readChunks boundary chunks interrupted).length n) :
    streamChunks boundary chunks interrupted late n =
      (readChunks boundary chunks interrupted)[n]? := by
  unfold streamChunks FormDecoder.stream
  cases interrupted with
  | true => exact stream_of_fault rfl awaited
  | false =>
      rw [readChunks, if_neg Bool.false_ne_true, read] at awaited ⊢
      have start : (reader Disposition.attribute?).start boundary chunks false =
          .unread boundary chunks.flatten := rfl
      rw [start]
      cases found : splitAtMark (delimiter boundary) [] chunks.flatten with
      | none =>
          rw [found] at awaited
          refine stream_of_fault ?_ awaited
          simp only [FormDecoder.parts, Source.map, reader, found]
          rfl
      | some split =>
          rw [found] at awaited
          refine stream_of_continuation (Nat.lt_succ_self _) ?_ awaited
          simp only [reader, found]

end Reader

end Multipart

/-! ## Intake -/

namespace Intake

variable (settings : UploadSettings) (spool : Spool)

/-- The loop that takes in what arrives. It ends where a part never does. -/
def taking : Loop Intake Arrival (Intake × Outcome Unit) where
  turn
    | intake, .failed reason => .inl (intake, .rejected reason)
    | intake, .part part =>
      match intake.take settings spool part with
      | .done next => .inr next
      | .rejected reason => .inl (intake, .rejected reason)
      | .stalled => .inl (intake, .stalled)
  finish intake := (intake, .done ())

/-- Taking a stream of arrivals is what an intake does with all of them. -/
theorem taking_through (intake : Intake) (arrivals : List Arrival) :
    (taking settings spool).through intake arrivals = intake.takeAll settings spool arrivals := by
  induction arrivals generalizing intake with
  | nil => rfl
  | cons arrival rest ih =>
      cases arrival with
      | failed reason => rfl
      | part part =>
          rw [Loop.through, takeAll]
          cases taken : intake.take settings spool part with
          | done next => simp only [taking, taken]; exact ih next
          | rejected reason => simp only [taking, taken]
          | stalled => simp only [taking, taken]

/-- Taking in what arrives is running the loop on a stream that gives it and then ends, whatever
would come after the end. -/
theorem takeAll_eq_iff_drains (intake : Intake) {arrivals : List Arrival}
    {stream : Nat → Option Arrival} (gives : ∀ n ≤ arrivals.length, stream n = arrivals[n]?)
    (ending : Intake × Outcome Unit) :
    intake.takeAll settings spool arrivals = ending ↔
      (taking settings spool).Drains stream intake ending := by
  have nothing : stream arrivals.length = none :=
    (gives _ (Nat.le_refl _)).trans (List.getElem?_eq_none (Nat.le_refl _))
  have given_ : given arrivals.length stream = arrivals := by
    rw [given_congr fun n within => gives n (Nat.le_of_lt within), given_getElem?,
      List.take_length]
  rw [Loop.drains_iff nothing, given_, taking_through]
  exact eq_comm

end Intake

/-! ## All streams -/

/-- **Failed streams end.** The body of a part, whatever its source, gives what comes up to and
including the first failure and then nothing for ever; so every loop over a body that fails ends,
and what follows the failure does not count. The stream of parts of an upload, whatever its decoder
and whatever would come if it were asked again after its end, gives the parts in order and after
them at most one failure, which is the last it gives; so every loop over it ends once the decoder
has given anything but a part. A part with a body at hand and the parts of a multipart body hold
just what these streams give, and their contents and their intake are what the loops make of
them. -/
theorem failed_streams_end :
    (∀ {σ : Type} (body : Source σ (Except Rejection Bytes)) (start : σ),
      EndsAfter Fails (body.answer start) (body.upToFailure.answer (Source.untouched start)) ∧
      ∀ first, Fails (body.answer start first) → (∀ m < first, ¬ Fails (body.answer start m)) →
        EveryLoopEnds (body.answer start) (body.upToFailure.answer (Source.untouched start))
          first) ∧
    (∀ {δ ε : Type} (told : ε → Rejection) (decoder : Source δ (Except ε UploadPart)) (start : δ)
      (late : Nat → Option Arrival),
      ClosesAfter NoPart (fun n => (decoder.answer start n).map (.ofDecoded told))
        (Multipart.stream told decoder start late) ∧
      (Silent late →
        EndsAfter NoPart (fun n => (decoder.answer start n).map (.ofDecoded told))
          (Multipart.stream told decoder start late)) ∧
      (∀ m n reason, (∀ k < m, Multipart.stream told decoder start late k ≠ none) → m < n →
        Awaited late (m + 1) n →
        Multipart.stream told decoder start late m = some (.failed reason) →
        Multipart.stream told decoder start late n = none) ∧
      ∀ first, NoPart ((decoder.answer start first).map (.ofDecoded told)) →
        (∀ m < first, ¬ NoPart ((decoder.answer start m).map (.ofDecoded told))) →
        EveryLoopEnds (fun n => (decoder.answer start n).map (.ofDecoded told))
          (Multipart.stream told decoder start late) first) ∧
    (∀ (name : String) (filename contentType : Option String)
      (results : List (Except Rejection Bytes)),
      (∀ n, (Source.ofList.upToFailure.answer (Source.untouched results) n).map .ofResult =
        (UploadPart.ofBody name filename contentType (results.map .ofResult)).body[n]?) ∧
      ∀ (limit : Nat) (excess : Rejection) (outcome : Outcome Bytes),
        readBody limit excess 0
            (UploadPart.ofBody name filename contentType (results.map .ofResult)).body = outcome ↔
          (reading limit excess).Drains
            (Source.ofList.upToFailure.answer (Source.untouched results)) [] outcome) ∧
    (∀ (boundary : String) (chunks : List Bytes) (interrupted : Bool) (late : Nat → Option Arrival),
      (∀ n, Awaited late (Multipart.readChunks boundary chunks interrupted).length n →
        Multipart.streamChunks boundary chunks interrupted late n =
          (Multipart.readChunks boundary chunks interrupted)[n]?) ∧
      ∀ (settings : UploadSettings) (spool : Spool) (intake : Intake)
        (ending : Intake × Outcome Unit),
        intake.takeAll settings spool (Multipart.readChunks boundary chunks interrupted) = ending ↔
          (Intake.taking settings spool).Drains
            (Multipart.streamChunks boundary chunks interrupted late) intake ending) := by
  refine ⟨?bodies, ?parts, ?contents, ?intakes⟩
  case bodies =>
    intro σ body start
    have ends := body.endsAfter_upToFailure start
    exact ⟨ends, fun first failed before => ends.closesAfter.everyLoopEnds failed before⟩
  case parts =>
    intro δ ε told decoder start late
    have closes := Multipart.closesAfter_stream told decoder late start
    refine ⟨closes, fun silent => Multipart.endsAfter_stream told decoder silent start, ?_,
      fun first stopped before => closes.everyLoopEnds stopped before⟩
    intro m n reason got beyond awaited failed
    exact Multipart.stream_after_failure told decoder late start got beyond awaited failed
  case contents =>
    intro name filename contentType results
    refine ⟨answer_upToFailure_ofList results, fun limit excess outcome => ?_⟩
    exact readBody_eq_iff_drains results name filename contentType limit excess outcome
  case intakes =>
    intro boundary chunks interrupted late
    refine ⟨fun n awaited => Multipart.streamChunks_eq chunks interrupted awaited,
      fun settings spool intake ending => ?_⟩
    exact Intake.takeAll_eq_iff_drains settings spool intake
      (fun n within => Multipart.streamChunks_eq chunks interrupted (.inl within)) ending

/-- A body that gives two bytes and then fails at every request. -/
def brokenBody : Source Nat (Except Rejection Bytes) where
  ask
    | 0 => (some (.ok [97, 98]), 1)
    | n + 1 => (some (.error (.malformed (.transport "reset"))), n + 2)

/-- The loop that keeps every item and never leaves. -/
def keeping {α : Type} : Loop (List α) α (List α) where
  turn held item := .inr (held ++ [item])
  finish := id

/-- Such a loop goes on for ever as long as it gets anything. -/
theorem not_drains_keeping {α : Type} {answers : Nat → Option α} (always : ∀ n, answers n ≠ none)
    (held kept : List α) : ¬ keeping.Drains answers held kept := by
  intro drains
  induction drains with
  | ended nothing => exact always 0 nothing
  | left _ leaves => exact nomatch leaves
  | turned _ _ _ ih => exact ih fun n => always (n + 1)

/-- Behind its first answer the broken body goes on failing, whenever it is asked. -/
theorem brokenBody_answer_succ (n m : Nat) : brokenBody.answer (m + 1) n =
    some (.error (.malformed (.transport "reset"))) := by
  induction n generalizing m with
  | zero => rfl
  | succ n ih => exact ih (m + 1)

/-- A loop that never leaves a body that fails for ever ends all the same when it is the body of a
part; the loop that reads contents leaves such a body for its failure; and bytes without a delimiter
give one failure and then nothing, whatever would come after that. -/
theorem failed_streams_end_broken :
    (¬ ∃ kept, keeping.Drains (brokenBody.answer 0) [] kept) ∧
      keeping.Drains (brokenBody.upToFailure.answer (Source.untouched 0)) []
        [.ok [97, 98], .error (.malformed (.transport "reset"))] ∧
      (reading 3 (.malformed (.fieldTooLarge "note" 3))).Drains
        (Source.ofList.upToFailure.answer (Source.untouched
          [.ok [97, 98], .error (.malformed (.transport "reset")), .ok [99, 100]])) []
        (.rejected (.malformed (.transport "reset"))) ∧
      ∀ late, Multipart.streamChunks "B" [[97]] false late 0 =
          some (Multipart.broken .incomplete) ∧
        Multipart.streamChunks "B" [[97]] false late 1 = none := by
  obtain ⟨bodies, parts, contents, -⟩ := failed_streams_end
  refine ⟨?_, ?_, ?_, fun late => ?_⟩
  · rintro ⟨kept, drains⟩
    refine not_drains_keeping (fun n => ?_) [] kept drains
    cases n with
    | zero => exact Option.some_ne_none _
    | succ n => exact fun nothing => nomatch (brokenBody_answer_succ n 0).symm.trans nothing
  · have first : ∀ m < 1, ¬ Fails (brokenBody.answer 0 m) := by
      intro m earlier
      obtain rfl := Nat.lt_one_iff.mp earlier
      rintro ⟨reason, failed⟩
      exact nomatch failed
    exact ((bodies brokenBody 0).2 1 ⟨_, rfl⟩ first keeping [] _).mpr rfl
  · exact ((contents "note" none none _).2 3 _ _).mp rfl
  · have failure : Multipart.streamChunks "B" [[97]] false late 0 =
        some (Multipart.broken .incomplete) := by
      rfl
    refine ⟨failure, ?_⟩
    exact (parts _ Multipart.readParts (.unread "B" [97]) late).2.2.1 0 1 _ nofun Nat.zero_lt_one
      (.inl (Nat.le_refl 1)) failure

end ActionGateway
