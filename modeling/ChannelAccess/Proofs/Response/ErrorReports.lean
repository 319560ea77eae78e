import ChannelAccess.Response.Handler
import ChannelAccess.Proofs.Text.Cuts
import ChannelAccess.Proofs.Wire.HeaderCodec

/-!
# Texts of errors

An error carries the header of the failed request and a text. The handler leaves out as many bytes
of what follows the header as the failed request had payload, in case that was sent back, unless
nothing would remain. Where it was not sent back, these are bytes of the text.
`errors_reported_in_full_iff` says which texts are reported in full all the same: those of requests
without payload, and those that are no longer than the payload, padding included. Any other loses
its front (`cut_writeRefusal`), which shows unless the text looks whole without it.
-/

namespace ChannelAccess

namespace Terminated

/-- Without its first bytes a text is read from its field as from its own bytes, if something of the
field is left. -/
theorem ofField_drop_terminate {text : String} (noNul : '\x00' ∉ text.toList) {cut : Nat}
    (inside : cut < (terminate text).length) :
    ofField ((terminate text).drop cut) = Utf8.decode ((Utf8.encode text).drop cut) := by
  have isField : terminate text = Utf8.encode text ++
      List.replicate (padding (Utf8.encode text ++ [0]).length + 1) 0 := by
    rw [terminate, pad, List.append_assoc, List.singleton_append, List.replicate_succ]
  generalize padding (Utf8.encode text ++ [0]).length = zeros at isField
  rw [isField, List.length_append, List.length_replicate] at inside
  -- At least one zero byte is left after the text.
  have left : zeros + 1 - (cut - (Utf8.encode text).length) =
      zeros - (cut - (Utf8.encode text).length) + 1 := by omega
  have nonzero : 0 ∉ (Utf8.encode text).drop cut :=
    fun member => Utf8.zero_not_mem_encode noNul (List.mem_of_mem_drop member)
  rw [isField, List.drop_append, List.drop_replicate, left, List.replicate_succ,
    ofField_append_zero nonzero]

end Terminated

namespace ResponseHandler

/-- What is reported of a text that follows the header of a request with some bytes of payload. -/
def reportedText (size : Nat) (text : String) : String :=
  if (Terminated.terminate text).length ≤ size then text
  else Utf8.decode ((Utf8.encode text).drop size)

/-- Which texts are reported as they are. -/
theorem reportedText_eq_iff {size : Nat} {text : String} (nonempty : text ≠ "") :
    reportedText size text = text ↔
      size = 0 ∨ (Terminated.terminate text).length ≤ size ∨ Utf8.LooksWhole size text := by
  by_cases allSkipped : (Terminated.terminate text).length ≤ size
  · rw [reportedText, if_pos allSkipped]
    exact iff_of_true rfl (.inr (.inl allSkipped))
  · rw [reportedText, if_neg allSkipped]
    rcases Nat.eq_zero_or_pos size with rfl | some
    · rw [List.drop_zero, Utf8.decode_encode]
      exact iff_of_true rfl (.inl rfl)
    · have notNone : size ≠ 0 := Nat.ne_of_gt some
      rw [Utf8.decode_drop_encode_eq_iff some nonempty, or_iff_right notNone,
        or_iff_right allSkipped]

/-- A text that is not reported as it is lacks its first bytes. -/
theorem reportedText_of_ne {size : Nat} {text : String} (differs : reportedText size text ≠ text) :
    reportedText size text = Utf8.decode ((Utf8.encode text).drop size) := by
  refine if_neg fun allSkipped => differs ?_
  rw [reportedText, if_pos allSkipped]

/-- What the handler makes of a request's header and a text. -/
theorem errorReport_toBytes_append (request : Header) {text : String}
    (noNul : '\x00' ∉ text.toList) :
    errorReport (request.toBytes ++ Terminated.terminate text) =
      (some { request with extended := request.isExtended },
        reportedText request.payloadSize.toNat text) := by
  rw [errorReport, Header.parse?_toBytes_append, reportedText]
  dsimp only
  split
  · rename_i nothing
    rw [if_pos (List.drop_eq_nil_iff.mp nothing), Terminated.ofField_terminate noNul]
  · rename_i remains
    have inside := fun beyond => remains (List.drop_eq_nil_iff.mpr beyond)
    rw [if_neg inside, Terminated.ofField_drop_terminate noNul (Nat.lt_of_not_le inside)]

/-- An error makes one event and changes nothing. -/
theorem handle_error (handler : ResponseHandler) (now : Moment) (source : SocketAddress)
    (peer : Option SocketAddress) {frame : Frame} (isError : frame.header.command = Command.error) :
    handler.handle now source peer frame =
      { handler
        events := [.serverError (peer.getD source) frame.header.parameter1 frame.header.parameter2
          (errorReport frame.payload).1 (errorReport frame.payload).2] } := by
  rw [handle]
  simp only [isError]
  rfl

end ResponseHandler

/-- **Which error texts are reported in full.** An error with the failed request's header and a text
makes one event, with the parameters of the error and the header as it is read. The text in it is
the one that was sent exactly if the request had no payload, or one no shorter than the padded text,
or the text looks whole without as many bytes. Otherwise as many bytes of the text are missing. -/
theorem errors_reported_in_full_iff (handler : ResponseHandler) (now : Moment)
    (source : SocketAddress) (peer : Option SocketAddress) (frame : Frame) (request : Header)
    (text : String) (isError : frame.header.command = Command.error)
    (payload : frame.payload = request.toBytes ++ Terminated.terminate text)
    (nonempty : text ≠ "") (noNul : '\x00' ∉ text.toList) :
    ∃ reported,
      handler.handle now source peer frame =
        { handler
          events := [.serverError (peer.getD source) frame.header.parameter1
            frame.header.parameter2 (some { request with extended := request.isExtended })
            reported] } ∧
      (reported = text ↔
        request.payloadSize = 0 ∨
          (Terminated.terminate text).length ≤ request.payloadSize.toNat ∨
          Utf8.LooksWhole request.payloadSize.toNat text) ∧
      (reported ≠ text →
        reported = Utf8.decode ((Utf8.encode text).drop request.payloadSize.toNat)) := by
  have report := ResponseHandler.errorReport_toBytes_append request noNul
  have noPayload : request.payloadSize = 0 ↔ request.payloadSize.toNat = 0 :=
    UInt32.toNat_inj.symm
  refine ⟨ResponseHandler.reportedText request.payloadSize.toNat text, ?_, ?_, ?_⟩
  · rw [handler.handle_error now source peer isError, payload, report]
  · rw [noPayload]
    exact ResponseHandler.reportedText_eq_iff nonempty
  · exact ResponseHandler.reportedText_of_ne

/-- The header of a write of eight bytes. -/
def refusedWrite : Header where
  command := Command.writeNotify
  payloadSize := 8
  dataType := 6
  dataCount := 1
  parameter1 := 7
  parameter2 := 3

/-- The error that a server answers it with. The bytes that were to be written are not sent back. -/
def writeRefusal : Frame where
  header :=
    { command := Command.error, payloadSize := 32, dataType := 0, dataCount := 0, parameter1 := 7,
      parameter2 := 376 }
  payload := refusedWrite.toBytes ++ Terminated.terminate "No write access"

/-- The refusal is not reported in full: the text of it is longer than eight bytes and begins with
no replacement character. -/
theorem errors_reported_in_full_iff_writeRefusal :
    ∃ reported,
      ({ serverPort := 5064 } : ResponseHandler).handle .zero ⟨.v4 0x0A000002, 5064⟩ none
          writeRefusal =
        { handler := { serverPort := 5064 }
          events := [.serverError ⟨.v4 0x0A000002, 5064⟩ 7 376 (some refusedWrite) reported] } ∧
      reported ≠ "No write access" ∧ reported = " access" := by
  obtain ⟨reported, event, inFull, left⟩ := errors_reported_in_full_iff { serverPort := 5064 }
    .zero ⟨.v4 0x0A000002, 5064⟩ none writeRefusal refusedWrite "No write access" rfl rfl
    (by decide) (by decide)
  have differs : reported ≠ "No write access" := by
    intro same
    rcases inFull.mp same with none | long | ⟨number, oneOrTwo, size, -⟩
    · exact absurd none (by decide)
    · exact absurd long (by decide)
    · have isSize : 8 = 2 * number := size
      omega
  have rest : (Utf8.encode "No write access").drop 8 = Utf8.encode " access" := by decide
  refine ⟨reported, event, differs, ?_⟩
  calc reported = Utf8.decode ((Utf8.encode "No write access").drop 8) := left differs
    _ = " access" := by rw [rest, Utf8.decode_encode]

/-- Eight bytes of the refusal's text are missing from what is reported: as many as were to be
written. -/
theorem cut_writeRefusal :
    ({ serverPort := 5064 } : ResponseHandler).handle .zero ⟨.v4 0x0A000002, 5064⟩ none
        writeRefusal =
      { handler := { serverPort := 5064 }
        events := [.serverError ⟨.v4 0x0A000002, 5064⟩ 7 376 (some refusedWrite) " access"] } := by
  have report : ResponseHandler.errorReport writeRefusal.payload =
      (some refusedWrite, ResponseHandler.reportedText 8 "No write access") :=
    ResponseHandler.errorReport_toBytes_append refusedWrite (by decide)
  have short : ¬ (Terminated.terminate "No write access").length ≤ 8 := by decide
  have rest : (Utf8.encode "No write access").drop 8 = Utf8.encode " access" := by decide
  rw [ResponseHandler.handle_error _ _ _ _ rfl, report, ResponseHandler.reportedText,
    if_neg short, rest, Utf8.decode_encode]
  rfl

end ChannelAccess
