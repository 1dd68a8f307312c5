/-
Whole messages cross the wire.

What one side puts into a message the other side takes out again, and the only
attributes that change on the way are the two labels that the codec owns. Labels that
were there before, stale or forged, have no say.

* `Plugins.call_round_trip` — the provider gets the parameter, the header and the
  attributes of the call.
* `Plugins.reply_round_trip` — the caller gets the outcome and the attachments of the
  reply, whatever codec its own method has.

Neither assumes that the message can be encoded: each says exactly when it can.
-/
import RemoteCall.Proofs.Client.Transparency

namespace RemoteCall

namespace CodecOptions

variable {options : CodecOptions} {value : Option Json} {small : Bytes}
  {attributes labelled : Attributes}

/-- The compressor is named exactly if the body that was written is longer than the threshold. -/
theorem label_of_encode (h : options.encode value attributes = .ok (small, labelled)) :
    ∃ body, options.writeBody value = .ok body ∧
      labelled = options.label ((options.compressorFor body).map (·.id)) attributes := by
  obtain ⟨body, used, hbody, hsmall, hlabelled⟩ := encode_eq_ok h
  obtain ⟨rfl, -⟩ := compressBody_eq_ok hsmall
  exact ⟨body, hbody, hlabelled⟩

end CodecOptions

namespace Plugins

/-! ## Calls -/

/-- **A call crosses the wire.** It can be encoded exactly if its plugins accept the parameter.
The provider then decodes the parameter, none or `null` as it was, and reads in the header what
the call says. Of the attributes, only the labels are new: the serializer is named, and the
compressor exactly if the body it was given is longer than the threshold. -/
theorem call_round_trip {plugins : Plugins} {i : Invocation}
    (h : plugins.Restores i.method.codec i.parameter) :
    (i.encode.isOk = true ↔ i.method.codec.Accepts i.parameter) ∧
    ∀ request labelled, i.encode = .ok (request, labelled) →
      plugins.decodeCall request =
        .ok { header := request.header, parameter := i.parameter } ∧
      request.header.service = i.service.name ∧
      request.header.method = i.method.name ∧
      request.header.consumer = i.service.consumer ∧
      request.header.provider = i.service.provider ∧
      request.header.timeoutMillis = i.timeoutMillis ∧
      ∃ body, i.method.codec.writeBody i.parameter = .ok body ∧
        ∀ key, request.header.attributes[key]? =
          if key = serializerKey then some i.method.codec.serializer.name
          else if key = compressorKey then (i.method.codec.compressorFor body).map (·.id)
          else i.attributes[key]? := by
  refine ⟨i.encode_isOk_iff, fun request labelled he => ?_⟩
  obtain ⟨hencoded, hheader, -⟩ := Invocation.encode_eq_ok he
  obtain ⟨body, hbody, hlabel⟩ := CodecOptions.label_of_encode hencoded
  refine ⟨decodeCall_encode h he, congrArg Header.service hheader,
    congrArg Header.method hheader, congrArg Header.consumer hheader,
    congrArg Header.provider hheader, congrArg Header.timeoutMillis hheader, body, hbody,
    fun key => ?_⟩
  rw [hlabel, CodecOptions.getElem?_label]

/-- A call that says of itself that it is written with other plugins. -/
def forged : Invocation :=
  let codec : CodecOptions := ⟨.json, some Provider.reversal, 3⟩
  let service : Service :=
    { name := "greeter", client := { consumer := "porter" }, reference := { provider := "hotel" },
      codec := codec, connectRetry := 1, timeoutRetry := 1, methods := ∅ }
  let method : MethodConfig :=
    { name := "greet", param := some .value, returns := .value, async := false,
      timeoutMillis := 250, timeoutRetry := 1, connectRetry := 1, codec := codec }
  (((Invocation.ofMethod service method (some .null) none).setAttribute serializerKey
    "xml").setAttribute compressorKey "gzip").setAttribute "trace-id" "t-1"

theorem forged_accepts : forged.method.codec.Accepts forged.parameter := by
  refine ⟨Bytes.ofString "null", rfl, fun c hc => ?_⟩
  obtain ⟨hreversal, -⟩ := CodecOptions.compressorFor_eq_some hc
  cases hreversal
  rfl

/-- The labels that were there before do not mislead the provider. -/
theorem forged_call_round_trip :
    Provider.examiner.plugins.Restores forged.method.codec forged.parameter ∧
    ∃ request labelled, forged.encode = .ok (request, labelled) ∧
      Provider.examiner.plugins.decodeCall request =
        .ok { header := request.header, parameter := some .null } ∧
      request.header.provider = "hotel" ∧
      request.header.attributes[serializerKey]? = some "json" ∧
      request.header.attributes[compressorKey]? = some "reversal" ∧
      request.header.attributes["trace-id"]? = some "t-1" := by
  have hrestores : Provider.examiner.plugins.Restores forged.method.codec forged.parameter :=
    Provider.examiner_restores (.inl rfl)
  obtain ⟨hok, htrip⟩ := call_round_trip hrestores
  obtain ⟨request, labelled, he⟩ := Invocation.encode_of_isOk (hok.mpr forged_accepts)
  obtain ⟨hdecoded, -, -, -, hprovider, -, body, hbody, hlabels⟩ := htrip request labelled he
  obtain rfl : Bytes.ofString "null" = body := Except.ok.inj hbody
  refine ⟨hrestores, request, labelled, he, hdecoded, hprovider, ?_, ?_, ?_⟩
  · exact hlabels serializerKey
  · exact hlabels compressorKey
  · exact hlabels "trace-id"

/-! ## Replies -/

/-- **A reply crosses the wire.** It can be encoded exactly if the provider's plugins accept what
it holds. Whatever method the call is of, the caller then decodes the same outcome: the value,
none or `null` as it was, or the error with its code, its message and its trace, if there is one.
Of the attachments, only the labels are new. -/
theorem reply_round_trip {plugins : Plugins} {options : CodecOptions} {reply : Reply}
    (h : plugins.Restores options reply.payload) :
    ((reply.encode options).isOk = true ↔ options.Accepts reply.payload) ∧
    ∀ response, reply.encode options = .ok response → ∀ i : Invocation,
      ∃ seen body, plugins.decodeReply i.method.codec.serializer response = .ok seen ∧
        seen.outcome = reply.outcome ∧
        options.writeBody reply.payload = .ok body ∧
        ∀ key, seen.attachments[key]? =
          if key = serializerKey then some options.serializer.name
          else if key = compressorKey then (options.compressorFor body).map (·.id)
          else reply.attachments[key]? := by
  refine ⟨reply.encode_isOk_iff options, fun response he i => ?_⟩
  obtain ⟨hencoded, -⟩ := Reply.encode_eq_ok he
  obtain ⟨body, hbody, hlabel⟩ := CodecOptions.label_of_encode hencoded
  refine ⟨_, body, decodeReply_encode h he _, rfl, hbody, fun key => ?_⟩
  rw [hlabel, CodecOptions.getElem?_label]

/-- A reply that says of itself that it is compressed. -/
def stale : Reply :=
  ((Reply.value (some (.bool false))).attach compressorKey "gzip").attach "served-by" "p1"

/-- The label is taken off a reply that is too short to be compressed, and the caller does not
need to have the provider's codec. -/
theorem stale_reply_round_trip :
    let options : CodecOptions := ⟨.json, some Provider.reversal, 100⟩
    Provider.examiner.plugins.Restores options stale.payload ∧
    ∃ response, stale.encode options = .ok response ∧ ∀ i : Invocation,
      ∃ seen, Provider.examiner.plugins.decodeReply i.method.codec.serializer response = .ok seen ∧
        seen.outcome = .ok (some (.bool false)) ∧
        seen.attachments[serializerKey]? = some "json" ∧
        seen.attachments[compressorKey]? = none ∧
        seen.attachments["served-by"]? = some "p1" := by
  intro options
  have hrestores : Provider.examiner.plugins.Restores options stale.payload :=
    Provider.examiner_restores (.inr (.inr rfl))
  obtain ⟨hok, htrip⟩ := reply_round_trip hrestores
  have haccepts : options.Accepts stale.payload :=
    ⟨Bytes.ofString "false", rfl, fun c hc => by cases hc⟩
  obtain ⟨response, he⟩ := Reply.encode_of_isOk (hok.mpr haccepts)
  refine ⟨hrestores, response, he, fun i => ?_⟩
  obtain ⟨seen, body, hseen, houtcome, hbody, hlabels⟩ := htrip response he i
  obtain rfl : Bytes.ofString "false" = body := Except.ok.inj hbody
  refine ⟨seen, hseen, houtcome, ?_, ?_, ?_⟩
  · exact hlabels serializerKey
  · exact hlabels compressorKey
  · exact hlabels "served-by"

end Plugins

end RemoteCall
