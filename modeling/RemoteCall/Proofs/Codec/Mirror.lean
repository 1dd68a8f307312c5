/-
The two halves of the codec are mirror images.

A call is encoded and decoded by other functions than a reply, and the encoder of calls works on
the attributes of the call itself while that of replies makes new ones. Here each thing on the side
of calls gets its image on the side of replies: a call the reply that hands its parameter back, a
request the response with the same labels and the same body, and what the provider reads what the
caller reads. Encoding and decoding go over into each other by these.

* `Invocation.encode_mirror` — the image of a call is encoded to the image of its request.
* `Plugins.decode_mirror` — the image of a request is decoded to the image of what it is decoded
  to, if it names a serializer.

A request that names no serializer is read with JSON, but a response that names none with the
serializer of the method that was called. So for these the images may differ.
-/
import RemoteCall.Proofs.Codec.Reading
import RemoteCall.Proofs.Codec.Writing

namespace RemoteCall

/-! ## Images -/

/-- The successful reply that hands the parameter of a call back, with its attributes. -/
def Invocation.mirror (i : Invocation) : Reply :=
  { outcome := .ok i.parameter, attachments := i.attributes }

/-- The successful response with the attributes and the body of a request. -/
def Request.mirror (request : Request) : Response :=
  { status := .success, attributes := request.header.attributes, body := request.body }

/-- The successful reply with the parameter that was read from a request. -/
def DecodedCall.mirror (call : DecodedCall) : Reply :=
  { outcome := .ok call.parameter, attachments := call.header.attributes }

/-! ## Encoding -/

/-- Both encoders fail for the same reason, or write the same body and the same labels. -/
theorem Invocation.encode_mirror (i : Invocation) :
    i.mirror.encode i.method.codec = i.encodeInPlace.1.map Request.mirror := by
  rw [Reply.encode_eq, CodecOptions.encode_eq, encodeInPlace_eq]
  show ((i.method.codec.writeBody i.parameter >>= i.method.codec.compressBody).map _).map _ = _
  cases i.method.codec.writeBody i.parameter >>= i.method.codec.compressBody <;> rfl

/-! ## Decoding -/

namespace Plugins

variable {plugins : Plugins} {attributes : Attributes} {body : Bytes}

/-- A message that names its serializer is read in the same way by everyone. -/
theorem read_of_named (own other : Except CodecError Serializer)
    (named : attributes.contains serializerKey = true) :
    plugins.read own attributes body = plugins.read other attributes body := by
  rw [Std.ExtTreeMap.contains_eq_isSome_getElem?] at named
  obtain ⟨name, hname⟩ := Option.isSome_iff_exists.mp named
  simp only [read, negotiate, hname]

theorem decode_mirror {request : Request} (fallback : Serializer)
    (named : request.header.attributes.contains serializerKey = true) :
    plugins.decodeReply fallback request.mirror =
      (plugins.decodeCall request).map DecodedCall.mirror := by
  rw [decodeCall_eq, decodeReply_of_success plugins fallback request.mirror rfl]
  show (plugins.read (.ok fallback) request.header.attributes request.body).map _ = _
  rw [read_of_named (.ok fallback) plugins.json named]
  cases plugins.read plugins.json request.header.attributes request.body <;> rfl

/-- **The two halves of the codec mirror each other.** A call and the reply that hands its
parameter back fail to be encoded for the same reason, or get the same body and the same labels. A
request that names a serializer and the successful response with the same labels and body are read
by the same rules, whatever serializer the readers have of their own: both fail for the same
reason, an unknown serializer first, then an unknown compressor, then a body that cannot be
restored, then one that cannot be deserialized; or both hold the same value. -/
theorem halves_mirror_each_other (plugins : Plugins) :
    (∀ i : Invocation, i.mirror.encode i.method.codec = i.encodeInPlace.1.map Request.mirror) ∧
    ∀ (request : Request) (fallback : Serializer),
      request.header.attributes.contains serializerKey = true →
        ∃ outcome, (∀ own, plugins.Reads own request.header.attributes request.body outcome) ∧
          plugins.decodeCall request = outcome.map (fun parameter =>
            { header := request.header, parameter := parameter }) ∧
          plugins.decodeReply fallback request.mirror = outcome.map fun data =>
            { outcome := .ok data, attachments := request.header.attributes } := by
  refine ⟨Invocation.encode_mirror, fun request fallback named => ?_⟩
  refine ⟨plugins.read plugins.json request.header.attributes request.body, fun own => ?_, ?_, ?_⟩
  · rw [reads_iff]
    exact read_of_named own plugins.json named
  · exact plugins.decodeCall_eq request
  · rw [decode_mirror fallback named, decodeCall_eq]
    cases plugins.read plugins.json request.header.attributes request.body <;> rfl

/-- The image of the forged call is encoded to the image of its request. With the labels that were
there before nothing can be read, and both readers tell of the serializer, not of the compressor. -/
theorem forged_halves_mirror_each_other :
    (∃ request, forged.encodeInPlace.1 = .ok request ∧
      forged.mirror.encode forged.method.codec = .ok request.mirror) ∧
    let request : Request := { header := forged.header, body := [] }
    request.header.attributes.contains serializerKey = true ∧
    request.header.attributes.contains compressorKey = true ∧
    builtIn.decodeCall request = .error (.unknownSerializer "xml") ∧
    builtIn.decodeReply .json request.mirror = .error (.unknownSerializer "xml") := by
  obtain ⟨hencode, hdecode⟩ := halves_mirror_each_other builtIn
  constructor
  · have hok : forged.encodeInPlace.1.isOk = true := rfl
    have hmirror := hencode forged
    cases hplace : forged.encodeInPlace.1 with
    | error e =>
      rw [hplace] at hok
      cases hok
    | ok request =>
      rw [hplace] at hmirror
      exact ⟨request, rfl, hmirror⟩
  · intro request
    have hnamed : request.header.attributes.contains serializerKey = true := rfl
    have hcall : builtIn.decodeCall request = .error (.unknownSerializer "xml") := rfl
    obtain ⟨outcome, -, hread, hreply⟩ := hdecode request .json hnamed
    rw [hcall] at hread
    cases outcome with
    | ok parameter => cases hread
    | error e =>
      cases hread
      exact ⟨hnamed, rfl, hcall, hreply⟩

end Plugins

end RemoteCall
