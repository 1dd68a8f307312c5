/-
What is encoded on one side of a call is decoded on the other.

The two sides need not have the same codec in effect. It is enough that the reader has
the plugins of the writer under their names, and that these read back what they wrote
(`Plugins.Restores`).

* `CodecOptions.encode_isOk_iff` — which values can be encoded.
* `CodecOptions.getElem?_label` — what an encoding leaves of the attributes.
* `Plugins.restores_encode` — a labelled body leads back to the optional value in it.
* `Plugins.decodeCall_encode` — the provider sees the call as the caller made it.
* `Plugins.decodeReply_encode` — the caller sees the outcome as the provider stated it.
-/
import RemoteCall.Codec.Exchange

namespace RemoteCall

/-! ## Plugins that read back -/

/-- The plugins of the options are known by their names, and read back what they write: the
serializer the given value, which never becomes an empty body, and the compressor any body. -/
structure Plugins.Restores (plugins : Plugins) (options : CodecOptions) (value : Option Json) :
    Prop where
  serializer : plugins.serializer? options.serializer.name = some options.serializer
  compressor : ∀ c, options.compressor = some c → plugins.compressor? c.id = some c
  written : ∀ v body, value = some v → options.serializer.serialize v = .ok body →
    body ≠ [] ∧ options.serializer.deserialize body = .ok v
  compressed : ∀ c body small, options.compressor = some c → c.compress body = .ok small →
    c.decompress small = .ok body

namespace CodecOptions

variable {options : CodecOptions} {value : Option Json} {body small : Bytes}
  {used : Option String} {attributes labelled : Attributes}

theorem encode_eq (options : CodecOptions) (value : Option Json) (attributes : Attributes) :
    options.encode value attributes =
      (options.writeBody value >>= options.compressBody).map fun (body, used) =>
        (body, options.label used attributes) := by
  unfold encode
  cases options.writeBody value with
  | error e => rfl
  | ok body =>
    simp only [bind, Except.bind]
    cases options.compressBody body <;> rfl

/-- An encoding writes the value, compresses what it wrote, and labels the message. -/
theorem encode_eq_ok (h : options.encode value attributes = .ok (small, labelled)) :
    ∃ body used, options.writeBody value = .ok body ∧
      options.compressBody body = .ok (small, used) ∧
      labelled = options.label used attributes := by
  unfold encode at h
  cases hbody : options.writeBody value with
  | error e => simp [hbody, bind, Except.bind] at h
  | ok body =>
    cases hsmall : options.compressBody body with
    | error e => simp [hbody, hsmall, bind, Except.bind] at h
    | ok pair =>
      obtain ⟨small', used⟩ := pair
      simp only [hbody, hsmall, bind, Except.bind, pure, Except.pure, Except.ok.injEq,
        Prod.mk.injEq] at h
      obtain ⟨rfl, rfl⟩ := h
      exact ⟨body, used, rfl, hsmall, rfl⟩

/-! ### Which bodies are compressed -/

/-- The compressor that a body goes through: the one of the options, if there is one and the body
is longer than the threshold. -/
def compressorFor (options : CodecOptions) (body : Bytes) : Option Compressor :=
  options.compressor.filter fun _ => options.threshold < body.length

theorem compressorFor_eq_some {c : Compressor} (h : options.compressorFor body = some c) :
    options.compressor = some c ∧ options.threshold < body.length := by
  simpa [compressorFor, Option.filter_eq_some_iff] using h

theorem compressBody_of_none (h : options.compressorFor body = none) :
    options.compressBody body = .ok (body, none) := by
  unfold compressBody
  cases hc : options.compressor with
  | none => rfl
  | some c =>
    have hshort : ¬ options.threshold < body.length := by
      simpa [compressorFor, hc] using h
    simp only [if_neg hshort]

theorem compressBody_of_some {c : Compressor} (h : options.compressorFor body = some c) :
    options.compressBody body =
      ((c.compress body).map fun small => (small, some c.id)).mapError .compression := by
  obtain ⟨hc, hlong⟩ := compressorFor_eq_some h
  simp only [compressBody, hc, if_pos hlong]
  cases c.compress body <;> rfl

/-- The compressor that made a body is named, and no other one. -/
theorem compressBody_eq_ok (h : options.compressBody body = .ok (small, used)) :
    used = (options.compressorFor body).map (·.id) ∧
      ((options.compressorFor body = none ∧ small = body) ∨
        ∃ c, options.compressorFor body = some c ∧ c.compress body = .ok small) := by
  cases hc : options.compressorFor body with
  | none =>
    rw [compressBody_of_none hc] at h
    cases h
    exact ⟨rfl, .inl ⟨rfl, rfl⟩⟩
  | some c =>
    rw [compressBody_of_some hc] at h
    cases hsmall : c.compress body with
    | error message =>
      rw [hsmall] at h
      cases h
    | ok made =>
      rw [hsmall] at h
      cases h
      exact ⟨rfl, .inr ⟨c, rfl, hsmall⟩⟩

/-- The plugins can write the value: the serializer has a body for it, and the compressor that
this body goes through, if any, makes it smaller. -/
def Accepts (options : CodecOptions) (value : Option Json) : Prop :=
  ∃ body, options.writeBody value = .ok body ∧
    ∀ c, options.compressorFor body = some c → (c.compress body).isOk = true

/-- Whether a message can be encoded is a matter of its value; its attributes have no say. -/
theorem encode_isOk_iff (attributes : Attributes) :
    (options.encode value attributes).isOk = true ↔ options.Accepts value := by
  constructor
  · intro h
    cases he : options.encode value attributes with
    | error e =>
      rw [he] at h
      cases h
    | ok pair =>
      obtain ⟨body, used, hbody, hsmall, -⟩ := encode_eq_ok he
      refine ⟨body, hbody, fun c hc => ?_⟩
      rcases (compressBody_eq_ok hsmall).2 with ⟨hnone, -⟩ | ⟨d, hd, hmade⟩
      · rw [hnone] at hc
        cases hc
      · rw [hd, Option.some.injEq] at hc
        rw [← hc, hmade]
        rfl
  · rintro ⟨body, hbody, hmakes⟩
    cases hc : options.compressorFor body with
    | none =>
      simp only [encode, hbody, compressBody_of_none hc, bind, Except.bind]
      rfl
    | some c =>
      cases hmade : c.compress body with
      | error e =>
        have hok := hmakes c hc
        rw [hmade] at hok
        cases hok
      | ok made =>
        have hsmall : options.compressBody body = .ok (made, some c.id) := by
          rw [compressBody_of_some hc, hmade]
          rfl
        simp only [encode, hbody, hsmall, bind, Except.bind]
        rfl

/-! ### Labels -/

theorem compressorKey_ne : compressorKey ≠ serializerKey := by decide

/-- A label says by which plugins the message was written, whatever was said before, and leaves
all other attributes alone. -/
theorem getElem?_label (options : CodecOptions) (used : Option String) (attributes : Attributes)
    (key : String) :
    (options.label used attributes)[key]? =
      if key = serializerKey then some options.serializer.name
      else if key = compressorKey then used
      else attributes[key]? := by
  have hne : key = serializerKey → key ≠ compressorKey := fun hs => hs ▸ compressorKey_ne.symm
  cases used with
  | none =>
    simp only [label, Table.getElem?_erase_eq, Table.getElem?_insert_eq]
    by_cases hs : key = serializerKey
    · simp only [if_pos hs, if_neg (hne hs)]
    · simp only [if_neg hs]
  | some id =>
    simp only [label, Table.getElem?_insert_eq]
    by_cases hs : key = serializerKey
    · simp only [if_pos hs, if_neg (hne hs)]
    · simp only [if_neg hs]

theorem label_serializer (options : CodecOptions) (used : Option String)
    (attributes : Attributes) :
    (options.label used attributes)[serializerKey]? = some options.serializer.name := by
  rw [getElem?_label, if_pos rfl]

theorem label_compressor (options : CodecOptions) (used : Option String)
    (attributes : Attributes) : (options.label used attributes)[compressorKey]? = used := by
  rw [getElem?_label, if_neg compressorKey_ne, if_pos rfl]

end CodecOptions

namespace Plugins

variable {plugins : Plugins} {options : CodecOptions} {value : Option Json} {small : Bytes}
  {attributes labelled : Attributes}

/-- **A labelled body leads back to the value**, whatever the reader would have fallen back to. -/
theorem restores_encode (h : plugins.Restores options value)
    (he : options.encode value attributes = .ok (small, labelled)) :
    (∀ fallback, plugins.negotiate labelled fallback = .ok options.serializer) ∧
      ∃ body, plugins.restoreBody labelled small = .ok body ∧
        (value = none → body = []) ∧
        ∀ v, value = some v → body ≠ [] ∧ options.serializer.deserialize body = .ok v := by
  obtain ⟨body, used, hbody, hsmall, rfl⟩ := CodecOptions.encode_eq_ok he
  refine ⟨fun fallback => ?_, body, ?_, ?_, ?_⟩
  · simp only [negotiate, CodecOptions.label_serializer, h.serializer]
  · unfold restoreBody
    rw [CodecOptions.label_compressor]
    obtain ⟨rfl, ⟨hnone, rfl⟩ | ⟨c, hc, hmade⟩⟩ := CodecOptions.compressBody_eq_ok hsmall
    · rw [hnone]
      rfl
    · have hcompressor := (CodecOptions.compressorFor_eq_some hc).1
      simp only [hc, Option.map_some, h.compressor c hcompressor,
        h.compressed c body small hcompressor hmade]
      rfl
  · rintro rfl
    exact (Except.ok.inj hbody).symm
  · rintro v rfl
    exact h.written v body rfl hbody

theorem readBody_of_restored {serializer : Serializer} {body : Bytes}
    (none : value = none → body = [])
    (some : ∀ v, value = some v → body ≠ [] ∧ serializer.deserialize body = .ok v) :
    readBody serializer body = .ok value := by
  cases value with
  | none =>
    rw [none rfl]
    rfl
  | some v =>
    obtain ⟨hne, hread⟩ := some v rfl
    rw [readBody, if_neg (by simpa using hne), hread]
    rfl

end Plugins

/-! ## Calls -/

namespace Invocation

variable {i labelled : Invocation} {request : Request}

theorem encode_isOk_iff (i : Invocation) :
    i.encode.isOk = true ↔ i.method.codec.Accepts i.parameter := by
  rw [← CodecOptions.encode_isOk_iff i.attributes, encode]
  cases i.method.codec.encode i.parameter i.attributes <;> rfl

theorem encode_of_isOk (h : i.encode.isOk = true) :
    ∃ request labelled, i.encode = .ok (request, labelled) := by
  cases he : i.encode with
  | error e =>
    rw [he] at h
    cases h
  | ok pair => exact ⟨pair.1, pair.2, rfl⟩

/-- A request has the body that the codec makes of the parameter, and says what the call says; its
attributes are those of the call, with a label. -/
theorem encode_eq_ok (h : i.encode = .ok (request, labelled)) :
    i.method.codec.encode i.parameter i.attributes =
        .ok (request.body, request.header.attributes) ∧
      request.header = { i.header with attributes := request.header.attributes } ∧
      labelled = { i with attributes := request.header.attributes } := by
  unfold encode at h
  cases hb : i.method.codec.encode i.parameter i.attributes with
  | error e => simp [hb, bind, Except.bind] at h
  | ok pair =>
    obtain ⟨small, attributes⟩ := pair
    simp only [hb, bind, Except.bind, pure, Except.pure, Except.ok.injEq, Prod.mk.injEq] at h
    obtain ⟨rfl, rfl⟩ := h
    exact ⟨rfl, rfl, rfl⟩

end Invocation

/-- **The provider sees the call as it was made**: its parameter, none or `null` as it was, and
the header of the request. -/
theorem Plugins.decodeCall_encode {plugins : Plugins} {i labelled : Invocation} {request : Request}
    (h : plugins.Restores i.method.codec i.parameter)
    (he : i.encode = .ok (request, labelled)) :
    plugins.decodeCall request = .ok { header := request.header, parameter := i.parameter } := by
  obtain ⟨hserializer, body, hbody, hnone, hsome⟩ :=
    restores_encode h (Invocation.encode_eq_ok he).1
  simp only [decodeCall, hserializer, hbody, readBody_of_restored hnone hsome, bind, Except.bind,
    pure, Except.pure]

/-! ## Replies -/

/-- What the body of a response holds. -/
def Reply.payload (reply : Reply) : Option Json :=
  match reply.outcome with
  | .ok data => data
  | .error descriptor => some descriptor.toJson

namespace ErrorDescriptor

theorem int32_toInt (n : Int32) : Json.Shape.int32 (.int n.toInt) = .ok n := by
  have hrange : Int32.minValue.toInt ≤ n.toInt ∧ n.toInt ≤ Int32.maxValue.toInt :=
    ⟨n.minValue_le_toInt, n.toInt_le⟩
  simp only [Json.Shape.int32, Json.Shape.whole, if_pos hrange, Except.map, Int32.ofInt_toInt]

/-- A descriptor that was written is read back, with its trace or without. -/
theorem shape_toJson (d : ErrorDescriptor) : shape d.toJson = .ok d := by
  obtain ⟨code, message, trace⟩ := d
  cases trace <;>
    simp [shape, toJson, Json.Shape.record, Json.Field.needed, Json.Field.optional, int32_toInt,
      Json.Shape.string, Json.Shape.option, Except.map, bind, Except.bind, pure, Except.pure]

end ErrorDescriptor

theorem Reply.encode_eq (reply : Reply) (options : CodecOptions) :
    reply.encode options =
      (options.encode reply.payload reply.attachments).map fun (body, attributes) =>
        { status := if reply.isError then .failure else .success, attributes := attributes,
          body := body } := by
  unfold encode payload isError error?
  cases reply.outcome with
  | ok data => cases hb : options.encode data reply.attachments <;> simp only [hb] <;> rfl
  | error descriptor =>
    cases hb : options.encode (some descriptor.toJson) reply.attachments <;> simp only [hb] <;> rfl

/-- A response has the body that the codec makes of what the reply holds; its attributes are the
attachments, with a label. -/
theorem Reply.encode_eq_ok {reply : Reply} {options : CodecOptions} {response : Response}
    (h : reply.encode options = .ok response) :
    options.encode reply.payload reply.attachments = .ok (response.body, response.attributes) ∧
      response.status = if reply.isError then .failure else .success := by
  rw [encode_eq] at h
  cases hb : options.encode reply.payload reply.attachments with
  | error e => simp [hb, Except.map] at h
  | ok pair =>
    rw [hb] at h
    cases h
    exact ⟨rfl, rfl⟩

theorem Reply.encode_isOk_iff (reply : Reply) (options : CodecOptions) :
    (reply.encode options).isOk = true ↔ options.Accepts reply.payload := by
  rw [← CodecOptions.encode_isOk_iff reply.attachments, encode_eq]
  cases options.encode reply.payload reply.attachments <;> rfl

theorem Reply.encode_of_isOk {reply : Reply} {options : CodecOptions}
    (h : (reply.encode options).isOk = true) : ∃ response, reply.encode options = .ok response := by
  cases he : reply.encode options with
  | error e =>
    rw [he] at h
    cases h
  | ok response => exact ⟨response, rfl⟩

/-- **The caller sees the outcome as it was stated**, whatever serializer it would have fallen
back to, and the attributes of the response as attachments. -/
theorem Plugins.decodeReply_encode {plugins : Plugins} {options : CodecOptions} {reply : Reply}
    {response : Response} (h : plugins.Restores options reply.payload)
    (he : reply.encode options = .ok response) (fallback : Serializer) :
    plugins.decodeReply fallback response =
      .ok { outcome := reply.outcome, attachments := response.attributes } := by
  obtain ⟨hencoded, hstatus⟩ := Reply.encode_eq_ok he
  obtain ⟨hserializer, body, hbody, hnone, hsome⟩ := restores_encode h hencoded
  unfold Reply.isError Reply.error? at hstatus
  unfold Reply.payload at hnone hsome
  cases ho : reply.outcome with
  | ok data =>
    simp only [ho] at hstatus hnone hsome
    simp only [decodeReply, hserializer, hbody, hstatus, readBody_of_restored hnone hsome, bind,
      Except.bind, pure, Except.pure, Reply.attachAll, Reply.value, Attributes.extend_empty]
    rfl
  | error descriptor =>
    simp only [ho] at hstatus hsome
    obtain ⟨hne, hread⟩ := hsome descriptor.toJson rfl
    have hdescriptor : readDescriptor options.serializer body = .ok descriptor := by
      rw [readDescriptor, if_neg (by simpa using hne), hread]
      simp only [bind, Except.bind, ErrorDescriptor.shape_toJson]
      rfl
    simp only [decodeReply, hserializer, hbody, hstatus, hdescriptor, bind, Except.bind, pure,
      Except.pure, Reply.attachAll, Reply.failure, Attributes.extend_empty]
    rfl

/-- A number is that of the business code only. -/
theorem ErrorDescriptor.isBusiness_iff (d : ErrorDescriptor) :
    d.isBusiness = true ↔ d.code = 500 := by
  unfold isBusiness Code.ofInt32
  repeat' split
  all_goals simp_all

end RemoteCall
