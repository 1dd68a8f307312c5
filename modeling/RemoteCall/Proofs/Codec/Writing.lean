/-
What becomes of a call that is encoded.

The parameter is serialized, and what comes of it is compressed if there is a compressor and it
is longer than the threshold. Only when there is a body are the attributes of the call written,
one label after the other. They are shared with whoever holds the call, so it matters what a
failure leaves there, and what a second encoding finds.

* `CodecOptions.Writes` — the rules by which a value becomes a body or an error.
* `CallWork.run_bind` — work on a call goes on with the call as it was left; the other `run_`
  lemmas say what each piece of it leaves.
* `Invocation.encoding_is_all_or_nothing` — a call that cannot be encoded is left as it was; one
  that can is labelled as its body was written, and encoding it again changes nothing.
-/
import RemoteCall.Proofs.Call.Requests
import RemoteCall.Proofs.Codec.Messages

namespace RemoteCall

/-! ## Values -/

namespace CodecOptions

variable {options : CodecOptions} {value : Option Json} {body : Bytes} {used : Option String}
  {outcome : Except CodecError (Bytes × Option String)}

/-- What the options make of a value: a body, with the name of the compressor that it went
through, or an error. -/
inductive Writes (options : CodecOptions) :
    Option Json → Except CodecError (Bytes × Option String) → Prop where
  /-- No value has an empty body, whatever the options are. -/
  | nothing : Writes options none (.ok ([], none))
  | refused {v : Json} {e : CodecError} (serialized : options.serializer.serialize v = .error e) :
      Writes options (some v) (.error e)
  | plain {v : Json} {body : Bytes} (serialized : options.serializer.serialize v = .ok body)
      (short : ∀ c, options.compressor = some c → body.length ≤ options.threshold) :
      Writes options (some v) (.ok (body, none))
  | compressed {v : Json} {body small : Bytes} {c : Compressor}
      (serialized : options.serializer.serialize v = .ok body)
      (compressor : options.compressor = some c) (long : options.threshold < body.length)
      (made : c.compress body = .ok small) : Writes options (some v) (.ok (small, some c.id))
  | stuck {v : Json} {body : Bytes} {c : Compressor} {message : String}
      (serialized : options.serializer.serialize v = .ok body)
      (compressor : options.compressor = some c) (long : options.threshold < body.length)
      (failed : c.compress body = .error message) :
      Writes options (some v) (.error (.compression message))

/-- There is a compressor, and what the serializer makes of the value is longer than the
threshold. -/
def Compresses (options : CodecOptions) (value : Option Json) : Prop :=
  ∃ v body c, value = some v ∧ options.serializer.serialize v = .ok body ∧
    options.compressor = some c ∧ options.threshold < body.length

theorem compressorFor_eq_none_iff :
    options.compressorFor body = none ↔
      ∀ c, options.compressor = some c → body.length ≤ options.threshold := by
  simp [compressorFor]

theorem compressBody_nil (options : CodecOptions) : options.compressBody [] = .ok ([], none) :=
  compressBody_of_none (compressorFor_eq_none_iff.mpr fun _ _ => Nat.zero_le _)

/-- **The rules say what is written**, whatever the value is. -/
theorem writes_iff :
    options.Writes value outcome ↔
      options.writeBody value >>= options.compressBody = outcome := by
  constructor
  · intro h
    cases h with
    | nothing => exact options.compressBody_nil
    | refused serialized => simp only [writeBody, serialized, bind, Except.bind]
    | plain serialized short =>
      simp only [writeBody, serialized, bind, Except.bind]
      exact compressBody_of_none (compressorFor_eq_none_iff.mpr short)
    | compressed serialized compressor long made =>
      simp only [writeBody, serialized, bind, Except.bind, compressBody, compressor, if_pos long,
        made]
    | stuck serialized compressor long failed =>
      simp only [writeBody, serialized, bind, Except.bind, compressBody, compressor, if_pos long,
        failed]
  · rintro rfl
    cases value with
    | none =>
      rw [writeBody]
      simp only [bind, Except.bind, compressBody_nil]
      exact .nothing
    | some v =>
      cases hbody : options.serializer.serialize v with
      | error e =>
        simp only [writeBody, hbody, bind, Except.bind]
        exact .refused hbody
      | ok body =>
        simp only [writeBody, hbody, bind, Except.bind]
        cases hc : options.compressorFor body with
        | none =>
          rw [compressBody_of_none hc]
          exact .plain hbody (compressorFor_eq_none_iff.mp hc)
        | some c =>
          obtain ⟨hcompressor, hlong⟩ := compressorFor_eq_some hc
          rw [compressBody_of_some hc]
          cases hmade : c.compress body with
          | error message => exact .stuck hbody hcompressor hlong hmade
          | ok small => exact .compressed hbody hcompressor hlong hmade

/-- A compressor is named exactly if the body went through it. -/
theorem isSome_iff_of_writes (h : options.Writes value (.ok (body, used))) :
    used.isSome = true ↔ options.Compresses value := by
  generalize houtcome : Except.ok (body, used) = outcome at h
  cases h with
  | nothing =>
    cases houtcome
    exact ⟨nofun, fun ⟨_, _, _, hvalue, _⟩ => nomatch hvalue⟩
  | refused => cases houtcome
  | plain serialized short =>
    cases houtcome
    refine ⟨nofun, ?_⟩
    rintro ⟨_, _, c, ⟨⟩, hbody, hcompressor, hlong⟩
    obtain rfl := Except.ok.inj (serialized.symm.trans hbody)
    exact absurd (short c hcompressor) (Nat.not_le.mpr hlong)
  | compressed serialized compressor long =>
    cases houtcome
    exact ⟨fun _ => ⟨_, _, _, rfl, serialized, compressor, long⟩, fun _ => rfl⟩
  | stuck => cases houtcome

end CodecOptions

/-! ## Work on a call -/

namespace CallWork

variable {α β : Type} (i : Invocation)

/-- Work goes on with the call as it was left, or stops there. -/
theorem run_bind (first : CallWork α) (next : α → CallWork β) :
    (first >>= next).run.run i =
      match first.run.run i with
      | (.ok value, after) => (next value).run.run after
      | (.error e, after) => (.error e, after) := by
  have hbind : (first >>= next).run.run i =
      (ExceptT.bindCont next (first.run.run i).1).run (first.run.run i).2 := rfl
  rw [hbind]
  rcases first.run.run i with ⟨_ | _, after⟩ <;> rfl

theorem run_get : (get : CallWork Invocation).run.run i = (.ok i, i) := rfl

theorem run_modify (change : Invocation → Invocation) :
    (modify change : CallWork Unit).run.run i = (.ok (), change i) := rfl

theorem run_pure (value : α) : (pure value : CallWork α).run.run i = (.ok value, i) := rfl

theorem run_liftExcept (outcome : Except CodecError α) :
    (liftExcept outcome : CallWork α).run.run i = (outcome, i) := by
  cases outcome <;> rfl

/-- Writing the parameter leaves the call alone, also when it fails. -/
theorem run_write :
    write.run.run i =
      (i.method.codec.writeBody i.parameter >>= i.method.codec.compressBody, i) := by
  simp only [write, run_bind, run_get]
  cases i.parameter with
  | none => exact run_liftExcept i _
  | some value =>
    show (liftExcept (i.method.codec.serializer.serialize value) >>= fun serialized =>
        liftExcept (i.method.codec.compressBody serialized) : CallWork _).run.run i =
      (i.method.codec.serializer.serialize value >>= i.method.codec.compressBody, i)
    rw [run_bind, run_liftExcept]
    cases i.method.codec.serializer.serialize value with
    | error e => rfl
    | ok serialized => exact run_liftExcept i _

/-- Labelling cannot fail. -/
theorem run_label (used : Option String) :
    (label used).run.run i =
      (.ok (), { i with attributes := i.method.codec.label used i.attributes }) := by
  simp only [label, run_bind, run_get, run_modify]
  cases used <;> rfl

end CallWork

/-! ## Calls -/

namespace Invocation

variable {i : Invocation} {e : CodecError} {body : Bytes} {used : Option String}

/-- The call with the labels of a body. -/
def labelled (i : Invocation) (used : Option String) : Invocation :=
  { i with attributes := i.method.codec.label used i.attributes }

theorem labelled_labelled (i : Invocation) (used : Option String) :
    (i.labelled used).labelled used = i.labelled used := by
  simp only [labelled, CodecOptions.label_label]

theorem encodeInPlace_eq (i : Invocation) :
    i.encodeInPlace =
      match i.method.codec.writeBody i.parameter >>= i.method.codec.compressBody with
      | .error e => (.error e, i)
      | .ok (body, used) =>
        (.ok { header := (i.labelled used).header, body := body }, i.labelled used) := by
  simp only [encodeInPlace, CallWork.encode, CallWork.run_bind, CallWork.run_write,
    CallWork.run_label, CallWork.run_get, CallWork.run_pure]
  cases i.method.codec.writeBody i.parameter >>= i.method.codec.compressBody <;> rfl

/-- Encoding in place comes to the same as encoding. -/
theorem encode_eq_inPlace (i : Invocation) :
    i.encode = i.encodeInPlace.1.map fun request => (request, i.encodeInPlace.2) := by
  rw [encode_eq, encodeInPlace_eq]
  cases i.method.codec.writeBody i.parameter >>= i.method.codec.compressBody <;> rfl

theorem encodeInPlace_of_error (h : i.method.codec.Writes i.parameter (.error e)) :
    i.encodeInPlace = (.error e, i) := by
  rw [encodeInPlace_eq, CodecOptions.writes_iff.mp h]

theorem encodeInPlace_of_ok (h : i.method.codec.Writes i.parameter (.ok (body, used))) :
    i.encodeInPlace =
      (.ok { header := (i.labelled used).header, body := body }, i.labelled used) := by
  rw [encodeInPlace_eq, CodecOptions.writes_iff.mp h]

/-- The labels have no say in what is written. -/
theorem encodeInPlace_labelled (h : i.method.codec.Writes i.parameter (.ok (body, used))) :
    (i.labelled used).encodeInPlace =
      (.ok { header := (i.labelled used).header, body := body }, i.labelled used) := by
  have hagain : (i.labelled used).method.codec.Writes (i.labelled used).parameter
      (.ok (body, used)) := h
  rw [encodeInPlace_of_ok hagain, labelled_labelled]

/-- **Encoding is all or nothing.** Each parameter is written by one of the rules. If that fails,
the error is told and nothing of the call has changed. If it succeeds, the request has the body
that was written, and its header says what the call says by then. Of the call only the two labels
are new: the serializer is named, and the compressor exactly if the serialized parameter is longer
than the threshold, whatever stood there before. Encoding the call again makes the same request
and leaves it as it is. -/
theorem encoding_is_all_or_nothing (i : Invocation) :
    (∃ outcome, i.method.codec.Writes i.parameter outcome) ∧
    (∀ e, i.method.codec.Writes i.parameter (.error e) →
      i.encodeInPlace = (.error e, i) ∧ i.encode = .error e) ∧
    ∀ body used, i.method.codec.Writes i.parameter (.ok (body, used)) →
      ∃ request after, i.encodeInPlace = (.ok request, after) ∧
        i.encode = .ok (request, after) ∧
        request.body = body ∧ request.header = after.header ∧
        after = { i with attributes := request.header.attributes } ∧
        (∀ key, request.header.attributes[key]? =
          if key = serializerKey then some i.method.codec.serializer.name
          else if key = compressorKey then used
          else i.attributes[key]?) ∧
        (request.header.attributes.contains compressorKey = true ↔
          i.method.codec.Compresses i.parameter) ∧
        after.encodeInPlace = (.ok request, after) := by
  refine ⟨⟨_, CodecOptions.writes_iff.mpr rfl⟩, fun e h => ?_, fun body used h => ?_⟩
  · have hplace := encodeInPlace_of_error h
    exact ⟨hplace, by rw [encode_eq_inPlace, hplace]; rfl⟩
  · have hplace := encodeInPlace_of_ok h
    have hencode : i.encode =
        .ok ({ header := (i.labelled used).header, body := body }, i.labelled used) := by
      rw [encode_eq_inPlace, hplace]
      rfl
    refine ⟨_, _, hplace, hencode, rfl, rfl, rfl, CodecOptions.getElem?_label _ used _, ?_,
      encodeInPlace_labelled h⟩
    rw [← CodecOptions.isSome_iff_of_writes h, Std.ExtTreeMap.contains_eq_isSome_getElem?]
    show (i.method.codec.label used i.attributes)[compressorKey]?.isSome = true ↔ _
    rw [CodecOptions.label_compressor]

/-- The forged call under other compression. Its parameter is serialized to four bytes. -/
def forged (compressor : Compressor) (threshold : Nat) : Invocation :=
  { Plugins.forged with
    method := { Plugins.forged.method with codec := ⟨.json, some compressor, threshold⟩ } }

/-- One byte decides whether the forged label is replaced or taken away. A compressor that is stuck
does neither. -/
theorem forged_call_is_all_or_nothing :
    (∃ request after, (forged Provider.reversal 3).encodeInPlace = (.ok request, after) ∧
      request.body = (Bytes.ofString "null").reverse ∧
      request.header.attributes[compressorKey]? = some "reversal" ∧
      after.encodeInPlace = (.ok request, after)) ∧
    (∃ request after, (forged Provider.reversal 4).encodeInPlace = (.ok request, after) ∧
      request.body = Bytes.ofString "null" ∧
      request.header.attributes[compressorKey]? = none ∧
      after.encodeInPlace = (.ok request, after)) ∧
    let stuck := forged { Provider.reversal with compress := fun _ => .error "stuck" } 3
    stuck.encodeInPlace = (.error (.compression "stuck"), stuck) := by
  refine ⟨?_, ?_, ?_⟩
  · obtain ⟨-, -, hok⟩ := encoding_is_all_or_nothing (forged Provider.reversal 3)
    obtain ⟨request, after, hplace, -, hbody, -, -, hlabels, -, hagain⟩ :=
      hok _ _ (.compressed rfl rfl (by decide) rfl)
    exact ⟨request, after, hplace, hbody, hlabels compressorKey, hagain⟩
  · obtain ⟨-, -, hok⟩ := encoding_is_all_or_nothing (forged Provider.reversal 4)
    have short : ∀ c, some Provider.reversal = some c → (Bytes.ofString "null").length ≤ 4 :=
      fun _ _ => by decide
    obtain ⟨request, after, hplace, -, hbody, -, -, hlabels, -, hagain⟩ :=
      hok _ _ (.plain rfl short)
    exact ⟨request, after, hplace, hbody, hlabels compressorKey, hagain⟩
  · obtain ⟨-, herror, -⟩ := encoding_is_all_or_nothing
      (forged { Provider.reversal with compress := fun _ => .error "stuck" } 3)
    exact (herror _ (.stuck rfl rfl (by decide) rfl)).1

end Invocation

end RemoteCall
