/-
What becomes of a message that is read.

The serializer is settled first, then the body is restored, and only what comes of that is looked
at: it holds no value if it is empty, and is handed to the serializer if it is not.

* `Plugins.Reads` — the rules by which a body becomes an optional value or an error.
* `Plugins.reads_iff` — both readers follow them.
* `Plugins.builtIn_leavesEmpty_iff` — the compressors that are there from the start refuse an empty
  body.
* `Plugins.empty_message_holds_no_value_iff` — a message with an empty body is taken for one
  without a value exactly if the compressor that it names, if any, leaves it empty.

One would expect that an empty body always stands for no value. But it is handed to the compressor
before anyone has looked at it.
-/
import RemoteCall.Proofs.Codec.Messages

namespace RemoteCall

namespace Plugins

variable {plugins : Plugins} {own : Except CodecError Serializer} {attributes : Attributes}
  {body : Bytes}

/-! ## Rules -/

/-- Which serializer a message is read with: the one that it names, or else the reader's own. -/
inductive Settles (plugins : Plugins) (own : Except CodecError Serializer)
    (attributes : Attributes) : Except CodecError Serializer → Prop where
  | unnamed (unnamed : attributes[serializerKey]? = none) : Settles plugins own attributes own
  | known {name : String} {s : Serializer} (named : attributes[serializerKey]? = some name)
      (known : plugins.serializer? name = some s) : Settles plugins own attributes (.ok s)
  | unknown {name : String} (named : attributes[serializerKey]? = some name)
      (unknown : plugins.serializer? name = none) :
      Settles plugins own attributes (.error (.unknownSerializer name))

/-- What a body is restored to by the compressor that its message names. -/
inductive Inflates (plugins : Plugins) (attributes : Attributes) (body : Bytes) :
    Except CodecError Bytes → Prop where
  | unnamed (unnamed : attributes[compressorKey]? = none) :
      Inflates plugins attributes body (.ok body)
  | unknown {id : String} (named : attributes[compressorKey]? = some id)
      (unknown : plugins.compressor? id = none) :
      Inflates plugins attributes body (.error (.unknownCompressor id))
  | corrupt {id : String} {c : Compressor} {message : String}
      (named : attributes[compressorKey]? = some id) (known : plugins.compressor? id = some c)
      (failed : c.decompress body = .error message) :
      Inflates plugins attributes body (.error (.compression message))
  | restored {id : String} {c : Compressor} {restored : Bytes}
      (named : attributes[compressorKey]? = some id) (known : plugins.compressor? id = some c)
      (restores : c.decompress body = .ok restored) :
      Inflates plugins attributes body (.ok restored)

/-- What a reader makes of a body: an optional value or an error. No compressor is looked for
without a serializer, and nothing is deserialized that was not restored. -/
inductive Reads (plugins : Plugins) (own : Except CodecError Serializer) (attributes : Attributes)
    (body : Bytes) : Except CodecError (Option Json) → Prop where
  | unsettled {e : CodecError} (settled : plugins.Settles own attributes (.error e)) :
      Reads plugins own attributes body (.error e)
  | unrestored {s : Serializer} {e : CodecError} (settled : plugins.Settles own attributes (.ok s))
      (inflated : plugins.Inflates attributes body (.error e)) :
      Reads plugins own attributes body (.error e)
  | nothing {s : Serializer} (settled : plugins.Settles own attributes (.ok s))
      (inflated : plugins.Inflates attributes body (.ok [])) :
      Reads plugins own attributes body (.ok none)
  | unreadable {s : Serializer} {restored : Bytes} {e : CodecError}
      (settled : plugins.Settles own attributes (.ok s))
      (inflated : plugins.Inflates attributes body (.ok restored)) (nonempty : restored ≠ [])
      (refused : s.deserialize restored = .error e) : Reads plugins own attributes body (.error e)
  | value {s : Serializer} {restored : Bytes} {v : Json}
      (settled : plugins.Settles own attributes (.ok s))
      (inflated : plugins.Inflates attributes body (.ok restored)) (nonempty : restored ≠ [])
      (read : s.deserialize restored = .ok v) : Reads plugins own attributes body (.ok (some v))

theorem settles_iff {outcome : Except CodecError Serializer} :
    plugins.Settles own attributes outcome ↔ plugins.negotiate attributes own = outcome := by
  constructor
  · intro h
    cases h with
    | unnamed unnamed => simp only [negotiate, unnamed]
    | known named known => simp only [negotiate, named, known]
    | unknown named unknown => simp only [negotiate, named, unknown]
  · rintro rfl
    unfold negotiate
    cases hname : attributes[serializerKey]? with
    | none => exact .unnamed hname
    | some name =>
      cases hs : plugins.serializer? name with
      | none =>
        simp only [hs]
        exact .unknown hname hs
      | some s =>
        simp only [hs]
        exact .known hname hs

theorem inflates_iff {outcome : Except CodecError Bytes} :
    plugins.Inflates attributes body outcome ↔ plugins.restoreBody attributes body = outcome := by
  constructor
  · intro h
    cases h with
    | unnamed unnamed => simp only [restoreBody, unnamed]
    | unknown named unknown => simp only [restoreBody, named, unknown]
    | corrupt named known failed =>
      simp only [restoreBody, named, known, failed]
      rfl
    | restored named known restores =>
      simp only [restoreBody, named, known, restores]
      rfl
  · rintro rfl
    unfold restoreBody
    cases hid : attributes[compressorKey]? with
    | none => exact .unnamed hid
    | some id =>
      cases hc : plugins.compressor? id with
      | none =>
        simp only [hc]
        exact .unknown hid hc
      | some c =>
        simp only [hc]
        cases hrestored : c.decompress body with
        | error message => exact .corrupt hid hc hrestored
        | ok restored => exact .restored hid hc hrestored

/-! ## The readers -/

/-- What the readers of calls and of replies have in common. -/
def read (plugins : Plugins) (own : Except CodecError Serializer) (attributes : Attributes)
    (body : Bytes) : Except CodecError (Option Json) := do
  let serializer ← plugins.negotiate attributes own
  let restored ← plugins.restoreBody attributes body
  readBody serializer restored

/-- **The rules say what is read**, whatever the body and its labels are. -/
theorem reads_iff {outcome : Except CodecError (Option Json)} :
    plugins.Reads own attributes body outcome ↔ plugins.read own attributes body = outcome := by
  constructor
  · intro h
    cases h with
    | unsettled settled => simp only [read, settles_iff.mp settled, bind, Except.bind]
    | unrestored settled inflated =>
      simp only [read, settles_iff.mp settled, inflates_iff.mp inflated, bind, Except.bind]
    | nothing settled inflated =>
      simp only [read, settles_iff.mp settled, inflates_iff.mp inflated, bind, Except.bind]
      rfl
    | unreadable settled inflated nonempty refused =>
      simp only [read, settles_iff.mp settled, inflates_iff.mp inflated, bind, Except.bind]
      rw [readBody, if_neg (by simpa using nonempty), refused]
      rfl
    | value settled inflated nonempty hread =>
      simp only [read, settles_iff.mp settled, inflates_iff.mp inflated, bind, Except.bind]
      rw [readBody, if_neg (by simpa using nonempty), hread]
      rfl
  · rintro rfl
    unfold read
    cases hserializer : plugins.negotiate attributes own with
    | error e => exact .unsettled (settles_iff.mpr hserializer)
    | ok s =>
      have hsettled := settles_iff.mpr hserializer
      cases hrestored : plugins.restoreBody attributes body with
      | error e => exact .unrestored hsettled (inflates_iff.mpr hrestored)
      | ok restored =>
        have hinflated := inflates_iff.mpr hrestored
        simp only [bind, Except.bind]
        by_cases hempty : restored = []
        · subst hempty
          exact .nothing hsettled hinflated
        · rw [readBody, if_neg (by simpa using hempty)]
          cases hread : s.deserialize restored with
          | error e => exact .unreadable hsettled hinflated hempty hread
          | ok v => exact .value hsettled hinflated hempty hread

/-- The serializer that calls are read with if they name none. -/
def json (plugins : Plugins) : Except CodecError Serializer :=
  match plugins.serializer? "json" with
  | some s => .ok s
  | none => .error (.unknownSerializer "json")

theorem decodeCall_eq (plugins : Plugins) (request : Request) :
    plugins.decodeCall request =
      (plugins.read plugins.json request.header.attributes request.body).map fun parameter =>
        { header := request.header, parameter := parameter } := by
  have hdecode : plugins.decodeCall request = (do
      let serializer ← plugins.negotiate request.header.attributes plugins.json
      let restored ← plugins.restoreBody request.header.attributes request.body
      let parameter ← readBody serializer restored
      return { header := request.header, parameter := parameter }) := rfl
  rw [hdecode, read]
  cases plugins.negotiate request.header.attributes plugins.json with
  | error e => rfl
  | ok s =>
    cases plugins.restoreBody request.header.attributes request.body with
    | error e => rfl
    | ok restored =>
      simp only [bind, Except.bind, Except.map]
      cases readBody s restored <;> rfl

/-- Failures are read differently: their body cannot be empty. -/
theorem decodeReply_of_success (plugins : Plugins) (fallback : Serializer) (response : Response)
    (success : response.status = .success) :
    plugins.decodeReply fallback response =
      (plugins.read (.ok fallback) response.attributes response.body).map fun data =>
        { outcome := .ok data, attachments := response.attributes } := by
  unfold decodeReply read
  cases plugins.negotiate response.attributes (.ok fallback) with
  | error e => rfl
  | ok s =>
    cases plugins.restoreBody response.attributes response.body with
    | error e => rfl
    | ok restored =>
      simp only [success, bind, Except.bind, Except.map]
      cases readBody s restored with
      | error e => rfl
      | ok data =>
        simp only [pure, Except.pure, Reply.attachAll, Reply.value, Attributes.extend_empty]

/-! ## Empty messages -/

variable {s : Serializer} {header : Header}

/-- There is no value exactly if nothing comes of the body before it is deserialized. -/
theorem read_eq_none_iff (settled : plugins.Settles own attributes (.ok s)) :
    plugins.read own attributes body = .ok none ↔ plugins.Inflates attributes body (.ok []) := by
  constructor
  · intro h
    generalize houtcome : Except.ok none = outcome at h
    cases reads_iff.mpr h with
    | nothing _ inflated => exact inflated
    | unsettled | unrestored | unreadable | value => cases houtcome
  · exact fun inflated => reads_iff.mp (.nothing settled inflated)

theorem decodeCall_eq_none_iff (settled : plugins.Settles plugins.json header.attributes (.ok s)) :
    plugins.decodeCall { header := header, body := body } =
        .ok { header := header, parameter := none } ↔
      plugins.Inflates header.attributes body (.ok []) := by
  rw [decodeCall_eq, ← read_eq_none_iff settled]
  cases plugins.read plugins.json header.attributes body <;> simp [Except.map]

theorem decodeReply_eq_none_iff {fallback : Serializer}
    (settled : plugins.Settles (.ok fallback) attributes (.ok s)) :
    plugins.decodeReply fallback { status := .success, attributes := attributes, body := body } =
        .ok { outcome := .ok none, attachments := attributes } ↔
      plugins.Inflates attributes body (.ok []) := by
  rw [decodeReply_of_success plugins fallback _ rfl, ← read_eq_none_iff settled]
  cases plugins.read (.ok fallback) attributes body <;> simp [Except.map]

/-- The plugins that a program can have. Plugins are added and may replace others, but none is
taken away. -/
inductive Grown : Plugins → Prop where
  | builtIn : Grown builtIn
  | serializer {plugins : Plugins} (h : Grown plugins) (s : Serializer) :
      Grown (plugins.registerSerializer s).2
  | compressor {plugins : Plugins} (h : Grown plugins) (c : Compressor) :
      Grown (plugins.registerCompressor c).2

/-- The serializer of unlabelled calls may be replaced, but there always is one. -/
theorem Grown.exists_json (h : plugins.Grown) : ∃ s, plugins.json = .ok s := by
  suffices hsome : ∃ s, plugins.serializer? "json" = some s by
    obtain ⟨s, hs⟩ := hsome
    exact ⟨s, by rw [json, hs]⟩
  induction h with
  | builtIn => exact ⟨.json, rfl⟩
  | @serializer plugins _ s ih =>
    simp only [serializer?, registerSerializer, Table.getElem?_insert_eq]
    split
    · exact ⟨s, rfl⟩
    · exact ih
  | compressor _ _ ih => exact ih

/-- The plugins that a message names are registered. -/
structure Knows (plugins : Plugins) (attributes : Attributes) : Prop where
  serializer : ∀ name, attributes[serializerKey]? = some name →
    (plugins.serializer? name).isSome = true
  compressor : ∀ id, attributes[compressorKey]? = some id → (plugins.compressor? id).isSome = true

/-- The compressor that a message names, if any, restores an empty body to an empty body. -/
def LeavesEmpty (plugins : Plugins) (attributes : Attributes) : Prop :=
  ∀ id c, attributes[compressorKey]? = some id → plugins.compressor? id = some c →
    c.decompress [] = .ok []

theorem Knows.settles (known : plugins.Knows attributes) (hown : ∃ s, own = .ok s) :
    ∃ s, plugins.Settles own attributes (.ok s) := by
  cases hname : attributes[serializerKey]? with
  | none =>
    obtain ⟨s, rfl⟩ := hown
    exact ⟨s, .unnamed hname⟩
  | some name =>
    obtain ⟨s, hs⟩ := Option.isSome_iff_exists.mp (known.serializer name hname)
    exact ⟨s, .known hname hs⟩

theorem Knows.inflates_nil_iff (known : plugins.Knows attributes) :
    plugins.Inflates attributes [] (.ok []) ↔ plugins.LeavesEmpty attributes := by
  cases hid : attributes[compressorKey]? with
  | none => exact ⟨fun _ id c named => by simp [hid] at named, fun _ => .unnamed hid⟩
  | some id =>
    obtain ⟨c, hc⟩ := Option.isSome_iff_exists.mp (known.compressor id hid)
    constructor
    · intro inflated id' c' hid' hc'
      have hbody := inflates_iff.mp inflated
      simp only [restoreBody, hid', hc'] at hbody
      cases hrestored : c'.decompress [] with
      | error message =>
        rw [hrestored] at hbody
        cases hbody
      | ok restored =>
        rw [hrestored] at hbody
        cases hbody
        rfl
    · exact fun leaves => .restored hid hc (leaves id c hid hc)

/-- The compressors that are there from the start refuse an empty body. With them alone, naming any
compressor is enough to keep an empty message from being read. -/
theorem builtIn_leavesEmpty_iff (known : builtIn.Knows attributes) :
    builtIn.LeavesEmpty attributes ↔ attributes[compressorKey]? = none := by
  have hrefuse : ∀ id c, builtIn.compressor? id = some c → c.decompress [] ≠ .ok [] := by
    intro id c hc
    simp only [compressor?, builtIn, registerCompressor, Table.getElem?_insert_eq] at hc
    split at hc
    · cases hc
      exact nofun
    · split at hc
      · cases hc
        exact nofun
      · cases hc
  cases hid : attributes[compressorKey]? with
  | none => exact ⟨fun _ => rfl, fun _ id c named => by simp [hid] at named⟩
  | some id =>
    obtain ⟨c, hc⟩ := Option.isSome_iff_exists.mp (known.compressor id hid)
    exact ⟨fun leaves => absurd (leaves id c hid hc) (hrefuse id c hc), nofun⟩

/-- **When an empty message holds no value.** Take any plugins that a program can have, and a call
or a successful reply without a body whose plugins are among them. It is read as one without a
value, with all its attributes, exactly if the compressor that it names, if any, restores the empty
body to an empty one. A compressor that refuses an empty body makes both readers fail with what it
has to say. -/
theorem empty_message_holds_no_value_iff (grown : plugins.Grown) (fallback : Serializer)
    (header : Header) (known : plugins.Knows header.attributes) :
    let call := plugins.decodeCall { header := header, body := [] }
    let reply := plugins.decodeReply fallback
      { status := .success, attributes := header.attributes, body := [] }
    (call = .ok { header := header, parameter := none } ↔
      plugins.LeavesEmpty header.attributes) ∧
    (reply = .ok { outcome := .ok none, attachments := header.attributes } ↔
      plugins.LeavesEmpty header.attributes) ∧
    ∀ id c message, header.attributes[compressorKey]? = some id →
      plugins.compressor? id = some c → c.decompress [] = .error message →
        call = .error (.compression message) ∧ reply = .error (.compression message) := by
  obtain ⟨s, hcall⟩ := known.settles grown.exists_json
  obtain ⟨t, hreply⟩ := known.settles ⟨fallback, rfl⟩
  refine ⟨?_, ?_, fun id c message hid hc hfailed => ?_⟩
  · rw [decodeCall_eq_none_iff hcall, known.inflates_nil_iff]
  · rw [decodeReply_eq_none_iff hreply, known.inflates_nil_iff]
  · have hcorrupt : plugins.Inflates header.attributes [] (.error (.compression message)) :=
      .corrupt hid hc hfailed
    constructor
    · rw [decodeCall_eq, reads_iff.mp (.unrestored hcall hcorrupt)]
      rfl
    · rw [decodeReply_of_success plugins fallback _ rfl, reads_iff.mp (.unrestored hreply hcorrupt)]
      rfl

/-- Attributes that name a compressor and nothing else. -/
def compressedWith (id : String) : Attributes :=
  (∅ : Attributes).insert compressorKey id

theorem getElem?_compressedWith (id key : String) :
    (compressedWith id)[key]? = if key = compressorKey then some id else none := by
  rw [compressedWith, Table.getElem?_insert_eq]
  rfl

theorem knows_compressedWith {id : String} (h : (plugins.compressor? id).isSome = true) :
    plugins.Knows (compressedWith id) where
  serializer name hname := by
    rw [getElem?_compressedWith, if_neg (by decide)] at hname
    cases hname
  compressor id' hid := by
    rw [getElem?_compressedWith, if_pos rfl, Option.some.injEq] at hid
    rwa [← hid]

/-- A compressor may be named in any case. The one that reverses bytes leaves an empty body empty,
and gzip finds fault with it. -/
theorem reversed_nothing_holds_no_value :
    let plugins := (builtIn.registerCompressor Provider.reversal).2
    let header (id : String) := { forged.header with attributes := compressedWith id }
    plugins.Grown ∧ plugins.Knows (compressedWith " Reversal") ∧
      plugins.Knows (compressedWith "gzip") ∧
    plugins.decodeCall { header := header " Reversal", body := [] } =
      .ok { header := header " Reversal", parameter := none } ∧
    plugins.decodeReply .json
        { status := .success, attributes := compressedWith " Reversal", body := [] } =
      .ok { outcome := .ok none, attachments := compressedWith " Reversal" } ∧
    plugins.decodeReply .json
        { status := .success, attributes := compressedWith "gzip", body := [] } =
      .error (.compression "corrupt gzip stream") := by
  intro plugins header
  have hgrown : plugins.Grown := .compressor .builtIn _
  have hreversal : plugins.Knows (compressedWith " Reversal") := knows_compressedWith rfl
  have hgzip : plugins.Knows (compressedWith "gzip") := knows_compressedWith rfl
  have hleaves : plugins.LeavesEmpty (compressedWith " Reversal") := by
    intro id c hid hc
    rw [getElem?_compressedWith, if_pos rfl, Option.some.injEq] at hid
    subst hid
    have hreversed : plugins.compressor? " Reversal" = some Provider.reversal := rfl
    rw [hreversed, Option.some.injEq] at hc
    subst hc
    rfl
  obtain ⟨hcall, hreply, -⟩ :=
    empty_message_holds_no_value_iff hgrown .json (header " Reversal") hreversal
  obtain ⟨-, -, hcorrupt⟩ :=
    empty_message_holds_no_value_iff hgrown .json (header "gzip") hgzip
  refine ⟨hgrown, hreversal, hgzip, hcall.mpr hleaves, hreply.mpr hleaves, ?_⟩
  exact (hcorrupt "gzip" .gzip _ rfl rfl rfl).2

/-- An empty body that is said to be compressed, in a reply and in a call: both name a compressor
that is there from the start, and neither is read as a message without a value. -/
theorem zipped_nothing_is_refused :
    let response : Response :=
      { status := .success, attributes := compressedWith "gzip", body := [] }
    let request : Request :=
      { header := { forged.header with attributes := compressedWith "deflate" }, body := [] }
    builtIn.Knows response.attributes ∧
    builtIn.decodeReply .json response = .error (.compression "corrupt gzip stream") ∧
    builtIn.decodeReply .json response ≠
      .ok { outcome := .ok none, attachments := response.attributes } ∧
    builtIn.Knows request.header.attributes ∧
    builtIn.decodeCall request = .error (.compression "corrupt deflate stream") ∧
    builtIn.decodeCall request ≠ .ok { header := request.header, parameter := none } := by
  have hreply : builtIn.decodeReply .json
      { status := .success, attributes := compressedWith "gzip", body := [] } =
        .error (.compression "corrupt gzip stream") := rfl
  have hcall : builtIn.decodeCall
      { header := { forged.header with attributes := compressedWith "deflate" }, body := [] } =
        .error (.compression "corrupt deflate stream") := rfl
  refine ⟨knows_compressedWith rfl, hreply, ?_, knows_compressedWith rfl, hcall, ?_⟩
  · rw [hreply]
    exact nofun
  · rw [hcall]
    exact nofun

end Plugins

end RemoteCall
