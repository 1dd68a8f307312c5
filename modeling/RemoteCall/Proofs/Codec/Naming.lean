/-
Which plugin a name leads to.

A plugin is registered under its name in lower case, and it is looked up under a name that is
trimmed and in lower case. So a look-up finds what was registered last under the trimmed name
(`Plugins.serializer?_eq_some_iff`, `compressor?_eq_some_iff`), in any ASCII case.

* `Plugins.found_iff_tidy` — a plugin is found under its own name exactly if there is no white
  space around that.
* `Plugins.register_serializer_of_ne`, `register_compressor_of_ne` — what is registered under one
  name leaves every other name alone.
* `Plugins.Knows.fails_later` — a message that names registered plugins is not refused for want of
  one.
* `Plugins.plugins_go_by_their_trimmed_names` — all of this, for every history of registrations.
* `Plugins.padded_plugins_are_lost` — white space around the name hides a plugin.

One would expect that a plugin can be looked up under the name that it was registered under. But a
name with white space around it is registered as it is, and trimmed when it is looked up.
-/
import RemoteCall.Proofs.Codec.Reading
import RemoteCall.Proofs.Text.Spelling

namespace RemoteCall

/-! ## Registrations -/

/-- A plugin to be registered. -/
inductive Registration where
  | serializer (s : Serializer)
  | compressor (c : Compressor)

/-- The plugins with one more. -/
def Plugins.register (plugins : Plugins) : Registration → Plugins
  | .serializer s => (plugins.registerSerializer s).2
  | .compressor c => (plugins.registerCompressor c).2

namespace Registration

def serializer? : Registration → Option Serializer
  | serializer s => some s
  | compressor _ => none

def compressor? : Registration → Option Compressor
  | serializer _ => none
  | compressor c => some c

/-- The plugins that a program has after these registrations, in their order. -/
def plugins (history : List Registration) : Plugins :=
  history.foldl Plugins.register .builtIn

/-- All serializers that were ever registered, in their order. -/
def serializers (history : List Registration) : List Serializer :=
  .json :: history.filterMap serializer?

/-- All compressors that were ever registered, in their order. -/
def compressors (history : List Registration) : List Compressor :=
  .gzip :: .deflate :: history.filterMap compressor?

end Registration

namespace Plugins

variable {α : Type}

/-- A plugin has the name, in some ASCII case, and none that was registered after it has. -/
def RegisteredLast (nameOf : α → String) (registered : List α) (name : String) (x : α) : Prop :=
  ∃ before after, registered = before ++ x :: after ∧ Text.lower (nameOf x) = Text.lower name ∧
    ∀ y ∈ after, Text.lower (nameOf y) ≠ Text.lower name

/-! ## Tables of plugins -/

variable {nameOf : α → String} {registered : List α} {name : String} {x : α}

/-- The last one that was stored under a key is there. -/
theorem getElem?_foldl_insert (key : String) (table : Table α) :
    (registered.foldl (fun table x => table.insert (Text.lower (nameOf x)) x) table)[key]? =
      (registered.reverse.find? fun x => Text.lower (nameOf x) == key).or table[key]? := by
  induction registered generalizing table with
  | nil => rfl
  | cons x rest ih =>
    rw [List.foldl_cons, ih, Table.getElem?_insert_eq, List.reverse_cons, List.find?_append,
      Option.or_assoc, List.find?_singleton]
    by_cases hkey : Text.lower (nameOf x) = key
    · simp [hkey]
    · simp [hkey, Ne.symm hkey]

theorem registeredLast_iff :
    RegisteredLast nameOf registered name x ↔
      (registered.reverse.find? fun x => Text.lower (nameOf x) == Text.lower name) = some x := by
  rw [List.find?_eq_some_iff_append]
  constructor
  · rintro ⟨before, after, rfl, hname, hlater⟩
    exact ⟨by simpa using hname, after.reverse, before.reverse, by simp, by simpa using hlater⟩
  · rintro ⟨hname, later, earlier, hreverse, hlater⟩
    refine ⟨earlier.reverse, later.reverse, ?_, by simpa using hname, by simpa using hlater⟩
    rw [← List.reverse_reverse registered, hreverse]
    simp

/-- Whatever has been registered, there is a last plugin of its name. -/
theorem exists_registeredLast (h : x ∈ registered) :
    ∃ y, RegisteredLast nameOf registered (nameOf x) y := by
  simp only [registeredLast_iff, ← Option.isSome_iff_exists, List.find?_isSome, List.mem_reverse]
  exact ⟨x, h, beq_self_eq_true _⟩

theorem serializers_foldl_register (history : List Registration) (plugins : Plugins) :
    (history.foldl register plugins).serializers =
      (history.filterMap Registration.serializer?).foldl
        (fun table s => table.insert (Text.lower s.name) s) plugins.serializers := by
  induction history generalizing plugins with
  | nil => rfl
  | cons first rest ih => cases first <;> exact ih _

theorem compressors_foldl_register (history : List Registration) (plugins : Plugins) :
    (history.foldl register plugins).compressors =
      (history.filterMap Registration.compressor?).foldl
        (fun table c => table.insert (Text.lower c.id) c) plugins.compressors := by
  induction history generalizing plugins with
  | nil => rfl
  | cons first rest ih => cases first <;> exact ih _

/-! ## Look-ups -/

variable {history : List Registration} {text : String}

theorem serializer?_eq_some_iff {s : Serializer} :
    (Registration.plugins history).serializer? text = some s ↔
      RegisteredLast Serializer.name (Registration.serializers history) (Text.trim text) s := by
  have htable : (Registration.plugins history).serializers =
      (Registration.serializers history).foldl
        (fun table s => table.insert (Text.lower s.name) s) ∅ := serializers_foldl_register _ _
  rw [registeredLast_iff, serializer?, htable, getElem?_foldl_insert, Std.ExtTreeMap.getElem?_empty,
    Option.or_none]
  rfl

theorem compressor?_eq_some_iff {c : Compressor} :
    (Registration.plugins history).compressor? text = some c ↔
      RegisteredLast Compressor.id (Registration.compressors history) (Text.trim text) c := by
  have htable : (Registration.plugins history).compressors =
      (Registration.compressors history).foldl
        (fun table c => table.insert (Text.lower c.id) c) ∅ := compressors_foldl_register _ _
  rw [registeredLast_iff, compressor?, htable, getElem?_foldl_insert, Std.ExtTreeMap.getElem?_empty,
    Option.or_none]
  rfl

theorem RegisteredLast.congr {other : String} (h : RegisteredLast nameOf registered name x)
    (same : Text.lower other = Text.lower name) : RegisteredLast nameOf registered other x := by
  obtain ⟨before, after, hsplit, hname, hlater⟩ := h
  exact ⟨before, after, hsplit, hname.trans same.symm, fun y hy => same ▸ hlater y hy⟩

/-- **A plugin is found under its own name exactly if there is no white space around that**, in
whatever spelling the name is looked up. What is found is the last plugin of this name. -/
theorem found_iff_tidy {lookup : String → Option α}
    (finds : ∀ text y, lookup text = some y ↔
      RegisteredLast nameOf registered (Text.trim text) y) (h : x ∈ registered) :
    Text.trim (nameOf x) = nameOf x ↔
      ∃ y, RegisteredLast nameOf registered (nameOf x) y ∧
        ∀ text, Text.Spells (nameOf x) text → lookup text = some y := by
  constructor
  · intro htidy
    obtain ⟨y, hy⟩ : ∃ y, RegisteredLast nameOf registered (nameOf x) y := exists_registeredLast h
    refine ⟨y, hy, fun text hspells => (finds text y).mpr (hy.congr ?_)⟩
    rw [Text.lower_trim_of_spells hspells, htidy]
  · rintro ⟨y, ⟨-, -, -, hname, -⟩, hlookup⟩
    obtain ⟨-, -, -, htrimmed, -⟩ := (finds _ y).mp (hlookup _ (.refl _))
    exact Text.trim_eq_self_of_lower_trim (htrimmed.symm.trans hname)

/-! ## Registering another one -/

variable {plugins : Plugins}

theorem register_serializer_of_ne {s : Serializer} (h : lookupKey text ≠ Text.lower s.name) :
    (plugins.register (.serializer s)).serializer? text = plugins.serializer? text := by
  show (plugins.serializers.insert (Text.lower s.name) s)[lookupKey text]? = _
  rw [Table.getElem?_insert_eq, if_neg h]
  rfl

theorem register_compressor_of_ne {c : Compressor} (h : lookupKey text ≠ Text.lower c.id) :
    (plugins.register (.compressor c)).compressor? text = plugins.compressor? text := by
  show (plugins.compressors.insert (Text.lower c.id) c)[lookupKey text]? = _
  rw [Table.getElem?_insert_eq, if_neg h]
  rfl

end Plugins

/-! ## Messages -/

/-- The error says that a plugin is not registered. -/
def CodecError.MissesPlugin : CodecError → Prop
  | .unknownSerializer _ | .unknownCompressor _ => True
  | .payload _ | .compression _ | .malformed _ => False

namespace Plugins

variable {plugins : Plugins} {attributes labelled : Attributes} {name : String} {body : Bytes}
  {e : CodecError}

/-- A message whose plugins are registered gets past the look-ups, whoever reads it. If it is
refused for want of a plugin, that is because its own serializer says so. -/
theorem Knows.fails_later {α : Type} {own : Except CodecError Serializer}
    {next : Serializer → Bytes → Except CodecError α} (known : plugins.Knows attributes)
    (named : attributes[serializerKey]? = some name)
    (h : (do
      let s ← plugins.negotiate attributes own
      let restored ← plugins.restoreBody attributes body
      next s restored) = .error e) (misses : e.MissesPlugin) :
    ∃ s restored, plugins.serializer? name = some s ∧ next s restored = .error e := by
  obtain ⟨s, hs⟩ := Option.isSome_iff_exists.mp (known.serializer name named)
  have hsettled : plugins.negotiate attributes own = .ok s := settles_iff.mp (.known named hs)
  cases hrestored : plugins.restoreBody attributes body with
  | ok restored =>
    simp only [hsettled, hrestored, bind, Except.bind] at h
    exact ⟨s, restored, hs, h⟩
  | error fault =>
    simp only [hsettled, hrestored, bind, Except.bind] at h
    obtain rfl := Except.error.inj h
    generalize houtcome : Except.error fault = outcome at hrestored
    cases inflates_iff.mpr hrestored with
    | unnamed | restored => cases houtcome
    | unknown named unknown =>
      have hknown := known.compressor _ named
      rw [unknown] at hknown
      cases hknown
    | corrupt =>
      cases houtcome
      exact misses.elim

theorem readBody_eq_error {s : Serializer} (h : readBody s body = .error e) :
    s.deserialize body = .error e := by
  unfold readBody at h
  split at h
  · cases h
  · cases hread : s.deserialize body with
    | ok v =>
      rw [hread] at h
      cases h
    | error fault =>
      rw [hread] at h
      cases h
      rfl

theorem readDescriptor_eq_error {s : Serializer} (h : readDescriptor s body = .error e)
    (misses : e.MissesPlugin) : s.deserialize body = .error e := by
  unfold readDescriptor at h
  split at h
  · cases h
    exact misses.elim
  · cases hread : s.deserialize body with
    | error fault =>
      simp only [hread, bind, Except.bind] at h
      cases h
      rfl
    | ok v =>
      simp only [hread, bind, Except.bind] at h
      cases hshape : ErrorDescriptor.shape v with
      | ok d =>
        rw [hshape] at h
        cases h
      | error cause =>
        rw [hshape] at h
        cases h
        exact misses.elim

theorem Knows.decodeCall_fails {request : Request} (known : plugins.Knows request.header.attributes)
    (named : request.header.attributes[serializerKey]? = some name)
    (h : plugins.decodeCall request = .error e) (misses : e.MissesPlugin) :
    ∃ s restored, plugins.serializer? name = some s ∧ s.deserialize restored = .error e := by
  rw [decodeCall_eq] at h
  cases hread : plugins.read plugins.json request.header.attributes request.body with
  | ok parameter =>
    rw [hread] at h
    cases h
  | error fault =>
    rw [hread] at h
    cases h
    obtain ⟨s, restored, hs, hnext⟩ := known.fails_later named hread misses
    exact ⟨s, restored, hs, readBody_eq_error hnext⟩

theorem Knows.decodeReply_fails {response : Response} {fallback : Serializer}
    (known : plugins.Knows response.attributes)
    (named : response.attributes[serializerKey]? = some name)
    (h : plugins.decodeReply fallback response = .error e) (misses : e.MissesPlugin) :
    ∃ s restored, plugins.serializer? name = some s ∧ s.deserialize restored = .error e := by
  obtain ⟨s, restored, hs, hnext⟩ := known.fails_later named h misses
  refine ⟨s, restored, hs, ?_⟩
  cases hstatus : response.status with
  | success =>
    simp only [hstatus] at hnext
    cases hread : readBody s restored with
    | ok data =>
      rw [hread] at hnext
      cases hnext
    | error fault =>
      rw [hread] at hnext
      cases hnext
      exact readBody_eq_error hread
  | failure =>
    simp only [hstatus] at hnext
    cases hread : readDescriptor s restored with
    | ok descriptor =>
      rw [hread] at hnext
      cases hnext
    | error fault =>
      rw [hread] at hnext
      cases hnext
      exact readDescriptor_eq_error hread misses

/-- A message names the plugins that wrote it. -/
theorem knows_of_encode {options : CodecOptions} {value : Option Json} {small : Bytes}
    (h : options.encode value attributes = .ok (small, labelled))
    (serializer : (plugins.serializer? options.serializer.name).isSome = true)
    (compressor : ∀ c, options.compressor = some c → (plugins.compressor? c.id).isSome = true) :
    plugins.Knows labelled ∧ labelled[serializerKey]? = some options.serializer.name := by
  obtain ⟨written, -, rfl⟩ := CodecOptions.label_of_encode h
  refine ⟨⟨fun name hname => ?_, fun id hid => ?_⟩, CodecOptions.label_serializer ..⟩
  · rw [CodecOptions.label_serializer, Option.some.injEq] at hname
    rwa [← hname]
  · rw [CodecOptions.label_compressor] at hid
    obtain ⟨c, hc, rfl⟩ := Option.map_eq_some_iff.mp hid
    exact compressor c (CodecOptions.compressorFor_eq_some hc).1

/-- The plugins of the options are among those that were registered, and there is no white space
around their names. -/
structure Tidy (history : List Registration) (options : CodecOptions) : Prop where
  serializer : options.serializer ∈ Registration.serializers history
  compressor : ∀ c, options.compressor = some c → c ∈ Registration.compressors history
  serializer_trim : Text.trim options.serializer.name = options.serializer.name
  compressor_trim : ∀ c, options.compressor = some c → Text.trim c.id = c.id

theorem Tidy.knows {history : List Registration} {options : CodecOptions} {value : Option Json}
    {small : Bytes} (tidy : Tidy history options)
    (h : options.encode value attributes = .ok (small, labelled)) :
    (Registration.plugins history).Knows labelled ∧
      labelled[serializerKey]? = some options.serializer.name := by
  refine knows_of_encode h ?_ fun c hc => ?_
  · obtain ⟨s, -, hs⟩ :=
      (found_iff_tidy (fun _ _ => serializer?_eq_some_iff) tidy.serializer).mp tidy.serializer_trim
    rw [hs _ (.refl _)]
    rfl
  · obtain ⟨d, -, hd⟩ := (found_iff_tidy (fun _ _ => compressor?_eq_some_iff)
      (tidy.compressor c hc)).mp (tidy.compressor_trim c hc)
    rw [hd _ (.refl _)]
    rfl

/-- **Plugins go by their trimmed names.** After any registrations, a look-up finds the plugin that
was registered last under the trimmed name, in any ASCII case. So a plugin that was ever
registered is found under its own name, in any spelling of that, exactly if there is no white
space around it; and what is found is the last one of this name. What is registered under one name
changes nothing for another one. Calls and replies that are written with registered plugins under
tidy names are not refused for want of a plugin, unless it is the serializer found under the name of
theirs that says so of its own accord. -/
theorem plugins_go_by_their_trimmed_names (history : List Registration) :
    let plugins := Registration.plugins history
    let serializers := Registration.serializers history
    let compressors := Registration.compressors history
    (∀ text s, plugins.serializer? text = some s ↔
      RegisteredLast Serializer.name serializers (Text.trim text) s) ∧
    (∀ text c, plugins.compressor? text = some c ↔
      RegisteredLast Compressor.id compressors (Text.trim text) c) ∧
    (∀ s ∈ serializers, Text.trim s.name = s.name ↔
      ∃ t, RegisteredLast Serializer.name serializers s.name t ∧
        ∀ text, Text.Spells s.name text → plugins.serializer? text = some t) ∧
    (∀ c ∈ compressors, Text.trim c.id = c.id ↔
      ∃ d, RegisteredLast Compressor.id compressors c.id d ∧
        ∀ text, Text.Spells c.id text → plugins.compressor? text = some d) ∧
    (∀ s text, (plugins.register (.serializer s)).compressor? text = plugins.compressor? text ∧
      (lookupKey text ≠ Text.lower s.name →
        (plugins.register (.serializer s)).serializer? text = plugins.serializer? text)) ∧
    (∀ c text, (plugins.register (.compressor c)).serializer? text = plugins.serializer? text ∧
      (lookupKey text ≠ Text.lower c.id →
        (plugins.register (.compressor c)).compressor? text = plugins.compressor? text)) ∧
    ∀ options, Tidy history options → ∀ e : CodecError, e.MissesPlugin →
      (∀ (i : Invocation) request labelled, i.method.codec = options →
        i.encode = .ok (request, labelled) → plugins.decodeCall request = .error e →
          ∃ s restored, plugins.serializer? options.serializer.name = some s ∧
            s.deserialize restored = .error e) ∧
      ∀ (reply : Reply) response fallback, reply.encode options = .ok response →
        plugins.decodeReply fallback response = .error e →
          ∃ s restored, plugins.serializer? options.serializer.name = some s ∧
            s.deserialize restored = .error e := by
  intro plugins serializers compressors
  refine ⟨fun _ _ => serializer?_eq_some_iff, fun _ _ => compressor?_eq_some_iff,
    fun s hs => found_iff_tidy (fun _ _ => serializer?_eq_some_iff) hs,
    fun c hc => found_iff_tidy (fun _ _ => compressor?_eq_some_iff) hc,
    fun s text => ⟨rfl, register_serializer_of_ne⟩,
    fun c text => ⟨rfl, register_compressor_of_ne⟩, fun options tidy e misses => ⟨?_, ?_⟩⟩
  · rintro i request labelled rfl hencode hdecode
    obtain ⟨known, named⟩ := tidy.knows (Invocation.encode_eq_ok hencode).1
    exact known.decodeCall_fails named hdecode misses
  · intro reply response fallback hencode hdecode
    obtain ⟨known, named⟩ := tidy.knows (Reply.encode_eq_ok hencode).1
    exact known.decodeReply_fails named hdecode misses

/-! ## Three serializers of two names -/

/-- JSON under another name. -/
def jsonAs (name : String) : Serializer := { Serializer.json with name := name }

theorem jsonAs_deserialize_ne (name : String) (body : Bytes) {e : CodecError}
    (misses : e.MissesPlugin) : (jsonAs name).deserialize body ≠ .error e := by
  intro hread
  have hdeserialize : (jsonAs name).deserialize body =
      (Json.parse body).mapError fun cause => .payload (.text cause) := rfl
  rw [hdeserialize] at hread
  cases hparsed : Json.parse body with
  | ok value =>
    rw [hparsed] at hread
    cases hread
  | error cause =>
    rw [hparsed] at hread
    cases hread
    exact misses

/-- The forged call, written with such a serializer. -/
def forgedAs (name : String) : Invocation :=
  { forged with method := { forged.method with codec := .plain (jsonAs name) } }

theorem forgedAs_encode (name : String) :
    ∃ request labelled, (forgedAs name).encode = .ok (request, labelled) :=
  Invocation.encode_of_isOk
    ((forgedAs name).encode_isOk_iff.mpr ⟨Bytes.ofString "null", rfl, nofun⟩)

/-- Registrations of three serializers, of which two have the same name but for case. -/
def renamings : List Registration :=
  [.serializer (jsonAs "Plain"), .serializer (jsonAs " Plain "), .serializer (jsonAs "PLAIN")]

/-- The one with white space around its name has nothing to do with the other two. -/
theorem last_plain_serializer_is_found :
    let plugins := Registration.plugins renamings
    jsonAs "Plain" ∈ Registration.serializers renamings ∧ Text.Spells "Plain" " plAIN" ∧
    plugins.serializer? " plAIN" = some (jsonAs "PLAIN") ∧
    (plugins.register (.serializer (jsonAs "other"))).serializer? "plain" =
      some (jsonAs "PLAIN") ∧
    (plugins.register (.compressor Provider.reversal)).compressor? "GZIP" = some .gzip ∧
    (∃ request labelled, (forgedAs "Plain").encode = .ok (request, labelled) ∧
      plugins.decodeCall request ≠ .error (.unknownSerializer "Plain")) ∧
    ∃ response, stale.encode (.plain (jsonAs "Plain")) = .ok response ∧
      plugins.decodeReply .json response ≠ .error (.unknownCompressor "gzip") := by
  intro plugins
  obtain ⟨hlookup, hcompressor, hown, -, hserializer, hcompressors, hmessages⟩ :=
    plugins_go_by_their_trimmed_names renamings
  have hmem : jsonAs "Plain" ∈ Registration.serializers renamings := .tail _ (.head _)
  have hspells : Text.Spells "Plain" " plAIN" :=
    ⟨[' '], "plAIN".toList, [], by decide, fun _ hc => List.mem_singleton.mp hc ▸ rfl, nofun,
      by decide⟩
  have hplain (text : String) (hlower : Text.lower "PLAIN" = Text.lower (Text.trim text)) :
      plugins.serializer? text = some (jsonAs "PLAIN") :=
    (hlookup _ _).mpr ⟨[jsonAs "json", jsonAs "Plain", jsonAs " Plain "], [], rfl, hlower, nofun⟩
  have hgzip : plugins.compressor? "GZIP" = some .gzip :=
    (hcompressor _ _).mpr ⟨[], [.deflate], rfl, by decide, by decide⟩
  obtain ⟨found, -, hfound⟩ := (hown _ hmem).mp (by decide)
  have hsame : plugins.serializer? "Plain" = some found := hfound _ (.refl _)
  obtain rfl : jsonAs "PLAIN" = found := Option.some.inj ((hplain _ (by decide)).symm.trans hsame)
  have htidy : Tidy renamings (.plain (jsonAs "Plain")) := ⟨hmem, nofun, by decide, nofun⟩
  have hblameless {e : CodecError} (misses : e.MissesPlugin) : ¬ ∃ s restored,
      plugins.serializer? "Plain" = some s ∧ s.deserialize restored = .error e := by
    rintro ⟨s, restored, hs, hread⟩
    obtain rfl := Option.some.inj (hsame.symm.trans hs)
    exact jsonAs_deserialize_ne _ _ misses hread
  obtain ⟨request, labelled, hrequest⟩ := forgedAs_encode "Plain"
  refine ⟨hmem, hspells, hfound _ hspells,
    ((hserializer _ _).2 (by decide)).trans (hplain _ (by decide)),
    ((hcompressors _ _).2 (by decide)).trans hgzip, ⟨request, labelled, hrequest, ?_⟩, ?_⟩
  · have misses : (CodecError.unknownSerializer "Plain").MissesPlugin := trivial
    exact fun hdecode => hblameless misses
      ((hmessages _ htidy _ misses).1 _ _ _ rfl hrequest hdecode)
  · have misses : (CodecError.unknownCompressor "gzip").MissesPlugin := trivial
    obtain ⟨response, hresponse⟩ := Reply.encode_of_isOk
      ((stale.encode_isOk_iff (.plain (jsonAs "Plain"))).mpr ⟨Bytes.ofString "false", rfl, nofun⟩)
    exact ⟨response, hresponse, fun hdecode => hblameless misses
      ((hmessages _ htidy _ misses).2 _ _ _ hresponse hdecode)⟩

/-- **White space around the name hides a plugin**: it is not found under its own name, and what
was written with it is refused. -/
theorem padded_plugins_are_lost :
    let history : List Registration := [.serializer (jsonAs " Padded ")]
    let plugins := Registration.plugins history
    jsonAs " Padded " ∈ Registration.serializers history ∧
    plugins.serializer? " Padded " = none ∧ plugins.serializer? "padded" = none ∧
    ∃ request labelled, (forgedAs " Padded ").encode = .ok (request, labelled) ∧
      plugins.decodeCall request = .error (.unknownSerializer " Padded ") := by
  intro history plugins
  obtain ⟨request, labelled, hrequest⟩ := forgedAs_encode " Padded "
  refine ⟨.tail _ (.head _), rfl, rfl, request, labelled, hrequest, ?_⟩
  obtain ⟨written, -, hlabel⟩ := CodecOptions.label_of_encode (Invocation.encode_eq_ok hrequest).1
  have hnamed : request.header.attributes[serializerKey]? = some " Padded " := by
    rw [hlabel]
    exact CodecOptions.label_serializer ..
  have hread : plugins.read plugins.json request.header.attributes request.body =
      .error (.unknownSerializer " Padded ") :=
    reads_iff.mp (.unsettled (.unknown hnamed rfl))
  rw [decodeCall_eq, hread]
  rfl

end Plugins

end RemoteCall
