/-
What the resolution of options comes to.

An option may be set on three levels, and a value that does not count is passed over as if it
were not there. So all that matters to an option are its own values that count, in the order of
the levels (`ResolvedOptions.Setting.counted`).

* `ResolvedOptions.one_le_timeoutMillis`, `one_le_timeoutRetry`, `one_le_connectRetry` — the
  timeout and the budgets are at least one on whatever level they are set, or on none.
* `ResolvedOptions.codec_builds` — which codec is made for the options in effect.
* `ResolvedOptions.options_come_from_the_first_level` — each option is the first of its values
  that count, or else built in; and when there is a codec for them, and which.
-/
import RemoteCall.Config.Resolve
import RemoteCall.Proofs.Text.Spelling

namespace RemoteCall.ResolvedOptions

/-! ## Levels -/

/-- Where options are set: for a method, for its service, and for the client. -/
structure Levels where
  method : Option CallOptions
  service : CallOptions
  client : ClientConfig

/-- The options in effect. -/
def Levels.resolve (levels : Levels) : ResolvedOptions :=
  ResolvedOptions.resolve levels.method levels.service levels.client

/-- One of the options: where it stands among those of a method or service and among those of a
client, and which of its values count. -/
structure Setting (α : Type) where
  ofCall : CallOptions → Option α
  ofClient : ClientConfig → Option α
  counts : α → Bool

namespace Setting

/-- A number that is stored as a word. It counts if it is positive. -/
def number {Word : Type} (toInt : Word → Int) (ofCall : CallOptions → Option Word)
    (ofClient : ClientConfig → Word) : Setting Int :=
  ⟨fun options => (ofCall options).map toInt, fun client => some (toInt (ofClient client)), (0 < ·)⟩

/-- A name. It counts if it is not blank. -/
def name (ofCall : CallOptions → Option String) (ofClient : ClientConfig → Option String) :
    Setting String :=
  ⟨ofCall, ofClient, fun text => !Text.isBlank text⟩

def timeoutMillis : Setting Int := number Int64.toInt (·.timeoutMillis) (·.timeoutMillis)

def timeoutRetry : Setting Int := number Int32.toInt (·.timeoutRetry) (·.timeoutRetry)

def connectRetry : Setting Int := number Int32.toInt (·.connectRetry) (·.connectRetry)

def compressThreshold : Setting Int :=
  number Int64.toInt (·.compressThreshold) (·.compressThreshold)

def serializer : Setting String := name (·.serializer) fun client => some client.serializer

def compressor : Setting String := name (·.compressor) (·.compressor)

variable {α : Type}

/-- The values of an option on the levels, in their order. -/
def onLevels (s : Setting α) (levels : Levels) : List (Option α) :=
  [levels.method.bind s.ofCall, s.ofCall levels.service, s.ofClient levels.client]

/-- The values of an option that count, in the order of the levels. -/
def counted (s : Setting α) (levels : Levels) : List α :=
  ((s.onLevels levels).filterMap id).filter s.counts

end Setting

/-! ## The first value that counts -/

theorem firstPositive_onLevels {Word : Type} {toInt : Word → Int}
    {ofCall : CallOptions → Option Word} {ofClient : ClientConfig → Word} (levels : Levels)
    (default : Int) :
    firstPositive ((Setting.number toInt ofCall ofClient).onLevels levels) default =
      ((Setting.number toInt ofCall ofClient).counted levels).headD default := by
  rw [firstPositive, List.headD_eq_head?_getD, Setting.counted, List.head?_filter]
  rfl

theorem firstNamed_onLevels {ofCall : CallOptions → Option String}
    {ofClient : ClientConfig → Option String} (levels : Levels) :
    firstNamed ((Setting.name ofCall ofClient).onLevels levels) =
      ((Setting.name ofCall ofClient).counted levels).head?.map Text.trim := by
  have hblank : (fun text => decide (text ≠ "")) ∘ Text.trim = fun text => !Text.isBlank text := by
    funext text
    rw [Bool.eq_iff_iff]
    simp [Text.trim_eq_empty_iff]
  rw [firstNamed, List.find?_map, hblank, Setting.counted, List.head?_filter]
  rfl

/-- All that matters to an option are its own values that count. -/
theorem resolve_eq (levels : Levels) :
    levels.resolve =
      { timeoutMillis := Int64.ofInt ((Setting.timeoutMillis.counted levels).headD 3000)
        timeoutRetry := saturate32 ((Setting.timeoutRetry.counted levels).headD 1)
        connectRetry := saturate32 ((Setting.connectRetry.counted levels).headD 1)
        serializer := ((Setting.serializer.counted levels).head?.map Text.trim).getD "json"
        compressor := (Setting.compressor.counted levels).head?.map Text.trim
        compressThreshold :=
          saturateLength ((Setting.compressThreshold.counted levels).headD 2048) } := by
  -- a method without options of its own is one whose options are all unset
  have hlevels : levels.resolve =
      { timeoutMillis := Int64.ofInt (firstPositive (Setting.timeoutMillis.onLevels levels) 3000)
        timeoutRetry := saturate32 (firstPositive (Setting.timeoutRetry.onLevels levels) 1)
        connectRetry := saturate32 (firstPositive (Setting.connectRetry.onLevels levels) 1)
        serializer := (firstNamed (Setting.serializer.onLevels levels)).getD "json"
        compressor := firstNamed (Setting.compressor.onLevels levels)
        compressThreshold :=
          saturateLength (firstPositive (Setting.compressThreshold.onLevels levels) 2048) } := by
    obtain ⟨method, service, client⟩ := levels
    cases method <;> rfl
  rw [hlevels]
  simp only [Setting.timeoutMillis, Setting.timeoutRetry, Setting.connectRetry, Setting.serializer,
    Setting.compressor, Setting.compressThreshold, firstPositive_onLevels, firstNamed_onLevels]

/-! ## Numbers -/

/-- A number that counts is positive, and fits into the words that it was stored as. -/
theorem mem_counted_number {Word : Type} {toInt : Word → Int} {bound n : Int}
    (word_le : ∀ word, toInt word ≤ bound) {ofCall : CallOptions → Option Word}
    {ofClient : ClientConfig → Word} {levels : Levels}
    (h : n ∈ (Setting.number toInt ofCall ofClient).counted levels) : 0 < n ∧ n ≤ bound := by
  obtain ⟨hlevel, hpos⟩ := List.mem_filter.mp h
  refine ⟨of_decide_eq_true hpos, ?_⟩
  have hcall : ∀ options, (ofCall options).map toInt = some n → n ≤ bound := by
    intro options hn
    obtain ⟨word, -, rfl⟩ := Option.map_eq_some_iff.mp hn
    exact word_le word
  simp only [Setting.onLevels, Setting.number, List.mem_filterMap, id_eq, exists_eq_right,
    List.mem_cons, List.not_mem_nil, or_false] at hlevel
  rcases hlevel with hmethod | hservice | hclient
  · obtain ⟨options, -, hn⟩ := Option.bind_eq_some_iff.mp hmethod.symm
    exact hcall options hn
  · exact hcall _ hservice.symm
  · rw [Option.some.inj hclient]
    exact word_le _

/-- The number in effect is positive and fits as well, if the one that is built in does. -/
theorem headD_counted_number {Word : Type} {toInt : Word → Int} {bound default : Int}
    (word_le : ∀ word, toInt word ≤ bound) (default_fits : 0 < default ∧ default ≤ bound)
    {ofCall : CallOptions → Option Word} {ofClient : ClientConfig → Word} {levels : Levels} :
    0 < ((Setting.number toInt ofCall ofClient).counted levels).headD default ∧
      ((Setting.number toInt ofCall ofClient).counted levels).headD default ≤ bound := by
  cases h : (Setting.number toInt ofCall ofClient).counted levels with
  | nil => exact default_fits
  | cons n rest => exact mem_counted_number word_le (h ▸ List.mem_cons_self)

theorem toInt_ofInt {n : Int} (fits : 0 < n ∧ n ≤ Int64.maxValue.toInt) :
    (Int64.ofInt n).toInt = n ∧ 0 < (Int64.ofInt n).toInt := by
  have hmax : Int64.maxValue.toInt = 9223372036854775807 := by decide
  have hvalue : (Int64.ofInt n).toInt = n := Int64.toInt_ofInt_of_le (by omega) (by omega)
  exact ⟨hvalue, by omega⟩

theorem toNat_saturate32 {n : Int} (fits : 0 < n ∧ n ≤ Int32.maxValue.toInt) :
    ((saturate32 n).toNat : Int) = n ∧ 0 < (saturate32 n).toNat := by
  have hmax : Int32.maxValue.toInt = 2147483647 := by decide
  have hfits : 0 ≤ n ∧ n < UInt32.size := by simp only [UInt32.size]; omega
  rw [saturate32, if_pos hfits, UInt32.toNat_ofNat']
  omega

theorem saturateLength_eq {n : Int} (fits : 0 < n ∧ n ≤ Int64.maxValue.toInt) :
    (saturateLength n : Int) = n ∧ 0 < saturateLength n := by
  have hmax : Int64.maxValue.toInt = 9223372036854775807 := by decide
  have hfits : 0 ≤ n ∧ n < UInt64.size := by simp only [UInt64.size]; omega
  rw [saturateLength, if_pos hfits]
  omega

/-! ### In effect -/

section InEffect

variable (levels : Levels)

/-- The timeout in effect is the positive number that was set, or that is built in. The same goes
for the other numbers: the conversions to other words change none of them. -/
theorem toInt_timeoutMillis :
    levels.resolve.timeoutMillis.toInt = (Setting.timeoutMillis.counted levels).headD 3000 ∧
      0 < levels.resolve.timeoutMillis.toInt := by
  rw [resolve_eq]
  exact toInt_ofInt (headD_counted_number Int64.toInt_le (by decide))

theorem toNat_timeoutRetry :
    (levels.resolve.timeoutRetry.toNat : Int) = (Setting.timeoutRetry.counted levels).headD 1 ∧
      0 < levels.resolve.timeoutRetry.toNat := by
  rw [resolve_eq]
  exact toNat_saturate32 (headD_counted_number Int32.toInt_le (by decide))

theorem toNat_connectRetry :
    (levels.resolve.connectRetry.toNat : Int) = (Setting.connectRetry.counted levels).headD 1 ∧
      0 < levels.resolve.connectRetry.toNat := by
  rw [resolve_eq]
  exact toNat_saturate32 (headD_counted_number Int32.toInt_le (by decide))

theorem compressThreshold_eq :
    (levels.resolve.compressThreshold : Int) =
        (Setting.compressThreshold.counted levels).headD 2048 ∧
      0 < levels.resolve.compressThreshold := by
  rw [resolve_eq]
  exact saturateLength_eq (headD_counted_number Int64.toInt_le (by decide))

end InEffect

/-! ### Timeout and budgets -/

section Positive

variable (method : Option CallOptions) (service : CallOptions) (client : ClientConfig)

theorem one_le_timeoutMillis : 1 ≤ (resolve method service client).timeoutMillis :=
  Int64.le_iff_toInt_le.mpr (toInt_timeoutMillis ⟨method, service, client⟩).2

theorem one_le_timeoutRetry : 1 ≤ (resolve method service client).timeoutRetry :=
  UInt32.le_iff_toNat_le.mpr (toNat_timeoutRetry ⟨method, service, client⟩).2

theorem one_le_connectRetry : 1 ≤ (resolve method service client).connectRetry :=
  UInt32.le_iff_toNat_le.mpr (toNat_connectRetry ⟨method, service, client⟩).2

end Positive

/-! ## Codecs -/

/-- The compressor that the options ask for. It may be left open, or given as the word for none. -/
def asked (options : ResolvedOptions) : Option String :=
  options.compressor.filter fun id => !CodecOptions.isNone id

/-- A compressor in effect has a name, without white space around it. -/
theorem compressor_tidy {levels : Levels} {id : String}
    (h : levels.resolve.compressor = some id) : Text.trim id = id ∧ id ≠ "" := by
  rw [resolve_eq] at h
  obtain ⟨text, htext, rfl⟩ := Option.map_eq_some_iff.mp h
  have hcounts := (List.mem_filter.mp (List.mem_of_head? htext)).2
  refine ⟨Text.trim_trim text, fun hempty => ?_⟩
  simp [Setting.compressor, Setting.name, Text.trim_eq_empty_iff.mp hempty] at hcounts

/-- Something that the options ask for is not registered. -/
def Lacks (plugins : Plugins) (options : ResolvedOptions) : Prop :=
  plugins.serializer? options.serializer = none ∨
    ∃ id, options.asked = some id ∧ plugins.compressor? id = none

/-- What becomes of the options when a codec is made for them. -/
inductive Builds (plugins : Plugins) (options : ResolvedOptions) :
    Except CallError CodecOptions → Prop where
  | refused {message : String} (lacks : options.Lacks plugins) :
      Builds plugins options (.error (.config message))
  | plain {s : Serializer} (known : plugins.serializer? options.serializer = some s)
      (unasked : options.asked = none) : Builds plugins options (.ok (.plain s))
  | compressing {s : Serializer} {id : String} {c : Compressor}
      (known : plugins.serializer? options.serializer = some s) (asked : options.asked = some id)
      (registered : plugins.compressor? id = some c) :
      Builds plugins options (.ok ⟨s, some c, options.compressThreshold⟩)

/-- **The rules say which codec is made** for options that were resolved. -/
theorem codec_builds (levels : Levels) (plugins : Plugins) :
    levels.resolve.Builds plugins (levels.resolve.codec plugins) := by
  rw [codec, CodecOptions.resolve]
  cases hs : plugins.serializer? levels.resolve.serializer with
  | none => exact .refused (.inl hs)
  | some s =>
    cases hnamed : levels.resolve.compressor with
    | none => exact .plain hs (by rw [asked, hnamed]; rfl)
    | some id =>
      obtain ⟨htrim, hne⟩ := compressor_tidy hnamed
      simp only [Option.map_some, htrim, hne, false_or]
      split
      · next hnone => exact .plain hs (by simp [asked, hnamed, hnone])
      · next hword =>
        have hasked : levels.resolve.asked = some id := by simp [asked, hnamed, hword]
        split
        · next hc => exact .refused (.inr ⟨id, hasked, hc⟩)
        · next c hc => exact .compressing hs hasked hc

variable {plugins : Plugins} {options : ResolvedOptions} {outcome : Except CallError CodecOptions}

theorem Builds.error_iff (h : options.Builds plugins outcome) :
    (∃ message, outcome = .error (.config message)) ↔ options.Lacks plugins := by
  cases h with
  | @refused message lacks => exact ⟨fun _ => lacks, fun _ => ⟨message, rfl⟩⟩
  | plain known unasked =>
    refine ⟨nofun, ?_⟩
    rintro (hnone | ⟨id, hasked, -⟩)
    · exact nomatch hnone.symm.trans known
    · exact nomatch hasked.symm.trans unasked
  | compressing known asked registered =>
    refine ⟨nofun, ?_⟩
    rintro (hnone | ⟨id, hasked, hnone⟩)
    · exact nomatch hnone.symm.trans known
    · obtain rfl := Option.some.inj (hasked.symm.trans asked)
      exact nomatch hnone.symm.trans registered

/-- **Each option comes from the first level on which it counts.** The number in effect is the
first positive one that is set for the method, its service or the client, as it stands there, or
else the built-in one, so it is positive. The name in effect is the first that is not blank,
trimmed, or else that of the built-in serializer, and no compressor. What counts of an option on
the levels is all that it depends on: other options have no say, and a value that is not set, not
positive or blank may as well not be there. There is a codec for the options unless the
serializer, or the compressor that they ask for, is not registered, and the fault is one of the
configuration then. It has a compressor exactly if they ask for one, with their threshold. -/
theorem options_come_from_the_first_level (levels : Levels) :
    let resolved := levels.resolve
    (resolved.timeoutMillis.toInt = (Setting.timeoutMillis.counted levels).headD 3000 ∧
      0 < resolved.timeoutMillis.toInt) ∧
    ((resolved.timeoutRetry.toNat : Int) = (Setting.timeoutRetry.counted levels).headD 1 ∧
      0 < resolved.timeoutRetry.toNat) ∧
    ((resolved.connectRetry.toNat : Int) = (Setting.connectRetry.counted levels).headD 1 ∧
      0 < resolved.connectRetry.toNat) ∧
    ((resolved.compressThreshold : Int) =
        (Setting.compressThreshold.counted levels).headD 2048 ∧
      0 < resolved.compressThreshold) ∧
    resolved.serializer =
      ((Setting.serializer.counted levels).head?.map Text.trim).getD "json" ∧
    resolved.compressor = (Setting.compressor.counted levels).head?.map Text.trim ∧
    (∀ others : Levels,
      (Setting.timeoutMillis.counted levels = Setting.timeoutMillis.counted others →
        resolved.timeoutMillis = others.resolve.timeoutMillis) ∧
      (Setting.timeoutRetry.counted levels = Setting.timeoutRetry.counted others →
        resolved.timeoutRetry = others.resolve.timeoutRetry) ∧
      (Setting.connectRetry.counted levels = Setting.connectRetry.counted others →
        resolved.connectRetry = others.resolve.connectRetry) ∧
      (Setting.compressThreshold.counted levels = Setting.compressThreshold.counted others →
        resolved.compressThreshold = others.resolve.compressThreshold) ∧
      (Setting.serializer.counted levels = Setting.serializer.counted others →
        resolved.serializer = others.resolve.serializer) ∧
      (Setting.compressor.counted levels = Setting.compressor.counted others →
        resolved.compressor = others.resolve.compressor)) ∧
    ∀ plugins : Plugins,
      ((∃ message, resolved.codec plugins = .error (.config message)) ↔
        resolved.Lacks plugins) ∧
      (∀ e, resolved.codec plugins = .error e → ∃ message, e = .config message) ∧
      ∀ options, resolved.codec plugins = .ok options →
        plugins.serializer? resolved.serializer = some options.serializer ∧
        (options.compressor.isSome = true ↔ resolved.asked.isSome = true) ∧
        ∀ c, options.compressor = some c →
          (∃ id, resolved.asked = some id ∧ plugins.compressor? id = some c) ∧
          options.threshold = resolved.compressThreshold := by
  refine ⟨toInt_timeoutMillis levels, toNat_timeoutRetry levels, toNat_connectRetry levels,
    compressThreshold_eq levels, by rw [resolve_eq], by rw [resolve_eq], fun others => ?_,
    fun plugins => ?_⟩
  · refine ⟨?_, ?_, ?_, ?_, ?_, ?_⟩ <;>
      exact fun h => by simp only [resolve_eq, h]
  · have hbuilds := codec_builds levels plugins
    refine ⟨hbuilds.error_iff, ?_⟩
    generalize levels.resolve.codec plugins = outcome at hbuilds
    cases hbuilds with
    | @refused message lacks =>
      exact ⟨fun e he => ⟨message, (Except.error.inj he).symm⟩, nofun⟩
    | plain known unasked =>
      refine ⟨nofun, fun options hok => ?_⟩
      cases hok
      exact ⟨known, by rw [unasked]; exact Iff.rfl, nofun⟩
    | @compressing s id c known asked registered =>
      refine ⟨nofun, fun options hok => ?_⟩
      cases hok
      refine ⟨known, by rw [asked]; exact Iff.rfl, fun c' hc' => ?_⟩
      obtain rfl := Option.some.inj hc'
      exact ⟨⟨id, asked, registered⟩, rfl⟩

/-- Levels on which most values do not count. -/
def Levels.patchy : Levels where
  method := some { compressThreshold := some 0, compressor := some " GZIP " }
  service := { timeoutMillis := some (-5), connectRetry := some 0, serializer := some " \t" }
  client := { timeoutMillis := 0, timeoutRetry := -1, compressor := some "brotli" }

/-- The same without these values. -/
def Levels.bare : Levels where
  method := some { compressor := some " GZIP " }
  service := {}
  client := { timeoutMillis := -1, timeoutRetry := 0, compressor := some "brotli" }

/-- Gzip is asked for with white space around it, and the threshold is the built-in one. -/
theorem patchy_levels_come_to_the_same :
    let resolved := Levels.patchy.resolve
    resolved.timeoutMillis.toInt = 3000 ∧ resolved.compressor = some "GZIP" ∧
    Setting.timeoutMillis.counted .patchy = Setting.timeoutMillis.counted .bare ∧
    resolved.timeoutMillis = Levels.bare.resolve.timeoutMillis ∧
    Setting.serializer.counted .patchy = Setting.serializer.counted .bare ∧
    resolved.serializer = Levels.bare.resolve.serializer ∧
    ∃ options, resolved.codec .builtIn = .ok options ∧ options.threshold = 2048 ∧
      ∃ c, options.compressor = some c ∧ Plugins.builtIn.compressor? "GZIP" = some c := by
  intro resolved
  obtain ⟨⟨htimeout, -⟩, -, -, ⟨hthreshold, -⟩, hserializer, hcompressor, hsame, hcodec⟩ :=
    options_come_from_the_first_level .patchy
  obtain ⟨htimeouts, -, -, -, hserializers, -⟩ := hsame .bare
  obtain ⟨hlacks, herrors, hmade⟩ := hcodec .builtIn
  have hasked : resolved.asked = some "GZIP" := by
    rw [asked, hcompressor]
    rfl
  refine ⟨htimeout, hcompressor, rfl, htimeouts rfl, rfl, hserializers rfl, ?_⟩
  cases hresult : resolved.codec .builtIn with
  | error e =>
    obtain ⟨message, rfl⟩ := herrors e hresult
    rcases hlacks.mp ⟨message, hresult⟩ with hnone | ⟨id, hid, hnone⟩
    · rw [hserializer] at hnone
      cases hnone
    · obtain rfl := Option.some.inj (hasked.symm.trans hid)
      cases hnone
  | ok options =>
    obtain ⟨-, hsome, hwith⟩ := hmade options hresult
    obtain ⟨c, hc⟩ := Option.isSome_iff_exists.mp (hsome.mpr (by rw [hasked]; rfl))
    obtain ⟨⟨id, hid, hregistered⟩, hlimit⟩ := hwith c hc
    obtain rfl := Option.some.inj (hasked.symm.trans hid)
    refine ⟨options, rfl, ?_, c, hc, hregistered⟩
    rw [hlimit]
    exact Int.ofNat.inj hthreshold

end RemoteCall.ResolvedOptions
