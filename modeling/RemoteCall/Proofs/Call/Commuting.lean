/-
What the built-in interceptors do to a call, whatever their order.

Baggage adds only attributes that are not there yet, so it gives way to a stamp that was there
before it. A stamp writes its two attributes over whatever stands there, so it replaces baggage that
was there before. And what both of them write comes from the context of the call and from the clock,
where no interceptor writes. So an attribute depends on which interceptors are in a chain, but not
on their places.

* `BuiltIn.comesTo` — a chain ends a call that is late, and hands on every other one with
  attributes that can be told in advance.
* `BuiltIn.built_ins_commute` — for two chains with the same interceptors in another order, the
  same call is late, or the attributes are the same; and the labels of the encoded call are those
  of its codec.
-/
import RemoteCall.Proofs.Call.Chain
import RemoteCall.Proofs.Call.Deadlines
import RemoteCall.Proofs.Client.Baggage
import RemoteCall.Proofs.Codec.Messages
import RemoteCall.Proofs.Context.Readings

namespace RemoteCall

variable {ω : Type}

namespace Scene

/-- What the context of the call shows under a key. -/
def visible? (scene : Scene ω) (key : String) : Option String :=
  scene.invocation.context.bind fun id => scene.contexts.forest.get id key

/-- The deadline that the context of the call carries. -/
def inherited? (scene : Scene ω) : Option Nat :=
  Deadline.inherited? scene.invocation scene.contexts

/-- The scene with other attributes of the call. -/
def withAttributes (scene : Scene ω) (attributes : Attributes) : Scene ω :=
  { scene with invocation := { scene.invocation with attributes := attributes } }

end Scene

namespace BuiltIn

/-! ## What a chain comes to -/

/-- The interceptors around the rest of a call, while the clock stands still. -/
def chain (now : Nat) (filters : List BuiltIn) (rest : Handler ω) : Handler ω :=
  buildChain rest (filters.map (interceptor (pure now)))

/-- The interceptor takes up what the context shows under the key. -/
def takes (key : String) : BuiltIn → Bool
  | tracing | deadline => false
  | baggage start => start.toList.isPrefixOf key.toList

/-- There is an interceptor that looks at the deadline which the call inherits, and that one has
passed. -/
def Late (now : Nat) (filters : List BuiltIn) (scene : Scene ω) : Prop :=
  deadline ∈ filters ∧ ∃ limit, scene.inherited? = some limit ∧ limit ≤ now

/-- What a stamp writes under a key. -/
def stamp? (now : Nat) (scene : Scene ω) (key : String) : Option String :=
  if key = deadlineKey then
    some (toString (Deadline.due now scene.invocation.timeoutMillis scene.inherited?))
  else if key = timeoutKey then some (toString scene.invocation.timeoutMillis)
  else none

/-- What a chain hands on under a key: the stamp, if there is one, over what the call holds itself,
and that over what is taken up from its context. -/
def attribute? (now : Nat) (filters : List BuiltIn) (scene : Scene ω) (key : String) :
    Option String :=
  (if deadline ∈ filters then stamp? now scene key else none).or
    ((scene.invocation.attributes[key]?).or
      (if filters.any (takes key) then scene.visible? key else none))

variable {now : Nat} {filter : BuiltIn} {filters others : List BuiltIn} {scene : Scene ω}
  {attributes : Attributes}

/-- A chain ends a late call without its rest. Every other call is handed on, and nothing of it is
changed but its attributes. -/
inductive ComesTo (now : Nat) (filters : List BuiltIn) (scene : Scene ω) : Prop where
  | ended (after : Scene ω) (late : Late now filters scene)
      (ends : ∀ rest, chain now filters rest scene =
        (.done (.error (Deadline.exceeded scene.invocation)), after))
  | handedOn (attributes : Attributes) (timely : ¬ Late now filters scene)
      (hands : ∀ rest, chain now filters rest scene = rest (scene.withAttributes attributes))
      (shows : ∀ key, attributes[key]? = attribute? now filters scene key)

theorem late_cons :
    Late now (filter :: filters) scene ↔ Late now [filter] scene ∨ Late now filters scene := by
  simp only [Late, List.mem_cons, List.not_mem_nil, or_false, or_and_right]

/-- The outermost of several stamps counts, and of several takers any. -/
theorem layers_or {α : Type} (stamp held visible : Option α) (first later : Prop)
    [Decidable first] [Decidable later] (takes taken : Bool) :
    (if later then stamp else none).or
        (((if first then stamp else none).or (held.or (if takes then visible else none))).or
          (if taken then visible else none)) =
      (if first ∨ later then stamp else none).or
        (held.or (if takes || taken then visible else none)) := by
  by_cases hfirst : first <;> by_cases hlater : later <;> cases stamp <;> cases held <;>
    cases takes <;> cases taken <;> simp [hfirst, hlater]

/-- The attributes that a chain hands on, in terms of those that its first interceptor does. -/
theorem attribute?_cons (h : ∀ key, attributes[key]? = attribute? now [filter] scene key)
    (key : String) : attribute? now filters (scene.withAttributes attributes) key =
      attribute? now (filter :: filters) scene key := by
  have hheld : (scene.withAttributes attributes).invocation.attributes[key]? =
      attribute? now [filter] scene key := h key
  have hstamp : stamp? now (scene.withAttributes attributes) key = stamp? now scene key := rfl
  have hvisible : (scene.withAttributes attributes).visible? key = scene.visible? key := rfl
  rw [attribute?, attribute?, hheld, hstamp, hvisible, attribute?]
  simp only [List.mem_cons, List.not_mem_nil, or_false, List.any_cons, List.any_nil, Bool.or_false]
  exact layers_or ..

theorem stamp_late {now : Nat} {scene : Scene ω}
    (h : Deadline.at? now scene.invocation.timeoutMillis scene.inherited? = none) :
    Deadline.stamp (pure now) scene =
      (.done (.error (Deadline.exceeded scene.invocation)), scene) := by
  refine (Run.bind_of_done rfl).trans ((Run.bind_of_done rfl).trans ?_)
  rw [Scene.inherited?] at h
  simp only [h]
  rfl

theorem stamp_timely {now limit : Nat} {scene : Scene ω}
    (h : Deadline.at? now scene.invocation.timeoutMillis scene.inherited? = some limit) :
    Deadline.stamp (pure now) scene = (.done (.ok ()), scene.withAttributes
      (Deadline.stamped scene.invocation.attributes scene.invocation.timeoutMillis limit)) := by
  refine (Run.bind_of_done rfl).trans ((Run.bind_of_done rfl).trans ?_)
  rw [Scene.inherited?] at h
  simp only [h]
  rfl

theorem comesTo_single (now : Nat) (filter : BuiltIn) (scene : Scene ω) :
    ComesTo now [filter] scene := by
  cases filter with
  | tracing =>
    refine .handedOn scene.invocation.attributes (fun late => nomatch late.1) (fun _ => rfl) ?_
    intro key
    simp [attribute?, takes]
  | deadline =>
    have hmem : deadline ∈ [deadline] := List.mem_singleton_self _
    cases hat : Deadline.at? now scene.invocation.timeoutMillis scene.inherited? with
    | none =>
      exact .ended scene ⟨hmem, Deadline.at?_eq_none_iff.mp hat⟩ fun rest =>
        Run.bind_of_done (stamp_late hat)
    | some limit =>
      refine .handedOn _ ?_ (fun rest => Run.bind_of_done (stamp_timely hat)) fun key => ?_
      · rintro ⟨-, passed, hpassed, hlate⟩
        exact absurd ((Deadline.at?_eq_some_iff.mp hat).1 passed hpassed) (Nat.not_lt.mpr hlate)
      · obtain ⟨-, rfl⟩ := Deadline.at?_eq_some_iff.mp hat
        rw [Deadline.getElem?_stamped, attribute?, if_pos hmem, stamp?]
        split
        · rfl
        · split
          · rfl
          · simp [takes]
  | baggage start =>
    cases hcontext : scene.invocation.context with
    | none =>
      refine .handedOn scene.invocation.attributes (fun late => nomatch late.1) (fun rest => ?_) ?_
      · show Baggage.interceptor start rest scene = _
        refine (Run.bind_of_done rfl).trans ?_
        simp only [hcontext]
        rfl
      · intro key
        simp [attribute?, Scene.visible?, hcontext]
    | some id =>
      refine .handedOn (Baggage.add start (scene.contexts.forest.entries id)
        scene.invocation.attributes) (fun late => nomatch late.1) (fun rest => ?_) fun key => ?_
      · show Baggage.interceptor start rest scene = _
        refine (Run.bind_of_done rfl).trans ?_
        simp only [hcontext]
        rfl
      · rw [Baggage.getElem?_add, Forest.getElem?_entries]
        simp [attribute?, takes, Scene.visible?, hcontext]

theorem comesTo (now : Nat) (filters : List BuiltIn) (scene : Scene ω) :
    ComesTo now filters scene := by
  induction filters generalizing scene with
  | nil =>
    refine .handedOn scene.invocation.attributes (fun late => nomatch late.1) (fun _ => rfl) ?_
    intro key
    simp [attribute?]
  | cons filter filters ih =>
    -- a chain is its first interceptor around the chain of the other ones
    have hchain (rest : Handler ω) :
        chain now (filter :: filters) rest = chain now [filter] (chain now filters rest) := rfl
    cases comesTo_single now filter scene with
    | ended after late ends =>
      exact .ended after (late_cons.mpr (.inl late)) fun rest => by rw [hchain, ends]
    | handedOn held timely hands shows =>
      cases ih (scene.withAttributes held) with
      | ended after late ends =>
        exact .ended after (late_cons.mpr (.inr late)) fun rest => by
          rw [hchain, hands]
          exact ends rest
      | handedOn attributes later handsOn showsAll =>
        refine .handedOn attributes (fun late => ?_) (fun rest => ?_) fun key => ?_
        · exact (late_cons.mp late).elim timely later
        · rw [hchain, hands, handsOn]
          rfl
        · rw [showsAll, attribute?_cons shows]

/-! ## Other orders -/

theorem late_perm (perm : filters.Perm others) :
    Late now filters scene ↔ Late now others scene := by
  rw [Late, Late, perm.mem_iff]

theorem attribute?_perm (perm : filters.Perm others) (key : String) :
    attribute? now filters scene key = attribute? now others scene key := by
  have hany : filters.any (takes key) = others.any (takes key) := by
    rw [Bool.eq_iff_iff, List.any_eq_true, List.any_eq_true]
    simp only [perm.mem_iff]
  simp only [attribute?, perm.mem_iff, hany]

/-- **The built-in interceptors commute.** Take two chains of them with the same interceptors, as
often as they like, in two orders, around the same handler, whatever that is. While the clock stands
still, either both chains end the call with the same error without running the handler, which
is when one of them looks at an inherited deadline that has passed. Or both run it on the same
scene, in which the call has its stamp, what it held itself, and what was taken up from its context,
in this order of precedence. When this call is encoded, its labels are those of its codec,
whatever was there before. -/
theorem built_ins_commute (perm : filters.Perm others) (now : Nat) (scene : Scene ω) :
    (Late now filters scene → ∃ after other, ∀ terminal,
      chain now filters terminal scene =
          (.done (.error (Deadline.exceeded scene.invocation)), after) ∧
        chain now others terminal scene =
          (.done (.error (Deadline.exceeded scene.invocation)), other)) ∧
    (¬ Late now filters scene → ∃ attributes : Attributes,
      (∀ terminal, chain now filters terminal scene = terminal (scene.withAttributes attributes) ∧
        chain now others terminal scene = terminal (scene.withAttributes attributes)) ∧
      (∀ key, attributes[key]? = attribute? now filters scene key) ∧
      let call := (scene.withAttributes attributes).invocation
      let codec := scene.invocation.method.codec
      (call.encode.isOk = true ↔ codec.Accepts call.parameter) ∧
      ∀ request labelled, call.encode = .ok (request, labelled) →
        ∃ body, codec.writeBody call.parameter = .ok body ∧
          ∀ key, request.header.attributes[key]? =
            if key = serializerKey then some codec.serializer.name
            else if key = compressorKey then (codec.compressorFor body).map (·.id)
            else attributes[key]?) := by
  constructor
  · intro late
    cases comesTo now filters scene with
    | handedOn _ timely => exact absurd late timely
    | ended after _ ends =>
      cases comesTo now others scene with
      | handedOn _ timely => exact absurd ((late_perm perm).mp late) timely
      | ended other _ endsOther =>
        exact ⟨after, other, fun terminal => ⟨ends terminal, endsOther terminal⟩⟩
  · intro timely
    cases comesTo now filters scene with
    | ended _ late => exact absurd late timely
    | handedOn attributes _ hands shows =>
      cases comesTo now others scene with
      | ended _ late => exact absurd ((late_perm perm).mpr late) timely
      | handedOn attributes' _ handsOther showsOther =>
        -- the attributes are the same if every key is
        obtain rfl : attributes = attributes' := Std.ExtTreeMap.ext_getElem? fun key => by
          rw [shows, showsOther, attribute?_perm perm]
        refine ⟨attributes, fun terminal => ⟨hands terminal, handsOther terminal⟩, shows,
          Invocation.encode_isOk_iff _, fun request labelled hencode => ?_⟩
        obtain ⟨body, hbody, hlabel⟩ :=
          CodecOptions.label_of_encode (Invocation.encode_eq_ok hencode).1
        refine ⟨body, hbody, fun key => ?_⟩
        rw [hlabel, CodecOptions.getElem?_label]
        rfl

/-- Baggage under prefixes that hold each other, and two stamps. -/
def luggage : List BuiltIn :=
  [.baggage "", .deadline, .tracing, .baggage "kestrel.", .deadline]

/-- A call in a context under another one. Both contexts have a user, and the farther one has the
keys of the stamp. The call itself says that it is written in another format. -/
def travelling : Scene Unit :=
  let home : Attributes :=
    (((∅ : Attributes).insert deadlineKey "5000").insert timeoutKey "7").insert "user" "host"
  let away : Attributes := ((∅ : Attributes).insert "user" "guest").insert compressorKey "zip"
  { invocation := { Plugins.forged with context := some 1 }
    contexts := { forest := [⟨some 0, away⟩, ⟨none, home⟩] }
    outside := () }

/-- In time and too late, from front to back and from back to front. -/
theorem luggage_commutes :
    (∃ attributes : Attributes,
      (∀ terminal,
        chain 1000 luggage terminal travelling = terminal (travelling.withAttributes attributes) ∧
        chain 1000 luggage.reverse terminal travelling =
          terminal (travelling.withAttributes attributes)) ∧
      attributes["user"]? = some "guest" ∧ attributes[deadlineKey]? = some "1250" ∧
      attributes[timeoutKey]? = some "250" ∧ attributes[serializerKey]? = some "xml" ∧
      ∃ request labelled,
        (travelling.withAttributes attributes).invocation.encode = .ok (request, labelled) ∧
        request.header.attributes[serializerKey]? = some "json" ∧
        request.header.attributes[compressorKey]? = some "reversal") ∧
    ∃ after other, ∀ terminal,
      chain 5000 luggage terminal travelling =
          (.done (.error (.timeout "deadline exceeded before calling greeter.greet")), after) ∧
        chain 5000 luggage.reverse terminal travelling =
          (.done (.error (.timeout "deadline exceeded before calling greeter.greet")), other) := by
  have hperm : luggage.Perm luggage.reverse := (List.reverse_perm luggage).symm
  have hinherited : travelling.inherited? = some 5000 := rfl
  constructor
  · have htimely : ¬ Late 1000 luggage travelling := by
      rintro ⟨-, limit, hlimit, hpassed⟩
      rw [hinherited] at hlimit
      cases hlimit
      exact absurd hpassed (by decide)
    obtain ⟨attributes, hchains, hshows, hok, hlabels⟩ :=
      (built_ins_commute hperm 1000 travelling).2 htimely
    refine ⟨attributes, hchains, hshows "user", hshows deadlineKey, hshows timeoutKey,
      hshows serializerKey, ?_⟩
    obtain ⟨request, labelled, hrequest⟩ :=
      Invocation.encode_of_isOk (hok.mpr Plugins.forged_accepts)
    obtain ⟨body, hbody, hkeys⟩ := hlabels request labelled hrequest
    obtain rfl : Bytes.ofString "null" = body := Except.ok.inj hbody
    exact ⟨request, labelled, hrequest, hkeys serializerKey, hkeys compressorKey⟩
  · exact (built_ins_commute hperm 5000 travelling).1
      ⟨List.mem_cons_of_mem _ List.mem_cons_self, 5000, hinherited, Nat.le_refl 5000⟩

end BuiltIn

end RemoteCall
