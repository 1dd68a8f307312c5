/-
Outcomes as untyped objects, for tools.

A success stands under `ok`; a failure is an object that names its kind, with its
wording unless nothing certain can be said. Optional values are told apart from
`null`, and bytes are shown as text where they are text.
-/
import RemoteCall.Config.KeyCache
import RemoteCall.Error

namespace RemoteCall

namespace Report

/-- An optional value: under `some`, or the word for none. -/
def maybe : Option Json → Json
  | none => .str "none"
  | some x => .obj [("some", x)]

/-- An optional text, or `null`. -/
def text : Option String → Json := Json.ofOption .str

/-- A list of texts. -/
def texts (xs : List String) : Json := .arr (xs.map .str)

/-- A success under `ok`, or a failure. -/
def result {ε α : Type} (value : α → Json) (failure : ε → Json) : Except ε α → Json
  | .ok x => .obj [("ok", value x)]
  | .error e => failure e

/-- Bytes: the text that they hold, or their digits. -/
def bytes (bytes : Bytes) : Json :=
  match bytes.toString? with
  | some text => .str text
  | none => .obj [("hex", .str (String.ofList (Hex.encode bytes)))]

/-- A failure of a kind with further fields. -/
def failure (kind : String) (fields : List (String × Json)) : Json :=
  Json.object (("error", .str kind) :: fields)

end Report

open Report

/-- The error without a code. -/
def CodecError.report : CodecError → Json
  | .unknownSerializer name =>
    failure "Codec.UnknownSerializer" [("message", .str (unknownSerializer name).message)]
  | .unknownCompressor name =>
    failure "Codec.UnknownCompressor" [("message", .str (unknownCompressor name).message)]
  | .malformed text => failure "Codec.Malformed" [("message", .str (malformed text).message)]
  | .compression _ => failure "Codec.Compress" []
  | .payload (.text .unfinished) => failure "Codec.Serialize" [("category", .str "eof")]
  | .payload (.shape cause) =>
    failure "Codec.Serialize"
      [("category", .str "data"), ("message", .str (payload (.shape cause)).message)]
  | .payload _ => failure "Codec.Serialize" [("category", .str "syntax")]

/-- A value that did not have the shape asked for. -/
def Json.Mismatch.report (cause : Json.Mismatch) : Json :=
  failure "Data" [("category", .str "data"), ("message", .str cause.message)]

namespace CallError

/-- The name of the kind. -/
def kind : CallError → String
  | codec _ => "Codec"
  | e => e.code.name

/-- What is told about an error besides its code. -/
def details : CallError → Json
  | codec e => e.report
  | access provider service attempts cause =>
    failure "Access"
      [("message", .str (access provider service attempts cause).message),
       ("attempts", .int attempts.toNat), ("cause", text cause)]
  | business code what trace =>
    failure "Business"
      [("message", .str (business code what trace).message), ("remote_code", .int code.toInt),
       ("trace", text trace)]
  | remote code what trace =>
    failure "Remote"
      [("message", .str (remote code what trace).message), ("remote_code", .int code.toInt),
       ("trace", text trace)]
  | e => failure e.kind [("message", .str e.message)]

/-- The error with its code. -/
def report (e : CallError) : Json :=
  Json.object (("code", .int e.code.toInt32.toInt) :: e.details.fields)

end CallError

/-- What a message was coded to, or why not. -/
def Report.coded {α : Type} (value : α → Json) : Except CodecError α → Json :=
  result value CodecError.report

/-- What was made, or why not. -/
def Report.made {α : Type} (value : α → Json) : Except CallError α → Json :=
  result value CallError.report

/-- A fault of a configuration, without a code. -/
def Report.configFault (message : Option String) : Json :=
  match message with
  | none => failure "Yaml" []
  | some m => failure "Config" [("message", .str m)]

/-- The fault. -/
def LoadFault.report (fault : LoadFault) : Json :=
  match fault with
  | .unreadable => failure "Io" []
  | _ => configFault fault.message?

/-- The fault. -/
def KeyFault.report (fault : KeyFault) : Json :=
  match fault with
  | .load cause => cause.report
  | .notAScalar _ => configFault fault.message?

/-- Whether something is acceptable. -/
def Report.validity {ε : Type} (message : ε → String) : Except ε Unit → Json
  | .ok () => .str "ok"
  | .error e => configFault (some (message e))

end RemoteCall
