/-
Options of calls and defaults of a client.

Options are set per method, per service and for the whole client. On the first
two levels each may be left unset. The setters return the changed record, so
that they can be chained.
-/
import RemoteCall.Json.Shape
import RemoteCall.Text.Trim

namespace RemoteCall

/-- Options of a method or of a service; what is unset falls back to the next level. -/
structure CallOptions where
  timeoutMillis : Option Int64 := none
  timeoutRetry : Option Int32 := none
  connectRetry : Option Int32 := none
  serializer : Option String := none
  compressor : Option String := none
  compressThreshold : Option Int64 := none
deriving DecidableEq, Repr, Inhabited

/-- Defaults of a client: the last level of option resolution. -/
structure ClientConfig where
  consumer : String := ""
  timeoutMillis : Int64 := 3000
  connectRetry : Int32 := 1
  timeoutRetry : Int32 := 1
  serializer : String := "json"
  compressor : Option String := none
  compressThreshold : Int64 := 2048
deriving DecidableEq, Repr, Inhabited

/-- Why a configuration is not acceptable. -/
inductive ConfigFault where
  | timeoutNotPositive (value : Int64)
  | retryNotPositive (connectRetry timeoutRetry : Int32)
  | serializerBlank
deriving DecidableEq, Repr

/-- The fault in words. -/
def ConfigFault.message : ConfigFault → String
  | .timeoutNotPositive value =>
    "client timeout_millis must be positive, got " ++ toString value
  | .retryNotPositive connectRetry timeoutRetry =>
    "client retry budgets must be positive, got connect_retry=" ++ toString connectRetry
      ++ " timeout_retry=" ++ toString timeoutRetry
  | .serializerBlank => "client serializer must not be empty"

namespace CallOptions

open Json (Shape)

/-- The fields of call options, in their order by position. -/
def fields : List (Json.Field CallOptions) :=
  [.optional "timeout_millis" (Shape.option Shape.int64) fun v o => { o with timeoutMillis := v },
   .optional "timeout_retry" (Shape.option Shape.int32) fun v o => { o with timeoutRetry := v },
   .optional "connect_retry" (Shape.option Shape.int32) fun v o => { o with connectRetry := v },
   .optional "serializer" (Shape.option Shape.string) fun v o => { o with serializer := v },
   .optional "compressor" (Shape.option Shape.string) fun v o => { o with compressor := v },
   .optional "compress_threshold" (Shape.option Shape.int64)
     fun v o => { o with compressThreshold := v }]

/-- Reads call options. -/
def shape : Shape CallOptions :=
  .record "struct CallOptions" fields {}

/-- The options as an untyped object, unset ones as `null`. -/
def toJson (o : CallOptions) : Json :=
  .obj [("compress_threshold", .ofOption (fun n => .int n.toInt) o.compressThreshold),
    ("compressor", .ofOption .str o.compressor),
    ("connect_retry", .ofOption (fun n => .int n.toInt) o.connectRetry),
    ("serializer", .ofOption .str o.serializer),
    ("timeout_millis", .ofOption (fun n => .int n.toInt) o.timeoutMillis),
    ("timeout_retry", .ofOption (fun n => .int n.toInt) o.timeoutRetry)]

end CallOptions

namespace ClientConfig

open Json (Shape)

/-- The fields of a client configuration, in their order by position. -/
def fields : List (Json.Field ClientConfig) :=
  [.optional "consumer" Shape.string fun v c => { c with consumer := v },
   .optional "timeout_millis" Shape.int64 fun v c => { c with timeoutMillis := v },
   .optional "connect_retry" Shape.int32 fun v c => { c with connectRetry := v },
   .optional "timeout_retry" Shape.int32 fun v c => { c with timeoutRetry := v },
   .optional "serializer" Shape.string fun v c => { c with serializer := v },
   .optional "compressor" (Shape.option Shape.string) fun v c => { c with compressor := v },
   .optional "compress_threshold" Shape.int64 fun v c => { c with compressThreshold := v }]

/-- Reads a client configuration. -/
def shape : Shape ClientConfig :=
  .record "struct ClientConfig" fields {}

/-- The configuration as an untyped object. -/
def toJson (c : ClientConfig) : Json :=
  .obj [("compress_threshold", .int c.compressThreshold.toInt),
    ("compressor", .ofOption .str c.compressor),
    ("connect_retry", .int c.connectRetry.toInt),
    ("consumer", .str c.consumer),
    ("serializer", .str c.serializer),
    ("timeout_millis", .int c.timeoutMillis.toInt),
    ("timeout_retry", .int c.timeoutRetry.toInt)]

/-- The timeout and the budgets are positive, and there is a serializer. -/
def validate (c : ClientConfig) : Except ConfigFault Unit :=
  if c.timeoutMillis ≤ 0 then .error (.timeoutNotPositive c.timeoutMillis)
  else if c.connectRetry ≤ 0 ∨ c.timeoutRetry ≤ 0 then
    .error (.retryNotPositive c.connectRetry c.timeoutRetry)
  else if Text.isBlank c.serializer = true then .error .serializerBlank
  else .ok ()

end ClientConfig

end RemoteCall
