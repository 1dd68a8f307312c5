/-
Services, calls, messages and instances as untyped objects, for tools.

The body of an encoded message is shown inflated when its attributes name one of
the built-in compressors.
-/
import RemoteCall.Codec.Exchange
import RemoteCall.Instance
import RemoteCall.Locator.Statistics
import RemoteCall.Report.Outcome

namespace RemoteCall

open Report

/-- The code with what it says. -/
def Code.report (c : Code) : Json :=
  Json.object
    [("name", .str c.name), ("value", .int c.toInt32.toInt), ("description", .str c.description),
     ("display", .str c.description)]

/-- The plugins and the threshold. -/
def CodecOptions.report (o : CodecOptions) : Json :=
  Json.object
    [("serializer", .str o.serializer.name), ("compressor", text (o.compressor.map (·.id))),
     ("threshold", .int o.threshold), ("debug", .str o.summary)]

/-- The options with the names of the plugins. -/
def ResolvedOptions.report (o : ResolvedOptions) : Json :=
  Json.object
    [("timeout_millis", .int o.timeoutMillis.toInt), ("timeout_retry", .int o.timeoutRetry.toNat),
     ("connect_retry", .int o.connectRetry.toNat), ("serializer", .str o.serializer),
     ("compressor", text o.compressor), ("compress_threshold", .int o.compressThreshold)]

/-- The declared shape. -/
def MethodDescriptor.report (d : MethodDescriptor) : Json :=
  Json.object
    [("name", .str d.name), ("params", texts (d.params.map (·.name))),
     ("returns", .str d.returns.name), ("async", .bool d.async)]

/-- The shape and the options in effect. -/
def MethodConfig.report (m : MethodConfig) : Json :=
  Json.object
    [("name", .str m.name), ("param", text (m.param.map (·.name))),
     ("returns", .str m.returns.name),
     ("async", .bool m.async), ("timeout_millis", .int m.timeoutMillis.toInt),
     ("timeout_retry", .int m.timeoutRetry.toNat), ("connect_retry", .int m.connectRetry.toNat),
     ("codec", m.codec.report)]

/-- The service with the names of its methods. -/
def Service.report (s : Service) : Json :=
  Json.object
    [("name", .str s.name), ("consumer", .str s.consumer), ("provider", .str s.provider),
     ("group", text s.group), ("connect_retry", .int s.connectRetry.toNat),
     ("timeout_retry", .int s.timeoutRetry.toNat), ("codec", s.codec.report),
     ("methods", texts s.methodNames)]

/-- The instance with everything that is known about it. -/
def ServiceInstance.report (i : ServiceInstance) : Json :=
  Json.object
    [("code", .str i.code), ("service", .str i.service), ("host", .str i.host),
     ("port", .int i.port.toNat), ("address", .str i.address), ("debug", .str i.summary),
     ("metadata", i.metadata.toJson)]

/-- An instance that was picked, or `null`. -/
def Report.picked : Option ServiceInstance → Json
  | none => .null
  | some i =>
    Json.object
      [("code", .str i.code), ("address", .str i.address), ("metadata", i.metadata.toJson)]

/-- The counters with what follows from them. -/
def Statistics.report (s : Statistics) : Json :=
  Json.object
    [("total", .int s.total.toNat), ("failed", .int s.failed.toNat),
     ("succeeded", .int s.succeeded.toNat), ("total_elapsed", .int s.totalElapsed.toNat),
     ("failed_elapsed", .int s.failedElapsed.toNat), ("max", .int s.maxElapsed.toNat),
     ("failed_max", .int s.failedMaxElapsed.toNat),
     ("succeeded_max", .int s.succeededMaxElapsed.toNat), ("average", .int s.averageElapsed.toNat)]

/-- The counters without the times. -/
def Statistics.reportCounts (s : Statistics) : Json :=
  Json.object
    [("total", .int s.total.toNat), ("failed", .int s.failed.toNat),
     ("succeeded", .int s.succeeded.toNat)]

/-- The outcome and the attachments. -/
def Reply.report (r : Reply) : Json :=
  Json.object
    [("is_error", .bool r.isError), ("data", maybe r.data?),
     ("error", Json.ofOption ErrorDescriptor.toJson r.error?),
     ("attachments", r.attachments.toJson)]

/-- The reply, or the error. -/
def Report.outcome : Outcome → Json := result Reply.report CallError.report

/-- The header. -/
def Header.report (h : Header) : Json :=
  Json.object
    [("service", .str h.service), ("method", .str h.method), ("consumer", .str h.consumer),
     ("provider", .str h.provider), ("timeout_millis", .int h.timeoutMillis.toInt),
     ("attributes", h.attributes.toJson)]

/-- What restores a body that was made smaller by a built-in compressor. -/
def Report.restorer? (attributes : Attributes) : Option Compressor :=
  match attributes[compressorKey]? with
  | some "gzip" => some .gzip
  | some "deflate" => some .deflate
  | _ => none

/-- The body of a message with the given attributes. -/
def Report.messageBody (attributes : Attributes) (content : Bytes) : Json :=
  match restorer? attributes with
  | none => bytes content
  | some c =>
    match c.decompress content with
    | .ok restored => .obj [("inflated", bytes restored)]
    | .error _ => .obj [("broken", .bool true)]

/-- The header and the body. -/
def Request.report (r : Request) : Json :=
  Json.object [("header", r.header.report), ("body", messageBody r.header.attributes r.body)]

/-- The header and the parameter. -/
def DecodedCall.report (c : DecodedCall) : Json :=
  Json.object [("header", c.header.report), ("parameter", maybe c.parameter)]

/-- The name of the status. -/
def ResponseStatus.name : ResponseStatus → String
  | success => "success"
  | failure => "failure"

/-- The status, the attributes and the body. -/
def Response.report (r : Response) : Json :=
  Json.object
    [("status", .str r.status.name), ("attributes", r.attributes.toJson),
     ("body", messageBody r.attributes r.body)]

/-- What changes about a call on its way. -/
def Invocation.reportState (i : Invocation) : Json :=
  Json.object
    [("attributes", i.attributes.toJson), ("remote", text i.remoteAddress),
     ("local", text i.localAddress)]

/-- Everything about a call. -/
def Invocation.report (i : Invocation) : Json :=
  Json.object
    ([("service", .str i.service.name), ("method", .str i.method.name),
      ("consumer", .str i.service.consumer), ("provider", .str i.service.provider),
      ("target", .str i.targetName), ("timeout_millis", .int i.timeoutMillis.toInt),
      ("parameter", maybe i.parameter), ("debug", .str i.summary),
      ("has_context", .bool i.context.isSome), ("config", i.method.report),
      ("service_config", i.service.report)] ++ i.reportState.fields)

end RemoteCall
