/-
Option resolution: method over service over client.

A number counts when it is positive and a name when it is not blank; anything
else falls through to the next level and, behind the last, to a built-in
default.
-/
import RemoteCall.Codec.Options
import RemoteCall.Config.Options

namespace RemoteCall

/-- The options in effect for one method. -/
structure ResolvedOptions where
  timeoutMillis : Int64
  timeoutRetry : UInt32
  connectRetry : UInt32
  serializer : String
  compressor : Option String
  compressThreshold : Nat
deriving DecidableEq, Repr

namespace ResolvedOptions

/-- The first positive number of the levels. -/
def firstPositive (levels : List (Option Int)) (default : Int) : Int :=
  ((levels.filterMap id).find? (0 < ·)).getD default

/-- The first name of the levels that is not blank, trimmed. -/
def firstNamed (levels : List (Option String)) : Option String :=
  ((levels.filterMap id).map Text.trim).find? (· ≠ "")

/-- A number as one of 32 bits without sign; what does not fit becomes the largest one. -/
def saturate32 (n : Int) : UInt32 :=
  if 0 ≤ n ∧ n < UInt32.size then UInt32.ofNat n.toNat else UInt32.ofNat (UInt32.size - 1)

/-- A number as a length of 64 bits; what does not fit becomes the largest one. -/
def saturateLength (n : Int) : Nat :=
  if 0 ≤ n ∧ n < UInt64.size then n.toNat else UInt64.size - 1

/-- The options in effect, from those of the method, of the service and of the client. -/
def resolve (method : Option CallOptions) (service : CallOptions) (client : ClientConfig) :
    ResolvedOptions :=
  let method := method.getD {}
  { timeoutMillis := Int64.ofInt (firstPositive
      [method.timeoutMillis.map (·.toInt), service.timeoutMillis.map (·.toInt),
       some client.timeoutMillis.toInt] 3000)
    timeoutRetry := saturate32 (firstPositive
      [method.timeoutRetry.map (·.toInt), service.timeoutRetry.map (·.toInt),
       some client.timeoutRetry.toInt] 1)
    connectRetry := saturate32 (firstPositive
      [method.connectRetry.map (·.toInt), service.connectRetry.map (·.toInt),
       some client.connectRetry.toInt] 1)
    serializer := (firstNamed
      [method.serializer, service.serializer, some client.serializer]).getD "json"
    compressor := firstNamed [method.compressor, service.compressor, client.compressor]
    compressThreshold := saturateLength (firstPositive
      [method.compressThreshold.map (·.toInt), service.compressThreshold.map (·.toInt),
       some client.compressThreshold.toInt] 2048) }

/-- The codec that the options ask for. -/
def codec (options : ResolvedOptions) (plugins : Plugins) : Except CallError CodecOptions :=
  CodecOptions.resolve plugins options.serializer options.compressor options.compressThreshold

end ResolvedOptions

end RemoteCall
