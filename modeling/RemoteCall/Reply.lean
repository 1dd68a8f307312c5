/-
The outcome of a call as the provider stated it.

A reply holds a value, possibly none, or an error descriptor, never both, and
attachments in either case. `Reply.result` turns it into what the caller gets: a
descriptor with the business code is a business error, every other one an error
of the remote framework.
-/
import RemoteCall.Attributes
import RemoteCall.Error
import RemoteCall.Json.Shape

namespace RemoteCall

/-- The structured error of a failed call. -/
structure ErrorDescriptor where
  code : Int32
  message : String
  trace : Option String
deriving DecidableEq, Repr

namespace ErrorDescriptor

/-- A descriptor without a trace. -/
def ofCode (code : Code) (message : String) : ErrorDescriptor :=
  { code := code.toInt32, message := message, trace := none }

/-- An error that the remote implementation raised itself. -/
def business (message : String) : ErrorDescriptor :=
  ofCode .business message

/-- The remote implementation raised the error itself. -/
def isBusiness (d : ErrorDescriptor) : Bool :=
  Code.ofInt32 d.code = .business

/-- What the caller gets to see. -/
def toError (d : ErrorDescriptor) : CallError :=
  if d.isBusiness then .business d.code d.message d.trace else .remote d.code d.message d.trace

/-- The descriptor as an untyped value; a missing trace is left out. -/
def toJson (d : ErrorDescriptor) : Json :=
  .obj ([("code", .int d.code.toInt), ("message", .str d.message)]
    ++ (match d.trace with
      | none => []
      | some trace => [("trace", .str trace)]))

/-- Reads a descriptor; the trace may be missing. -/
def shape : Json.Shape ErrorDescriptor :=
  .record "struct ErrorDescriptor"
    [.needed "code" Json.Shape.int32 fun code d => { d with code := code },
     .needed "message" Json.Shape.string fun message d => { d with message := message },
     .optional "trace" (Json.Shape.option Json.Shape.string)
       fun trace d => { d with trace := trace }]
    { code := 0, message := "", trace := none }

end ErrorDescriptor

/-- The outcome of a call with what was attached to it. -/
structure Reply where
  outcome : Except ErrorDescriptor (Option Json)
  attachments : Attributes

namespace Reply

/-- A reply with a value, possibly none. -/
def value (data : Option Json) : Reply :=
  { outcome := .ok data, attachments := ∅ }

/-- A reply with an error. -/
def failure (error : ErrorDescriptor) : Reply :=
  { outcome := .error error, attachments := ∅ }

/-- The reply with one more attachment. -/
def attach (reply : Reply) (name text : String) : Reply :=
  { reply with attachments := reply.attachments.insert name text }

/-- The reply with further attachments, which win over those it has. -/
def attachAll (reply : Reply) (added : Attributes) : Reply :=
  { reply with attachments := reply.attachments.extend added }

/-- The value, if there is one. -/
def data? (reply : Reply) : Option Json :=
  match reply.outcome with
  | .ok data => data
  | .error _ => none

/-- The error, if there is one. -/
def error? (reply : Reply) : Option ErrorDescriptor :=
  match reply.outcome with
  | .ok _ => none
  | .error d => some d

/-- The reply holds an error. -/
def isError (reply : Reply) : Bool :=
  reply.error?.isSome

/-- What the caller gets. -/
def result (reply : Reply) : Except CallError (Option Json) :=
  reply.outcome.mapError ErrorDescriptor.toError

end Reply

/-- What a call comes to: a reply, or an error of the way to it. -/
abbrev Outcome : Type := Except CallError Reply

end RemoteCall
