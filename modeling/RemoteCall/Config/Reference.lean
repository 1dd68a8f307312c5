/-
References: how a client imports a service.

A reference names the provider and the group to look for, or lists direct
addresses that bypass discovery, and sets options for the service and for single
methods.
-/
import RemoteCall.Address
import RemoteCall.Attributes
import RemoteCall.Config.Options

namespace RemoteCall

/-- A consumer's import of one service. -/
structure ReferenceConfig where
  /-- Addresses separated by commas; discovery is not used when there are any. -/
  url : Option String := none
  provider : String := ""
  group : Option String := none
  options : CallOptions := {}
  methods : Table CallOptions := ∅

/-- Why a direct address is not acceptable. -/
structure ReferenceFault where
  url : String
  cause : AddressFault
deriving DecidableEq, Repr

/-- The fault in words. -/
def ReferenceFault.message (fault : ReferenceFault) : String :=
  "direct url " ++ fault.url ++ " " ++ fault.cause.message

namespace ReferenceConfig

open Json (Shape)

instance : Inhabited ReferenceConfig := ⟨{}⟩

/-- Splits a text into its pieces between commas, trimmed, without the blank ones. -/
def splitUrls (text : List Char) : List (List Char) :=
  ((Text.splitOn ',' text).map Text.trimChars).filter fun piece => !piece.isEmpty

/-- The direct addresses. -/
def directUrls (r : ReferenceConfig) : List String :=
  match r.url with
  | none => []
  | some url => (splitUrls url.toList).map String.ofList

/-- The options of a method, if it has any of its own. -/
def methodOptions? (r : ReferenceConfig) (method : String) : Option CallOptions :=
  r.methods[method]?

/-- A text is an address as it stands. -/
def validateUrl (url : String) : Except ReferenceFault Unit :=
  match Address.parse url with
  | .ok _ => .ok ()
  | .error cause => .error { url := url, cause := cause }

/-- Every direct address is one. -/
def validate (r : ReferenceConfig) : Except ReferenceFault Unit :=
  r.directUrls.forM validateUrl

/-- The fields of a reference, in their order by position. -/
def fields : List (Json.Field ReferenceConfig) :=
  [.optional "url" (Shape.option Shape.string) fun v r => { r with url := v },
   .optional "provider" Shape.string fun v r => { r with provider := v },
   .optional "group" (Shape.option Shape.string) fun v r => { r with group := v },
   .optional "options" CallOptions.shape fun v r => { r with options := v },
   .optional "methods" (Shape.entries CallOptions.shape)
     fun v r => { r with methods := Std.ExtTreeMap.ofList v }]

/-- Reads a reference. -/
def shape : Shape ReferenceConfig :=
  .record "struct ReferenceConfig" fields {}

/-- The reference as an untyped object. -/
def toJson (r : ReferenceConfig) : Json :=
  .obj [("group", .ofOption .str r.group),
    ("methods", .obj (r.methods.toList.map fun (name, o) => (name, o.toJson))),
    ("options", r.options.toJson),
    ("provider", .str r.provider),
    ("url", .ofOption .str r.url)]

end ReferenceConfig

end RemoteCall
