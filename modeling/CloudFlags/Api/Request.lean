import CloudFlags.Api.Failure
import CloudFlags.SyncRule
import CloudFlags.Resource.ClusterEvent
import CloudFlags.Resource.FlowControl

/-! The requests that the operator makes of the API server, how each of them is sent, and which of
them cannot be sent. -/

namespace CloudFlags

open Resource

/-- What a config map holds. -/
structure Contents where
  data : Option (Table String String)
  binaryData : Option (Table String String)
  deriving DecidableEq

def Resource.ConfigMap.contents (m : ConfigMap) : Contents := ⟨m.data, m.binaryData⟩

namespace Api

inductive Method where
  | get
  | delete
  | patch
  | post
  deriving DecidableEq, Repr

def Method.name : Method → String
  | .get => "GET"
  | .delete => "DELETE"
  | .patch => "PATCH"
  | .post => "POST"

inductive Request where
  | readMap (location : Location)
  | removeMap (location : Location)
  /-- Makes a config map hold what is given, whether it exists or not. -/
  | applyMap (location : Location) (contents : Contents)
  | applyFlowControl (object : FlowControlObject)
  | createEvent (event : ClusterEvent)
  deriving DecidableEq

namespace Request

def method : Request → Method
  | .readMap _ => .get
  | .removeMap _ => .delete
  | .applyMap .. => .patch
  | .applyFlowControl _ => .patch
  | .createEvent _ => .post

/-! ### The target -/

/-- The mark before a query. -/
def queryMark : Char := '?'

/-- The mark behind which an address goes on for its reader alone, and is not sent. -/
def cutMark : Char := '#'

/-- The mark between the parts of a path. -/
def partMark : Char := '/'

/-- The path to the namespaces, and what leads in one of them to the config maps. -/
def spacesPath : String := "/api/v1/namespaces/"

def mapsPath : String := "/configmaps/"

def spacePath (space : String) : String := spacesPath ++ space

def mapPath (location : Location) : String :=
  spacePath location.space ++ mapsPath ++ location.name

/-- An object is taken over from whoever else wrote it, in the operator's name. -/
def applyQuery : String := "?&force=true&fieldManager=" ++ operatorName

/-- Path and query, and what is not sent. -/
def address : Request → String
  | .readMap location => mapPath location
  | .removeMap location => mapPath location ++ "?"
  | .applyMap location _ => mapPath location ++ applyQuery
  | .applyFlowControl object =>
    "/apis/" ++ object.kind.objectKind.version ++ "/" ++ object.kind.collection ++ "/" ++
      object.name ++ applyQuery
  | .createEvent event => spacePath event.space ++ "/events?"

/-- Path and query as they are sent. -/
def target (request : Request) : String :=
  String.ofList (request.address.toList.takeWhile (· ≠ cutMark))

/-- The characters that do not end a path. -/
def isInPath (c : Char) : Bool := c ≠ queryMark && c ≠ cutMark

/-- The path in what it begins. -/
def path (text : String) : List Char := text.toList.takeWhile isInPath

/-- The config map that a path leads to: behind the namespaces one part for the namespace, and behind
its config maps one part for the name. -/
def mapAt? (path : List Char) : Option Location := do
  let spaces ← spacesPath.toList.isPrefixOf? path
  let name ← mapsPath.toList.isPrefixOf? (spaces.dropWhile (· ≠ partMark))
  if partMark ∈ name then none
  else some ⟨String.ofList (spaces.takeWhile (· ≠ partMark)), String.ofList name⟩

/-- The config map that is reached by the path for a location: another one, or none, if there are
marks in the namespace or the name. -/
def addressed? (location : Location) : Option Location := mapAt? (path (mapPath location))

/-! ### The body -/

def contentType? : Request → Option String
  | .readMap _ => none
  | .removeMap _ => some "application/json"
  | .applyMap .. => some "application/apply-patch+yaml"
  | .applyFlowControl _ => some "application/apply-patch+yaml"
  | .createEvent _ => some "application/json"

/-- The config map as it is written. -/
def mapBody (location : Location) (contents : Contents) : Json :=
  ConfigMap.toJson
    ⟨Metadata.named location.space location.name, contents.data, contents.binaryData, none⟩

def body? : Request → Option Json
  | .readMap _ => none
  | .removeMap _ => some Json.empty
  | .applyMap location contents => some (mapBody location contents)
  | .applyFlowControl object => some object.toJson
  | .createEvent event => some event.toJson

/-! ### Requests that are not sent -/

/-- A character of a target: visible and no angle bracket. -/
def isTargetChar (c : Char) : Bool :=
  '!' ≤ c && c.toNat ≠ 0x7F && c ≠ '<' && c ≠ '>'

/-- Backquotes stand in queries only, and quotes in paths only. -/
def isSendable (target : List Char) : Bool :=
  (target.takeWhile (· ≠ queryMark)).all (fun c => isTargetChar c && c ≠ '\x60') &&
    (target.dropWhile (· ≠ queryMark)).all fun c => isTargetChar c && c ≠ '"'

/-- The most bytes that an address may have. -/
def longestAddress : Nat := 65534

/-- The name of the object that a request is about, if it must have one. -/
def objectName? : Request → Option String
  | .readMap location => some location.name
  | .removeMap location => some location.name
  | .applyMap location _ => some location.name
  | .applyFlowControl object => some object.name
  | .createEvent _ => none

/-- Why a request cannot be sent, if it cannot. -/
def fault? (request : Request) : Option RequestFault :=
  if request.objectName? = some "" then some .emptyName
  else if longestAddress < request.address.utf8ByteSize then some .tooLong
  else if isSendable request.target.toList then none
  else some .invalidCharacter

end Request

end Api

end CloudFlags
