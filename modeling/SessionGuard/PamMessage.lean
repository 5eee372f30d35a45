-- The events that the lock screen and its checkpass child send each other
-- over two pipes, and their JSON form (`checkpass-common/pam-message`).
import SessionGuard.AuthDefine
import Mathlib.Data.Rat.Cast.Order

namespace session_guard.pam_message

/-! ## Events -/

inductive PamEvent
  | ErrorEvent (text : String)
  | PromptRequestEvent (secret : Bool) (text : String)
  | PromptReplyEvent (result : Bool) (text : String)
  | MessageEvent (isError : Bool) (text : String)
  | CompleteEvent (isComplete authResult : Bool) (text : String)
  deriving DecidableEq, Repr

/-- `PamEvent::Type`, as the integer that goes over the pipe. -/
def PamEvent.type : PamEvent → Int
  | .ErrorEvent _ => 0
  | .PromptRequestEvent _ _ => 1
  | .PromptReplyEvent _ _ => 2
  | .MessageEvent _ _ => 3
  | .CompleteEvent _ _ _ => 4

/-- `PamEvent::LAST`. -/
def LAST : Int := 5

def PamEvent.text : PamEvent → String
  | .ErrorEvent t => t
  | .PromptRequestEvent _ t => t
  | .PromptReplyEvent _ t => t
  | .MessageEvent _ t => t
  | .CompleteEvent _ _ t => t

/-! ## JSON documents -/

/-- A `QJsonValue`. The code never looks into an array or an inner object. -/
inductive JsonValue
  | null
  | bool (b : Bool)
  | double (d : Rat)
  | string (s : String)
  | array
  | object
  deriving DecidableEq

namespace JsonValue

def isNull : JsonValue → Bool
  | .null => true
  | _ => false

def isBool : JsonValue → Bool
  | .bool _ => true
  | _ => false

def toBool : JsonValue → Bool
  | .bool b => b
  | _ => false

/-- `QJsonValue::toInt`: the number when it is a whole `int`, and 0 for any
other value. -/
def toInt : JsonValue → Int
  | .double d => if d.den = 1 ∧ -2 ^ 31 ≤ d.num ∧ d.num < 2 ^ 31 then d.num else 0
  | _ => 0

def toString : JsonValue → String
  | .string s => s
  | _ => ""

end JsonValue

abbrev JsonObject := List (String × JsonValue)

/-- `jsonObject[key]` of an object that is not const: a missing member is
created with a null value. -/
def JsonObject.value (o : JsonObject) (key : String) : JsonValue := (o.lookup key).getD .null

/-- A `QJsonDocument` that is not null. -/
inductive JsonDocument
  | object (o : JsonObject)
  | array
  deriving DecidableEq

/-- `QJsonDocument::object`: empty when the document is no object. -/
def JsonDocument.toObject : JsonDocument → JsonObject
  | .object o => o
  | .array => []

/-! ## The encoder and the decoder -/

/-- The members that `kiran_pam_message_send_event` adds for each kind of
event. -/
def PamEvent.members : PamEvent → JsonObject
  | .ErrorEvent _ => []
  | .PromptRequestEvent secret _ => [("secret", .bool secret)]
  | .PromptReplyEvent result _ => [("reply_result", .bool result)]
  | .MessageEvent isError _ => [("error_info", .bool isError)]
  | .CompleteEvent isComplete authResult _ =>
    [("complete", .bool isComplete), ("auth_result", .bool authResult)]

/-- The document that `kiran_pam_message_send_event` writes. -/
def kiranPamMessageSendEvent (event : PamEvent) : JsonDocument :=
  .object ([("event", .double event.type), ("text", .string event.text)] ++ event.members)

/-- `kiran_pam_message_recv_event`, on a document that was read whole. -/
def kiranPamMessageRecvEvent (doc : JsonDocument) : Option PamEvent :=
  let jsonObject := doc.toObject
  if jsonObject.isEmpty ∨ (jsonObject.value "event").isNull then none
  else
    let eventType := (jsonObject.value "event").toInt
    if eventType < 0 ∨ LAST ≤ eventType ∨ (jsonObject.value "text").isNull then none
    else
      let textInfo := (jsonObject.value "text").toString
      if eventType = 0 then some (.ErrorEvent textInfo)
      else if eventType = 1 then
        let secret := jsonObject.value "secret"
        if secret.isNull || !secret.isBool then none
        else some (.PromptRequestEvent secret.toBool textInfo)
      else if eventType = 2 then
        -- a reply with a false result is turned away here, not by the caller
        let result := jsonObject.value "reply_result"
        if result.isNull || !result.toBool then none
        else some (.PromptReplyEvent result.toBool textInfo)
      else if eventType = 3 then
        let isError := jsonObject.value "error_info"
        if isError.isNull || !isError.isBool then none
        else some (.MessageEvent isError.toBool textInfo)
      else
        let isComplete := jsonObject.value "complete"
        let authResult := jsonObject.value "auth_result"
        if isComplete.isNull || authResult.isNull || !isComplete.isBool || !authResult.isBool
        then none
        else some (.CompleteEvent isComplete.toBool authResult.toBool textInfo)

/-- Every event but a negative reply comes back from the decoder as it went
into the encoder. -/
theorem recvEvent_sendEvent (e : PamEvent) (h : ∀ t, e ≠ .PromptReplyEvent false t) :
    kiranPamMessageRecvEvent (kiranPamMessageSendEvent e) = some e := by
  cases e with
  | PromptReplyEvent result t =>
    cases result with
    | false => exact absurd rfl (h t)
    | true => rfl
  | _ => rfl

end session_guard.pam_message
