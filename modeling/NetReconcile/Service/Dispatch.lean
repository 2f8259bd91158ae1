import NetReconcile.Service.Kinds
import NetReconcile.Service.Model
import NetReconcile.Service.Secrets
import NetReconcile.Service.Sessions
import NetReconcile.Service.Configs
import NetReconcile.Service.Diagnostics
import NetReconcile.Json.Record

/-!
# Answering requests

A request names its operation in the field `op`; the answer is the operation's reply,
or bad input for an operation that does not exist.
-/

namespace NetReconcile.Service

open Json

/-- Answer a request about codes. -/
def codeRequest (op : String) (req : Value) : Option Reply :=
  match op with
  | "resolve_spec_id" => some do
    return .obj [("spec", .str (Codes.sizeCode (← needText req "spec")))]
  | "ip_type_code" => some do
    return .obj [("code", .str (Codes.ipTypeCode (← needText req "ipType")))]
  | "share_type_code" => some do
    return .obj [("code", .str (Codes.shareTypeCode (← needText req "shareType")))]
  | _ => none

/-- The answer to a request. -/
def answer (req : Value) : Value :=
  let reply : Reply := match needText req "op" with
    | .error e => .error e
    | .ok op =>
      match kindRequest op req <|> codeRequest op req <|> modelRequest op req <|> secretRequest op req <|> sessionRequest op req <|> configRequest op req <|> scenarioRequest op req <|> debugRequest op req <|> libraryRequest op req with
      | some r => r
      | none => .error (.badInput s!"unknown op {op}")
  reply.toValue

/-- The answer to a request line; a line that is not JSON is bad input. -/
def answerLine (line : String) : String :=
  match Value.read line with
  | .ok req => (answer req).write
  | .error _ => (Failure.badInput "request is not JSON").toValue.write

end NetReconcile.Service
