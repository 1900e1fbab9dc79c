import Scim.Message.Error
import Scim.Store.Basic

/-!
# Errors of the directory

Every error that a request may end in, with its text, its status and the message that reports it.
-/

namespace Scim

/-- Why a request failed. -/
inductive ServiceError where
  | notFound (text : String)
  | badRequest (text : String)
  | protocol (error : ProtocolError)
  | store (error : StoreError)
deriving DecidableEq, Repr

namespace ServiceError

/-- The text of the error. -/
def message : ServiceError → String
  | notFound text => "not found: " ++ text
  | badRequest text => "bad request: " ++ text
  | protocol e => e.message
  | store e => e.message

/-- The status of the answer. -/
def status : ServiceError → Nat
  | notFound _ => 404
  | badRequest _ => 400
  | protocol e =>
    match e with
    | .invalidValue _ => 400
    | .notFound _ => 404
    | .uniqueness _ => 409
    | .mutability _ => 412
    | .invalidSyntax _ => 400
    | .tooMany => 413
  | store _ => 500

/-- The kind of error that the answer names. -/
def errorType? : ServiceError → Option ErrorType
  | notFound _ => none
  | badRequest _ => some .invalidSyntax
  | protocol e => e.errorType?
  | store _ => none

/-- The explanation in the answer. -/
def detail : ServiceError → String
  | notFound text => text
  | badRequest text => text
  | protocol e =>
    match e with
    | .invalidValue text => text
    | .notFound text => text
    | .uniqueness text => text
    | .mutability text => text
    | .invalidSyntax text => text
    | .tooMany => "Too many operations"
  | store e => "Store error: " ++ e.message

/-- The message that reports the error. -/
def response (e : ServiceError) : ErrorResponse where
  status := Nat.repr e.status
  scimType := e.errorType?
  detail := e.detail

end ServiceError

end Scim
