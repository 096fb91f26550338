import TradingPlatform.Lib.Digest
import TradingPlatform.Domain.State

/-!
# Deterministic client order ids

`domain/client_order_id.py`. The client order id is the only handle that survives a submission whose outcome is
undetermined: the same intent or position and the same leg always give the same id.
-/

namespace TradingPlatform

/-- `MAX_CLIENT_ORDER_ID_LENGTH`. -/
def maxClientOrderIdLength : ℕ := 36

/-- `OrderLegKind`: which leg of a position lifecycle an order belongs to. -/
inductive OrderLegKind where
  | entry | exit | stop | target
  deriving DecidableEq, Repr

/-- `_PREFIX_BY_LEG`: the text a client order id of the leg opens with. -/
def OrderLegKind.opening : OrderLegKind → String
  | .entry => "A2E"
  | .exit => "A2X"
  | .stop => "A2S"
  | .target => "A2T"

/-- `_hash`: the first `length` digits of the digest of the parts, joined by a separator that no part holds. -/
def hashParts (parts : List String) (length : ℕ) : String :=
  String.ofList ((Digest.sha256Digits ("\x1f".intercalate parts)).take length)

/-- The characters of a client order id: letters, digits and the hyphen. -/
def clientOrderIdChar (c : Char) : Bool := c.isAlphanum || c == '-'

/-- `_validate`. -/
def validateClientOrderId (clientOrderId : String) : Except PyError String :=
  if clientOrderId.length > maxClientOrderIdLength then
    .error (.valueError ("client order id " ++ clientOrderId ++ " exceeds the 36 char exchange limit"))
  else if clientOrderId.toList = [] ∨ ¬clientOrderId.toList.all clientOrderIdChar then
    .error (.valueError ("client order id " ++ clientOrderId ++ " contains characters outside [A-Za-z0-9-]"))
  else .ok clientOrderId

/-- `entry_client_order_id`: leg 1 is the single-leg market entry. -/
def entryClientOrderId (intentId : String) (leg : ℕ := 1) : Except PyError String :=
  if intentId = "" then .error (.valueError "intent_id is required")
  else if leg < 1 then .error (.valueError ("leg must be >= 1, got " ++ toString leg))
  else validateClientOrderId
    (OrderLegKind.entry.opening ++ "-" ++ hashParts [intentId, toString leg] 20 ++ "-" ++ toString leg)

/-- `exit_client_order_id`: `attempt` tells successive distinct exit decisions of a position apart. -/
def exitClientOrderId (positionId : String) (attempt : ℕ := 1) : Except PyError String :=
  if positionId = "" then .error (.valueError "position_id is required")
  else if attempt < 1 then .error (.valueError ("attempt must be >= 1, got " ++ toString attempt))
  else validateClientOrderId
    (OrderLegKind.exit.opening ++ "-" ++ hashParts [positionId, toString attempt] 20 ++ "-" ++ toString attempt)

/-- The id of a protection order: the stop and the target differ in the leg and in the word they hash. -/
def protectionClientOrderId (leg : OrderLegKind) (word : String) (positionId : String) (revision : ℕ) :
    Except PyError String :=
  if positionId = "" then .error (.valueError "position_id is required")
  else if revision < 1 then .error (.valueError ("revision must be >= 1, got " ++ toString revision))
  else validateClientOrderId (leg.opening ++ "-" ++ hashParts [positionId, word, toString revision] 18)

/-- `stop_client_order_id`. -/
def stopClientOrderId (positionId : String) (revision : ℕ := 1) : Except PyError String :=
  protectionClientOrderId .stop "stop" positionId revision

/-- `target_client_order_id`. -/
def targetClientOrderId (positionId : String) (revision : ℕ := 1) : Except PyError String :=
  protectionClientOrderId .target "target" positionId revision

/-- `leg_kind_of`: the leg whose opening stands before the first hyphen; none for an id this engine did not mint. -/
def legKindOf (clientOrderId : String) : Option OrderLegKind :=
  let opening := String.ofList (clientOrderId.toList.takeWhile (· ≠ '-'))
  [OrderLegKind.entry, .exit, .stop, .target].find? fun leg => opening == leg.opening

/-- `is_v2_client_order_id`. -/
def isV2ClientOrderId (clientOrderId : String) : Bool := (legKindOf clientOrderId).isSome

example : legKindOf "A2S-0011" = some .stop ∧ isV2ClientOrderId "web_A2S-0011" = false := by decide +kernel

end TradingPlatform
