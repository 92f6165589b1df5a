import SwitchService.Consumer.OutcomeEvent
import SwitchService.Foundation.Utf16
import SwitchService.Services.RoutingService

set_option autoImplicit false

/-!
# Wire: the request of `POST /route` (`validators/routing.schema.ts`, `middleware/validate.ts`)

The body is checked before any business logic runs, field by field, and a refusal names
every field that is wrong in one message.
-/

namespace SwitchService.Wire

open SwitchService.Foundation SwitchService.Consumer

/-- What `/route` is sent.  The amount is in the minor unit of the currency. -/
structure RouteRequestBody where
  transactionId : String
  amountMinor : ℕ
  currency : String
  corridor : String
  bankCode : String
  requestedAt : String
  supportedChannels : Option (List String)
  deriving DecidableEq

/-- The part of a body that `route` reads. -/
def RouteRequestBody.request (body : RouteRequestBody) : Services.RouteRequest where
  transactionId := body.transactionId
  corridor := body.corridor
  supportedChannels := body.supportedChannels

/-! ## The checks -/

/-- One check of the length of a string, in UTF-16 units. -/
structure LengthCheck where
  holds : ℕ → Bool
  message : String

/-- `.min(bound)`. -/
def LengthCheck.min (bound : ℕ) : LengthCheck where
  holds length := decide (bound ≤ length)
  message := "String must contain at least " ++ toString bound ++ " character(s)"

/-- `.max(bound)`. -/
def LengthCheck.max (bound : ℕ) : LengthCheck where
  holds length := decide (length ≤ bound)
  message := "String must contain at most " ++ toString bound ++ " character(s)"

/-- `.length(size)`. -/
def LengthCheck.length (size : ℕ) : LengthCheck where
  holds length := decide (length = size)
  message := "String must contain exactly " ++ toString size ++ " character(s)"

/-- `z.string()` with checks of its length. -/
def sizedString (path : String) (checks : List LengthCheck) : Option Json → Check String
  | some (.str value) =>
      match checks.filter fun check => !check.holds (Utf16.length value) with
      | [] => .valid value
      | failed => .invalid (failed.map fun check => { path := path, message := check.message })
  | value => .invalid [typeIssue path "string" value]

/-- The items of a `z.array(z.string().min(1))`, from the given index on. -/
def nonEmptyItems (path : String) : ℕ → List Json → Check (List String)
  | _, [] => .valid []
  | index, item :: items =>
      List.cons <$> nonEmptyString (path ++ "." ++ toString index) (some item)
        <*> nonEmptyItems path (index + 1) items

/-- `.min(1)` of an array. -/
def nonEmptyArray (path : String) (items : List Json) : Check Unit :=
  if items.isEmpty then
    .invalid [{ path := path, message := "Array must contain at least 1 element(s)" }]
  else .valid ()

/-- `z.array(z.string().min(1)).min(1).optional()`. -/
def optionalStrings (path : String) : Option Json → Check (Option (List String))
  | none => .valid none
  | some (.arr items) =>
      (fun _ strings => some strings) <$> nonEmptyArray path items
        <*> nonEmptyItems path 0 items
  | value => .invalid [typeIssue path "array" value]

/-- `transactionId: z.string().min(1).max(64)`. -/
def transactionIdCheck : Option Json → Check String :=
  sizedString "transactionId" [.min 1, .max 64]

/-- `amountMinor: z.number().int().positive()`. -/
def amountMinorCheck : Option Json → Check ℕ := positiveInt "amountMinor"

/-- `currency: z.string().length(3)`. -/
def currencyCheck : Option Json → Check String := sizedString "currency" [.length 3]

/-- `corridor: z.string().min(3).max(32)`. -/
def corridorCheck : Option Json → Check String := sizedString "corridor" [.min 3, .max 32]

/-- `bankCode: z.string().min(3).max(10)`. -/
def bankCodeCheck : Option Json → Check String := sizedString "bankCode" [.min 3, .max 10]

/-- `requestedAt: z.string().min(1)`. -/
def requestedAtCheck : Option Json → Check String := sizedString "requestedAt" [.min 1]

/-- `supportedChannels: z.array(z.string().min(1)).min(1).optional()`. -/
def supportedChannelsCheck : Option Json → Check (Option (List String)) :=
  optionalStrings "supportedChannels"

/-- `routeRequestSchema.safeParse`. -/
def routeRequestSchema : Json → Check RouteRequestBody
  | .obj fields =>
      RouteRequestBody.mk
        <$> transactionIdCheck (fields.lookup "transactionId")
        <*> amountMinorCheck (fields.lookup "amountMinor")
        <*> currencyCheck (fields.lookup "currency")
        <*> corridorCheck (fields.lookup "corridor")
        <*> bankCodeCheck (fields.lookup "bankCode")
        <*> requestedAtCheck (fields.lookup "requestedAt")
        <*> supportedChannelsCheck (fields.lookup "supportedChannels")
  | value => .invalid [typeIssue "" "object" (some value)]

/-- The message of the `ValidationError`: one text that names every field. -/
def validationMessage (source : String) (issues : List Issue) : String :=
  String.intercalate "; " (issues.map fun issue =>
    (if issue.path = "" then source else issue.path) ++ " " ++ issue.message)

end SwitchService.Wire
