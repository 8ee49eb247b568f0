import Fulfillment.Number.Duration
import Fulfillment.Number.FloatText
import Fulfillment.Number.Integer

/-!
# Service settings

Each service reads its settings from environment variables. A setting names its variable, the
field it fills, the kind of value it holds and a default text. Settings are read in order, the
shared ones first; a variable that is set is read even when its text is empty, an unset one
falls back to the default, and a setting with an empty default that is not set keeps its zero
value. The first text that does not read as its kind stops the load with a complaint naming
the variable, the field, the text and the type. A variable whose name or text cannot be put in
an environment (see `settable`) is not set at all.
-/

namespace Fulfillment.Config

open Number

/-- The kind of value a setting holds, which decides how its text is read. -/
inductive SettingKind where
  | text
  | whole
  | flag
  | span
  | real
  deriving DecidableEq, Inhabited

/-- The type name a complaint gives a kind. -/
def SettingKind.typeName : SettingKind → String
  | .text => "string"
  | .whole => "int"
  | .flag => "bool"
  | .span => "time.Duration"
  | .real => "float64"

/-- A setting's value: a text, a whole number, a flag, a span in nanoseconds or a double. -/
inductive SettingValue where
  | text (s : String)
  | whole (n : Int)
  | flag (b : Bool)
  | span (nanos : Int)
  | real (x : FloatReading)
  deriving Inhabited

/-- The value a setting holds before anything is read into it. -/
def SettingKind.zero : SettingKind → SettingValue
  | .text => .text ""
  | .whole => .whole 0
  | .flag => .flag false
  | .span => .span 0
  | .real => .real (.finite (Binary64.zero false))

/-- The flag a text spells, if it spells one. -/
def readFlag : String → Option Bool
  | "1" | "t" | "T" | "TRUE" | "true" | "True" => some true
  | "0" | "f" | "F" | "FALSE" | "false" | "False" => some false
  | _ => none

/-- Reads a setting's text as its kind, or the complaint about it. -/
def SettingKind.read (k : SettingKind) (s : String) : Except String SettingValue :=
  match k with
  | .text => .ok (.text s)
  | .whole =>
    match readInt s 0 64 with
    | .value n => .ok (.whole n)
    | r => .error (r.complaint s)
  | .flag =>
    match readFlag s with
    | some b => .ok (.flag b)
    | none => .error ("strconv.ParseBool: parsing " ++ Text.quote s ++ ": invalid syntax")
  | .span => (readDuration s).map .span
  | .real =>
    match readFloat s with
    | .malformed => .error (FloatReading.complaint .malformed s)
    | .outOfRange => .error (FloatReading.complaint .outOfRange s)
    | r => .ok (.real r)

/-- One setting: its variable, the field it fills, its kind and its default text. -/
structure Setting where
  key : String
  field : String
  kind : SettingKind
  default : String

/-- The settings every service shares, read first. -/
def sharedSettings : List Setting :=
  [⟨"LOG_LEVEL", "LogLevel", .text, "info"⟩,
   ⟨"DATABASE_URL", "DatabaseURL", .text, ""⟩]

/-- The order service's own settings. -/
def orderSettings : List Setting :=
  [⟨"PORT", "Port", .text, "8080"⟩,
   ⟨"CUSTOMER_SERVICE_URL", "CustomerServiceURL", .text, "http://localhost:8081"⟩,
   ⟨"CUSTOMER_SERVICE_TIMEOUT", "CustomerServiceTimeout", .span, "5s"⟩,
   ⟨"PAYMENT_SERVICE_URL", "PaymentServiceURL", .text, "http://localhost:8082"⟩,
   ⟨"PAYMENT_SERVICE_TIMEOUT", "PaymentServiceTimeout", .span, "10s"⟩,
   ⟨"BULKHEAD_SIZE", "BulkheadSize", .whole, "10"⟩,
   ⟨"BREAKER_FAILURE_THRESHOLD", "BreakerFailureThreshold", .whole, "5"⟩,
   ⟨"BREAKER_COOL_DOWN", "BreakerCoolDown", .span, "300s"⟩,
   ⟨"REDIS_ADDR", "RedisAddr", .text, ""⟩,
   ⟨"IDEMPOTENCY_TTL", "IdempotencyTTL", .span, "24h"⟩,
   ⟨"SAGA_LOG_PATH", "SagaLogPath", .text, ""⟩]

/-- The payment service's own settings. -/
def paymentSettings : List Setting :=
  [⟨"PORT", "Port", .text, "8082"⟩,
   ⟨"ORDER_SERVICE_URL", "OrderServiceURL", .text, "http://localhost:8080"⟩,
   ⟨"ORDER_SERVICE_TIMEOUT", "OrderServiceTimeout", .span, "5s"⟩,
   ⟨"BULKHEAD_SIZE", "BulkheadSize", .whole, "10"⟩,
   ⟨"PROCESSING_INTERVAL", "ProcessingInterval", .span, "60s"⟩,
   ⟨"PROCESSING_BATCH_SIZE", "ProcessingBatchSize", .whole, "10"⟩,
   ⟨"PROCESSING_CUTOFF", "ProcessingCutoff", .span, "1m"⟩,
   ⟨"STATISTICS_INTERVAL", "StatisticsInterval", .span, "5m"⟩,
   ⟨"SETTLEMENT_SUCCESS_RATE", "SettlementSuccessRate", .real, "0.9"⟩]

/-- The customer service's own settings. -/
def customerSettings : List Setting :=
  [⟨"PORT", "Port", .text, "8081"⟩,
   ⟨"SEED_CUSTOMERS", "SeedCustomers", .flag, "true"⟩]

/-- The settings of a named service, shared ones first. -/
def settingsOf : String → Option (List Setting)
  | "order" => some (sharedSettings ++ orderSettings)
  | "payment" => some (sharedSettings ++ paymentSettings)
  | "customer" => some (sharedSettings ++ customerSettings)
  | _ => none

/-- Whether a variable can be put in the environment: its name is not empty and holds no `=`
and no NUL, and its text holds no NUL. One that cannot be put there stays unset. -/
def settable (key value : String) : Bool :=
  !key.isEmpty && !key.contains '=' && !key.contains (Char.ofNat 0) &&
    !value.contains (Char.ofNat 0)

/-- The text of a variable, the last one given under its name. -/
def lookupVar (env : List (String × String)) (key : String) : Option String :=
  (env.reverse.find? (·.1 == key)).map (·.2)

/-- The complaint when a setting's text does not read as its kind. -/
def assignmentComplaint (s : Setting) (text detail : String) : String :=
  "envconfig.Process: assigning " ++ s.key ++ " to " ++ s.field ++ ": converting '" ++ text ++
    "' to type " ++ s.kind.typeName ++ ". details: " ++ detail

/-- The value one setting takes in an environment. -/
def Setting.load (env : List (String × String)) (s : Setting) : Except String SettingValue :=
  let text := match lookupVar env s.key with
    | some v => some v
    | none => if s.default.isEmpty then none else some s.default
  match text with
  | none => .ok s.kind.zero
  | some v =>
    match s.kind.read v with
    | .ok value => .ok value
    | .error detail => .error (assignmentComplaint s v detail)

/-- Loads settings in order, each field with its value, stopping at the first complaint. -/
def load (env : List (String × String)) (settings : List Setting) :
    Except String (List (String × SettingValue)) :=
  settings.mapM fun s => (s.load env).map fun v => (s.field, v)

end Fulfillment.Config
