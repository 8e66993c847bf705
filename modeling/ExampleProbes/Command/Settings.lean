import ExampleProbes.Json.Numeral
import ExampleProbes.Json.Write
/-
The settings of an analysis: how long it may run, when partial results are sent, and under
which method. Durations are whole milliseconds.
-/
namespace ExampleProbes

structure Settings where
  timeout : Nat := 10000
  initialPushDelay : Nat := 250
  pushInterval : Nat := 500
  displayTimeout : Nat := 5000
  notificationMethod : String := "textDocument/babylonianAnalysisResult"
  deriving DecidableEq, Repr

namespace Settings

inductive Invalid where
  | noInterval
  | noMethod
  deriving DecidableEq, Repr

def Invalid.message : Invalid → String
  | .noInterval => "push_interval must be greater than zero"
  | .noMethod => "notification_method must not be empty"

def validate (settings : Settings) : Except Invalid Unit :=
  if settings.pushInterval = 0 then .error .noInterval
  else if settings.notificationMethod = "" then .error .noMethod
  else .ok ()

/-- The fields in the order in which they are written, and in which they may be given without
   their names. -/
inductive Field where
  | timeout
  | initialPushDelay
  | pushInterval
  | displayTimeout
  | notificationMethod
  deriving DecidableEq, Repr

namespace Field

def all : List Field :=
  [.timeout, .initialPushDelay, .pushInterval, .displayTimeout, .notificationMethod]

def key : Field → String
  | .timeout => "timeout"
  | .initialPushDelay => "initial_push_delay"
  | .pushInterval => "push_interval"
  | .displayTimeout => "display_timeout"
  | .notificationMethod => "notification_method"

def ofKey? (key : String) : Option Field := all.find? fun field => field.key == key

theorem ofKey?_key (field : Field) : ofKey? field.key = some field := by
  cases field <;> decide

end Field

/-- A duration as it is written, which is the largest word where no word holds it. -/
def duration (n : Nat) : Json := .nat (min n Json.maxWord)

def value (settings : Settings) : Field → Json
  | .timeout => duration settings.timeout
  | .initialPushDelay => duration settings.initialPushDelay
  | .pushInterval => duration settings.pushInterval
  | .displayTimeout => duration settings.displayTimeout
  | .notificationMethod => .string settings.notificationMethod

def toJson (settings : Settings) : Json :=
  .object (Field.all.map fun field => (field.key, settings.value field))

end Settings
end ExampleProbes
