import Fulfillment.Config.Settings
import Fulfillment.Script.Stateless

/-!
# Loading settings

`settingsAnswer` loads a service's settings from the variables a request gives and answers
them as an object keyed by field: texts, whole numbers and flags as themselves, spans as whole
nanoseconds and doubles in their shortest form. A double that is infinite or not a number has
no JSON form, so the settings are answered by the complaint about it.
-/

namespace Fulfillment.Script

open Json Config Number

/-- A setting's value as JSON, or why it has no JSON form. -/
def settingJson : SettingValue → Except String Json
  | .text s => .ok (.str s)
  | .whole n => .ok (.int n)
  | .flag b => .ok (.bool b)
  | .span n => .ok (.int n)
  | .real (.finite x) => .ok (.num (jsonText x))
  | .real (.infinite true) => .error "json: unsupported value: -Inf"
  | .real (.infinite false) => .error "json: unsupported value: +Inf"
  | .real _ => .error "json: unsupported value: NaN"

/-- A service's settings loaded from the variables a line gives, those that can be set. -/
def settingsAnswer (i : Input) : Json :=
  match settingsOf i.service with
  | none => badInput ("unknown service " ++ i.service)
  | some settings =>
    match load (i.env.filter fun (k, v) => settable k v) settings with
    | .error e => problem "config" e
    | .ok values =>
      match values.mapM (fun (f, v) => (settingJson v).map fun x => (f, x)) with
      | .ok ms => .obj [("config", .obj ms)]
      | .error e => .obj [("config", problem "marshal" e)]

end Fulfillment.Script
