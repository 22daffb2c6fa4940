import FleetHealth.Decimal.Reader
import FleetHealth.Entries
import FleetHealth.Fault.Basic
import FleetHealth.Number

/-!
# Config — Environment

Reading settings from environment variables.  Of several names the first whose value is not blank counts, and its value is taken without the white space around it; the readers for whole numbers, for numbers and for comma lists stand on that one lookup.  A value that is no number is refused under the first of the names.
-/

namespace FleetHealth

/-- The variables of an environment and their values. -/
abbrev Environment := List (String × String)

namespace Environment

/-- The first value among the names that is not blank, trimmed. -/
def text? (env : Environment) : List String → Option String
  | []      => none
  | n :: ns =>
    match Entries.get? n env with
    | some raw => if Text.isBlankText raw then text? env ns else some (Text.trim raw)
    | none     => text? env ns

/-- A text, or a default where there is none. -/
def textOr (env : Environment) (names : List String) (default : String) : String :=
  (env.text? names).getD default

/-- A whole number. -/
def int? (env : Environment) (names : List String) : Except SettingFault (Option Int) :=
  match env.text? names with
  | none     => .ok none
  | some raw =>
    match Decimal.readInt raw with
    | .ok n    => .ok (some n)
    | .error _ => .error (.notAnInteger (names.headD "") raw)

/-- A number. -/
def float? (env : Environment) (names : List String) : Except SettingFault (Option Binary64) :=
  match env.text? names with
  | none     => .ok none
  | some raw =>
    match Decimal.readFloat raw with
    | some x => .ok (some x)
    | none   => .error (.notANumber (names.headD "") raw)

/-- The items of a comma list: trimmed, blank ones left out. -/
def items (raw : String) : List String :=
  ((Text.split ',' raw).map Text.trim).filter (!·.isEmpty)

/-- A comma list. -/
def list (env : Environment) (name default : String) : List String :=
  items (env.textOr [name] default)

end Environment
end FleetHealth
