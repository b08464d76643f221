import CloudFlags.Flags
import CloudFlags.Text.Blank
import CloudFlags.Text.Digits

/-! The settings of the operator, read by name from any source of texts. What is not set has a
default. The paths are read first, then the interval, then the switch, and last the paths are
compared; the first fault wins. -/

namespace CloudFlags

structure Settings where
  /-- The operand's namespace. -/
  space : String
  paths : FlagPaths
  /-- Seconds between passes that succeed. -/
  interval : Nat
  interval_pos : 0 < interval
  appliesFlowControl : Bool

namespace Settings

/-! ### Names and defaults -/

def spaceKey : String := "TARGET_NAMESPACE"

def namePathKey : String := "CLOUD_PROVIDER_NAME_PATH"

def configPathKey : String := "CLOUD_PROVIDER_CONFIG_PATH"

def intervalKey : String := "OBSERVE_INTERVAL_SECS"

def flowControlKey : String := "APPLY_FLOWCONTROL_MANIFESTS"

def defaultSpace : String := "openshift-kube-controller-manager"

def defaultNamePath : String := "extendedArguments.cloud-provider"

def defaultConfigPath : String := "extendedArguments.cloud-config"

def defaultInterval : Nat := 30

theorem defaultInterval_pos : 0 < defaultInterval := by decide

/-! ### Values -/

/-- The namespace given, unless it is blank. -/
def readSpace : Option String → String
  | some s => if (Text.trim s).isEmpty then defaultSpace else s
  | none => defaultSpace

/-- The first number that 64 bits do not hold. -/
def countBound : Nat := 0x10000000000000000

/-- A number of 64 bits: one or more decimal digits, after a plus sign or none. -/
def readCount? (cs : List Char) : Option Nat :=
  let ds := match cs with
    | '+' :: rest => rest
    | _ => cs
  let n := Text.digitsValue ds
  if ds ≠ [] ∧ ds.all Char.isDigit ∧ n < countBound then some n
  else none

/-- The interval given, which is not zero. -/
def readInterval : Option String → Except Error { n : Nat // 0 < n }
  | none => .ok ⟨defaultInterval, by decide⟩
  | some s =>
    match readCount? (Text.trimList s.toList) with
    | none => .error (.invalidSetting (intervalKey ++ " is not a number: " ++ Text.quote s))
    | some n =>
      if h : 0 < n then .ok ⟨n, h⟩
      else .error (.invalidSetting (intervalKey ++ " must be greater than zero"))

def readSwitch : Option String → Except Error Bool
  | none => .ok true
  | some "true" => .ok true
  | some "1" => .ok true
  | some "false" => .ok false
  | some "0" => .ok false
  | some other =>
    .error (.invalidSetting (flowControlKey ++ " must be true or false, got " ++ Text.quote other))

/-! ### All of them -/

/-- Reads the settings; the source gives the text under a name, if there is one. -/
def read (source : String → Option String) : Except Error Settings := do
  let name ← KeyPath.ofText ((source namePathKey).getD defaultNamePath)
  let config ← KeyPath.ofText ((source configPathKey).getD defaultConfigPath)
  let interval ← readInterval (source intervalKey)
  let appliesFlowControl ← readSwitch (source flowControlKey)
  let paths ← FlagPaths.ofPaths name config
  return { space := readSpace (source spaceKey), paths, interval := interval.val,
           interval_pos := interval.property, appliesFlowControl }

end Settings

end CloudFlags
