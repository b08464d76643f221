/-! Log lines: a level and a text. -/

namespace CloudFlags

inductive Level where
  | debug
  | info
  | warn
  | error
  deriving DecidableEq, Repr

def Level.name : Level → String
  | .debug => "DEBUG"
  | .info => "INFO"
  | .warn => "WARN"
  | .error => "ERROR"

structure LogLine where
  level : Level
  text : String
  deriving DecidableEq, Repr

def LogLine.render (line : LogLine) : String := line.level.name ++ " " ++ line.text

end CloudFlags
