import CloudFlags.KeyPath

/-! The two flags of an operand and where they stand in its configuration tree. A flag is written as
a list with one text. `FlagPaths` holds two paths of which neither begins the other, which is what
writing one flag without losing the other needs. `restrict` copies what stands at the two paths of
any tree and nothing else. -/

namespace CloudFlags

/-- What an operand is told of the cloud it runs in. -/
structure Flags where
  providerName : Option String := none
  configFile : Option String := none
  deriving DecidableEq, Repr

namespace Flags

/-- Writes a flag that is set. -/
def writeOne (path : KeyPath) (flag : Option String) (tree : Json) : Except Error Json :=
  match flag with
  | some value => path.set (Json.single value) tree
  | none => .ok tree

/-- The tree that holds the flags that are set, and nothing else. -/
def write (name config : KeyPath) (flags : Flags) : Except Error Json := do
  writeOne config flags.configFile (← writeOne name flags.providerName Json.empty)

/-- A flag that can be read, or the error. -/
def readOne (path : KeyPath) (tree : Json) : Option String × List Error :=
  match path.readSingle tree with
  | .ok flag => (flag, [])
  | .error e => (none, [e])

/-- The flags in a tree. One that cannot be read counts as not set and is reported. -/
def read (name config : KeyPath) (tree : Json) : Flags × List Error :=
  let (providerName, nameErrors) := readOne name tree
  let (configFile, configErrors) := readOne config tree
  (⟨providerName, configFile⟩, nameErrors ++ configErrors)

end Flags

/-- Where the two flags stand: paths of which neither begins the other. -/
structure FlagPaths where
  name : KeyPath
  config : KeyPath
  apart : name.isPrefixOf config = false ∧ config.isPrefixOf name = false
  deriving DecidableEq

namespace FlagPaths

def ofPaths (name config : KeyPath) : Except Error FlagPaths :=
  if h : name.isPrefixOf config = false ∧ config.isPrefixOf name = false then
    .ok ⟨name, config, h⟩
  else .error (.invalidKeyPath (name.text ++ " overlaps " ++ config.text))

def write (paths : FlagPaths) (flags : Flags) : Except Error Json :=
  flags.write paths.name paths.config

def read (paths : FlagPaths) (tree : Json) : Flags × List Error :=
  Flags.read paths.name paths.config tree

/-- Copies the value at a path, if there is one. -/
def copyAt (path : KeyPath) (source target : Json) : Json :=
  match path.get? source with
  | none => target
  | some value => (path.write value target).1

/-- The tree that holds what stands at the two paths. -/
def restrict (paths : FlagPaths) (tree : Json) : Json :=
  copyAt paths.config tree (copyAt paths.name tree Json.empty)

end FlagPaths

end CloudFlags
