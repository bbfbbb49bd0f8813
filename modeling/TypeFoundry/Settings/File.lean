import TypeFoundry.Settings
import TypeFoundry.World

/-!
# Settings from a file

The file is read from the disk, and its settings are checked.
-/

set_option autoImplicit false

namespace TypeFoundry.Settings

/-- The settings in the file, with defaults for what it leaves out. -/
def ofFile (toolchain path : String) : Action Settings := do
  let text ← Action.atPath path (← Action.readFile path)
  match ofToml? toolchain text with
  | none => Action.fail (.settings (.unreadable path))
  | some s => do
    Action.ofExcept s.check
    return s

end TypeFoundry.Settings
