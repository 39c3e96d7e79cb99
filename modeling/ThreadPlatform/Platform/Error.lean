import ThreadPlatform.Device.Table
import ThreadPlatform.Config.Platform

/-!
# Bring-up errors

`BringUpError` is why the platform could not come up: a bad configuration, the descriptor table, a UART
driver, or the flash partition.
-/

namespace ThreadPlatform

/-- Why the platform could not come up. -/
inductive BringUpError where
  | config (e : ConfigError)
  | table (e : TableError)
  | uart (port : Nat) (e : DeviceError)
  | partitionNotFound (label : String)
  | partitionTooSmall (label : String) (size required : Nat)
  deriving DecidableEq, Repr

namespace BringUpError

/-- The name of the failure; table failures carry theirs after `Vfs:`. -/
def kind : BringUpError → String
  | .config _ => "Config"
  | .table e => "Vfs:" ++ e.kind
  | .uart _ _ => "Uart"
  | .partitionNotFound _ => "PartitionNotFound"
  | .partitionTooSmall _ _ _ => "PartitionTooSmall"

/-- The message of the failure. -/
def message : BringUpError → String
  | .config e => s!"invalid configuration: {e.message}"
  | .table e => s!"descriptor table: {e.message}"
  | .uart port e => s!"UART{port} driver: {e.message}"
  | .partitionNotFound label => s!"flash partition '{label}' not found"
  | .partitionTooSmall label size required =>
    s!"flash partition '{label}' holds {size} bytes, {required} required"

end BringUpError

end ThreadPlatform
