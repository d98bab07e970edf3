/-
The phases of a bearer.

A bearer is idle, is being set up, is up, is being released, or is being released because its
set-up brought unusable parameters.  Every phase can fall back to idle.
-/
namespace PacketBearer

/-- Where a bearer stands. -/
inductive Phase where
  /-- No bearer exists. -/
  | idle
  /-- The radio has been told to set up a bearer. -/
  | settingUp
  /-- The bearer is up, and shared by its clients. -/
  | up
  /-- The radio has been told to release the bearer. -/
  | releasing
  /-- The radio has been told to release a bearer with unusable parameters. -/
  | cleaningUp
  deriving DecidableEq, Repr

namespace Phase

/-- The name under which a phase is reported. -/
def name : Phase → String
  | idle => "Inactive"
  | settingUp => "Activating"
  | up => "Active"
  | releasing => "Disconnecting"
  | cleaningUp => "DisconnectingSetupError"

/-- May the second phase follow the first? -/
def leadsTo : Phase → Phase → Bool
  | _, idle => true
  | idle, settingUp => true
  | settingUp, up => true
  | settingUp, cleaningUp => true
  | up, releasing => true
  | _, _ => false

end Phase

end PacketBearer
