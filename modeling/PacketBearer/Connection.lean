/-
The connection record of a bearer.

Four of its fields outlive a connection: the generation, the capabilities, the version of the
radio and the owner's intent to reconnect.  The others are wiped whenever the bearer becomes
idle.  When the bearer works no longer, the capabilities and the intent go as well.
-/
import PacketBearer.AccessPoint
import PacketBearer.Link.Capabilities
import PacketBearer.Link.Snapshot
import PacketBearer.Roster

namespace PacketBearer

/-- What a bearer remembers. -/
structure Connection where
  /-- Counts how often the bearer has become idle. -/
  generation : UInt64 := 0
  /-- The radio's number of the bearer, negative if there is none. -/
  bearerId : Int32 := -1
  accessPoint : Option AccessPoint := none
  link : Link := {}
  capabilities : Capabilities := {}
  clients : Roster := ∅
  /-- The version of the radio, negative if it is not known. -/
  radioVersion : Int32 := -1
  /-- What the owner wants done to reconnect. -/
  reconnectIntent : Option String := none
  deriving DecidableEq, Repr

/-- The record without anything that belongs to a single connection. -/
def Connection.wiped (c : Connection) : Connection where
  generation := c.generation
  capabilities := c.capabilities
  radioVersion := c.radioVersion
  reconnectIntent := c.reconnectIntent

/-- The record without anything that belongs to the bearer or its owner. -/
def Connection.released (c : Connection) : Connection :=
  { c.wiped with capabilities := {}, reconnectIntent := none }

end PacketBearer
