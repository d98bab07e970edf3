/-
What the owner of a bearer can be told instead of a result.
-/
import PacketBearer.Radio.Reply

namespace PacketBearer

/-- Why a handle gives no result. -/
inductive HandleError where
  /-- The bearer no longer takes mail. -/
  | closed
  /-- The bearer took the mail, and stopped before it answered. -/
  | unanswered
  /-- The radio did not carry out a command. -/
  | radio (error : RadioError)
  deriving DecidableEq, Repr

/-- The wording of an error. -/
def HandleError.message : HandleError → String
  | closed => "Bearer actor mailbox is closed"
  | unanswered => "Bearer actor dropped the response"
  | radio error => "Radio command failed: " ++ error.message

end PacketBearer
