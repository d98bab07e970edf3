/-
Intercepted set-ups.

Before the command to set up a bearer goes to the radio, an interceptor may answer it in the
radio's place.  An interceptor is a state that each command updates: what it decides depends on
nothing but the commands it has seen.  `FailureCountdown` makes a number of set-ups fail;
`Option` adds the interceptor that never intercepts.
-/
import PacketBearer.Radio.Order
import PacketBearer.Radio.Reply

namespace PacketBearer

/-- Something that may answer a set-up in the radio's place, given the order and the version of
the radio. -/
class Interceptor (ι : Type) where
  intercept : SetupOrder → Int32 → ι → Option SetupReply × ι

/-- Lets every set-up pass. -/
instance : Interceptor Unit where
  intercept _ _ u := (none, u)

/-- No interceptor lets every set-up pass. -/
instance {ι : Type} [Interceptor ι] : Interceptor (Option ι) where
  intercept order version
    | none => (none, none)
    | some i =>
      let (reply, i) := Interceptor.intercept order version i
      (reply, some i)

/-- Makes the next set-ups fail. -/
structure FailureCountdown where
  /-- How many set-ups are still to fail. -/
  remaining : UInt32 := 0
  cause : Cause := .errorUnspecified
  /-- The suggestion when to try again, in milliseconds, negative for none. -/
  suggestedRetry : Int32 := -1
  deriving DecidableEq, Repr

namespace FailureCountdown

/-- Fails a set-up, if there are any left to fail. -/
def intercept (version : Int32) (c : FailureCountdown) : Option SetupReply × FailureCountdown :=
  if c.remaining = 0 then (none, c)
  else
    (some (SetupReply.failure version c.cause c.suggestedRetry),
      { c with remaining := c.remaining - 1 })

instance : Interceptor FailureCountdown where
  intercept _ := intercept

end FailureCountdown

end PacketBearer
