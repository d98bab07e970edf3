/-
The owner's bookkeeping of repeated attempts.

It stands beside the bearer: no request or answer of the radio touches it, and it works on after
the bearer has stopped.  There is a policy that never redials, and one that counts attempts.
-/
namespace PacketBearer

/-- How attempts are repeated. -/
inductive RedialPolicy where
  | never
  /-- Counts attempts; `forever` keeps the last delay for good. -/
  | counting (count : UInt32) (forever : Bool)
  deriving DecidableEq, Repr

/-- A question or an instruction about repeated attempts.  Times are in milliseconds. -/
inductive RedialCall where
  | count
  | setCount (count : UInt32)
  | delay
  | increase
  | isNeeded
  | reset
  | repeatForever
  | isForever
  | configure (limit : UInt32) (delay randomization : Nat)
  | configureFrom (settings : String)
  deriving DecidableEq, Repr

/-- The answer to a call. -/
inductive RedialAnswer where
  | done
  | count (count : UInt32)
  | delay (milliseconds : Nat)
  | flag (value : Bool)
  deriving DecidableEq, Repr

namespace RedialPolicy

/-- A second of delay for every attempt so far. -/
def delayFor (count : UInt32) : Nat := 1000 * count.toNat

/-- One more attempt; the count stays at the greatest number of 32 bits. -/
def successor (count : UInt32) : UInt32 := if count = 0xFFFFFFFF then count else count + 1

/-- A policy that never redials has nothing to count and nothing to configure. -/
def callNever : RedialCall → RedialAnswer
  | .count => .count 0
  | .delay => .delay 0
  | .setCount _ | .increase | .reset | .repeatForever => .done
  | .isNeeded | .isForever | .configure _ _ _ | .configureFrom _ => .flag false

/-- Three attempts are worth repeating.  A configuration is accepted if it allows any attempt and
does not randomize by more than the delay, a text if it begins with the limit. -/
def callCounting (count : UInt32) (forever : Bool) : RedialCall → RedialAnswer × RedialPolicy
  | .count => (.count count, counting count forever)
  | .setCount n => (.done, counting n forever)
  | .delay => (.delay (delayFor count), counting count forever)
  | .increase => (.done, counting (successor count) forever)
  | .isNeeded => (.flag (count < 3), counting count forever)
  | .reset => (.done, counting 0 false)
  | .repeatForever => (.done, counting count true)
  | .isForever => (.flag forever, counting count forever)
  | .configure limit delay randomization =>
    (.flag (0 < limit && randomization ≤ delay), counting count forever)
  | .configureFrom settings =>
    (.flag ("max_retries=".toList.isPrefixOf settings.toList), counting count forever)

/-- The answer to a call, and the policy after it. -/
def call : RedialPolicy → RedialCall → RedialAnswer × RedialPolicy
  | never, c => (callNever c, never)
  | counting count forever, c => callCounting count forever c

end RedialPolicy

end PacketBearer
