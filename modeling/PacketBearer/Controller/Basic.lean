/-
The controller of a bearer: phase, record and mail.

`handle` lets one piece of mail take its effect.  Mail that has to wait is put aside; a change of
phase brings all of it back to the front of the mailbox, in the order in which it came.  A
controller that halts drops everything it holds.
-/
import PacketBearer.Controller.Reaction

namespace PacketBearer

/-- A bearer's own state, with an interceptor of set-ups. -/
structure Controller (ι : Type) where
  phase : Phase := .idle
  connection : Connection
  interceptor : ι
  /-- The mail to handle, the first piece first. -/
  mailbox : List Mail := []
  /-- The mail that waits for another phase, in the order in which it came. -/
  deferred : List Mail := []
  /-- The commands for the radio, in the order in which they were issued. -/
  outbox : List Command := []
  halt : Option Halt := none

namespace Controller

variable {ι : Type}

/-- A controller at the start of its first idle phase. -/
def start (interceptor : ι) : Controller ι where
  connection := { generation := 1 }
  interceptor

/-- The controller works no longer. -/
def isHalted (m : Controller ι) : Bool := m.halt.isSome

/-- Puts a piece of mail at the end of the mailbox. -/
def post (m : Controller ι) (mail : Mail) : Controller ι :=
  { m with mailbox := m.mailbox ++ [mail] }

/-- The requests that a controller holds. -/
def requests (m : Controller ι) : List ClientRequest :=
  (m.mailbox ++ m.deferred).filterMap Mail.request? ++ m.outbox.map Command.request

/-- A controller that has halted holds nothing, and its record is released. -/
def halted (m : Controller ι) (halt : Halt) : Controller ι where
  phase := m.phase
  connection := m.connection.released
  interceptor := m.interceptor
  halt := some halt

/-- Takes over what a piece of mail brought about, short of a change of phase. -/
def absorb (m : Controller ι) (mail : Mail) (r : Reaction ι) : Controller ι :=
  { m with
    connection := r.connection
    interceptor := r.interceptor
    mailbox := m.mailbox ++ r.posts
    deferred := m.deferred ++ if r.waits then [mail] else []
    outbox := m.outbox ++ r.commands }

/-- Changes the phase. -/
def move (s : Setting) (m : Controller ι) (target : Phase) (arrival : Arrival) :
    Controller ι × List Event :=
  let (connection, events) := m.connection.enter s target arrival
  -- What was put aside came before what is still in the mailbox.
  ({ m with phase := target, connection, mailbox := m.deferred ++ m.mailbox, deferred := [] },
    .moved m.phase target :: events)

/-- Lets a piece of mail take its effect. -/
def handle [Interceptor ι] (s : Setting) (m : Controller ι) (mail : Mail) :
    Controller ι × List Event :=
  let r := react s m.phase m.connection m.interceptor mail
  match r.halt, r.next with
  | some halt, _ => (m.halted halt, r.events ++ m.requests.map Event.dropped)
  | none, none => (m.absorb mail r, r.events)
  | none, some (target, arrival) =>
    let (m, events) := (m.absorb mail r).move s target arrival
    (m, r.events ++ events)

end Controller

end PacketBearer
