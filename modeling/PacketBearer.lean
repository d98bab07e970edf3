import PacketBearer.Session.Run
import PacketBearer.Proofs.Scene
import PacketBearer.Proofs.Rule
import PacketBearer.Proofs.Tally
import PacketBearer.Proofs.InFlight
import PacketBearer.Proofs.Success
import PacketBearer.Proofs.Custody
import PacketBearer.Proofs.Delivery
import PacketBearer.Proofs.Serial
import PacketBearer.Proofs.Agenda
import PacketBearer.Proofs.Tidy
import PacketBearer.Proofs.Interleaving
import PacketBearer.Proofs.Embedding
import PacketBearer.Proofs.Lateness
import PacketBearer.Proofs.Precedence
import PacketBearer.Proofs.Record
import PacketBearer.Proofs.Course
import PacketBearer.Proofs.Tenure
import PacketBearer.Proofs.Membership
import PacketBearer.Proofs.Endurance
import PacketBearer.Proofs.Talk
import PacketBearer.Proofs.Promptness
import PacketBearer.Proofs.Attempt
import PacketBearer.Proofs.Outcome
import PacketBearer.Proofs.Omission
import PacketBearer.Proofs.Renumbering
import PacketBearer.Proofs.Renewal
import PacketBearer.Proofs.Losses
import PacketBearer.Proofs.Leftover
import PacketBearer.Proofs.Usability
import PacketBearer.Proofs.Attention
import PacketBearer.Proofs.Quiescence
import PacketBearer.Proofs.Countdown
import PacketBearer.Proofs.Inbox
import PacketBearer.Proofs.Scrutiny
import PacketBearer.Proofs.Seniority
import PacketBearer.Proofs.Propriety
import PacketBearer.Proofs.Literal
import PacketBearer.Proofs.Rereading
import PacketBearer.Proofs.Parity
import PacketBearer.Proofs.Service
import PacketBearer.Proofs.Shutdown
