/-
Negotiation of a link.

`negotiate` turns the radio's reply to a set-up into a link, or says what in it is unusable.
The reply's lists are read entry by entry: blanks around an entry do not count, blank entries
and unspecified addresses are skipped, and of equal values the first one is kept.  The first
unusable entry, in the order addresses, name servers, gateways, decides the rejection.

* `LocalAddress.ofEntry` reads an entry of the address list: an address, and perhaps a slash and
  a length.  A missing length, or zero, means a host address;
* `usableEntries` is what is read of a list: `usableEntries_eq_iff` says which texts, and in which
  order;
* `readEntries` reads a list with a reader for one entry;
* an empty list of name servers or gateways falls back on what the system offers; no name
  servers there either is a rejection of its own.
-/
import PacketBearer.Link.Snapshot
import PacketBearer.Radio.Reply
import PacketBearer.Text.Quoted

namespace PacketBearer

/-- Why a reply cannot be turned into a link. -/
inductive Rejection where
  /-- The reply has no address at all. -/
  | noAddresses (interface : String)
  | badAddress (entry : String)
  /-- The length is no number, or too great for the family. -/
  | badLength (entry : String)
  | badDns (entry : String)
  /-- Neither the reply nor the system offers a name server. -/
  | noDns
  | badGateway (entry : String)
  deriving DecidableEq, Repr

namespace Rejection

/-- The text that a rejection is about. -/
def subject? : Rejection → Option String
  | noAddresses s | badAddress s | badLength s | badDns s | badGateway s => some s
  | noDns => none

/-- The wording of a rejection. -/
def message : Rejection → String
  | noAddresses interface => "no address for interface " ++ Text.quote interface
  | badAddress entry => "non-numeric ip address " ++ Text.quote entry
  | badLength entry => "bad prefix length in " ++ Text.quote entry
  | badDns entry => "non-numeric dns address " ++ Text.quote entry
  | noDns => "empty dns response and no usable system dns"
  | badGateway entry => "non-numeric gateway address " ++ Text.quote entry

end Rejection

/-- What the system offers where the radio's reply is silent. -/
structure Fallback where
  /-- The system's name servers; none if they will not do. -/
  dns : Option (List Address) := none
  /-- The system's gateways, in written form. -/
  gateways : List String := []
  deriving DecidableEq, Repr

/-! ### Entries -/

/-- Cuts a text at its first slash. -/
def cutSlash : List Char → List Char × Option (List Char)
  | [] => ([], none)
  | c :: cs =>
    if c = '/' then ([], some cs)
    else let (before, after) := cutSlash cs; (c :: before, after)

/-- The local address with the length that is written behind the slash, if there is one. -/
def LocalAddress.withWrittenLength? (address : Address) :
    Option (List Char) → Option LocalAddress
  | none => some (host address)
  | some digits => do
    let length ← Numeral.readByte? (Text.trim digits)
    if length = 0 then some (host address) else ofLength? address length

/-- Reads an entry of the address list; none if the address is unspecified, whatever its
length. -/
def LocalAddress.ofEntry (entry : List Char) : Except Rejection (Option LocalAddress) :=
  match Address.ofChars? (cutSlash entry).1 with
  | none => .error (.badAddress (String.ofList entry))
  | some address =>
    -- Even an unusable length does no harm behind an unspecified address.
    if address.isUnspecified then .ok none
    else match withWrittenLength? address (cutSlash entry).2 with
      | none => .error (.badLength (String.ofList entry))
      | some a => .ok (some a)

/-- Reads an entry that is an address; none if the address is unspecified. -/
def Address.ofEntry (rejection : String → Rejection) (entry : List Char) :
    Except Rejection (Option Address) :=
  match ofChars? entry with
  | none => .error (rejection (String.ofList entry))
  | some address => .ok (if address.isUnspecified then none else some address)

/-- The entries of a list without the blanks around them, and without the blank ones. -/
def usableEntries (entries : List String) : List (List Char) :=
  (entries.map fun e => Text.trim e.toList).filter (· ≠ [])

/-- Texts, and what is usable of them in order: the core of each that is not blank. -/
inductive Cores : List String → List (List Char) → Prop
  | nil : Cores [] []
  | blank {text : String} {texts : List String} {cores : List (List Char)}
    (wraps : Text.Wraps text.toList []) (rest : Cores texts cores) : Cores (text :: texts) cores
  | filled {text : String} {core : List Char} {texts : List String} {cores : List (List Char)}
    (wraps : Text.Wraps text.toList core) (filled : core ≠ []) (rest : Cores texts cores) :
    Cores (text :: texts) (core :: cores)

theorem usableEntries_cons (entry : String) (entries : List String) :
    usableEntries (entry :: entries) =
      if Text.trim entry.toList = [] then usableEntries entries
      else Text.trim entry.toList :: usableEntries entries := by
  rw [usableEntries, List.map_cons, List.filter_cons]
  by_cases h : Text.trim entry.toList = []
  · rw [if_pos h, if_neg (by simp [h])]
    rfl
  · rw [if_neg h, if_pos (by simp [h])]
    rfl

theorem usableEntries_eq_iff {entries : List String} {cores : List (List Char)} :
    usableEntries entries = cores ↔ Cores entries cores := by
  constructor
  · rintro rfl
    induction entries with
    | nil => exact .nil
    | cons entry entries ih =>
      rw [usableEntries_cons]
      split
      · next h => exact .blank (Text.trim_eq_iff.mp h) ih
      · next h => exact .filled (Text.wraps_trim _) h ih
  · intro h
    induction h with
    | nil => rfl
    | blank wraps _ ih => rw [usableEntries_cons, if_pos (Text.trim_eq_iff.mpr wraps), ih]
    | filled wraps filled _ ih =>
      rw [usableEntries_cons, Text.trim_eq_iff.mpr wraps, if_neg filled, ih]

/-- Reads entries one after the other and keeps what they give. -/
def readAll {α : Type} (read : List Char → Except Rejection (Option α)) :
    List (List Char) → Except Rejection (List α)
  | [] => .ok []
  | entry :: entries => do
    let value ← read entry
    let values ← readAll read entries
    return value.toList ++ values

/-- Reads the usable entries of a list, each value once. -/
def readEntries {α : Type} [BEq α] (read : List Char → Except Rejection (Option α))
    (entries : List String) : Except Rejection (List α) := do
  let values ← readAll read (usableEntries entries)
  return values.eraseDups

/-! ### The reply as a whole -/

/-- The local addresses of a reply. -/
def SetupReply.localAddresses (reply : SetupReply) : Except Rejection (List LocalAddress) :=
  if reply.addresses = [] then .error (.noAddresses reply.interface)
  else readEntries LocalAddress.ofEntry reply.addresses

/-- The name servers of a reply, or else those of the system. -/
def SetupReply.dnsServers (reply : SetupReply) (fallback : Fallback) :
    Except Rejection (List Address) :=
  if reply.dns ≠ [] then readEntries (Address.ofEntry .badDns) reply.dns
  else match fallback.dns with
    | some servers => .ok (servers.filter (!·.isUnspecified)).eraseDups
    | none => .error .noDns

/-- The gateways of a reply, or else those of the system. -/
def SetupReply.routes (reply : SetupReply) (fallback : Fallback) :
    Except Rejection (List Address) :=
  readEntries (Address.ofEntry .badGateway)
    (if reply.gateways = [] then fallback.gateways else reply.gateways)

/-- The link that a reply describes, without a proxy. -/
def negotiate (reply : SetupReply) (fallback : Fallback) : Except Rejection Link := do
  let addresses ← reply.localAddresses
  let dns ← reply.dnsServers fallback
  let routes ← reply.routes fallback
  return { interface := some reply.interface, addresses, dns, routes }

end PacketBearer
