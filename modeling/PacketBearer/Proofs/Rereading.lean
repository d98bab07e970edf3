/-
Links, written out and negotiated again.

A link that a negotiation has come to can be written out, entry by entry, as the reply of a radio.
The negotiation of that reply comes to the same link: nothing in it is skipped, nothing is a
repetition, and no length has to be supplied.  Only a list that is empty is not what it was written
from, since an empty list means that the system is to be asked.

* `Link.Neat`, `neat_of_negotiate` — what every link has that a negotiation has come to;
* `LocalAddress.ofEntry_chars` — a written local address is read as that address;
* `readEntries_map` — a list of values that are read as they are written is kept as it is;
* `negotiate_restated` — the negotiation of a link that is written out.
-/
import PacketBearer.Proofs.Literal
import PacketBearer.Proofs.Scene

namespace PacketBearer

/-! ### Neat links -/

/-- A local address that names a host in a network: it is specified, and its length is not zero and
fits the family. -/
structure LocalAddress.Proper (a : LocalAddress) : Prop where
  specified : a.address.isUnspecified = false
  positive : a.length ≠ 0
  fits : a.length ≤ a.address.width

/-- Every entry of a link is of use, and none is repeated. -/
structure Link.Neat (link : Link) : Prop where
  addresses : link.addresses.Nodup ∧ ∀ a ∈ link.addresses, a.Proper
  dns : link.dns.Nodup ∧ ∀ server ∈ link.dns, server.isUnspecified = false
  routes : link.routes.Nodup ∧ ∀ gateway ∈ link.routes, gateway.isUnspecified = false
  proxy : link.proxy = none

theorem Address.width_ne_zero (address : Address) : address.width ≠ 0 := by
  cases address with
  | v4 => exact (by decide : (32 : UInt8) ≠ 0)
  | v6 => exact (by decide : (128 : UInt8) ≠ 0)

theorem LocalAddress.NamedBy.proper {entry : List Char} {a : LocalAddress}
    (named : NamedBy entry a) : a.Proper := by
  cases named with
  | alone _ _ specified | zero _ _ specified =>
    exact ⟨specified, Address.width_ne_zero _, UInt8.le_refl _⟩
  | within _ _ specified _ positive fits => exact ⟨specified, positive, fits⟩

section

variable {α : Type} {names : List Char → α → Prop} {entries : List (List Char)}

theorem Collects.named {values : List α} (h : Collects names entries values) {value : α}
    (mem : value ∈ values) : ∃ entry, names entry value := by
  induction h with
  | nil => cases mem
  | keep named _ ih =>
    rcases List.mem_cons.mp mem with rfl | hrest
    · exact ⟨_, named⟩
    · exact ih hrest
  | skip _ _ ih => exact ih mem

/-- What is gathered is named by some entry, and is gathered once. -/
theorem Gathers.named [BEq α] {kept : List α} (h : Gathers names entries kept) :
    kept.Nodup ∧ ∀ value ∈ kept, ∃ entry, names entry value := by
  obtain ⟨all, hcollects, hkept⟩ := h
  exact ⟨hkept.nodup, fun value hvalue => hcollects.named ((hkept.mem value).mp hvalue)⟩

end

variable {reply : SetupReply} {fallback : Fallback} {link : Link}

theorem SetupReply.Serves.specified {servers : List Address} (serves : reply.Serves fallback servers)
    (sound : Sound (reply.serverItems fallback)) :
    servers.Nodup ∧ ∀ server ∈ servers, server.isUnspecified = false := by
  by_cases hdns : reply.dns = []
  · cases hoffered : fallback.dns with
    | none =>
      -- where nobody offers a server, that is the offence
      rw [serverItems, if_neg (not_not.mpr hdns), if_pos hoffered] at sound
      exact absurd .noDns (sound .noServer List.mem_cons_self .noDns)
    | some offered =>
      have hfirst := serves.system hdns offered hoffered
      refine ⟨hfirst.nodup, fun server hserver => ?_⟩
      simpa using (List.mem_filter.mp ((hfirst.mem server).mp hserver)).2
  · obtain ⟨hnodup, hnamed⟩ := (serves.own hdns).named
    refine ⟨hnodup, fun server hserver => ?_⟩
    obtain ⟨entry, hentry⟩ := hnamed server hserver
    exact hentry.2

/-- What a negotiation has come to is neat. -/
theorem neat_of_negotiate (agreed : negotiate reply fallback = .ok link) : link.Neat := by
  have hnegotiates := reply.negotiates_negotiate fallback
  rw [agreed] at hnegotiates
  cases hnegotiates with
  | agreed given sound describes =>
    have hservers : Sound (reply.serverItems fallback) := fun item hitem =>
      sound item (List.mem_append_right _ (List.mem_append_left _ hitem))
    obtain ⟨haddresses, haddress⟩ := describes.addresses.named
    obtain ⟨hroutes, hroute⟩ := describes.routes.named
    refine ⟨⟨haddresses, fun a ha => ?_⟩, describes.dns.specified hservers,
      ⟨hroutes, fun gateway hgateway => ?_⟩, describes.proxy⟩
    · obtain ⟨entry, hentry⟩ := haddress a ha
      exact hentry.proper
    · obtain ⟨entry, hentry⟩ := hroute gateway hgateway
      exact hentry.2

/-! ### Written entries -/

/-- A text that is not empty, and has no blanks. -/
structure Text.Solid (cs : List Char) : Prop where
  filled : cs ≠ []
  unblank : ∀ c ∈ cs, Text.isBlank c = false

/-- There is nothing around a text without blanks. -/
theorem Text.Solid.wraps {cs : List Char} (h : Text.Solid cs) : Text.Wraps cs cs where
  around := ⟨[], [], (List.append_nil cs).symm, fun _ hc => absurd hc List.not_mem_nil,
    fun _ hc => absurd hc List.not_mem_nil⟩
  first c hc := h.unblank c (List.mem_of_mem_head? hc)
  last c hc := h.unblank c (List.mem_of_getLast? hc)

theorem Numeral.isBlank_hexDigits {c : Char} (mem : c ∈ hexDigits) : Text.isBlank c = false := by
  have hall : hexDigits.all (fun c => !Text.isBlank c) = true := rfl
  simpa using List.all_eq_true.mp hall c mem

theorem Numeral.solid_toDigits {base n : Nat} (hb : 1 < base) (hb' : base ≤ 16) :
    Text.Solid (Nat.toDigits base n) :=
  ⟨Nat.toDigits_ne_nil, fun _ hc => isBlank_hexDigits (mem_hexDigits hb hb' hc)⟩

/-- An octet is written as digits are. -/
theorem Numeral.writesByte_toDigits (n : UInt8) : WritesByte (Nat.toDigits 10 n.toNat) n :=
  ⟨_, Or.inl rfl, read?_ten.mp (read?_toDigits (by decide) (by decide) n.toNat)⟩

namespace Address

theorem solid_chars (a : Address) : Text.Solid a.chars := by
  refine ⟨fun hnil => ?_, fun c hc => ?_⟩
  · have hread := ofChars?_chars a
    rw [hnil] at hread
    cases hread
  · rcases mem_chars hc with rfl | rfl | hdigit
    · decide
    · decide
    · exact Numeral.isBlank_hexDigits hdigit

theorem slash_notMem_chars (a : Address) : '/' ∉ a.chars := by
  intro hslash
  rcases mem_chars hslash with h | h | hdigit
  · cases h
  · cases h
  · exact absurd hdigit (by decide)

@[simp] theorem toList_text (a : Address) : a.text.toList = a.chars := String.toList_ofList

/-- A written address is read as that address. -/
@[simp] theorem ofText?_text (a : Address) : ofText? a.text = some a := by
  rw [ofText?, toList_text, ofChars?_chars]

end Address

namespace LocalAddress

@[simp] theorem toList_text (a : LocalAddress) : a.text.toList = a.chars := String.toList_ofList

theorem solid_chars (a : LocalAddress) : Text.Solid a.chars := by
  refine ⟨List.append_ne_nil_of_left_ne_nil a.address.solid_chars.filled _, fun c hc => ?_⟩
  rcases List.mem_append.mp hc with haddress | hlength
  · exact a.address.solid_chars.unblank c haddress
  · rcases List.mem_cons.mp hlength with rfl | hdigit
    · decide
    · exact (Numeral.solid_toDigits (by decide) (by decide)).unblank c hdigit

/-- A written local address is read as that address: the first slash is the one before the
length. -/
theorem ofEntry_chars {a : LocalAddress} (proper : a.Proper) : ofEntry a.chars = .ok (some a) := by
  refine ofEntry_of_named (.within (.slash a.address.slash_notMem_chars)
    (Address.ofChars?_chars a.address) proper.specified ?_ proper.positive proper.fits)
  rw [Text.trim_eq_iff.mpr (Numeral.solid_toDigits (by decide) (by decide)).wraps]
  exact Numeral.writesByte_toDigits a.length

end LocalAddress

theorem Address.ofEntry_chars (kind : String → Rejection) {a : Address}
    (specified : a.isUnspecified = false) : ofEntry kind a.chars = .ok (some a) :=
  ofEntry_eq_some_iff.mpr ⟨ofChars?_chars a, specified⟩

/-! ### Written lists -/

section

variable {α : Type} {text : α → String} {values : List α}
  {read : List Char → Except Rejection (Option α)}

theorem usableEntries_map (solid : ∀ value ∈ values, Text.Solid (text value).toList) :
    usableEntries (values.map text) = values.map fun value => (text value).toList := by
  rw [usableEntries_eq_iff]
  induction values with
  | nil => exact .nil
  | cons value values ih =>
    have hvalue := solid value List.mem_cons_self
    exact .filled hvalue.wraps hvalue.filled
      (ih fun other hother => solid other (List.mem_cons_of_mem _ hother))

theorem readAll_map {write : α → List Char}
    (reads : ∀ value ∈ values, read (write value) = .ok (some value)) :
    readAll read (values.map write) = .ok values := by
  induction values with
  | nil => rfl
  | cons value values ih =>
    rw [List.map_cons, readAll, reads value List.mem_cons_self,
      ih fun other hother => reads other (List.mem_cons_of_mem _ hother)]
    rfl

theorem eraseDups_of_nodup [BEq α] [LawfulBEq α] (nodup : values.Nodup) :
    values.eraseDups = values := by
  induction values with
  | nil => rfl
  | cons value values ih =>
    obtain ⟨hnew, hrest⟩ := List.nodup_cons.mp nodup
    have hkept : values.filter (fun other => !other == value) = values :=
      List.filter_eq_self.mpr fun other hother => by
        have hne : other ≠ value := fun h => hnew (h ▸ hother)
        simpa using hne
    rw [List.eraseDups_cons, hkept, ih hrest]

/-- A list of values that are read as they are written is kept as it is. -/
theorem readEntries_map [BEq α] [LawfulBEq α] (nodup : values.Nodup)
    (solid : ∀ value ∈ values, Text.Solid (text value).toList)
    (reads : ∀ value ∈ values, read (text value).toList = .ok (some value)) :
    readEntries read (values.map text) = .ok values := by
  rw [readEntries, usableEntries_map solid, readAll_map reads]
  exact congrArg Except.ok (eraseDups_of_nodup nodup)

end

theorem readEntries_text {kind : String → Rejection} {addresses : List Address}
    (neat : addresses.Nodup ∧ ∀ a ∈ addresses, a.isUnspecified = false) :
    readEntries (Address.ofEntry kind) (addresses.map Address.text) = .ok addresses := by
  refine readEntries_map neat.1 (fun a _ => ?_) fun a ha => ?_
  · rw [Address.toList_text]
    exact a.solid_chars
  · rw [Address.toList_text]
    exact Address.ofEntry_chars kind (neat.2 a ha)

/-! ### Replies -/

/-- A reply has the entries of a link as they are written, on this interface.  What else it says
does not matter. -/
structure SetupReply.Restates (reply : SetupReply) (interface : String) (link : Link) : Prop where
  interface : reply.interface = interface
  addresses : reply.addresses = link.addresses.map LocalAddress.text
  dns : reply.dns = link.dns.map Address.text
  gateways : reply.gateways = link.routes.map Address.text

namespace Link.Neat

variable {again : SetupReply} {interface : String}

theorem localAddresses (neat : link.Neat) (restates : again.Restates interface link)
    (filled : link.addresses ≠ []) : again.localAddresses = .ok link.addresses := by
  have hne : link.addresses.map LocalAddress.text ≠ [] := by simpa using filled
  rw [SetupReply.localAddresses, restates.addresses, if_neg hne]
  refine readEntries_map neat.addresses.1 (fun a _ => ?_) fun a ha => ?_
  · rw [LocalAddress.toList_text]
    exact a.solid_chars
  · rw [LocalAddress.toList_text]
    exact LocalAddress.ofEntry_chars (neat.addresses.2 a ha)

theorem dnsServers (neat : link.Neat) (restates : again.Restates interface link)
    (filled : link.dns ≠ []) : again.dnsServers fallback = .ok link.dns := by
  have hne : link.dns.map Address.text ≠ [] := by simpa using filled
  rw [SetupReply.dnsServers, restates.dns, if_pos hne]
  exact readEntries_text neat.dns

theorem gateways (neat : link.Neat) (restates : again.Restates interface link)
    (routed : link.routes ≠ [] ∨ fallback.gateways = []) :
    again.routes fallback = .ok link.routes := by
  rw [SetupReply.routes, restates.gateways]
  by_cases hnone : link.routes = []
  · -- an empty list leaves the question to the system, which has none either
    rw [hnone, List.map_nil, if_pos rfl, routed.resolve_left fun hroutes => hroutes hnone]
    rfl
  · have hne : link.routes.map Address.text ≠ [] := by simpa using hnone
    rw [if_neg hne]
    exact readEntries_text neat.routes

theorem negotiate (neat : link.Neat) (restates : again.Restates interface link)
    (on : link.interface = some interface) (addressed : link.addresses ≠ [])
    (served : link.dns ≠ []) (routed : link.routes ≠ [] ∨ fallback.gateways = []) :
    PacketBearer.negotiate again fallback = .ok link := by
  rw [PacketBearer.negotiate, neat.localAddresses restates addressed,
    neat.dnsServers restates served, neat.gateways restates routed]
  have hproxy := neat.proxy
  obtain ⟨interface', addresses, dns, routes, proxy⟩ := link
  cases on
  cases hproxy
  rw [restates.interface]
  rfl

end Link.Neat

theorem interface_of_negotiate (agreed : negotiate reply fallback = .ok link) :
    link.interface = some reply.interface := by
  have hnegotiates := reply.negotiates_negotiate fallback
  rw [agreed] at hnegotiates
  cases hnegotiates with
  | agreed given sound describes => exact describes.interface

/-- Every local address of a link that a negotiation has come to is read as it is written, and so is
every address there is.  If the link has an address and a name server, and a route or else the
system none to offer, then the negotiation of the link as it is written comes to the link again. -/
theorem negotiate_restated (reply : SetupReply) (fallback : Fallback) (link : Link)
    (agreed : negotiate reply fallback = .ok link) :
    (∀ a ∈ link.addresses, LocalAddress.ofEntry a.text.toList = .ok (some a)) ∧
      (∀ address : Address, Address.ofText? address.text = some address) ∧
      (link.addresses ≠ [] → link.dns ≠ [] → (link.routes ≠ [] ∨ fallback.gateways = []) →
        ∀ again : SetupReply, again.Restates reply.interface link →
          negotiate again fallback = .ok link) := by
  have hneat := neat_of_negotiate agreed
  refine ⟨fun a ha => ?_, Address.ofText?_text, ?_⟩
  · rw [LocalAddress.toList_text]
    exact LocalAddress.ofEntry_chars (hneat.addresses.2 a ha)
  · intro addressed served routed again restates
    exact hneat.negotiate restates (interface_of_negotiate agreed) addressed served routed

/-- A reply with blanks, repetitions, an unspecified address and lengths left out. -/
def untidyReply : SetupReply :=
  { plainReply with
    addresses := [" 2001:DB8:0:0:1:0:0:1/ +064", "10.0.0.1", "::", "10.0.0.1/32",
      "0:0:0:0:0:FFFF:a00:2/0"]
    dns := ["FE80:0::1", " ", "8.8.8.8"]
    gateways := [] }

/-- What its link is written as is not what the reply said, but comes to the same link. -/
theorem negotiate_restated_untidy :
    let link : Link :=
      { interface := some "rmnet0"
        addresses := [⟨.v6 ⟨[0x2001, 0xDB8, 0, 0, 1, 0, 0, 1], rfl⟩, 64⟩, ⟨.v4 ⟨10, 0, 0, 1⟩, 32⟩,
          ⟨.v6 ⟨[0, 0, 0, 0, 0, 0xFFFF, 0x0A00, 2], rfl⟩, 128⟩]
        dns := [.v6 ⟨[0xFE80, 0, 0, 0, 0, 0, 0, 1], rfl⟩, .v4 ⟨8, 8, 8, 8⟩] }
    let again : SetupReply :=
      { plainReply with
        addresses := ["2001:db8::1:0:0:1/64", "10.0.0.1/32", "::ffff:10.0.0.2/128"]
        dns := ["fe80::1", "8.8.8.8"]
        gateways := [] }
    negotiate untidyReply {} = .ok link ∧ again.Restates "rmnet0" link ∧
      negotiate again {} = .ok link := by
  intro link again
  have hagreed : negotiate untidyReply {} = .ok link := rfl
  have hrestates : again.Restates "rmnet0" link := ⟨rfl, rfl, rfl, rfl⟩
  exact ⟨hagreed, hrestates, (negotiate_restated untidyReply {} link hagreed).2.2 (by simp [link])
    (by simp [link]) (Or.inr rfl) again hrestates⟩

end PacketBearer
