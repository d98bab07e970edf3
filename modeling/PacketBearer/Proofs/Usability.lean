/-
What an accepted link is good for.

The check of a reply looks at its lists as they come, and at the system's name servers; blank entries
and unspecified addresses are skipped only later.  So a reply whose lists name an address and a name
server makes a link that has both, and a reply without name servers falls back on the system's,
unless all of these are unspecified and the access point needs one.  A system that offers no name
server at all passes the check.

* `mem_of_readEntries` — an entry that is an address of its own is kept;
* `CellularAccess.acceptsDns_iff` — when the system's name servers will do;
* `Makes.server_of_silent`, `refused_of_blank` — what becomes of a reply without name servers;
* `Scene.judges_of_replies` — what becomes of a reply, by its lists;
* `Scene.cleaned_up` — a bring-up whose parameters are unusable fails for that reason;
* `accepted_link_usable` — both, for the cellular technology;
* `accepted_unusable` — an accepted link without a name server, and one without an address.
-/
import PacketBearer.Proofs.Agreement
import PacketBearer.Proofs.Release

namespace PacketBearer

/-- Some entry of the address list is an address other than the unspecified one, whatever the
length behind it. -/
def SetupReply.NamesAddress (reply : SetupReply) : Prop :=
  ∃ entry ∈ reply.addresses, ∃ address,
    Address.ofChars? (cutSlash (Text.trim entry.toList)).1 = some address ∧
      address.isUnspecified = false

/-- Some entry of the list of name servers is an address other than the unspecified one. -/
def SetupReply.NamesServer (reply : SetupReply) : Prop :=
  ∃ entry ∈ reply.dns, ∃ address,
    Address.ofChars? (Text.trim entry.toList) = some address ∧ address.isUnspecified = false

namespace CellularAccess

/-- The access point does without name servers, or nobody asks. -/
def Exempts (c : CellularAccess) (ap : AccessPoint) : Prop :=
  c.dnsCheckDisabled = true ∨ ap.worksWithoutDns = true

/-- The system offers name servers, but none that can be used. -/
def OffersNoServer (c : CellularAccess) : Prop :=
  c.systemDns ≠ [] ∧ ∀ server ∈ c.systemDns, server.isUnspecified = true

end CellularAccess

namespace Scene

variable {ι : Type} [Interceptor ι]

/-- What becomes at an act of a reply to an attempt for a request, with an access point on
record. -/
structure Judges (w : Scene ι) (act : Act ι) (c : CellularAccess) (ap : AccessPoint)
    (request : BringUp) (reply : SetupReply) : Prop where
  -- the link of a reply is taken over as it is, and the bearer is up
  accepts : ∀ link, w.Makes reply link → (w.step act).1.controller.phase = .up ∧
    (w.step act).1.controller.connection.link =
      link.withProxy w.controller.connection.link.proxy
  address : ∀ link, w.Makes reply link → reply.NamesAddress → link.addresses ≠ []
  server : ∀ link, w.Makes reply link → reply.NamesServer → link.dns ≠ []
  fallback : ∀ link, w.Makes reply link → reply.dns = [] → c.systemDns ≠ [] →
    ¬ c.Exempts ap → link.dns ≠ []
  noAddresses : reply.addresses = [] →
    negotiate reply (w.setting.fallback w.controller.connection reply.interface) =
      .error (.noAddresses reply.interface)
  -- the address list is looked at first
  noDns : reply.dns = [] → c.OffersNoServer → ¬ c.Exempts ap →
    ∃ rejection,
      negotiate reply (w.setting.fallback w.controller.connection reply.interface) =
        .error rejection ∧ (rejection = .noDns ∨ reply.localAddresses = .error rejection)
  -- what makes no link is released again
  rejects : (∀ link, ¬ w.Makes reply link) → (w.step act).1.controller.phase = .cleaningUp ∧
    (w.step act).1.controller.outbox =
      w.controller.outbox ++ [.release reply.bearerId .unspecified (.cleanUp request)]

end Scene

/-! ### Lists of entries -/

section

variable {α : Type} {read : List Char → Except Rejection (Option α)}

/-- What is read from an entry is among what is read from all of them. -/
theorem mem_of_readAll {entries : List (List Char)} {values : List α}
    (h : readAll read entries = .ok values) {entry : List Char} (mem : entry ∈ entries) :
    ∃ value, read entry = .ok value ∧ ∀ v, value = some v → v ∈ values := by
  induction entries generalizing values with
  | nil => cases mem
  | cons first entries ih =>
    rw [readAll] at h
    cases hfirst : read first with
    | error rejection =>
      rw [hfirst] at h
      cases h
    | ok value =>
      cases hrest : readAll read entries with
      | error rejection =>
        rw [hfirst, hrest] at h
        cases h
      | ok rest =>
        rw [hfirst, hrest] at h
        cases h
        rcases List.mem_cons.mp mem with rfl | hmem
        · refine ⟨value, hfirst, ?_⟩
          rintro v rfl
          exact List.mem_append_left _ (List.mem_singleton_self v)
        · obtain ⟨value', hread, hkept⟩ := ih hrest hmem
          exact ⟨value', hread, fun v hv => List.mem_append_right _ (hkept v hv)⟩

theorem mem_of_readEntries [BEq α] [LawfulBEq α] {entries : List String} {values : List α}
    (h : readEntries read entries = .ok values) {entry : String} (mem : entry ∈ entries)
    (filled : Text.trim entry.toList ≠ []) :
    ∃ value, read (Text.trim entry.toList) = .ok value ∧ ∀ v, value = some v → v ∈ values := by
  rw [readEntries] at h
  cases hall : readAll read (usableEntries entries) with
  | error rejection =>
    rw [hall] at h
    cases h
  | ok all =>
    rw [hall] at h
    cases h
    have husable : Text.trim entry.toList ∈ usableEntries entries := by
      refine List.mem_filter.mpr ⟨List.mem_map_of_mem mem, ?_⟩
      exact decide_eq_true filled
    obtain ⟨value, hread, hkept⟩ := mem_of_readAll hall husable
    exact ⟨value, hread, fun v hv => List.mem_eraseDups.mpr (hkept v hv)⟩

end

section

variable {reply : SetupReply} {fallback : Fallback}

theorem addresses_ne_nil {addresses : List LocalAddress}
    (h : reply.localAddresses = .ok addresses) (names : reply.NamesAddress) : addresses ≠ [] := by
  obtain ⟨entry, hmem, address, haddress, hspecified⟩ := names
  rw [SetupReply.localAddresses, if_neg (List.ne_nil_of_mem hmem)] at h
  have hfilled : Text.trim entry.toList ≠ [] := by
    intro hempty
    rw [hempty] at haddress
    cases haddress
  obtain ⟨value, hread, hkept⟩ := mem_of_readEntries h hmem hfilled
  rw [LocalAddress.ofEntry, haddress] at hread
  dsimp only at hread
  rw [hspecified, if_neg Bool.false_ne_true] at hread
  split at hread
  · cases hread
  · next a _ =>
    cases hread
    exact List.ne_nil_of_mem (hkept a rfl)

theorem dns_ne_nil {dns : List Address} (h : reply.dnsServers fallback = .ok dns)
    (names : reply.NamesServer) : dns ≠ [] := by
  obtain ⟨entry, hmem, address, haddress, hspecified⟩ := names
  rw [SetupReply.dnsServers, if_pos (List.ne_nil_of_mem hmem)] at h
  have hfilled : Text.trim entry.toList ≠ [] := by
    intro hempty
    rw [hempty] at haddress
    cases haddress
  obtain ⟨value, hread, hkept⟩ := mem_of_readEntries h hmem hfilled
  rw [Address.ofEntry, haddress] at hread
  dsimp only at hread
  rw [hspecified, if_neg Bool.false_ne_true] at hread
  cases hread
  exact List.ne_nil_of_mem (hkept address rfl)

/-- Where the reply is silent and the system's name servers will do, those of them count that are
specified. -/
theorem dns_ne_nil_of_fallback {dns servers : List Address}
    (h : reply.dnsServers fallback = .ok dns) (silent : reply.dns = [])
    (offered : fallback.dns = some servers) {server : Address} (mem : server ∈ servers)
    (specified : server.isUnspecified = false) : dns ≠ [] := by
  rw [SetupReply.dnsServers, if_neg (not_not.mpr silent), offered] at h
  cases h
  refine List.ne_nil_of_mem (List.mem_eraseDups.mpr (List.mem_filter.mpr ⟨mem, ?_⟩))
  rw [specified]
  rfl

end

/-! ### The cellular technology -/

namespace CellularAccess

/-- The system's name servers will do, unless it offers none that can be used to an access point
that needs one. -/
theorem acceptsDns_iff {c : CellularAccess} {ap : AccessPoint} :
    c.acceptsDns c.systemDns ap = true ↔ ¬ c.OffersNoServer ∨ c.Exempts ap := by
  rw [acceptsDns]
  by_cases hoffers : c.OffersNoServer
  · have hall : c.systemDns.all Address.isUnspecified = true :=
      List.all_eq_true.mpr hoffers.2
    cases hdisabled : c.dnsCheckDisabled with
    | true => simp [Exempts, hdisabled]
    | false => simp [Exempts, hdisabled, hoffers, hoffers.1, hall]
  · rw [if_neg]
    · exact iff_of_true rfl (Or.inl hoffers)
    · rintro ⟨hsome, hall, -⟩
      exact hoffers ⟨hsome, List.all_eq_true.mp hall⟩

theorem not_acceptsDns {c : CellularAccess} {ap : AccessPoint} (blank : c.OffersNoServer)
    (needs : ¬ c.Exempts ap) : ¬ c.acceptsDns c.systemDns ap = true := by
  rw [acceptsDns_iff]
  exact not_or.mpr ⟨not_not.mpr blank, needs⟩

end CellularAccess

theorem Setting.fallback_dns {s : Setting} {c : CellularAccess}
    (technology : s.technology = c.technology) (connection : Connection) (interface : String) :
    (s.fallback connection interface).dns =
      if c.acceptsDns c.systemDns (connection.accessPoint.getD {}) then some c.systemDns
      else none := by
  rw [Setting.fallback, technology]
  rfl

/-! ### Attempts -/

namespace Scene

section

variable {ι : Type} [Interceptor ι] {w : Scene ι} {act : Act ι} {c : CellularAccess}
  {request : BringUp} {reply : SetupReply} {link : Link} {s : Setting} {i : ι}
  {acts later : List (Act ι)}

omit [Interceptor ι] in
/-- A link made from a reply that is silent about name servers has one of the system's. -/
theorem Makes.server_of_silent (technology : w.setting.technology = c.technology)
    (makes : w.Makes reply link) (silent : reply.dns = []) (offered : c.systemDns ≠ [])
    (needs : ¬ c.Exempts (w.controller.connection.accessPoint.getD {})) : link.dns ≠ [] := by
  have hfallback := Setting.fallback_dns technology w.controller.connection reply.interface
  obtain ⟨addresses, dns, routes, -, hdns, -, rfl⟩ := negotiate_eq_ok_iff.mp makes.2
  -- the system offers a server that can be used, or the reply would have been refused
  by_cases hblank : c.OffersNoServer
  · rw [if_neg (CellularAccess.not_acceptsDns hblank needs)] at hfallback
    rw [SetupReply.dnsServers, if_neg (not_not.mpr silent), hfallback] at hdns
    cases hdns
  · rw [if_pos (CellularAccess.acceptsDns_iff.mpr (Or.inl hblank))] at hfallback
    have husable : ∃ server ∈ c.systemDns, server.isUnspecified = false := by
      by_contra hnone
      refine hblank ⟨offered, fun server hmem => Bool.of_not_eq_false fun hspecified => ?_⟩
      exact hnone ⟨server, hmem, hspecified⟩
    obtain ⟨server, hmem, hspecified⟩ := husable
    exact dns_ne_nil_of_fallback hdns silent hfallback hmem hspecified

omit [Interceptor ι] in
/-- A reply that is silent about name servers is refused where the system has none to use, unless
the access point needs none. -/
theorem refused_of_blank (technology : w.setting.technology = c.technology)
    (silent : reply.dns = []) (blank : c.OffersNoServer)
    (needs : ¬ c.Exempts (w.controller.connection.accessPoint.getD {})) :
    ∃ rejection,
      negotiate reply (w.setting.fallback w.controller.connection reply.interface) =
        .error rejection ∧ (rejection = .noDns ∨ reply.localAddresses = .error rejection) := by
  have hfallback := Setting.fallback_dns technology w.controller.connection reply.interface
  rw [if_neg (CellularAccess.not_acceptsDns blank needs)] at hfallback
  have hdns : reply.dnsServers (w.setting.fallback w.controller.connection reply.interface) =
      .error .noDns := by
    rw [SetupReply.dnsServers, if_neg (not_not.mpr silent), hfallback]
  rw [negotiate, hdns]
  cases reply.localAddresses with
  | error rejection => exact ⟨rejection, rfl, Or.inr rfl⟩
  | ok addresses => exact ⟨.noDns, rfl, Or.inl rfl⟩

/-- What becomes of a reply is decided by its lists and by what the system offers. -/
theorem judges_of_replies (technology : w.setting.technology = c.technology)
    (replies : w.Replies act request reply) (status : reply.status = 0) :
    w.Judges act c (w.controller.connection.accessPoint.getD {}) request reply where
  accepts link makes := by
    obtain ⟨hup, hconnection, -⟩ := replies.accepted makes
    rw [hconnection]
    exact ⟨hup, rfl⟩
  address link makes := by
    obtain ⟨addresses, dns, routes, haddresses, -, -, rfl⟩ := negotiate_eq_ok_iff.mp makes.2
    exact addresses_ne_nil haddresses
  server link makes := by
    obtain ⟨addresses, dns, routes, -, hdns, -, rfl⟩ := negotiate_eq_ok_iff.mp makes.2
    exact dns_ne_nil hdns
  fallback _ makes silent offered needs := makes.server_of_silent technology silent offered needs
  noAddresses silent := by
    rw [negotiate, SetupReply.localAddresses, if_pos silent]
    rfl
  noDns silent blank needs := refused_of_blank technology silent blank needs
  rejects refused := by
    obtain ⟨hphase, -, houtbox, -⟩ := replies.refused status refused
    exact ⟨hphase, houtbox⟩

/-- An attempt is made with the access point of its request. -/
theorem Replies.accessPoint (h : ((start s i).run acts).1.Replies act request reply)
    (entries : idleEntries ((start s i).run acts).2 < 2 ^ 64) :
    ((start s i).run acts).1.controller.connection.accessPoint = some request.accessPoint := by
  obtain ⟨⟨-, rest, first⟩, hsetting, hcurrent⟩ := h
  obtain ⟨others, -, hfits⟩ := fits_first s i entries first
  rw [hsetting] at hfits
  exact ((hfits.of_current rfl hcurrent).attempt (Or.inl rfl)).2.2.1

/-- A bring-up whose parameters make no link fails for that reason, as soon as the radio is done
with the release; unless a reset comes in between. -/
theorem cleaned_up {last : Act ι} {done : BringUp}
    (replies : ((start s i).run acts).1.Replies act request reply) (status : reply.status = 0)
    (refused : ∀ link, ¬ ((start s i).run acts).1.Makes reply link)
    (entries : idleEntries ((start s i).run (acts ++ act :: later)).2 < 2 ^ 64)
    (unreset : (((start s i).run acts).1.step act).1.Unreset later)
    (handles : ((start s i).run (acts ++ act :: later)).1.Handles last
      (.releaseDone (.cleanUp done))) (same : done.number = request.number) :
    (((start s i).run (acts ++ act :: later)).1.step last).2 =
      [.moved .cleaningUp .idle,
        .broughtUp request (.error ⟨.unacceptableNetworkParameter, none⟩)] := by
  obtain ⟨-, hconnection, houtbox, -⟩ := replies.refused status refused
  have hordered : .release (.cleanUp request) ∈
      (((start s i).run acts).1.step act).1.bearer.tasks := by
    refine List.mem_append_left _ (List.mem_append_left _ (List.mem_map.mpr
      ⟨.release reply.bearerId .unspecified (.cleanUp request), ?_, rfl⟩))
    rw [houtbox]
    exact List.mem_append_right _ (List.mem_singleton_self _)
  have hcurrent : (ReleasePurpose.cleanUp request).generation =
      (((start s i).run acts).1.step act).1.controller.connection.generation := by
    rw [hconnection]
    exact replies.current
  have hrun := congrArg Prod.fst ((start s i).run_concat acts act)
  rw [← hrun] at hordered hcurrent unreset
  rw [List.append_cons] at entries handles ⊢
  obtain ⟨hsame, hlast⟩ := done_of_ordered entries hordered hcurrent unreset handles
    (congrArg RequestId.bringUp same)
  rw [hsame] at handles
  rw [(step_release entries handles hlast).2]
  rfl

end

end Scene

/-- A reply to an attempt makes a link that has an address and a name server, if its lists name one
of each; where it is silent about name servers, the link has one of the system's, unless the system
offers none at all or the access point on record, which is that of the request, needs none.  Other
replies are refused, and then the bring-up fails for its parameters as soon as the radio is done
with the release, if no reset comes in between. -/
theorem accepted_link_usable {ι : Type} [Interceptor ι] (c : CellularAccess) (s : Setting)
    (technology : s.technology = c.technology) (i : ι) (acts : List (Act ι)) (act : Act ι)
    (request : BringUp) (reply : SetupReply)
    (replies : ((Scene.start s i).run acts).1.Replies act request reply)
    (status : reply.status = 0) :
    ((Scene.start s i).run acts).1.Judges act c
      (((Scene.start s i).run acts).1.controller.connection.accessPoint.getD {}) request reply ∧
    (idleEntries ((Scene.start s i).run acts).2 < 2 ^ 64 →
      ((Scene.start s i).run acts).1.controller.connection.accessPoint =
        some request.accessPoint) ∧
    ((∀ link, ¬ ((Scene.start s i).run acts).1.Makes reply link) →
      ∀ later last done,
        idleEntries ((Scene.start s i).run (acts ++ act :: later)).2 < 2 ^ 64 →
        (((Scene.start s i).run acts).1.step act).1.Unreset later →
        ((Scene.start s i).run (acts ++ act :: later)).1.Handles last
          (.releaseDone (.cleanUp done)) →
        done.number = request.number →
          (((Scene.start s i).run (acts ++ act :: later)).1.step last).2 =
            [.moved .cleaningUp .idle,
              .broughtUp request (.error ⟨.unacceptableNetworkParameter, none⟩)]) := by
  refine ⟨?_, replies.accessPoint, fun refused later last done entries unreset handles same => ?_⟩
  · have htechnology := (Scene.setting_run (Scene.start s i) acts).1.trans technology
    exact Scene.judges_of_replies htechnology replies status
  · exact Scene.cleaned_up replies status refused entries unreset handles same

/-- A reply that names no name server. -/
def silentReply : SetupReply := { plainReply with dns := [] }

/-- An attempt that the radio has answered. -/
def answeredBy (reply : SetupReply) : List (Act Unit) :=
  [.ask (.bringUp "a" {}), .take, .turn, .turn, .answer 0 { setUp := some (.ok reply) }, .take]

/-- The cellular technology on a system that offers an unspecified name server. -/
def blankAccess : CellularAccess := { systemDns := [.v4 ⟨0, 0, 0, 0⟩] }

/-- A world with that technology. -/
def Setting.blank : Setting where
  technology := blankAccess.technology

/-- On such a system the reply is refused, and the bring-up fails when the radio is done. -/
theorem accepted_link_usable_silent :
    Setting.blank.technology = blankAccess.technology ∧
    ((Scene.start .blank ()).run (answeredBy silentReply)).1.Replies .turn firstRequest
      silentReply ∧
    silentReply.status = 0 ∧
    (((Scene.start .blank ()).run
      (answeredBy silentReply ++ .turn :: radioReleases)).1.step .turn).2 =
        [.moved .cleaningUp .idle,
          .broughtUp firstRequest (.error ⟨.unacceptableNetworkParameter, none⟩)] := by
  have hreplies : ((Scene.start .blank ()).run (answeredBy silentReply)).1.Replies .turn
      firstRequest silentReply := ⟨⟨rfl, [], rfl⟩, rfl, rfl⟩
  obtain ⟨hjudges, -, hfails⟩ := accepted_link_usable blankAccess .blank rfl ()
    (answeredBy silentReply) .turn firstRequest silentReply hreplies rfl
  have hrefused : ∀ link, ¬ ((Scene.start .blank ()).run
      (answeredBy silentReply)).1.Makes silentReply link := by
    intro link hmakes
    have hneeds : ¬ blankAccess.Exempts firstRequest.accessPoint := by
      rintro (hdisabled | hexempt)
      · cases hdisabled
      · exact absurd hexempt (by decide)
    obtain ⟨rejection, hrejection, -⟩ :=
      hjudges.noDns rfl ⟨List.cons_ne_nil _ _, by decide⟩ hneeds
    cases hrejection.symm.trans hmakes.2
  have hcalm : ∀ act ∈ (answeredBy silentReply ++ [.turn]) ++ radioReleases, act.IsCalm := by
    simp [answeredBy, radioReleases, Act.IsCalm]
  have hunreset := Scene.unreset_of_calm (s := .blank) (i := ()) hcalm
  rw [Scene.run_concat] at hunreset
  exact ⟨rfl, hreplies, rfl, hfails hrefused radioReleases .turn firstRequest (by decide) hunreset
    ⟨rfl, [], rfl⟩ rfl⟩

/-- A reply whose only address is unspecified. -/
def unspecifiedReply : SetupReply := { plainReply with addresses := ["0.0.0.0"] }

/-- On a system that offers no name server at all a silent reply is accepted, and so is a reply that
has an entry for an address but names none. -/
theorem accepted_unusable :
    ¬ (∀ reply, ((Scene.start .cellular ()).run
        (answeredBy reply ++ [.turn])).1.controller.phase = .up →
      ((Scene.start .cellular ()).run
        (answeredBy reply ++ [.turn])).1.controller.connection.link.dns ≠ [] ∨
          CellularAccess.Exempts {} {}) ∧
    ¬ ∀ reply, ((Scene.start .cellular ()).run
        (answeredBy reply ++ [.turn])).1.controller.phase = .up →
      ((Scene.start .cellular ()).run
        (answeredBy reply ++ [.turn])).1.controller.connection.link.addresses ≠ [] := by
  constructor
  · intro h
    rcases h silentReply (by decide) with hdns | hdisabled | hexempt
    · exact absurd hdns (by decide)
    · cases hdisabled
    · exact absurd hexempt (by decide)
  · intro h
    exact absurd (h unspecifiedReply (by decide)) (by decide)

end PacketBearer
