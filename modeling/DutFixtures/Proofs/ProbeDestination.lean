import DutFixtures.Proofs.FailureBlame
import DutFixtures.Proofs.Ipv4Text

namespace DutFixtures

/-- The first of some texts that is given and not empty. -/
structure FirstFilled (texts : List (Option String)) (text : String) : Prop where
  filled : text ≠ ""
  place : ∃ before after, texts = before ++ some text :: after ∧
    ∀ earlier ∈ before, earlier = none ∨ earlier = some ""

/-- The first IPv4 address of a list of addresses of both families. -/
def FirstIpv4 (addresses : List IpAddress) (ip : Ipv4) : Prop :=
  ∃ before after, addresses = before ++ .v4 ip :: after ∧ ∀ other, .v4 other ∉ before

/-- What is logged behind the question for the route to an address, and what comes of it. The
name of the destination stands in the failure only. -/
inductive RouteAsked (host : Host) (dest : String) (ip : Ipv4) :
    List Event → Except Failure Ipv4 → Prop
  | refused {text} : host.sourceTowards ip = .error text →
      RouteAsked host dest ip [] (.error (.host text))
  | otherFamily {source} : host.sourceTowards ip = .ok (.v6 source) →
      RouteAsked host dest ip []
        (.error (.noIpv4Address ("route to " ++ dest ++ " uses IPv6 source " ++ source)))
  | answered {source} : host.sourceTowards ip = .ok (.v4 source) →
      RouteAsked host dest ip [⟨.info, .network, "Using host ip: " ++ source.text⟩] (.ok source)

/-- The message of a probe of an address, given by its text. -/
def probing (address : String) : Event :=
  ⟨.debug, .network, "Probing outbound route to " ++ address ++ ":80"⟩

/-- A destination is probed: it leads to addresses, and the route is asked to the first one of
them that is an IPv4 address. -/
inductive Probed (host : Host) (dest : String) : List Event → Except Failure Ipv4 → Prop
  | unknown {text} : host.addresses dest = .error text → Probed host dest [] (.error (.host text))
  | noIpv4 {addresses} : host.addresses dest = .ok addresses → (∀ ip, .v4 ip ∉ addresses) →
      Probed host dest [] (.error (.noIpv4Address (dest ++ " does not resolve to IPv4")))
  | asked {addresses ip log outcome} : host.addresses dest = .ok addresses →
      FirstIpv4 addresses ip → RouteAsked host dest ip log outcome →
      Probed host dest (probing ip.text :: log) outcome

/-- An answer with the log and the outcome of its helper. A failure may add an event. -/
def Answer.Carries (a : Answer) (log : List Event) : Except Failure ToolResult → Prop
  | .ok result => a = ⟨log, .ok result⟩
  | .error e => a = e.answer log

theorem unlessEmpty_eq_some {value : Option String} {text : String}
    (kept : unlessEmpty value = some text) : value = some text ∧ text ≠ "" := by
  have parts := Option.filter_eq_some_iff.mp kept
  exact ⟨parts.1, of_decide_eq_true parts.2⟩

theorem unlessEmpty_eq_none {value : Option String} (dropped : unlessEmpty value = none) :
    value = none ∨ value = some "" := by
  cases value with
  | none => exact Or.inl rfl
  | some text =>
    by_cases empty : text = ""
    · exact Or.inr (congrArg some empty)
    · rw [unlessEmpty, Option.filter_some_pos (by simpa using empty)] at dropped
      cases dropped

/-- An argument comes before the default, and the public destination comes last. -/
theorem Defaults.firstFilled_destFor (d : Defaults) (given : Option String) :
    FirstFilled [given, d.probeDest, some "8.8.8.8"] (d.destFor given) := by
  cases named : unlessEmpty given with
  | some text =>
    obtain ⟨rfl, filled⟩ := unlessEmpty_eq_some named
    have dest : d.destFor (some text) = text := by rw [destFor, named]; rfl
    rw [dest]
    exact ⟨filled, [], _, rfl, nofun⟩
  | none =>
    have skipped := unlessEmpty_eq_none named
    cases default : unlessEmpty d.probeDest with
    | some text =>
      obtain ⟨configured, filled⟩ := unlessEmpty_eq_some default
      have dest : d.destFor given = text := by rw [destFor, named, default]; rfl
      rw [dest, configured]
      refine ⟨filled, [given], _, rfl, fun earlier member => ?_⟩
      rwa [List.mem_singleton.mp member]
    | none =>
      have dest : d.destFor given = "8.8.8.8" := by rw [destFor, named, default]; rfl
      rw [dest]
      refine ⟨by decide, [given, d.probeDest], [], rfl, fun earlier member => ?_⟩
      rcases List.mem_cons.mp member with rfl | member
      · exact skipped
      · rw [List.mem_singleton.mp member]
        exact unlessEmpty_eq_none default

section Probes

variable {host : Host} {dest : String} {ip : Ipv4}

theorem probeEvent_eq (ip : Ipv4) : probeEvent ip = probing ip.text := by
  have ending : ":" ++ toString probePort = ":80" := by decide +kernel
  rw [probeEvent, probing, String.append_assoc, ending]

theorem Ipv4.isAddressText (ip : Ipv4) : IsAddressText ip.text.toList ip :=
  isAddressText_iff.mpr String.toList_ofList

theorem Ipv4.text_of_addressText (written : IsAddressText dest.toList ip) : ip.text = dest := by
  rw [text, ← isAddressText_iff.mp written, String.ofList_toList]

theorem firstIpv4_of_findSome? {addresses : List IpAddress}
    (found : addresses.findSome? IpAddress.v4? = some ip) : FirstIpv4 addresses ip := by
  obtain ⟨before, address, after, split, here, earlier⟩ := List.findSome?_eq_some_iff.mp found
  cases address with
  | v4 other =>
    cases here
    refine ⟨before, after, split, fun other member => ?_⟩
    nomatch earlier _ member
  | v6 text => nomatch here

theorem Host.routeAsked_probe (host : Host) (dest : String) (ip : Ipv4) :
    ∃ log, (host.probe dest ip).log = probing ip.text :: log ∧
      RouteAsked host dest ip log (host.probe dest ip).outcome := by
  unfold probe
  rw [probeEvent_eq]
  split
  · rename_i refusal
    exact ⟨[], rfl, .refused refusal⟩
  · rename_i found
    exact ⟨_, rfl, .answered found⟩
  · rename_i found
    exact ⟨[], rfl, .otherFamily found⟩

/-- The helper for the address of the host has a destination of its own, which is never used
in the place of one that is passed to it. -/
theorem Host.ipTowards_eq (filled : dest ≠ "") :
    host.ipTowards (some dest) =
      match host.addresses dest with
      | .error text => ⟨[], .error (.host text)⟩
      | .ok addresses =>
        match addresses.findSome? IpAddress.v4? with
        | none => ⟨[], .error (.noIpv4Address (dest ++ " does not resolve to IPv4"))⟩
        | some ip => host.probe dest ip := by
  have kept : ((some dest).filter (· ≠ "")).getD publicProbeDest = dest := by
    rw [Option.filter_some_pos (by simpa using filled), Option.getD_some]
  rewrite [ipTowards, kept]
  rfl

theorem Host.probed_ipTowards (filled : dest ≠ "") :
    Probed host dest (host.ipTowards (some dest)).log (host.ipTowards (some dest)).outcome := by
  rw [ipTowards_eq filled]
  cases known : host.addresses dest with
  | error text => exact .unknown known
  | ok addresses =>
    cases found : addresses.findSome? IpAddress.v4? with
    | none =>
      simp only [found]
      refine .noIpv4 known fun ip member => ?_
      nomatch List.findSome?_eq_none_iff.mp found _ member
    | some ip =>
      simp only [found]
      obtain ⟨log, split, asked⟩ := host.routeAsked_probe dest ip
      rw [split]
      exact .asked known (firstIpv4_of_findSome? found) asked

/-- A written address stands for itself, so the probe of it depends on the route to it alone. -/
theorem Host.ipTowards_of_addressText (written : IsAddressText dest.toList ip) :
    host.ipTowards (some dest) = host.probe dest ip := by
  have filled : dest ≠ "" := by
    rintro rfl
    obtain ⟨a, b, c, d, joined, -⟩ := written
    exact absurd joined (by simp)
  have known : host.addresses dest = .ok [.v4 ip] := by
    have parsed : Ipv4.parse? dest = some ip := ofChars?_eq_some_iff.mpr written
    rw [addresses, parsed]
  rw [ipTowards_eq filled, known]
  rfl

theorem Host.probe_congr {other : Host} (route : other.sourceTowards ip = host.sourceTowards ip) :
    other.probe dest ip = host.probe dest ip := by
  rw [probe, probe, route]

theorem RouteAsked.failure_ne {log : List Event} {outcome : Except Failure Ipv4}
    (asked : RouteAsked host ip.text ip log outcome) :
    outcome ≠ .error .dutIpNotFound ∧
      outcome ≠ .error (.noIpv4Address (ip.text ++ " does not resolve to IPv4")) := by
  cases asked with
  | refused _ => exact ⟨nofun, nofun⟩
  | otherFamily _ =>
    refine ⟨nofun, fun same => ?_⟩
    -- The two reasons differ in their first character: a letter, and a digit of the address.
    have reasons := congrArg String.toList (Failure.noIpv4Address.inj (Except.error.inj same))
    obtain ⟨a, b, c, d, joined, first, -⟩ := ip.isAddressText
    obtain ⟨digit, rest, head⟩ := List.exists_cons_of_ne_nil first.nonempty
    have letter : digit = 'r' := by
      have heads := congrArg List.head? reasons
      simpa [joined, head] using heads.symm
    have isDigit := first.digits digit (by rw [head]; exact List.mem_cons_self ..)
    rw [letter] at isDigit
    exact absurd isDigit (by decide)
  | answered _ => exact ⟨nofun, nofun⟩

end Probes

theorem Logged.carries_answer {α : Type} (logged : Logged α) (result : α → ToolResult) :
    (logged.answer result).Carries logged.log (logged.outcome.map result) := by
  unfold answer
  cases logged.outcome with
  | error e => rfl
  | ok value => rfl

/-- The answer of `host_ip` names the destination that has been probed: the argument, or else
the default, or else the public one, whichever is not empty. `runner_ip` probes the address that
stands on the console, asks for no other route, and answers with that address; without one it
does nothing. -/
theorem probe_follows_answer (d : Defaults) (bench : Bench) (fields : List (String × Json)) :
    (∀ given, Tool.decode .hostIp fields = .ok (.hostIp given) →
      ∃ dest log outcome, FirstFilled [given, d.probeDest, some "8.8.8.8"] dest ∧
        Probed bench.host dest log outcome ∧
        (answerCall d bench Tool.hostIp.name fields).Carries log (outcome.map (.hostIp dest)) ∧
        ∀ ip, IsAddressText dest.toList ip →
          ∃ rest, log = ⟨.debug, .network, "Probing outbound route to " ++ dest ++ ":80"⟩ :: rest ∧
            RouteAsked bench.host dest ip rest outcome) ∧
    (∀ console ip, dutAddress console = some ip →
      ∃ rest outcome, RouteAsked bench.host ip.text ip rest outcome ∧
        bench.host.linkOnConsole console =
          ⟨⟨.info, .network, "Got DUT IP=" ++ ip.text⟩ ::
              ⟨.debug, .network, "Probing outbound route to " ++ ip.text ++ ":80"⟩ :: rest,
            outcome.map fun hostIp => ⟨ip, hostIp⟩⟩ ∧
        outcome ≠ .error .dutIpNotFound ∧
        outcome ≠ .error (.noIpv4Address (ip.text ++ " does not resolve to IPv4")) ∧
        (∀ other : Host, other.sourceTowards ip = bench.host.sourceTowards ip →
          other.linkOnConsole console = bench.host.linkOnConsole console) ∧
        (Tool.decode .runnerIp fields = .ok (.runnerIp console) →
          (answerCall d bench Tool.runnerIp.name fields).Carries
            (bench.host.linkOnConsole console).log
            (outcome.map fun hostIp => .link ⟨ip, hostIp⟩))) ∧
    ∀ console, dutAddress console = none →
      bench.host.linkOnConsole console = ⟨[], .error .dutIpNotFound⟩ ∧
      (Tool.decode .runnerIp fields = .ok (.runnerIp console) →
        (answerCall d bench Tool.runnerIp.name fields).Carries [] (.error .dutIpNotFound)) := by
  refine ⟨fun given accepted => ?_, fun console ip announced => ?_, fun console silent => ?_⟩
  · have first := d.firstFilled_destFor given
    refine ⟨d.destFor given, _, _, first, Host.probed_ipTowards first.filled, ?_, ?_⟩
    · rw [answerCall_of_decode accepted]
      exact Logged.carries_answer _ _
    · intro ip written
      obtain ⟨rest, split, asked⟩ := bench.host.routeAsked_probe (d.destFor given) ip
      rw [Host.ipTowards_of_addressText written]
      rw [Ipv4.text_of_addressText written] at split
      exact ⟨rest, split, asked⟩
  · obtain ⟨rest, split, asked⟩ := bench.host.routeAsked_probe ip.text ip
    have linked (host : Host) : host.linkOnConsole console =
        ⟨dutIpEvent ip :: (host.probe ip.text ip).log,
          (host.probe ip.text ip).outcome.map fun hostIp => ⟨ip, hostIp⟩⟩ := by
      rw [Host.linkOnConsole_of_some announced, Host.ipTowards_of_addressText ip.isAddressText]
    refine ⟨rest, _, asked, ?_, asked.failure_ne.1, asked.failure_ne.2, ?_, ?_⟩
    · rw [linked, split]
      rfl
    · intro other route
      rw [linked, linked, Host.probe_congr route]
    · intro accepted
      rw [answerCall_of_decode accepted, Call.run]
      have carried := Logged.carries_answer (bench.host.linkOnConsole console) .link
      rw [linked] at carried ⊢
      cases outcome : (bench.host.probe ip.text ip).outcome with
      | error e => rw [outcome] at carried; exact carried
      | ok hostIp => rw [outcome] at carried; exact carried
  · have linked : bench.host.linkOnConsole console = ⟨[], .error .dutIpNotFound⟩ :=
      Host.linkOnConsole_of_none silent
    refine ⟨linked, fun accepted => ?_⟩
    rw [answerCall_of_decode accepted, Call.run, linked]
    exact Logged.carries_answer ⟨[], .error .dutIpNotFound⟩ ToolResult.link

/-- An empty argument gives way to the default, and a console with one address leads to a
failure of the route to it on a host without a network. -/
theorem probe_follows_answer_offline :
    let d : Defaults := { probeDest := some "192.0.2.1" }
    let bench : Bench := ⟨fun _ => false, .offline⟩
    let fields := [("dest", Json.text "")]
    let console := "I (42) IPv4 address: 10.0.0.5\n"
    Tool.decode .hostIp fields = .ok (.hostIp (some "")) ∧
      (∃ dest log outcome, FirstFilled [some "", some "192.0.2.1", some "8.8.8.8"] dest ∧
        Probed bench.host dest log outcome ∧
        (answerCall d bench Tool.hostIp.name fields).Carries log (outcome.map (.hostIp dest))) ∧
      dutAddress console = some ⟨10, 0, 0, 5⟩ ∧
      ∃ rest outcome, RouteAsked bench.host (Ipv4.text ⟨10, 0, 0, 5⟩) ⟨10, 0, 0, 5⟩ rest outcome := by
  intro d bench fields console
  have accepted : Tool.decode .hostIp fields = .ok (.hostIp (some "")) := rfl
  have announced : dutAddress console = some ⟨10, 0, 0, 5⟩ := by decide +kernel
  obtain ⟨toHost, toDut, -⟩ := probe_follows_answer d bench fields
  obtain ⟨dest, log, outcome, first, probed, carried, -⟩ := toHost (some "") accepted
  obtain ⟨rest, outcome', asked, -⟩ := toDut console _ announced
  exact ⟨accepted, ⟨dest, log, outcome, first, probed, carried⟩, announced, rest, outcome', asked⟩

end DutFixtures
