import DpService.Graph.Uniqueness
import DpService.Nodes.Symmetry

/-!
# Answers within a network

Two guests of one network that talk to each other directly share a flow as
long as the packets of both are marked alike.  A guest behind NAT marks its
packets even when they are not translated.
-/

namespace DpService.Graph

open Foundations Packet Dataplane Flow Ipsec Nodes

/-- In every orderly run, a flow that is still filed under the keys that it
was made with is untranslated. -/
theorem untranslated_of_tracked
    {demands : Demands} {world : World} (tracked : Tracked demands world)
    {f : Handle} {key : FlowKey} (org : (world.flows.value f).org = key)
    (reply : (world.flows.value f).reply = dpInvertFlowKey key)
    (filedOrg : world.flows.table.lookup key = some f)
    (filedReply : world.flows.table.lookup (dpInvertFlowKey key) = some f)
    (cached : world.flows.cache.cached.all (fun g =>
      world.flows.table.lookup world.flows.cache.other == some g) = true) :
    Untranslated world.flows f key where
  made := (tracked.shared.filed key f filedOrg).1
  org := org
  reply := reply
  filed := by
    intro other
    constructor
    · intro found
      obtain ⟨_, keys⟩ := tracked.shared.coherent.filed other f found
      rw [org, reply] at keys
      exact keys
    rintro (same | same)
    · rw [same]
      exact filedOrg
    · rw [same]
      exact filedReply
  cached := by
    intro g held
    rw [held] at cached
    exact eq_of_beq cached

/-! ## Two guests -/

def neighbourNetwork : Network :=
  { hostNetwork with
    route4 := fun vni dst =>
      if vni = 100 then
        if dst = 0x0a000002 then some ⟨3, 32, 100, Ipv6.zero⟩
        else some ⟨0, 0, 100, peerUnderlay⟩
      else none }

def createNeighbour : Event :=
  .request
    (.createInterface created
      (guestIface "neighbour" "vf1" 0x0a000002
        { guestUnderlay with sfx := 7 } false))

/-- A datagram from the guest to its neighbour is delivered, and the answer
has come to `conntrack`. -/
def neighbourAnswers (configuration : List Event) : List Event :=
  [.request (.configure neighbourNetwork), createGuest false, createNeighbour] ++ configuration ++
    guestSends 1 (guestFrame ipprotoUdp 0x0a000002 (udpHeader 4000 53)) ++
    [.receive 2
      (frameOf ptypeL3Ipv4
        (etherHdr etherTypeIpv4 ++ ipv4Packet ipprotoUdp 0x0a000002 0x0a000001 (udpHeader 53 4000)))
      3] ++
    visits 2 1

def answerOf (world : World) : Mbuf :=
  (extractHeaders (world.mbufs 2)).1

def datagramKey (world : World) : FlowKey :=
  (dpBuildFlowKey (world.env zeroDpdk) FlowKey.zeroed (world.mbufs 1)).1

def checkAnswer (world : World) : Bool :=
  (world.flows.value 0).org == datagramKey world &&
    (world.flows.value 0).reply == dpInvertFlowKey (datagramKey world) &&
    world.flows.table.lookup (datagramKey world) == some 0 &&
    world.flows.table.lookup (dpInvertFlowKey (datagramKey world)) == some 0 &&
    world.flows.cache.cached.all (fun g =>
      world.flows.table.lookup world.flows.cache.other == some g)

theorem untranslated_of_check {demands : Demands} {world : World} (tracked : Tracked demands world)
    (checked : checkAnswer world = true) :
    Untranslated world.flows 0 (datagramKey world) := by
  rw [checkAnswer, Bool.and_eq_true, Bool.and_eq_true, Bool.and_eq_true,
    Bool.and_eq_true] at checked
  obtain ⟨⟨⟨⟨org, reply⟩, filedOrg⟩, filedReply⟩, cached⟩ := checked
  exact
    untranslated_of_tracked tracked (eq_of_beq org) (eq_of_beq reply)
      (eq_of_beq filedOrg) (eq_of_beq filedReply) cached

theorem answeredBy_of_udp {first second : DpFlow}
    (one : keyAddresses first = some (.v4 0x0a000002, .v4 0x0a000001))
    (two : keyAddresses second = some (.v4 0x0a000001, .v4 0x0a000002))
    (udp : first.l4Type = ipprotoUdp ∧ second.l4Type = ipprotoUdp)
    (ports : first.l4Info = ⟨53, 4000⟩ ∧ second.l4Info = ⟨4000, 53⟩) :
    AnsweredBy first second where
  addresses := ⟨_, _, one, two, by decide⟩
  l4Type := by
    rw [udp.1, udp.2]
  ports := by
    apply Or.inl
    rw [ports.1, ports.2]
    exact ⟨Or.inr udp.1, rfl, rfl⟩

def guestPing6 : Frame :=
  frameOf ptypeL3Ipv6
    (etherHdr etherTypeIpv6 ++
      outerIpv6Hdr 8 ipprotoIcmpv6 ⟨0x20010db800000000, 1⟩ ⟨0x20010db800000000, 2⟩ ++
      icmpMessage icmpv6EchoRequest 5)

def guestPings6 : List Event :=
  createGuest false :: .receive 1 guestPing6 2 :: visits 1 1

/-- Its key is marked with NAT in a buffer whose last key was. -/
theorem guestPings6_undetermined : ¬ ∀ first second,
      (dpBuildFlowKey (((hostMachine hostConf).run guestPings6).env zeroDpdk) first
          (extractHeaders (((hostMachine hostConf).run guestPings6).mbufs 1)).1).2 = true →
        (dpBuildFlowKey (((hostMachine hostConf).run guestPings6).env zeroDpdk) second
            (extractHeaders (((hostMachine hostConf).run guestPings6).mbufs 1)).1).2 = true →
          (dpBuildFlowKey (((hostMachine hostConf).run guestPings6).env zeroDpdk) first
              (extractHeaders (((hostMachine hostConf).run guestPings6).mbufs 1)).1).1 =
            (dpBuildFlowKey (((hostMachine hostConf).run guestPings6).env zeroDpdk) second
              (extractHeaders (((hostMachine hostConf).run guestPings6).mbufs 1)).1).1 := by
  intro determined
  have same :=
    determined FlowKey.zeroed { FlowKey.zeroed with vnfType := .nat } (by decide +kernel)
      (by decide +kernel)
  revert same
  decide +kernel

end DpService.Graph
