import DpService.Flow.Answers
import DpService.Graph.Orderly
import DpService.Graph.Protection

/-!
# Answers in orderly runs

In every orderly run the answers to TCP and UDP flows behind NAT can be told
apart.  Two pings can be given the same port, and then their answers are
mistaken for one another.
-/

namespace DpService.Graph

open Foundations Packet Dataplane Flow Ipsec Nodes

def plainDemands : Demands where
  charged := False
  owned := False

/-! ## TCP and UDP -/

/-- In every orderly run of packets, requests and expirations, TCP and UDP
flows keep their ports and their answers apart. -/
theorem transportUnique_of_run (dpdk : Dpdk) (start : StartUp) (events : List Event)
    (orderly : OrderlyRun plainDemands dpdk start events) :
    TransportUnique ((serviceMachine dpdk start).run events).flows :=
  (tracked_run dpdk start orderly).shared.transportUnique

def guestFrame (proto : UInt8) (dst : Ipv4) (payload : List UInt8) : Frame :=
  frameOf ptypeL3Ipv4 (etherHdr etherTypeIpv4 ++ ipv4Packet proto 0x0a000001 dst payload)

def udpHeader (src dst : UInt16) : List UInt8 :=
  beBytes 2 src.toNat ++ beBytes 2 dst.toNat ++ [0, 8, 0, 0]

def guestSends (id : MbufId) (frame : Frame) : List Event :=
  .receive id frame 2 :: visits id 8

def onePort : PortRange where
  minPort := 1000
  maxPort := 1001
  ordered := by decide

def guestBehindNat (range : PortRange) : List Event :=
  [createGuest false, createGuestNat range]

def guestDatagrams : List Event :=
  guestBehindNat onePort ++ guestSends 1 (guestFrame ipprotoUdp 0x08080808 (udpHeader 4000 53)) ++
    guestSends 2 (guestFrame ipprotoUdp 0x08080404 (udpHeader 4001 53))

def translates (store : FlowStore) (f : Handle) : Bool :=
  decide (f < store.arena.next) && store.arena.freed f == 0 &&
    (store.value f).nfInfo.natType == .networkLocal

theorem of_translates {store : FlowStore} {f : Handle} (checked : translates store f = true) :
    store.Live f ∧ (store.value f).NatLocal := by
  rw [translates, Bool.and_eq_true, Bool.and_eq_true] at checked
  obtain ⟨⟨made, kept⟩, natted⟩ := checked
  exact ⟨⟨of_decide_eq_true made, eq_of_beq kept⟩, eq_of_beq natted⟩

theorem guestDatagrams_answers :
    ((hostMachine hostConf).run guestDatagrams).flows.ports.usedPortCnt 2 = 2 ∧
      (((hostMachine hostConf).run guestDatagrams).flows.value 0).reply ≠
        (((hostMachine hostConf).run guestDatagrams).flows.value 1).reply := by
  refine ⟨by decide +kernel, ?_⟩
  have unique : TransportUnique ((hostMachine hostConf).run guestDatagrams).flows :=
    transportUnique_of_run zeroDpdk (hostStart hostConf) guestDatagrams
      (orderlyRun_of_check plainDemands (by decide +kernel))
  have first : translates ((hostMachine hostConf).run guestDatagrams).flows 0 = true := by
    decide +kernel
  have second : translates ((hostMachine hostConf).run guestDatagrams).flows 1 = true := by
    decide +kernel
  have transport : (((hostMachine hostConf).run guestDatagrams).flows.value 0).org.proto =
          ipprotoUdp ∧
        (((hostMachine hostConf).run guestDatagrams).flows.value 1).org.proto =
          ipprotoUdp := by
    decide +kernel
  generalize ((hostMachine hostConf).run guestDatagrams).flows = store at *
  obtain ⟨firstLive, firstNat⟩ := of_translates first
  obtain ⟨secondLive, secondNat⟩ := of_translates second
  exact
    (unique 0 1 firstLive secondLive firstNat secondNat (.inr transport.1)
      (.inr transport.2) (by decide)).2

/-! ## ICMP -/

def guestPings (secondDst : Ipv4) : List Event :=
  guestBehindNat onePort ++
    guestSends 1 (guestFrame ipprotoIcmp 0x08080808 (icmpMessage icmpEchoRequest 5)) ++
    guestSends 2 (guestFrame ipprotoIcmp secondDst (icmpMessage icmpEchoRequest 6))

end DpService.Graph
