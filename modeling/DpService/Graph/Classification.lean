import DpService.Graph.Uniqueness
import DpService.Nodes.Classification

/-!
# Packets that are read in the wrong place

`conntrack` classifies a packet by the bytes behind an IPv4 header without
options, whether or not the packet has options, is a later fragment or has
that many bytes at all.
-/

namespace DpService.Graph

open Foundations Packet Dataplane Flow Ipsec Nodes

/-- The packet is dropped by `conntrack`, or given to a server before it gets a
flow. -/
def Untracked (env : NodeEnv) (outcomes : ConntrackOutcomes) (store : FlowStore)
    (m : Mbuf) : Prop :=
  (conntrack env outcomes store m).2.2 ∈ [Node.drop, .dhcp, .dhcpv6]

def optionsFrame : Frame :=
  frameOf ptypeL3Ipv4
    (etherHdr etherTypeIpv4 ++
      [0x46, 0, 0, 32, 0, 0, 0, 0, 64, ipprotoUdp, 0, 0, 10, 0, 0, 1,
        8, 8, 8, 8, 0xde, 0xad, 0xbe, 0xef] ++
      udpHeader 4000 53)

def guestAtConntrack (frame : Frame) : List Event :=
  [createGuest false, .receive 1 frame 2] ++ visits 1 1

def guestPacket (frame : Frame) : Mbuf :=
  ((hostMachine hostConf).run (guestAtConntrack frame)).mbufs 1

def guestTracked (frame : Frame) : FlowStore × Mbuf × Node :=
  let world := (hostMachine hostConf).run (guestAtConntrack frame)
  conntrack (world.env zeroDpdk) NodeOutcomes.succeed.conntrack world.flows (world.mbufs 1)

end DpService.Graph
