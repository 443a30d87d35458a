import DpService.Foundations.BigEndian

/-!
# Addresses, configuration and error codes

The types shared by every part of the service: underlay addresses split the
way `union dp_ipv6` splits them, the start-up configuration, and the codes the
gRPC request handlers answer with.
-/

namespace DpService

open DpService.Foundations

abbrev Vni := UInt32

/-- An IPv4 address in host byte order. -/
abbrev Ipv4 := UInt32

/-- `union dp_ipv6`: the halves `_prefix` and `_suffix` of an address. -/
@[ext]
structure Ipv6 where
  pfx : UInt64
  sfx : UInt64
  deriving Repr

-- The derived instances rewrite along the equations that they decide, and the
-- addresses and keys of a run are terms too large for that.
instance : DecidableEq Ipv6 :=
  fun _ _ => decidable_of_iff _ Ipv6.ext_iff.symm

namespace Ipv6

def zero : Ipv6 :=
  ⟨0, 0⟩

/-- An address with everything below the first 64 bits cleared. -/
def maskPrefix (address : Ipv6) : Ipv6 where
  pfx := address.pfx
  sfx := 0

@[simp]
theorem maskPrefix_pfx (address : Ipv6) : address.maskPrefix.pfx = address.pfx :=
  rfl

theorem maskPrefix_eq_iff (first second : Ipv6) :
    first.maskPrefix = second.maskPrefix ↔ first.pfx = second.pfx := by
  simp [maskPrefix]

def toBytes (address : Ipv6) : List UInt8 :=
  beBytes 8 address.pfx.toNat ++ beBytes 8 address.sfx.toNat

def ofBytes (bytes : List UInt8) : Ipv6 where
  pfx := (beNat (bytes.take 8)).toUInt64
  sfx := (beNat ((bytes.drop 8).take 8)).toUInt64

@[simp]
theorem length_toBytes (address : Ipv6) : address.toBytes.length = 16 := by
  simp [toBytes]

private theorem toUInt64_beNat_beBytes (half : UInt64) :
    (beNat (beBytes 8 half.toNat)).toUInt64 = half := by
  have fits : half.toNat < 256 ^ 8 := half.toNat_lt
  rw [beNat_beBytes_of_lt fits]
  exact UInt64.ofNat_toNat

theorem ofBytes_toBytes_append (address : Ipv6) (rest : List UInt8) :
    ofBytes (address.toBytes ++ rest) = address := by
  have front : (address.toBytes ++ rest).take 8 = beBytes 8 address.pfx.toNat := by
    simp [toBytes, List.append_assoc, List.take_left']
  have back : ((address.toBytes ++ rest).drop 8).take 8 = beBytes 8 address.sfx.toNat := by
    simp [toBytes, List.append_assoc, List.drop_left', List.take_left']
  rw [ofBytes, front, back, toUInt64_beNat_beBytes, toUInt64_beNat_beBytes]

end Ipv6

/-- The part of the start-up configuration that the model reads. -/
structure DpConf where
  underlayIp : Ipv6
  ipsecEnabled : Bool
  tapMode : Bool := false
  mellanoxNic : Bool := false
  offloadEnabled : Bool := false
  /-- With weighted multipath, how many slots of the egress table stay with
  the first PF. -/
  wcmp : Option Nat := none
  deriving DecidableEq, Repr

/-- The `DP_GRPC_ERR_*` codes that the modelled handlers answer with. -/
inductive GrpcErr where
  | notFound
  | alreadyExists
  | outOfMemory
  | limitReached
  | alreadyActive
  | notActive
  | rollback
  | rteRuleAdd
  | rteRuleDel
  | vnfInsert
  | vmHandle
  | portStop
  | vniInit4
  | portStart
  | noVni
  | routeExists
  | routeNotFound
  | routeBadPort
  | routeInsert
  | routeReset
  | vniFree4
  | vnfDelete
  | noBackip
  | noLb
  | backipAdd
  | backipDel
  | noDropSupport
  | portMeter
  | badIpver
  | noVm
  | snatNoData
  | snatCreate
  | snatExists
  | dnatNoData
  | dnatCreate
  | dnatExists
  | saExists
  | saNotFound
  | saCreate
  | saAlgo
  | saBadAddr
  | ipsecDisabled
  | saReplayWindow
  | saDirection
  deriving DecidableEq, Repr

end DpService
