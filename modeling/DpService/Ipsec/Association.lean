import DpService.Base
import DpService.Foundations.Arena

/-!
# Security associations

The data of `dp_ipsec.h`, the table of supported ciphers, the key under which
the Security Association Database (SAD) files an association, and the two
admission checks on a request.
-/

namespace DpService.Ipsec

open Foundations

/-! ## Constants and tables -/

def dpIpsecMaxKeyLen : Nat := 32

def dpIpsecMaxSaltLen : Nat := 4

def dpIpsecMaxSa : Nat := 64

def dpIpsecNbSessions : Nat := dpIpsecMaxSa

def dpIpsecReplayWindowMax : UInt32 := 4096

inductive IpsecDir where
  | ingress
  | egress
  deriving DecidableEq, Repr

/-- `enum dp_ipsec_algo`, with the end marker `DP_IPSEC_ALGO_MAX`. -/
inductive IpsecAlgo where
  | aes128Gcm
  | aes256Gcm
  | max
  deriving DecidableEq, Repr

structure IpsecAlgoSpec where
  keyLen : Nat
  saltLen : Nat
  deriving DecidableEq, Repr

/-- The table `dp_ipsec_algos`, which has no row for the end marker. -/
def dpIpsecAlgos : IpsecAlgo → Option IpsecAlgoSpec
  | .aes128Gcm => some { keyLen := 16, saltLen := 4 }
  | .aes256Gcm => some { keyLen := 32, saltLen := 4 }
  | .max => none

-- In both getters `none` is `DP_ERROR`.
def dpIpsecGetKeyLen (algo : IpsecAlgo) : Option Nat :=
  (dpIpsecAlgos algo).map IpsecAlgoSpec.keyLen

def dpIpsecGetSaltLen (algo : IpsecAlgo) : Option Nat :=
  (dpIpsecAlgos algo).map IpsecAlgoSpec.saltLen

theorem dpIpsecAlgos_fit {algo : IpsecAlgo} {spec : IpsecAlgoSpec}
    (row : dpIpsecAlgos algo = some spec) :
    spec.keyLen ≤ dpIpsecMaxKeyLen ∧ spec.saltLen ≤ dpIpsecMaxSaltLen := by
  cases algo <;> simp only [dpIpsecAlgos, Option.some_inj] at row
  · subst row
    decide
  · subst row
    decide
  · cases row

/-! ## The association and its names -/

/-- `struct dp_ipsec_sa`.  `session` and `ipsecSa` are the handles of the
crypto session and of the separately allocated librte_ipsec state. -/
structure IpsecSa where
  spi : UInt32
  vni : Vni
  algo : IpsecAlgo
  dir : IpsecDir
  src : Ipv6
  dst : Ipv6
  key : Vector UInt8 dpIpsecMaxKeyLen
  salt : Vector UInt8 dpIpsecMaxSaltLen
  saltLen : Nat
  replayWindow : UInt32
  esn : Bool
  session : Option Handle
  ipsecSa : Option Handle
  deriving DecidableEq

def IpsecSa.zeroed : IpsecSa where
  spi := 0
  vni := 0
  algo := .aes128Gcm
  dir := .ingress
  src := Ipv6.zero
  dst := Ipv6.zero
  key := Vector.replicate _ 0
  salt := Vector.replicate _ 0
  saltLen := 0
  replayWindow := 0
  esn := false
  session := none
  ipsecSa := none

/-- `struct dp_ipsec_sa_spec`: everything needed to name one association. -/
structure IpsecSaSpec where
  spi : UInt32
  vni : Vni
  dir : IpsecDir
  src : Ipv6
  dst : Ipv6
  deriving DecidableEq

/-- The name under which an association can be asked for. -/
def IpsecSa.spec (sa : IpsecSa) : IpsecSaSpec where
  spi := sa.spi
  vni := sa.vni
  dir := sa.dir
  src := sa.src
  dst := sa.dst

structure SadKey where
  spi : UInt32
  dip : Ipv6
  sip : Ipv6
  deriving DecidableEq

def dpIpsecBuildKey (lookupSpi : UInt32) (src dst : Ipv6) : SadKey where
  spi := lookupSpi
  dip := dst.maskPrefix
  sip := src.maskPrefix

def dpIpsecGetLookupSpi (spec : IpsecSaSpec) : UInt32 :=
  if spec.dir = .egress then spec.vni else spec.spi

def IpsecSaSpec.sadKey (spec : IpsecSaSpec) : SadKey :=
  dpIpsecBuildKey (dpIpsecGetLookupSpi spec) spec.src spec.dst

theorem dpIpsecBuildKey_eq_iff
    (firstSpi secondSpi : UInt32) (firstSrc firstDst secondSrc secondDst : Ipv6) :
    dpIpsecBuildKey firstSpi firstSrc firstDst = dpIpsecBuildKey secondSpi secondSrc secondDst ↔
      firstSpi = secondSpi ∧ firstSrc.pfx = secondSrc.pfx ∧ firstDst.pfx = secondDst.pfx := by
  simp only [dpIpsecBuildKey, SadKey.mk.injEq, Ipv6.maskPrefix_eq_iff]
  tauto

/-- Two names agree in everything an association is verified by: SPI, VNI and
direction exactly, and the addresses up to their prefix. -/
def IpsecSaSpec.Names (spec other : IpsecSaSpec) : Prop :=
  spec.spi = other.spi ∧ spec.vni = other.vni ∧ spec.dir = other.dir ∧
    spec.src.pfx = other.src.pfx ∧ spec.dst.pfx = other.dst.pfx

instance (spec other : IpsecSaSpec) : Decidable (spec.Names other) :=
  inferInstanceAs (Decidable (_ ∧ _))

theorem IpsecSaSpec.Names.sadKey_eq {spec other : IpsecSaSpec} (same : spec.Names other) :
    spec.sadKey = other.sadKey := by
  obtain ⟨sameSpi, sameVni, sameDir, sameSrc, sameDst⟩ := same
  rw [IpsecSaSpec.sadKey, IpsecSaSpec.sadKey, dpIpsecBuildKey_eq_iff]
  exact
    ⟨by rw [dpIpsecGetLookupSpi, dpIpsecGetLookupSpi, sameSpi, sameVni, sameDir], sameSrc, sameDst⟩

def dpIpsecIsLocalSideValid (conf : DpConf) (request : IpsecSa) : Bool :=
  let localSide := if request.dir = .egress then request.src else request.dst
  localSide.pfx == conf.underlayIp.pfx

def dpIpsecIsReplayWindowValid (request : IpsecSa) : Bool :=
  if request.dir = .egress then request.replayWindow == 0
  else request.replayWindow ≤ dpIpsecReplayWindowMax

end DpService.Ipsec
