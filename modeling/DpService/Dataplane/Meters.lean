import DpService.Dataplane.Roles

/-!
# Rate caps

An interface has two caps: the device limits all traffic of the VF, and a meter
of the service limits what goes to public addresses.  `Dataplane.Interface`
knows only how the two configurations end.  Here are the rates that they
program, which are computed with 32 bits and in whole megabytes.
-/

namespace DpService.Dataplane

open Foundations Packet

/-! ## The meter of public traffic -/

structure SrtcmParams where
  cir : UInt64
  cbs : UInt64
  ebs : UInt64
  deriving DecidableEq, Repr

/-- Which parameters `rte_meter_srtcm_profile_config` and
`rte_meter_srtcm_config` take. -/
structure RteMeter where
  profileConfig : SrtcmParams → Bool
  config : SrtcmParams → Bool

def RteMeter.accepts (meter : RteMeter) (params : SrtcmParams) : Bool :=
  meter.profileConfig params && meter.config params

def RteMeter.RejectsZeroCir (meter : RteMeter) : Prop :=
  ∀ params, params.cir = 0 → meter.profileConfig params = false

def dpMeterCirBaseValue : UInt32 := 1024 * 1024
def dpMeterEbsBreakValue : UInt32 := 100
def dpMeterMbitsToBytes : UInt32 := 1024 * 1024 / 8

def dpSrtcmParamsBase : SrtcmParams where
  cir := (dpMeterCirBaseValue * 100 / 8).toUInt64
  cbs := 4096
  ebs := (dpMeterEbsBreakValue * dpMeterMbitsToBytes).toUInt64

/-- The parameters for a cap in Mbit/s.  The division comes first, and the
product has 32 bits. -/
def srtcmParams (publicFlowRateCap : UInt32) : SrtcmParams :=
  { dpSrtcmParamsBase with
    cir := (dpMeterCirBaseValue * (publicFlowRateCap / 8)).toUInt64
    ebs :=
      if publicFlowRateCap < dpMeterEbsBreakValue then
        (publicFlowRateCap * dpMeterMbitsToBytes).toUInt64
      else dpSrtcmParamsBase.ebs }

def ExactCap (publicFlowRateCap : Nat) : Prop :=
  8 ∣ publicFlowRateCap ∧ publicFlowRateCap < 2 ^ 15

theorem srtcmParams_cir (publicFlowRateCap : UInt32) : (srtcmParams publicFlowRateCap).cir.toNat =
      2 ^ 20 * (publicFlowRateCap.toNat / 8) % 2 ^ 32 := by
  change (dpMeterCirBaseValue * (publicFlowRateCap / 8)).toUInt64.toNat = _
  rw [UInt32.toNat_toUInt64, UInt32.toNat_mul, UInt32.toNat_div]
  rfl

/-- Caps that are no multiple of 8 Mbit/s are rounded down, and caps of 32
Gbit/s and more wrap around. -/
theorem srtcmParams_cir_eq_iff (publicFlowRateCap : UInt32) :
    (srtcmParams publicFlowRateCap).cir.toNat = publicFlowRateCap.toNat * 2 ^ 20 / 8 ↔
      ExactCap publicFlowRateCap.toNat := by
  rw [srtcmParams_cir, ExactCap]
  omega

/-! ## The meters of a port -/

/-- A port with its meter and the rate that is programmed for its VF.  Without
a profile the meter is not active. -/
structure MeteredPort where
  port : Port
  profile : Option SrtcmParams
  vfRate : UInt32

structure RateOutcomes where
  total : MeterResult
  reset : Bool
  deriving DecidableEq, Repr

namespace MeteredPort

variable (meter : RteMeter) (outcomes : RateOutcomes) (metered : MeteredPort)

def dpPortPublicFlowMeterConfig (publicFlowRateCap : UInt32) : MeteredPort × Bool :=
  if publicFlowRateCap = 0 then ({ metered with profile := none }, true)
  else
    let params := srtcmParams publicFlowRateCap
    if !meter.profileConfig params then (metered, false)
    else if !meter.config params then ({ metered with profile := none }, false)
    else ({ metered with profile := some params }, true)

def setTotal (totalFlowRateCap : UInt64) : MeteredPort :=
  { metered with
    port := setTotalFlowRateCap metered.port totalFlowRateCap
    vfRate := totalFlowRateCap.toUInt32 }

/-- `dp_port_meter_config` from the public meter on.  If it fails, the result of
setting the rate of the VF to zero is what is returned. -/
def configurePublic (publicFlowRateCap : UInt64) : MeteredPort × Bool :=
  match
    metered.dpPortPublicFlowMeterConfig meter publicFlowRateCap.toUInt32 with
  | (metered, true) =>
    ({ metered with
       port := setPublicFlowRateCap metered.port publicFlowRateCap },
      true)
  | (metered, false) =>
    if outcomes.reset then (metered.setTotal 0, true) else (metered, false)

def dpPortMeterConfig (conf : DpConf) (totalFlowRateCap publicFlowRateCap : UInt64) :
    MeteredPort × Bool :=
  if !conf.mellanoxNic then (metered, true)
  else if totalFlowRateCap.toNat ≥ 2 ^ 32 ∨ publicFlowRateCap > totalFlowRateCap then
    (metered, false)
  else
    match outcomes.total with
    | .failed => (metered, false)
    | .unsupported => metered.configurePublic meter outcomes publicFlowRateCap
    | .set => (metered.setTotal totalFlowRateCap).configurePublic meter outcomes publicFlowRateCap

/-- How the configurations end that `Dataplane.dpPortMeterConfig` is told. -/
def meterOutcomes (publicFlowRateCap : UInt64) : MeterOutcomes where
  total := outcomes.total
  publicSet :=
    publicFlowRateCap.toUInt32 = 0 || meter.accepts (srtcmParams publicFlowRateCap.toUInt32)
  reset := outcomes.reset

section PublicMeter

variable {meter metered}

theorem dpPortPublicFlowMeterConfig_zero : metered.dpPortPublicFlowMeterConfig meter 0 =
      ({ metered with profile := none }, true) :=
  rfl

theorem dpPortPublicFlowMeterConfig_of_accepts {cap : UInt32} (nonzero : cap ≠ 0)
    (accepts : meter.accepts (srtcmParams cap) = true) :
    metered.dpPortPublicFlowMeterConfig meter cap =
      ({ metered with profile := some (srtcmParams cap) }, true) := by
  rw [RteMeter.accepts, Bool.and_eq_true] at accepts
  simp [dpPortPublicFlowMeterConfig, nonzero, accepts]

theorem dpPortPublicFlowMeterConfig_of_rejects {cap : UInt32} (nonzero : cap ≠ 0)
    (rejects : meter.accepts (srtcmParams cap) = false) :
    ∃ profile, metered.dpPortPublicFlowMeterConfig meter cap =
        ({ metered with profile }, false) := by
  rw [RteMeter.accepts, Bool.and_eq_false_iff] at rejects
  rw [dpPortPublicFlowMeterConfig, if_neg nonzero]
  cases first : meter.profileConfig (srtcmParams cap) with
  | false => exact ⟨metered.profile, by simp [first]⟩
  | true =>
    have second : meter.config (srtcmParams cap) = false := rejects.resolve_left (by simp [first])
    exact ⟨none, by simp [first, second]⟩

end PublicMeter

theorem configurePublic_refines (publicFlowRateCap : UInt64) :
    ((metered.configurePublic meter outcomes publicFlowRateCap).1.port,
        (metered.configurePublic meter outcomes publicFlowRateCap).2) =
      configurePublicMeter (meterOutcomes meter outcomes publicFlowRateCap)
        metered.port publicFlowRateCap := by
  unfold configurePublic configurePublicMeter meterOutcomes
  by_cases zero : publicFlowRateCap.toUInt32 = 0
  · simp [zero, dpPortPublicFlowMeterConfig_zero]
  cases accepts : meter.accepts (srtcmParams publicFlowRateCap.toUInt32) with
  | true =>
    simp [zero, accepts, dpPortPublicFlowMeterConfig_of_accepts zero accepts]
  | false => ?_
  obtain ⟨profile, result⟩ :=
    @dpPortPublicFlowMeterConfig_of_rejects meter metered _ zero accepts
  cases reset : outcomes.reset with
  | true => simp [zero, accepts, result, reset, setTotal]
  | false => simp [zero, accepts, result, reset]

/-- Both caps are programmed and noted, except that no public cap means no
meter. -/
structure Enforces (totalFlowRateCap publicFlowRateCap : UInt64) : Prop where
  programmed : metered.vfRate.toNat = totalFlowRateCap.toNat
  noted : metered.port.iface.totalFlowRateCap = totalFlowRateCap
  publicNoted : metered.port.iface.publicFlowRateCap = publicFlowRateCap
  publicProgrammed :
    match metered.profile with
    | none => publicFlowRateCap = 0
    | some params => params.cir.toNat = publicFlowRateCap.toNat * 2 ^ 20 / 8

def Refused (outcomes : RateOutcomes) (totalFlowRateCap publicFlowRateCap : UInt64) :
    Prop :=
  totalFlowRateCap.toNat ≥ 2 ^ 32 ∨ publicFlowRateCap > totalFlowRateCap ∨ outcomes.total = .failed

/-- The meter takes the public cap as it is, or it is not wanted.  A cap that
the meter does not take is reported only if the rate of the VF cannot be set
back either. -/
def Meterable (meter : RteMeter) (outcomes : RateOutcomes) (publicFlowRateCap : UInt64) :
    Prop :=
  publicFlowRateCap = 0 ∨
    if meter.accepts (srtcmParams publicFlowRateCap.toUInt32) then ExactCap publicFlowRateCap.toNat
    else outcomes.reset = false

theorem enforces_configurePublic_iff {totalFlowRateCap publicFlowRateCap : UInt64}
    (total : totalFlowRateCap.toNat < 2 ^ 32)
    (ordered : publicFlowRateCap.toNat ≤ totalFlowRateCap.toNat) :
    (((metered.setTotal totalFlowRateCap).configurePublic meter outcomes
            publicFlowRateCap).2 = true →
        ((metered.setTotal totalFlowRateCap).configurePublic meter outcomes
            publicFlowRateCap).1.Enforces totalFlowRateCap publicFlowRateCap) ↔
      Meterable meter outcomes publicFlowRateCap := by
  have narrowTotal : totalFlowRateCap.toUInt32.toNat = totalFlowRateCap.toNat := by
    rw [UInt64.toNat_toUInt32, Nat.mod_eq_of_lt total]
  have narrow : publicFlowRateCap.toUInt32.toNat = publicFlowRateCap.toNat := by
    rw [UInt64.toNat_toUInt32, Nat.mod_eq_of_lt (by omega)]
  unfold configurePublic Meterable
  by_cases zero : publicFlowRateCap = 0
  · subst zero
    refine iff_of_true ?_ (Or.inl rfl)
    intro _
    exact ⟨narrowTotal, rfl, rfl, rfl⟩
  have nonzero : publicFlowRateCap.toUInt32 ≠ 0 := by
    intro vanishes
    rw [vanishes] at narrow
    exact zero (UInt64.toNat_inj.mp narrow.symm)
  cases accepts : meter.accepts (srtcmParams publicFlowRateCap.toUInt32) with
  | true =>
    rw [dpPortPublicFlowMeterConfig_of_accepts nonzero accepts]
    simp only [zero, false_or, if_true, true_implies]
    rw [← narrow, ← srtcmParams_cir_eq_iff]
    constructor
    · intro enforced
      rw [narrow]
      exact enforced.publicProgrammed
    · intro exact'
      rw [narrow] at exact'
      exact ⟨narrowTotal, rfl, rfl, exact'⟩
  | false =>
    obtain ⟨profile, result⟩ :=
      @dpPortPublicFlowMeterConfig_of_rejects meter
        (metered.setTotal totalFlowRateCap) _ nonzero accepts
    rw [result]
    cases reset : outcomes.reset with
    | false => simp [zero]
    | true => ?_
    simp only [zero, false_or, if_true, true_implies,
      Bool.false_eq_true, if_false, Bool.true_eq_false, iff_false]
    intro enforced
    -- the public cap is positive, and so is the total one
    have cleared : (0 : UInt64) = totalFlowRateCap := enforced.noted
    have positive : publicFlowRateCap.toNat ≠ 0 :=
      fun vanishes => zero (UInt64.toNat_inj.mp vanishes)
    rw [← cleared] at ordered
    exact positive (Nat.le_zero.mp ordered)

def standardMeter : RteMeter where
  profileConfig := fun params => params.cir != 0
  config := fun _ => true

def unmetered : MeteredPort where
  port := Port.absent
  profile := none
  vfRate := 0

def standardConfig (totalFlowRateCap publicFlowRateCap : UInt64) : MeteredPort × Bool :=
  unmetered.dpPortMeterConfig standardMeter ⟨.set, true⟩
    { underlayIp := Ipv6.zero, ipsecEnabled := false, mellanoxNic := true }
    totalFlowRateCap publicFlowRateCap

end MeteredPort

end DpService.Dataplane
