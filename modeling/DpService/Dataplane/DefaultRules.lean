import DpService.Dataplane.Capture

/-!
# The handles of the default rules

A port keeps the handles of its jump rule and of its capture rule.  Starting
and stopping it and switching its capture install and destroy the rules, but
no handle is cleared when its rule is destroyed.
-/

namespace DpService.Dataplane.Handles

open Foundations

/-- A port, and the rules that were created for it, numbered from 0.  What
`rte_flow_destroy` has destroyed is listed in `destroyed`. -/
structure RulePort where
  isPf : Bool
  allocated : Bool
  captured : Bool
  defaultJumpFlow : Option Nat
  defaultCaptureFlow : Option Nat
  created : Nat
  destroyed : List Nat
  deriving DecidableEq, Repr

def RulePort.unused (isPf : Bool) : RulePort :=
  ⟨isPf, false, false, none, none, 0, []⟩

def RulePort.stored (port : RulePort) : List Nat :=
  port.defaultCaptureFlow.toList ++ port.defaultJumpFlow.toList

def dpInstallJumpRuleInDefaultGroup (installs : Bool) (port : RulePort) : RulePort × Bool :=
  if !installs then (port, false)
  else
    ({ port with defaultJumpFlow := some port.created, created := port.created + 1 }, true)

def dpInstallDefaultRuleInCaptureGroup (installs : Bool) (port : RulePort) : RulePort × Bool :=
  if !installs then (port, false)
  else
    ({ port with defaultCaptureFlow := some port.created, created := port.created + 1 }, true)

def destroyFlow (destroys : Bool) (port : RulePort) : Option Nat → RulePort × Bool
  | none => (port, true)
  | some flow =>
    if !destroys then (port, false)
    else ({ port with destroyed := flow :: port.destroyed }, true)

def dpDestroyDefaultFlow (outcomes : DestroyOutcomes) (port : RulePort) : RulePort × Bool :=
  match destroyFlow outcomes.jump port port.defaultJumpFlow with
  | (port, false) => (port, false)
  | (port, true) => destroyFlow outcomes.capture port port.defaultCaptureFlow

/-! ## Capturing -/

def enableVfCapture (outcomes : EnableOutcomes) (port : RulePort) :
    RulePort × Except GrpcErr Unit :=
  match dpInstallJumpRuleInDefaultGroup outcomes.jump port with
  | (port, false) => (port, .error .rteRuleAdd)
  | (port, true) =>
    match dpInstallDefaultRuleInCaptureGroup outcomes.capture port with
    | (port, true) => ({ port with captured := true }, .ok ())
    | (port, false) =>
      match dpDestroyDefaultFlow outcomes.destroyAgain port with
      | (port, false) => (port, .error .rollback)
      | (port, true) =>
        match dpInstallJumpRuleInDefaultGroup outcomes.jumpBack port with
        | (port, false) => (port, .error .rollback)
        | (port, true) => (port, .error .rteRuleAdd)

def dpEnablePktCapture (outcomes : EnableOutcomes) (port : RulePort) :
    RulePort × Except GrpcErr Unit :=
  if !port.allocated then (port, .error .noVm)
  else if port.captured then (port, .error .alreadyActive)
  else
    match dpDestroyDefaultFlow outcomes.destroy port with
    | (port, false) => (port, .error .rteRuleDel)
    | (port, true) =>
      if port.isPf then
        match dpInstallDefaultRuleInCaptureGroup outcomes.capture port with
        | (port, false) => (port, .error .rteRuleAdd)
        | (port, true) => ({ port with captured := true }, .ok ())
      else enableVfCapture outcomes port

def dpDisablePktCapture (outcomes : EnableOutcomes) (port : RulePort) :
    RulePort × Except GrpcErr Unit :=
  if !port.allocated then (port, .error .noVm)
  else if !port.captured then (port, .error .notActive)
  else
    match dpDestroyDefaultFlow outcomes.destroy port with
    | (port, false) => (port, .error .rteRuleDel)
    | (port, true) =>
      let installed :=
        if port.isPf then dpInstallDefaultRuleInCaptureGroup outcomes.capture port
        else dpInstallJumpRuleInDefaultGroup outcomes.jump port
      match installed with
      | (port, false) => (port, .error .rteRuleAdd)
      | (port, true) => ({ port with captured := false }, .ok ())

/-! ## Starting and stopping -/

structure PortConf where
  nicTypeTap : Bool
  multiportEswitch : Bool
  offloadEnabled : Bool
  deriving DecidableEq, Repr

/-- Whether starting a port installs its jump rule. -/
def PortConf.jumps (conf : PortConf) (port : RulePort) : Bool :=
  !conf.nicTypeTap && conf.offloadEnabled && !port.isPf

structure PortOutcomes where
  dev : Bool
  isolation : Bool
  hairpins : Bool
  jump : Bool
  destroy : DestroyOutcomes
  asyncDestroy : Bool
  deriving DecidableEq, Repr

def PortOutcomes.succeed : PortOutcomes :=
  ⟨true, true, true, true, ⟨true, true⟩, true⟩

/-- In multiport mode the template and the rule that isolate a PF share the
memory of the two handles. -/
def isolatePf (conf : PortConf) (outcomes : PortOutcomes) (port : RulePort) : RulePort × Bool :=
  if conf.multiportEswitch then
    match dpInstallJumpRuleInDefaultGroup outcomes.isolation port with
    | (port, false) => (port, false)
    | (port, true) => dpInstallDefaultRuleInCaptureGroup outcomes.isolation port
  else (port, outcomes.isolation)

/-- The service ends when the first jump rule of a VF cannot be installed. -/
def dpInitPort (conf : PortConf) (outcomes : PortOutcomes) (port : RulePort) : RulePort × Bool :=
  if conf.nicTypeTap then (port, true)
  else
    match if port.isPf then isolatePf conf outcomes port else (port, true) with
    | (port, false) => (port, false)
    | (port, true) =>
      if !conf.offloadEnabled then (port, true)
      else if !outcomes.hairpins then (port, false)
      else if port.isPf then (port, true)
      else dpInstallJumpRuleInDefaultGroup outcomes.jump port

def dpStopEthPort (conf : PortConf) (outcomes : PortOutcomes) (port : RulePort) :
    RulePort × Bool :=
  if conf.multiportEswitch && outcomes.asyncDestroy then
    ({ port with defaultCaptureFlow := none }, outcomes.dev)
  else (port, outcomes.dev)

def dpStartPort (conf : PortConf) (outcomes : PortOutcomes) (port : RulePort) : RulePort × Bool :=
  if !outcomes.dev then (port, false)
  else
    match dpInitPort conf outcomes port with
    | (port, false) => ((dpStopEthPort conf outcomes port).1, false)
    | (port, true) => ({ port with allocated := true }, true)

def dpStopPort (conf : PortConf) (outcomes : PortOutcomes) (port : RulePort) : RulePort × Bool :=
  match dpDestroyDefaultFlow outcomes.destroy port with
  | (port, false) => (port, false)
  | (port, true) =>
    match dpStopEthPort conf outcomes port with
    | (port, false) => (port, false)
    | (port, true) => ({ port with allocated := false }, true)

inductive PortEvent where
  | start (outcomes : PortOutcomes)
  | stop (outcomes : PortOutcomes)
  | enable (outcomes : EnableOutcomes)
  | disable (outcomes : EnableOutcomes)

def portMachine (conf : PortConf) (isPf : Bool) : Machine RulePort PortEvent where
  init := .unused isPf
  step port
    | .start outcomes => (dpStartPort conf outcomes port).1
    | .stop outcomes => (dpStopPort conf outcomes port).1
    | .enable outcomes => (dpEnablePktCapture outcomes port).1
    | .disable outcomes => (dpDisablePktCapture outcomes port).1

/-! ## Rules that are destroyed once -/

variable {port : RulePort}

theorem dpDestroyDefaultFlow_eq {outcomes : DestroyOutcomes} {after : RulePort}
    (result : dpDestroyDefaultFlow outcomes port = (after, true)) :
    after = { port with destroyed := port.stored ++ port.destroyed } := by
  obtain ⟨_, _, _, jump, capture, _, _⟩ := port
  rcases outcomes with ⟨_ | _, _ | _⟩
  all_goals
    cases jump
    all_goals
      cases capture
      all_goals cases result
      all_goals rfl

theorem dpDestroyDefaultFlow_succeed (port : RulePort) :
    dpDestroyDefaultFlow ⟨true, true⟩ port =
      ({ port with destroyed := port.stored ++ port.destroyed }, true) := by
  obtain ⟨_, _, _, _ | _, _ | _, _, _⟩ := port
  all_goals rfl

/-- Each rule was destroyed once, or it is live and the port that is in use
has its handle. -/
structure Tended (port : RulePort) : Prop where
  rules : ((if port.allocated then port.stored else []) ++ port.destroyed).Perm
    (List.range port.created)
  pf : port.isPf = true → port.defaultJumpFlow = none

theorem perm_range_cons {rules : List Nat} {created : Nat}
    (perm : rules.Perm (List.range created)) :
    (created :: rules).Perm (List.range (created + 1)) := by
  rw [List.range_succ]
  exact (perm.cons created).trans (List.perm_append_singleton created _).symm

theorem Tended.destroy (tended : Tended port) (allocated : port.allocated = true) :
    (port.stored ++ port.destroyed).Perm (List.range port.created) := by
  have rules := tended.rules
  rwa [if_pos allocated] at rules

/-- A PF has no jump rule, so its new capture rule is all that it stores. -/
theorem Tended.replaceCapture (tended : Tended port) (allocated : port.allocated = true)
    (isPf : port.isPf = true) (captured : Bool) :
    Tended
      { port with
        destroyed := port.stored ++ port.destroyed
        defaultCaptureFlow := some port.created
        created := port.created + 1
        captured } where
  rules := by
    have fresh := perm_range_cons (tended.destroy allocated)
    rw [if_pos allocated]
    simpa [RulePort.stored, tended.pf isPf] using fresh
  pf := tended.pf

/-! ## One event -/

/-- No call fails, starts and stops alternate, a VF is captured once, and a
port that starts has no handle of a rule that was destroyed. -/
def Tidy (conf : PortConf) (port : RulePort) : PortEvent → Prop
  | .start _ =>
    port.allocated = false ∧ port.defaultCaptureFlow = none ∧
      (conf.jumps port = false → port.defaultJumpFlow = none)
  | .stop outcomes => port.allocated = true ∧ outcomes = .succeed
  | .enable outcomes => outcomes = .succeed
  | .disable outcomes => port.isPf = true ∧ outcomes = .succeed

theorem Tended.enable (tended : Tended port) :
    Tended (dpEnablePktCapture .succeed port).1 := by
  cases allocated : port.allocated with
  | false =>
    rw [dpEnablePktCapture, allocated]
    exact tended
  | true => ?_
  cases captured : port.captured with
  | true =>
    rw [dpEnablePktCapture, allocated, captured]
    exact tended
  | false => ?_
  have destroyed := dpDestroyDefaultFlow_succeed port
  cases isPf : port.isPf with
  | true =>
    have replaced := tended.replaceCapture allocated isPf true
    simp only [dpEnablePktCapture, allocated, captured, EnableOutcomes.succeed, destroyed, isPf]
    rw [allocated, isPf] at replaced
    exact replaced
  | false => ?_
  have fresh := perm_range_cons (perm_range_cons (tended.destroy allocated))
  simp only [dpEnablePktCapture, allocated, captured, EnableOutcomes.succeed, destroyed, isPf]
  exact ⟨fresh, nofun⟩

theorem Tended.disable (tended : Tended port) (isPf : port.isPf = true) :
    Tended (dpDisablePktCapture .succeed port).1 := by
  cases allocated : port.allocated with
  | false =>
    rw [dpDisablePktCapture, allocated]
    exact tended
  | true => ?_
  cases captured : port.captured with
  | false =>
    rw [dpDisablePktCapture, allocated, captured]
    exact tended
  | true => ?_
  have destroyed := dpDestroyDefaultFlow_succeed port
  have replaced := tended.replaceCapture allocated isPf false
  simp only [dpDisablePktCapture, allocated, captured, EnableOutcomes.succeed, destroyed, isPf]
  rw [allocated, isPf] at replaced
  exact replaced

theorem Tended.stop (tended : Tended port) {conf : PortConf} (allocated : port.allocated = true)
    (single : conf.multiportEswitch = false) :
    Tended (dpStopPort conf .succeed port).1 := by
  have destroyed := dpDestroyDefaultFlow_succeed port
  simp only [dpStopPort, PortOutcomes.succeed, destroyed, dpStopEthPort, single]
  exact ⟨tended.destroy allocated, tended.pf⟩

theorem dpInitPort_eq {conf : PortConf} {outcomes : PortOutcomes}
    (single : conf.multiportEswitch = false) :
    dpInitPort conf outcomes port = (port, false) ∨
      dpInitPort conf outcomes port = (port, true) ∧ conf.jumps port = false ∨
      dpInitPort conf outcomes port = dpInstallJumpRuleInDefaultGroup true port ∧
        conf.jumps port = true := by
  rcases conf with ⟨_ | _, _ | _, _ | _⟩
  all_goals cases single
  all_goals
    rcases port with ⟨_ | _, _⟩
    all_goals
      rcases outcomes with ⟨_, _ | _, _ | _, _ | _, _⟩
      all_goals simp [dpInitPort, isolatePf, PortConf.jumps, dpInstallJumpRuleInDefaultGroup]

theorem Tended.start (tended : Tended port) {conf : PortConf} (outcomes : PortOutcomes)
    (single : conf.multiportEswitch = false) (allocated : port.allocated = false)
    (capture : port.defaultCaptureFlow = none)
    (jump : conf.jumps port = false → port.defaultJumpFlow = none) :
    Tended (dpStartPort conf outcomes port).1 := by
  have rules := tended.rules
  rw [allocated] at rules
  rw [dpStartPort]
  cases outcomes.dev with
  | false => exact tended
  | true => ?_
  rcases dpInitPort_eq single with failed | ⟨idle, none⟩ | ⟨jumps, installs⟩
  · rw [failed]
    simp only [dpStopEthPort, single]
    exact tended
  · rw [idle]
    refine ⟨?_, tended.pf⟩
    simpa [RulePort.stored, capture, jump none] using rules
  · rw [jumps]
    refine ⟨?_, ?_⟩
    · simpa [RulePort.stored, capture, dpInstallJumpRuleInDefaultGroup] using perm_range_cons rules
    · intro isPf
      rw [PortConf.jumps, show port.isPf = true from isPf] at installs
      simp at installs

theorem Tended.step {conf : PortConf} {isPf : Bool} (single : conf.multiportEswitch = false)
    (event : PortEvent) (tidy : Tidy conf port event) (tended : Tended port) :
    Tended ((portMachine conf isPf).step port event) := by
  cases event with
  | start outcomes =>
    obtain ⟨allocated, capture, jump⟩ := tidy
    exact tended.start outcomes single allocated capture jump
  | stop outcomes =>
    obtain ⟨allocated, rfl⟩ := tidy
    exact tended.stop allocated single
  | enable outcomes =>
    obtain rfl : outcomes = .succeed := tidy
    exact tended.enable
  | disable outcomes =>
    obtain ⟨isPf, rfl⟩ := tidy
    exact tended.disable isPf

/-! ## Whole runs -/

theorem dpStopPort_rules {conf : PortConf} {outcomes : PortOutcomes} {after : RulePort}
    (stopped : dpStopPort conf outcomes port = (after, true)) :
    after.created = port.created ∧ after.destroyed = port.stored ++ port.destroyed := by
  unfold dpStopPort at stopped
  split at stopped
  · cases stopped
  rename_i emptied destroyed
  obtain rfl := dpDestroyDefaultFlow_eq destroyed
  unfold dpStopEthPort at stopped
  split at stopped
  · cases stopped
  rename_i halted eth
  cases stopped
  split at eth
  all_goals
    obtain ⟨rfl, -⟩ := Prod.mk.inj eth
    exact ⟨rfl, rfl⟩

/-- In every run in which no call fails, starts and stops alternate and handles
of destroyed rules are overwritten before they are used, no rule is destroyed
twice and a successful stop leaves none behind. -/
theorem destroyedOnce_of_run (conf : PortConf) (single : conf.multiportEswitch = false)
    (isPf : Bool) (events : List PortEvent)
    (tidy : (portMachine conf isPf).Along (Tidy conf) (.unused isPf) events) :
    ((portMachine conf isPf).run events).destroyed.Nodup ∧
      ∀ outcomes after,
        dpStopPort conf outcomes ((portMachine conf isPf).run events) = (after, true) →
          ∀ flow < after.created, flow ∈ after.destroyed := by
  have unused : Tended (.unused isPf) := ⟨.nil, fun _ => rfl⟩
  have tended : Tended ((portMachine conf isPf).run events) :=
    Machine.runFrom_invariant_along (fun _ event tidy tended => tended.step single event tidy)
      events tidy unused
  generalize (portMachine conf isPf).run events = port at tended ⊢
  have once := tended.rules.nodup_iff.mpr List.nodup_range
  refine ⟨once.of_append_right, ?_⟩
  intro outcomes after stopped flow known
  obtain ⟨created, destroyed⟩ := dpStopPort_rules stopped
  rw [created] at known
  rw [destroyed]
  have held := tended.rules.mem_iff.mpr (List.mem_range.mpr known)
  split at held
  · exact held
  · exact List.mem_append_right _ held

def offloading : PortConf := ⟨false, false, true⟩

def capturedOnce : List PortEvent :=
  [.start .succeed, .stop .succeed, .start .succeed, .enable .succeed, .stop .succeed]

theorem capturedOnce_destroyedOnce :
    ((portMachine offloading false).run capturedOnce).created = 4 ∧
      ((portMachine offloading false).run capturedOnce).destroyed.Nodup ∧
      ∀ outcomes after,
        dpStopPort offloading outcomes ((portMachine offloading false).run capturedOnce) =
            (after, true) →
          ∀ flow < after.created, flow ∈ after.destroyed :=
  ⟨by decide, destroyedOnce_of_run offloading rfl false capturedOnce
    ⟨⟨rfl, rfl, nofun⟩, ⟨rfl, rfl⟩, ⟨rfl, rfl, nofun⟩, rfl, ⟨rfl, rfl⟩, trivial⟩⟩

/-- Stopping the port after its capture was switched off destroys the capture
rule again, though no call fails. -/
theorem capture_destroyedTwice :
    ¬((portMachine offloading false).run
        [.start .succeed, .enable .succeed, .disable .succeed, .stop .succeed]).destroyed.Nodup := by
  decide

end DpService.Dataplane.Handles
