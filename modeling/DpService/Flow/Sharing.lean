import DpService.Flow.Withdrawal
import Mathlib.Logic.Relation

/-!
# Who shares a flow, and who owns a port

A flow is shared by the entries of the flow table, by the key cache and by
the hardware rules, and it must not be freed while one of them is left.  A
flow behind NAT owns a port, and no two flows own the same one.  The operations
of the store keep both.

`Demands` says how much is asked for.  A flow may have got its port through
another interface than the one that created it, and a port may have been given
away for a packet that was dropped afterwards; whether these are ruled out
depends on the run.
-/

namespace DpService.Flow

open Foundations Packet Dataplane

/-- What is asked for besides the plain invariant.  With `charged` a flow's
port was counted for the interface that created the flow, and with `owned`
every port that was given away belongs to a flow. -/
structure Demands where
  charged : Prop
  owned : Prop

def FlowValue.NatLocal (value : FlowValue) : Prop :=
  value.nfInfo.natType = .networkLocal

structure Owns
    (demands : Demands) (value : FlowValue) (ports : NatPorts)
    (key : PortoverloadKey) : Prop where
  reply : value.reply = natReplyKey value.org key.natIp key.natPort
  allocation : ∃ allocation, ports.portoverload.lookup key = some allocation ∧
      dpFlowToSnatKeys value = some (allocation.portmapKey, key) ∧
      (demands.charged → allocation.portId = value.createdPortId)

/-- Flows behind NAT own a port each, and no two own the same one. -/
structure Ported (demands : Demands) (store : FlowStore) : Prop where
  undecided : ∀ f, store.Live f → (store.value f).Undecided →
    (store.value f).reply = dpInvertFlowKey (store.value f).org ∧ ¬ (store.value f).NatLocal
  sameVni : ∀ f, store.Live f → (store.value f).reply.vni = (store.value f).org.vni
  natted : ∀ f, store.Live f → (store.value f).NatLocal →
    ∃ key, Owns demands (store.value f) store.ports key
  distinct : ∀ f g key, store.Live f → store.Live g →
    (store.value f).NatLocal → (store.value g).NatLocal →
      Owns demands (store.value f) store.ports key →
      Owns demands (store.value g) store.ports key → f = g
  owned : demands.owned → ∀ key allocation, store.ports.portoverload.lookup key = some allocation →
      ∃ f, store.Live f ∧ (store.value f).NatLocal ∧ Owns demands (store.value f) store.ports key

structure Shared (demands : Demands) (store : FlowStore) : Prop
    extends Sustained store, Ported demands store where
  coherent : Coherent store

variable {demands : Demands} {store : FlowStore}

section Ownership

variable {value changed : FlowValue} {ports after : NatPorts}
variable {key other : PortoverloadKey}

theorem Owns.unique
    (first : Owns demands value ports key)
    (second : Owns demands value ports other) : key = other := by
  obtain ⟨one, _, keys, _⟩ := first.allocation
  obtain ⟨two, _, same, _⟩ := second.allocation
  rw [keys, Option.some_inj] at same
  exact congrArg Prod.snd same

theorem Owns.setPorts (owns : Owns demands value ports key)
    (kept : after.portoverload.lookup key = ports.portoverload.lookup key) :
    Owns demands value after key := by
  obtain ⟨allocation, held, keys, charged⟩ := owns.allocation
  exact ⟨owns.reply, allocation, kept.trans held, keys, charged⟩

theorem Owns.of_kept (owned : ∃ own, Owns demands value ports own)
    (kept : ∀ own, Owns demands value ports own →
      after.portoverload.lookup own = ports.portoverload.lookup own)
    (owns : Owns demands value after key) : Owns demands value ports key := by
  obtain ⟨own, before⟩ := owned
  rw [owns.unique (before.setPorts (kept own before))]
  exact before

theorem Owns.held (owns : Owns demands value ports key) :
    ports.portoverload.lookup key ≠ none := by
  obtain ⟨allocation, held, _⟩ := owns.allocation
  rw [held]
  exact Option.some_ne_none allocation

theorem Owns.setValue (owns : Owns demands value ports key) (org : changed.org = value.org)
    (reply : changed.reply = value.reply) (vni : changed.nfInfo.vni = value.nfInfo.vni)
    (created : changed.createdPortId = value.createdPortId) :
    Owns demands changed ports key := by
  obtain ⟨allocation, held, keys, charged⟩ := owns.allocation
  refine ⟨?_, allocation, held, ?_, ?_⟩
  · rw [reply, org]
    exact owns.reply
  · rw [← keys, dpFlowToSnatKeys, dpFlowToSnatKeys, reply, org, vni]
  · rw [created]
    exact charged

end Ownership

theorem Shared.setCurr (shared : Shared demands store) (key : FlowKey) :
    Shared demands { store with cache := { store.cache with curr := key } } :=
  ⟨(Unmoved.setCurr store key).sustained shared.toSustained, { shared.toPorted with },
    (Trims.setCurr key).coherent shared.coherent⟩

theorem Shared.cacheFlow (shared : Shared demands store) {f : Handle}
    (found : store.table.lookup store.cache.curr = some f) :
    Shared demands (dpCacheFlowVal store f) :=
  ⟨shared.toSustained.cacheFlow found, { shared.toPorted with },
    (show Keeps (fun _ _ => True) store _ from .cacheFlow shared.coherent found).coherent⟩

/-! ## Changes of a flow -/

/-- A change that leaves the keys and the port of a flow alone. -/
structure Quiet (before after : FlowValue) : Prop where
  org : after.org = before.org
  reply : after.reply = before.reply
  created : after.createdPortId = before.createdPortId
  natLocal : after.NatLocal ↔ before.NatLocal
  vni : before.NatLocal → after.nfInfo.vni = before.nfInfo.vni
  undecided : after.Undecided → before.Undecided

theorem Quiet.owns {before after : FlowValue} (quiet : Quiet before after)
    (natLocal : before.NatLocal) {ports : NatPorts} {key : PortoverloadKey} :
    Owns demands after ports key ↔ Owns demands before ports key := by
  constructor
  · intro owns
    exact owns.setValue quiet.org.symm quiet.reply.symm (quiet.vni natLocal).symm quiet.created.symm
  · intro owns
    exact owns.setValue quiet.org quiet.reply (quiet.vni natLocal) quiet.created

theorem Ported.modify (ported : Ported demands store) {f : Handle}
    {change : FlowValue → FlowValue} (quiet : Quiet (store.value f) (change (store.value f))) :
    Ported demands (store.modify f change) := by
  -- every flow has changed quietly or not at all
  have each : ∀ g, Quiet (store.value g) ((store.modify f change).value g) := by
    intro g
    by_cases same : g = f
    · rw [same, FlowStore.modify_value_self]
      exact quiet
    · rw [FlowStore.modify_value_of_ne store change same]
      exact ⟨rfl, rfl, rfl, Iff.rfl, fun _ => rfl, id⟩
  have ownership : ∀ g key, (store.value g).NatLocal →
      (Owns demands ((store.modify f change).value g) store.ports key ↔
        Owns demands (store.value g) store.ports key) :=
    fun g _ natLocal => (each g).owns natLocal
  constructor
  · intro g live undecided
    rw [(each g).org, (each g).reply, (each g).natLocal]
    exact ported.undecided g live ((each g).undecided undecided)
  · intro g live
    rw [(each g).org, (each g).reply]
    exact ported.sameVni g live
  · intro g live natLocal
    have before := (each g).natLocal.mp natLocal
    obtain ⟨key, owns⟩ := ported.natted g live before
    exact ⟨key, (ownership g key before).mpr owns⟩
  · intro g h key liveG liveH natG natH ownsG ownsH
    have beforeG := (each g).natLocal.mp natG
    have beforeH := (each h).natLocal.mp natH
    exact
      ported.distinct g h key liveG liveH beforeG beforeH ((ownership g key beforeG).mp ownsG)
        ((ownership h key beforeH).mp ownsH)
  intro demanded key allocation held
  obtain ⟨g, live, natLocal, owns⟩ :=
    ported.owned demanded key allocation held
  exact ⟨g, live, (each g).natLocal.mpr natLocal, (ownership g key natLocal).mpr owns⟩

/-! ## Giving up a reference -/

/-- What giving up references does to the ports: nothing, or the port of one
flow comes back. -/
def PortReturned (demands : Demands) (before after : NatPorts) : Prop :=
  after = before ∨ ∃ key allocation portId,
      Returns before after key allocation portId ∧ (demands.charged → allocation.portId = portId)

theorem dropReference_quiet (value : FlowValue) : Quiet value (dropReference value) :=
  ⟨rfl, rfl, rfl, Iff.rfl, fun _ => rfl, id⟩

theorem dpFreeNetworkNatPort_of_natLocal
    {value : FlowValue} (natLocal : value.NatLocal) (ports : NatPorts) :
    dpFreeNetworkNatPort value ports = dpRemoveNetworkSnatPort value ports :=
  if_pos natLocal

theorem dpFreeNetworkNatPort_of_not
    {value : FlowValue} (other : ¬ value.NatLocal) (ports : NatPorts) :
    dpFreeNetworkNatPort value ports = ports :=
  if_neg other

theorem dpFreeNetworkNatPort_returns {value : FlowValue} {ports : NatPorts} {key : PortoverloadKey}
    (natLocal : value.NatLocal) (owns : Owns demands value ports key) :
    ∃ allocation,
      Returns ports (dpFreeNetworkNatPort value ports) key allocation value.createdPortId ∧
        (demands.charged → allocation.portId = value.createdPortId) := by
  obtain ⟨allocation, held, keys, charged⟩ := owns.allocation
  refine ⟨allocation, ?_, charged⟩
  rw [dpFreeNetworkNatPort_of_natLocal natLocal, dpRemoveNetworkSnatPort, keys]
  exact dpDeleteSnatEntries_returns held value.createdPortId

theorem Ported.free_returned (ported : Ported demands store) {f : Handle} (live : store.Live f) :
    PortReturned demands store.ports (dpFreeFlow store f).ports := by
  change PortReturned demands store.ports (dpFreeNetworkNatPort (store.value f) store.ports)
  by_cases natLocal : (store.value f).NatLocal
  · obtain ⟨key, owns⟩ := ported.natted f live natLocal
    obtain ⟨allocation, returns, charged⟩ :=
      dpFreeNetworkNatPort_returns natLocal owns
    exact Or.inr ⟨key, allocation, _, returns, charged⟩
  · rw [dpFreeNetworkNatPort_of_not natLocal]
    exact Or.inl rfl

theorem Ported.free_others (ported : Ported demands store) {f g : Handle} {key : PortoverloadKey}
    (live : store.Live f) (liveOther : store.Live g) (different : g ≠ f)
    (natLocal : (store.value g).NatLocal) (owns : Owns demands (store.value g) store.ports key) :
    (dpFreeFlow store f).ports.portoverload.lookup key = store.ports.portoverload.lookup key := by
  change (dpFreeNetworkNatPort (store.value f) store.ports).portoverload.lookup key = _
  by_cases natFreed : (store.value f).NatLocal
  · obtain ⟨own, ownsFreed⟩ := ported.natted f live natFreed
    obtain ⟨allocation, returns, _⟩ :=
      dpFreeNetworkNatPort_returns natFreed ownsFreed
    rw [returns.removed key, if_neg]
    intro same
    subst same
    exact different (ported.distinct g f key liveOther live natLocal natFreed owns ownsFreed)
  · rw [dpFreeNetworkNatPort_of_not natFreed]

theorem Ported.free_held (ported : Ported demands store) {f : Handle} (live : store.Live f)
    {key : PortoverloadKey} {allocation : Allocation}
    (held : (dpFreeFlow store f).ports.portoverload.lookup key = some allocation) :
    store.ports.portoverload.lookup key = some allocation ∧
      ¬ ((store.value f).NatLocal ∧ Owns demands (store.value f) store.ports key) := by
  constructor
  · rcases ported.free_returned live with same | ⟨own, gone, _, returns, _⟩
    · rw [← same]
      exact held
    rw [returns.removed key] at held
    split at held
    · cases held
    · exact held
  rintro ⟨natLocal, owns⟩
  obtain ⟨_, returns, _⟩ := dpFreeNetworkNatPort_returns natLocal owns
  have erased := returns.removed key
  rw [if_pos rfl] at erased
  cases erased.symm.trans held

theorem Ported.free (ported : Ported demands store) {f : Handle} (live : store.Live f) :
    Ported demands (dpFreeFlow store f) := by
  have survivors : ∀ g, (dpFreeFlow store f).Live g ↔ store.Live g ∧ g ≠ f := store.live_free_iff f
  constructor
  · intro g liveG
    exact ported.undecided g ((survivors g).mp liveG).1
  · intro g liveG
    exact ported.sameVni g ((survivors g).mp liveG).1
  · intro g liveG natG
    obtain ⟨before, different⟩ := (survivors g).mp liveG
    obtain ⟨key, owns⟩ := ported.natted g before natG
    exact ⟨key, owns.setPorts (ported.free_others live before different natG owns)⟩
  · intro g h key liveG liveH natG natH ownsG ownsH
    obtain ⟨beforeG, differentG⟩ := (survivors g).mp liveG
    obtain ⟨beforeH, differentH⟩ := (survivors h).mp liveH
    -- a key owned now is the one owned before
    apply ported.distinct g h key beforeG beforeH natG natH
    · exact ownsG.of_kept (ported.natted g beforeG natG)
        fun _ => ported.free_others live beforeG differentG natG
    · exact ownsH.of_kept (ported.natted h beforeH natH)
        fun _ => ported.free_others live beforeH differentH natH
  intro demanded key allocation held
  obtain ⟨before, notFreed⟩ := ported.free_held live held
  obtain ⟨g, liveG, natG, owns⟩ :=
    ported.owned demanded key allocation before
  have different : g ≠ f := by
    intro same
    subst same
    exact notFreed ⟨natG, owns⟩
  exact
    ⟨g, (survivors g).mpr ⟨liveG, different⟩, natG,
      owns.setPorts (ported.free_others live liveG different natG owns)⟩

theorem Ported.refDec (ported : Ported demands store) {f : Handle} (live : store.Live f) :
    Ported demands (dpRefDec store f) ∧
      PortReturned demands store.ports (dpRefDec store f).ports := by
  have decreased := ported.modify (dropReference_quiet (store.value f))
  rw [dpRefDec_eq]
  split
  · exact ⟨decreased.free live, decreased.free_returned live⟩
  · exact ⟨decreased, Or.inl rfl⟩

theorem Ported.deleteFlow (ported : Ported demands store) {key : FlowKey} {f : Handle}
    (filed : store.table.lookup key = some f) (live : store.Live f) :
    Ported demands (dpDeleteFlow store key f).1 ∧
      PortReturned demands store.ports (dpDeleteFlow store key f).1.ports := by
  have erased : Ported demands (erased store key) := { ported with }
  rw [dpDeleteFlow_of_filed filed]
  exact erased.refDec live

theorem Ported.dropRule (ported : Ported demands store) (lasting : Lasting store) (f : Handle) :
    Ported demands (dropRule store f) ∧
      PortReturned demands store.ports (dropRule store f).ports := by
  unfold Flow.dropRule
  split
  · exact ⟨ported, Or.inl rfl⟩
  rename_i some
  have live : store.Live f := by
    by_contra gone
    exact some (lasting.spent f gone)
  have fewer :
      Ported demands
        (store.modify f fun value => { value with rules := value.rules - 1 }) :=
    ported.modify ⟨rfl, rfl, rfl, Iff.rfl, fun _ => rfl, id⟩
  exact fewer.refDec live

theorem Shared.dropRule (shared : Shared demands store) (f : Handle) :
    Shared demands (dropRule store f) ∧
      PortReturned demands store.ports (dropRule store f).ports := by
  obtain ⟨ported, returned⟩ := shared.toPorted.dropRule shared.toLasting f
  exact
    ⟨⟨shared.toSustained.dropRule f, ported, (Trims.dropRule store f).coherent shared.coherent⟩,
      returned⟩

/-! ## Aging and removal -/

structure Swept (demands : Demands) (before after : FlowStore) : Prop where
  shared : Shared demands after
  ports : Relation.ReflTransGen (PortReturned demands) before.ports after.ports

def PortedSince (demands : Demands) (start store : FlowStore) : Prop :=
  Lasting store ∧ Ported demands store ∧
    Relation.ReflTransGen (PortReturned demands) start.ports store.ports

theorem sweepable_portedSince (demands : Demands) (start : FlowStore) :
    Sweepable (PortedSince demands start) where
  dropRule := by
    rintro store key f ⟨lasting, ported, ports⟩ filed
    obtain ⟨trimmed, lasts⟩ := sweepable_lasting.dropRule lasting filed
    refine ⟨trimmed, lasts, (ported.dropRule lasting f).1, ?_⟩
    rw [trimmed.ports]
    exact ports
  delete := by
    rintro store key f ⟨lasting, ported, ports⟩ filed
    obtain ⟨kept, returned⟩ := ported.deleteFlow filed (lasting.filed key f filed)
    exact ⟨lasting.deleteFlow filed, kept, ports.tail returned⟩

theorem Shared.swept {due : FlowKey → Handle → Prop} {start : FlowStore}
    (shared : Shared demands start)
    (sweeping : Sweeping (PortedSince demands start) due start store [])
    (trims : Trims start store)
    (whole : ∀ f key other, start.Live f → (start.value f).Undecided →
      start.table.lookup key = some f → start.table.lookup other = some f →
        due key f → due other f) :
    Swept demands start store := by
  obtain ⟨lasting, ported, ports⟩ := sweeping.kept
  exact
    ⟨⟨sweeping.sustained lasting shared.toSustained whole, ported,
      trims.coherent shared.coherent⟩, ports⟩

theorem Shared.age (shared : Shared demands store) (now timerHz : UInt64)
    (expired : FlowKey → Nat) :
    Swept demands store (dpProcessAgedFlowsNonOffload now timerHz expired store) :=
  shared.swept
    ((sweepable_portedSince demands store).age ⟨shared.toLasting, shared.toPorted, .refl⟩
      now timerHz expired)
    (Trims.ageFlows now timerHz expired store) fun _ _ _ _ _ _ _ due => due

theorem Shared.remove (shared : Shared demands store) {chosen : FlowKey → FlowValue → Bool}
    (whole : WholeFlows chosen) (stored : FlowKey → Nat) :
    Swept demands store (dpRemoveFlows chosen stored store) :=
  shared.swept
    ((sweepable_portedSince demands store).remove ⟨shared.toLasting, shared.toPorted, .refl⟩
      whole.counts stored)
    (Trims.removeFlows chosen stored store) (whole.splitsNone shared.toSustained).whole

/-! ## New flows -/

theorem Ported.insert (ported : Ported demands store) (lasting : Lasting store) (key : FlowKey)
    {natType : FlowNatType} (other : natType ≠ .networkLocal) (port : PortId) :
    Ported demands (inserted store key natType port) := by
  have live : ∀ f, (inserted store key natType port).Live f ↔ _ :=
    FlowStore.live_allocated_iff lasting (FlowValue.created key natType port)
  have fresh := inserted_value_new store key natType port
  have value : ∀ f, store.Live f → (inserted store key natType port).value f = store.value f :=
    fun f => inserted_value_of_live key natType port
  have notNatted : ¬ (FlowValue.created key natType port).NatLocal := other
  -- a flow behind NAT is one of before
  have natted : ∀ f, (inserted store key natType port).Live f →
      ((inserted store key natType port).value f).NatLocal → store.Live f := by
    intro f now natLocal
    rcases (live f).mp now with before | same
    · exact before
    · subst same
      rw [fresh] at natLocal
      exact absurd natLocal notNatted
  constructor
  · intro f now undecided
    rcases (live f).mp now with before | same
    · rw [value f before] at undecided ⊢
      exact ported.undecided f before undecided
    · subst same
      rw [fresh]
      exact ⟨rfl, notNatted⟩
  · intro f now
    rcases (live f).mp now with before | same
    · rw [value f before]
      exact ported.sameVni f before
    · subst same
      rw [fresh]
      exact dpInvertFlowKey_vni key
  · intro f now natLocal
    have before := natted f now natLocal
    rw [value f before] at natLocal ⊢
    exact ported.natted f before natLocal
  · intro f g overload liveF liveG natF natG ownsF ownsG
    have beforeF := natted f liveF natF
    have beforeG := natted g liveG natG
    rw [value f beforeF] at natF ownsF
    rw [value g beforeG] at natG ownsG
    exact ported.distinct f g overload beforeF beforeG natF natG ownsF ownsG
  intro demanded overload allocation held
  obtain ⟨f, before, natLocal, owns⟩ :=
    ported.owned demanded overload allocation held
  refine ⟨f, (live f).mpr (Or.inl before), ?_⟩
  rw [value f before]
  exact ⟨natLocal, owns⟩

theorem Shared.insert (shared : Shared demands store) (key : FlowKey) {natType : FlowNatType}
    (other : natType ≠ .networkLocal) (port : PortId) :
    Shared demands (inserted store key natType port) := by
  have keeps : Keeps (fun _ _ => True) store _ :=
    .insertEntry shared.coherent InsertOutcomes.succeed key natType port
  rw [flowTableInsertEntry_succeed] at keeps
  exact
    ⟨shared.toSustained.inserted key natType port,
      shared.toPorted.insert shared.toLasting key other port, keeps.coherent⟩

/-! ## New keys for the answers -/

/-- A flow has been decided about, and its answers are expected under another
key. -/
structure Rekeys (before after : FlowStore) (f : Handle) : Prop where
  arena : after.arena = before.arena
  others : ∀ g, g ≠ f → after.value g = before.value g
  org : (after.value f).org = (before.value f).org
  decided : ¬ (after.value f).Undecided

/-- The ports after a flow was decided about: it has got the port it will give
back, or it has none. -/
def PortTaken (demands : Demands) (before after : NatPorts) (value : FlowValue) : Prop :=
  (¬ value.NatLocal ∧ Unchanged before after) ∨
    (value.NatLocal ∧
      ∃ key allocation, Allocates before after key allocation ∧ Owns demands value after key)

section Rekeying

variable {after : FlowStore} {f : Handle}

theorem Rekeys.live_iff (rekeys : Rekeys store after f) (g : Handle) :
    after.Live g ↔ store.Live g := by
  rw [FlowStore.Live, rekeys.arena]
  rfl

theorem Allocates.kept {before after : NatPorts} {key other : PortoverloadKey}
    {allocation : Allocation} (allocates : Allocates before after key allocation)
    (held : before.portoverload.lookup other ≠ none) :
    after.portoverload.lookup other = before.portoverload.lookup other := by
  rw [allocates.added, if_neg]
  intro same
  subst same
  exact held allocates.free

theorem PortTaken.kept {before after : NatPorts} {value : FlowValue} {key : PortoverloadKey}
    (taken : PortTaken demands before after value) (held : before.portoverload.lookup key ≠ none) :
    after.portoverload.lookup key = before.portoverload.lookup key := by
  rcases taken with ⟨_, unchanged⟩ | ⟨_, own, allocation, allocates, _⟩
  · exact unchanged.portoverload key
  exact allocates.kept held

theorem Ported.rekey (ported : Ported demands store) (live : store.Live f)
    (undecided : (store.value f).Undecided) (rekeys : Rekeys store after f)
    (vni : (after.value f).reply.vni = (after.value f).org.vni)
    (taken : PortTaken demands store.ports after.ports (after.value f)) :
    Ported demands after := by
  have lives := rekeys.live_iff
  obtain ⟨_, unnatted⟩ := ported.undecided f live undecided
  have different : ∀ g, (store.value g).NatLocal → g ≠ f := by
    intro g natG same
    exact unnatted (same ▸ natG)
  constructor
  · intro g liveG undecidedG
    have same : g ≠ f := by
      intro same
      subst same
      exact rekeys.decided undecidedG
    rw [rekeys.others g same] at undecidedG ⊢
    exact ported.undecided g ((lives g).mp liveG) undecidedG
  · intro g liveG
    by_cases same : g = f
    · subst same
      exact vni
    · rw [rekeys.others g same]
      exact ported.sameVni g ((lives g).mp liveG)
  · intro g liveG natG
    by_cases same : g = f
    · subst same
      rcases taken with ⟨notNatted, _⟩ | ⟨_, own, _, _, owns⟩
      · exact absurd natG notNatted
      · exact ⟨own, owns⟩
    · rw [rekeys.others g same] at natG ⊢
      obtain ⟨key, owns⟩ := ported.natted g ((lives g).mp liveG) natG
      exact ⟨key, owns.setPorts (taken.kept owns.held)⟩
  · intro g h key liveG liveH natG natH ownsG ownsH
    -- a flow that is not `f` owned its port before
    have before : ∀ k, k ≠ f → after.Live k → (after.value k).NatLocal →
        Owns demands (after.value k) after.ports key →
        (store.value k).NatLocal ∧ Owns demands (store.value k) store.ports key := by
      intro k notF liveK natK ownsK
      rw [rekeys.others k notF] at natK ownsK
      exact ⟨natK, ownsK.of_kept (ported.natted k ((lives k).mp liveK) natK)
        fun _ owns => taken.kept owns.held⟩
    -- so its port is not the one that was taken
    have apart : ∀ k, k ≠ f → after.Live k → (after.value k).NatLocal →
        Owns demands (after.value k) after.ports key →
        (after.value f).NatLocal → ¬ Owns demands (after.value f) after.ports key := by
      intro k notF liveK natK ownsK natF ownsF
      rcases taken with ⟨notNatted, _⟩ | ⟨_, own, _, allocates, ownsNew⟩
      · exact notNatted natF
      have owned := (before k notF liveK natK ownsK).2
      rw [ownsF.unique ownsNew] at owned
      exact owned.held allocates.free
    by_cases sameG : g = f
    · by_cases sameH : h = f
      · rw [sameG, sameH]
      · exact absurd (sameG ▸ ownsG) (apart h sameH liveH natH ownsH (sameG ▸ natG))
    by_cases sameH : h = f
    · exact absurd (sameH ▸ ownsH) (apart g sameG liveG natG ownsG (sameH ▸ natH))
    obtain ⟨natBeforeG, ownsBeforeG⟩ := before g sameG liveG natG ownsG
    obtain ⟨natBeforeH, ownsBeforeH⟩ := before h sameH liveH natH ownsH
    exact
      ported.distinct g h key ((lives g).mp liveG) ((lives h).mp liveH)
        natBeforeG natBeforeH ownsBeforeG ownsBeforeH
  intro demanded key allocation held
  have old : ∀ entry, store.ports.portoverload.lookup key = some entry →
      ∃ g, after.Live g ∧ (after.value g).NatLocal ∧
        Owns demands (after.value g) after.ports key := by
    intro entry heldBefore
    obtain ⟨g, liveG, natG, owns⟩ := ported.owned demanded key entry heldBefore
    refine ⟨g, (lives g).mpr liveG, ?_⟩
    rw [rekeys.others g (different g natG)]
    exact ⟨natG, owns.setPorts (taken.kept owns.held)⟩
  rcases taken with ⟨_, unchanged⟩ | ⟨natF, own, _, allocates, owns⟩
  · rw [unchanged.portoverload] at held
    exact old allocation held
  rw [allocates.added] at held
  split at held
  · rename_i same
    subst same
    exact ⟨f, (lives f).mpr live, natF, owns⟩
  · exact old allocation held

end Rekeying

structure Decided (before start : FlowStore) (f : Handle) : Prop
    extends Unmoved before start where
  others : ∀ g, g ≠ f → start.value g = before.value g
  created : (start.value f).createdPortId = (before.value f).createdPortId
  flags : ¬ (start.value f).Undecided

theorem Shared.rekey {start : FlowStore} {f : Handle} (shared : Shared demands store)
    (live : store.Live f) (undecided : (store.value f).Undecided)
    (two : (store.value f).refCount = 2) (decided : Decided store start f)
    (rewrite : FlowKey → FlowKey)
    (vni : (rewrite (start.value f).reply).vni = (start.value f).org.vni)
    (taken : ∀ refCount,
      PortTaken demands store.ports start.ports ((start.value f).rekeyed rewrite refCount)) :
    ∃ after, replaceReplyKey true start f rewrite = (after, true) ∧ Shared demands after ∧
      Rekeys store after f ∧ after.ports = start.ports := by
  obtain ⟨sustained, -, refiles⟩ :=
    shared.toSustained.rekey live undecided two decided.toUnmoved decided.flags true rewrite
  have coherent : Coherent start := by
    constructor
    · rw [decided.table, decided.arena]
      intro key g filed
      rw [decided.org, decided.reply]
      exact shared.coherent.filed key g filed
    · rw [decided.cached, decided.arena, decided.table, decided.other]
      intro g held
      rw [decided.org, decided.reply]
      exact shared.coherent.cached g held
  have old : f < start.arena.next := decided.arena ▸ live.1
  have keeps : Keeps (fun _ _ => True) start _ :=
    .replaceReplyKey coherent old (fun _ => trivial) true rewrite
  generalize result : replaceReplyKey true start f rewrite = exchanged at *
  obtain ⟨after, added⟩ := exchanged
  obtain rfl : added = true := (congrArg Prod.snd result).symm
  have rekeys : Rekeys store after f := by
    refine ⟨refiles.arena.trans decided.arena, ?_, ?_, ?_⟩
    · intro g different
      exact (refiles.others g different).trans (decided.others g different)
    · exact (congrArg FlowValue.org refiles.value).trans (decided.org f)
    · rw [refiles.value]
      exact decided.flags
  refine ⟨after, rfl, ⟨sustained, ?_, keeps.coherent⟩, rekeys, refiles.ports⟩
  apply shared.toPorted.rekey live undecided rekeys
  · rw [refiles.value]
    exact vni
  · rw [refiles.value, refiles.ports]
    exact taken _

/-! ## Ports without a flow -/

theorem Shared.withPorts (shared : Shared demands store) {ports : NatPorts}
    (kept : ∀ key, store.ports.portoverload.lookup key ≠ none →
      ports.portoverload.lookup key = store.ports.portoverload.lookup key)
    (owned : demands.owned → ∀ key, ports.portoverload.lookup key ≠ none →
      store.ports.portoverload.lookup key ≠ none) :
    Shared demands { store with ports } :=
  { (Unmoved.setPorts store ports).sustained shared.toSustained, shared.toPorted with
    coherent := { shared.coherent with }
    natted := by
      intro f live natLocal
      obtain ⟨key, owns⟩ := shared.natted f live natLocal
      exact ⟨key, owns.setPorts (kept key owns.held)⟩
    distinct := by
      intro f g key liveF liveG natF natG ownsF ownsG
      -- what is owned now was owned before
      apply shared.distinct f g key liveF liveG natF natG
      · exact ownsF.of_kept (shared.natted f liveF natF) fun own owns => kept own owns.held
      · exact ownsG.of_kept (shared.natted g liveG natG) fun own owns => kept own owns.held
    owned := by
      intro demanded key allocation held
      have before := owned demanded key (by rw [held]; exact Option.some_ne_none allocation)
      rw [kept key before] at held
      obtain ⟨f, live, natLocal, owns⟩ := shared.owned demanded key allocation held
      exact ⟨f, live, natLocal, owns.setPorts (kept key before)⟩ }

theorem Shared.setPorts (shared : Shared demands store) {ports : NatPorts}
    (unchanged : Unchanged store.ports ports) :
    Shared demands { store with ports } :=
  shared.withPorts (fun key _ => unchanged.portoverload key)
    fun _ key held => unchanged.portoverload key ▸ held

theorem Shared.leak (shared : Shared demands store) (tolerated : ¬ demands.owned)
    {ports : NatPorts} {key : PortoverloadKey} {allocation : Allocation}
    (allocates : Allocates store.ports ports key allocation) :
    Shared demands { store with ports } :=
  shared.withPorts (fun _ => allocates.kept) fun demanded => absurd demanded tolerated

end DpService.Flow
