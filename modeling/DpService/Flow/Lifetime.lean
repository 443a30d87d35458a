import DpService.Flow.Coherence

/-!
# How long flows last

What refers to a flow is to refer to one that was not freed.  Here this is kept
by every operation of the store, whatever fails: entries may be replaced by
those of other flows, and references may be left over, but a flow never has
fewer references than there are entries and rules of it.

The one danger is the exchange of the key of the answers, which gives up a
reference for whatever is filed under the old key.  A flow that can still get
there must have both of its references.
-/

namespace DpService.Flow

open Foundations Packet Dataplane

/-- Nothing refers to a flow that was freed, and none was freed twice. -/
structure NoDangling (store : FlowStore) : Prop where
  filed : ∀ key f, store.table.lookup key = some f → store.Live f
  cached : ∀ f, store.cache.cached = some f → store.Live f
  once : ∀ f, store.arena.freed f ≤ 1

/-- A flow has a reference for every entry and every rule. -/
structure Lasting (store : FlowStore) : Prop extends NoDangling store where
  unused : ∀ f, store.arena.next ≤ f → store.arena.freed f = 0
  spent : ∀ f, ¬ store.Live f → (store.value f).rules = 0
  counted : ∀ f, store.Live f →
    (store.table.holders f).card + (store.value f).rules ≤ (store.value f).refCount
  unruled : ∀ f, store.Live f → (store.value f).Undecided → (store.value f).rules = 0

theorem lasting_empty : Lasting FlowStore.empty where
  filed := nofun
  cached := nofun
  once := fun _ => Nat.zero_le 1
  unused := fun _ _ => rfl
  spent := fun _ _ => rfl
  counted := fun _ live => absurd live.1 (Nat.not_lt_zero _)
  unruled := fun _ _ _ => rfl

variable {store before after : FlowStore} {f g : Handle}

/-! ## Changes that count nothing -/

/-- Flows are found and counted as before, and none becomes undecided. -/
structure Unmoved (before after : FlowStore) : Prop where
  arena : after.arena = before.arena
  table : after.table = before.table
  cached : after.cache.cached = before.cache.cached
  other : after.cache.other = before.cache.other
  org : ∀ f, (after.value f).org = (before.value f).org
  reply : ∀ f, (after.value f).reply = (before.value f).reply
  refCount : ∀ f, (after.value f).refCount = (before.value f).refCount
  rules : ∀ f, (after.value f).rules = (before.value f).rules
  undecided : ∀ f, (after.value f).Undecided → (before.value f).Undecided

namespace Unmoved

theorem refl (store : FlowStore) : Unmoved store store :=
  ⟨rfl, rfl, rfl, rfl, fun _ => rfl, fun _ => rfl, fun _ => rfl, fun _ => rfl, fun _ => id⟩

theorem trans {first second third : FlowStore} (left : Unmoved first second)
    (right : Unmoved second third) : Unmoved first third where
  arena := right.arena.trans left.arena
  table := right.table.trans left.table
  cached := right.cached.trans left.cached
  other := right.other.trans left.other
  org := fun f => (right.org f).trans (left.org f)
  reply := fun f => (right.reply f).trans (left.reply f)
  refCount := fun f => (right.refCount f).trans (left.refCount f)
  rules := fun f => (right.rules f).trans (left.rules f)
  undecided := fun f undecided => left.undecided f (right.undecided f undecided)

theorem setPorts (store : FlowStore) (ports : NatPorts) : Unmoved store { store with ports } :=
  ⟨rfl, rfl, rfl, rfl, fun _ => rfl, fun _ => rfl, fun _ => rfl, fun _ => rfl, fun _ => id⟩

theorem setCurr (store : FlowStore) (key : FlowKey) :
    Unmoved store { store with cache := { store.cache with curr := key } } :=
  ⟨rfl, rfl, rfl, rfl, fun _ => rfl, fun _ => rfl, fun _ => rfl, fun _ => rfl, fun _ => id⟩

theorem modify {change : FlowValue → FlowValue}
    (org : (change (store.value f)).org = (store.value f).org)
    (reply : (change (store.value f)).reply = (store.value f).reply)
    (refCount : (change (store.value f)).refCount = (store.value f).refCount)
    (rules : (change (store.value f)).rules = (store.value f).rules)
    (undecided : (change (store.value f)).Undecided → (store.value f).Undecided) :
    Unmoved store (store.modify f change) := by
  -- a property of both values of a flow, changed or not
  have each : ∀ property : FlowValue → FlowValue → Prop, (∀ value, property value value) →
      property (store.value f) (change (store.value f)) →
        ∀ g, property (store.value g) ((store.modify f change).value g) := by
    intro property same changed g
    by_cases isF : g = f
    · rw [isF, FlowStore.modify_value_self]
      exact changed
    · rw [FlowStore.modify_value_of_ne store change isF]
      exact same _
  exact
    ⟨rfl, rfl, rfl, rfl, each (fun old new => new.org = old.org) (fun _ => rfl) org,
      each (fun old new => new.reply = old.reply) (fun _ => rfl) reply,
      each (fun old new => new.refCount = old.refCount) (fun _ => rfl) refCount,
      each (fun old new => new.rules = old.rules) (fun _ => rfl) rules,
      each (fun old new => new.Undecided → old.Undecided) (fun _ => id) undecided⟩

theorem live_iff (unmoved : Unmoved before after) (f : Handle) : after.Live f ↔ before.Live f := by
  rw [FlowStore.Live, FlowStore.Live, unmoved.arena]

theorem found_iff (unmoved : Unmoved before after) (f : Handle) :
    after.Found f ↔ before.Found f := by
  rw [FlowStore.Found, FlowStore.Found, unmoved.table, unmoved.cached]

theorem lasting (unmoved : Unmoved before after) (lasting : Lasting before) : Lasting after where
  filed := by
    intro key f found
    rw [unmoved.table] at found
    exact (unmoved.live_iff f).mpr (lasting.filed key f found)
  cached := by
    intro f held
    rw [unmoved.cached] at held
    exact (unmoved.live_iff f).mpr (lasting.cached f held)
  once := by
    rw [unmoved.arena]
    exact lasting.once
  unused := by
    rw [unmoved.arena]
    exact lasting.unused
  spent := by
    intro f gone
    rw [unmoved.rules]
    exact lasting.spent f fun live => gone ((unmoved.live_iff f).mpr live)
  counted := by
    intro f live
    rw [unmoved.table, unmoved.rules, unmoved.refCount]
    exact lasting.counted f ((unmoved.live_iff f).mp live)
  unruled := by
    intro f live undecided
    rw [unmoved.rules]
    exact lasting.unruled f ((unmoved.live_iff f).mp live) (unmoved.undecided f undecided)

end Unmoved

/-! ## References -/

theorem Lasting.modify (lasting : Lasting store) (live : store.Live f)
    {change : FlowValue → FlowValue}
    (counted : (store.table.holders f).card + (change (store.value f)).rules ≤
        (change (store.value f)).refCount)
    (unruled : (change (store.value f)).Undecided → (change (store.value f)).rules = 0) :
    Lasting (store.modify f change) where
  filed := lasting.filed
  cached := lasting.cached
  once := lasting.once
  unused := lasting.unused
  spent := by
    intro g gone
    have different : g ≠ f := fun same => gone (same ▸ live)
    rw [FlowStore.modify_value_of_ne store change different]
    exact lasting.spent g gone
  counted := by
    intro g liveG
    by_cases same : g = f
    · subst same
      rw [FlowStore.modify_value_self]
      exact counted
    · rw [FlowStore.modify_value_of_ne store change same]
      exact lasting.counted g liveG
  unruled := by
    intro g liveG
    by_cases same : g = f
    · subst same
      rw [FlowStore.modify_value_self]
      exact unruled
    · rw [FlowStore.modify_value_of_ne store change same]
      exact lasting.unruled g liveG

theorem Lasting.flush (lasting : Lasting store) : Lasting (dpCntrackFlushCache store) :=
  { lasting with cached := nofun }

theorem Lasting.giveUp (lasting : Lasting store) (live : store.Live f)
    (unheld : store.table.holders f = ∅) (forgotten : store.cache.cached ≠ some f)
    (noRules : (store.value f).rules = 0) :
    Lasting { store with arena := store.arena.free f } := by
  have survivors : ∀ g,
      FlowStore.Live { store with arena := store.arena.free f } g ↔ store.Live g ∧ g ≠ f :=
    store.live_free_iff f
  constructor
  · constructor
    · intro key g found
      refine (survivors g).mpr ⟨lasting.filed key g found, ?_⟩
      intro same
      have holder := (FiniteTable.mem_holders store.table f key).mpr (same ▸ found)
      rw [unheld] at holder
      cases holder
    · intro g held
      refine (survivors g).mpr ⟨lasting.cached g held, ?_⟩
      intro same
      exact forgotten (same ▸ held)
    intro g
    change Function.update store.arena.freed f _ g ≤ 1
    by_cases same : g = f
    · rw [same, Function.update_self, live.2]
    · rw [Function.update_of_ne same]
      exact lasting.once g
  · intro g later
    change Function.update store.arena.freed f _ g = 0
    rw [Function.update_of_ne]
    · exact lasting.unused g later
    · intro same
      exact absurd live.1 (Nat.not_lt.mpr (same ▸ later))
  · intro g gone
    by_cases same : g = f
    · rw [same]
      exact noRules
    · apply lasting.spent g
      intro liveG
      exact gone ((survivors g).mpr ⟨liveG, same⟩)
  · intro g liveG
    exact lasting.counted g ((survivors g).mp liveG).1
  · intro g liveG
    exact lasting.unruled g ((survivors g).mp liveG).1

theorem Lasting.free (lasting : Lasting store) (live : store.Live f)
    (unheld : store.table.holders f = ∅) (noRules : (store.value f).rules = 0) :
    Lasting (dpFreeFlow store f) :=
  (Unmoved.setPorts _ _).lasting (lasting.flush.giveUp live unheld (by exact nofun) noRules)

theorem Lasting.refDec (lasting : Lasting store) (spare : Spare store f) :
    Lasting (dpRefDec store f) := by
  have references := spare.references
  have decreased : Lasting (store.modify f dropReference) := by
    apply lasting.modify spare.live
    · change (store.table.holders f).card + (store.value f).rules ≤ (store.value f).refCount - 1
      omega
    · exact lasting.unruled f spare.live
  rw [dpRefDec_eq]
  split
  · rename_i last
    have unheld : (store.table.holders f).card = 0 := by omega
    refine decreased.free spare.live (Finset.card_eq_zero.mp unheld) ?_
    rw [FlowStore.modify_value_self]
    change (store.value f).rules = 0
    omega
  · exact decreased

theorem Lasting.erase (lasting : Lasting store) (key : FlowKey) : Lasting (erased store key) where
  filed := fun other g found => lasting.filed other g ((Trims.erase store key).table other g found)
  cached := nofun
  once := lasting.once
  unused := lasting.unused
  spent := lasting.spent
  counted := by
    intro g live
    have fewer := FiniteTable.card_holders_erase_le store.table key g
    have counted := lasting.counted g live
    exact (Nat.add_le_add_right fewer _).trans counted
  unruled := lasting.unruled

theorem Lasting.deleteFlow (lasting : Lasting store) {key : FlowKey}
    (filed : store.table.lookup key = some f) :
    Lasting (dpDeleteFlow store key f).1 := by
  have live := lasting.filed key f filed
  have fewer := FiniteTable.card_holders_erase_of_lookup store.table filed
  have counted := lasting.counted f live
  rw [dpDeleteFlow_of_filed filed]
  refine (lasting.erase key).refDec ⟨live, ?_⟩
  change
    (FiniteTable.holders (store.table.erase key) f).card +
        (store.value f).rules + 1 ≤ (store.value f).refCount
  omega

theorem Lasting.dropRule (lasting : Lasting store) (f : Handle) : Lasting (dropRule store f) := by
  unfold Flow.dropRule
  split
  · exact lasting
  rename_i some
  have live : store.Live f := by
    by_contra gone
    exact some (lasting.spent f gone)
  have counted := lasting.counted f live
  have fewer :
      Lasting
        (store.modify f fun value => { value with rules := value.rules - 1 }) := by
    apply lasting.modify live
    · change (store.table.holders f).card + ((store.value f).rules - 1) ≤ (store.value f).refCount
      omega
    · intro undecided
      exact absurd (lasting.unruled f live undecided) some
  refine fewer.refDec ⟨live, ?_⟩
  rw [FlowStore.modify_value_self]
  change (store.table.holders f).card + ((store.value f).rules - 1) + 1 ≤ (store.value f).refCount
  omega

/-! ## New entries -/

theorem Lasting.file (lasting : Lasting store) (live : store.Live f) {key : FlowKey}
    (counted :
      (FiniteTable.holders (store.table.insert key f) f).card +
        (store.value f).rules ≤ (store.value f).refCount) :
    Lasting { store with table := store.table.insert key f } where
  filed := by
    intro other g found
    rw [FiniteTable.lookup_insert_eq] at found
    split at found
    · rw [← Option.some_inj.mp found]
      exact live
    · exact lasting.filed other g found
  cached := lasting.cached
  once := lasting.once
  unused := lasting.unused
  spent := lasting.spent
  counted := by
    intro g liveG
    by_cases same : g = f
    · subst same
      exact counted
    · have fewer :=
        FiniteTable.card_holders_insert_of_ne_le store.table key same
      exact (Nat.add_le_add_right fewer _).trans (lasting.counted g liveG)
  unruled := lasting.unruled

theorem FlowStore.live_allocated_iff (lasting : Lasting store) (value : FlowValue) (f : Handle) :
    (store.allocated value).Live f ↔ store.Live f ∨ f = store.arena.next := by
  change
    f < store.arena.next + 1 ∧ store.arena.freed f = 0 ↔
      (f < store.arena.next ∧ store.arena.freed f = 0) ∨ f = store.arena.next
  have fresh := lasting.unused store.arena.next (Nat.le_refl _)
  constructor
  · rintro ⟨bound, unfreed⟩
    rcases Nat.lt_succ_iff_lt_or_eq.mp bound with earlier | same
    · exact Or.inl ⟨earlier, unfreed⟩
    · exact Or.inr same
  rintro (⟨bound, unfreed⟩ | same)
  · exact ⟨Nat.lt_succ_of_lt bound, unfreed⟩
  · rw [same]
    exact ⟨Nat.lt_succ_self _, fresh⟩

theorem Lasting.holders_next (lasting : Lasting store) :
    store.table.holders store.arena.next = ∅ := by
  rw [Finset.eq_empty_iff_forall_notMem]
  intro key member
  have filed := (FiniteTable.mem_holders store.table _ key).mp member
  exact absurd (lasting.filed key _ filed).1 (Nat.lt_irrefl _)

theorem Lasting.allocate (lasting : Lasting store) {value : FlowValue} (noRules : value.rules = 0) :
    Lasting (store.allocated value) := by
  have live := FlowStore.live_allocated_iff lasting value
  have old : ∀ g, store.Live g → (store.allocated value).value g = store.value g :=
    fun g liveG => FlowStore.allocated_value_old value liveG.1
  constructor
  · exact
      ⟨fun key g found => (live g).mpr (Or.inl (lasting.filed key g found)),
        fun g held => (live g).mpr (Or.inl (lasting.cached g held)), lasting.once⟩
  · intro g later
    exact lasting.unused g (Nat.le_of_succ_le later)
  · intro g gone
    have notNew : g ≠ store.arena.next := fun same => gone ((live g).mpr (Or.inr same))
    have kept : (store.allocated value).value g = store.value g := Function.update_of_ne notNew ..
    rw [kept]
    exact lasting.spent g fun before => gone ((live g).mpr (Or.inl before))
  · intro g now
    rcases (live g).mp now with before | same
    · rw [old g before]
      exact lasting.counted g before
    subst same
    rw [FlowStore.allocated_value_new, noRules]
    change (store.table.holders store.arena.next).card + 0 ≤ _
    rw [lasting.holders_next]
    exact Nat.zero_le _
  intro g now undecided
  rcases (live g).mp now with before | same
  · rw [old g before] at undecided ⊢
    exact lasting.unruled g before undecided
  · rw [same, FlowStore.allocated_value_new]
    exact noRules

/-! ## Flows that nobody has decided about -/

/-- The flow has the two keys that it was created with, and both references
as long as it can be found. -/
structure Intact (store : FlowStore) (f : Handle) : Prop where
  vni : (store.value f).reply.vni = (store.value f).org.vni
  keys : ∀ key, store.table.lookup key = some f →
    key = (store.value f).org ∨ key = (store.value f).reply
  pair : store.Found f → (store.value f).refCount = 2

/-- Flows last, and those that nobody has decided about are intact. -/
structure Sustained (store : FlowStore) : Prop extends Lasting store where
  intact : ∀ f, store.Live f → (store.value f).Undecided → Intact store f

theorem sustained_empty : Sustained FlowStore.empty :=
  { lasting_empty with intact := fun _ live => absurd live.1 (Nat.not_lt_zero _) }

theorem Intact.transport (intact : Intact before f)
    (org : (after.value f).org = (before.value f).org)
    (reply : (after.value f).reply = (before.value f).reply)
    (filed : ∀ key, after.table.lookup key = some f → before.table.lookup key = some f)
    (found : after.Found f →
      before.Found f ∧ (after.value f).refCount = (before.value f).refCount) :
    Intact after f where
  vni := by
    rw [org, reply]
    exact intact.vni
  keys := by
    intro key now
    rw [org, reply]
    exact intact.keys key (filed key now)
  pair := by
    intro now
    rw [(found now).2]
    exact intact.pair (found now).1

theorem Unmoved.sustained (unmoved : Unmoved before after) (sustained : Sustained before) :
    Sustained after where
  toLasting := unmoved.lasting sustained.toLasting
  intact := by
    intro f live undecided
    have intact := sustained.intact f ((unmoved.live_iff f).mp live) (unmoved.undecided f undecided)
    refine intact.transport (unmoved.org f) (unmoved.reply f) ?_ ?_
    · intro key found
      rw [← unmoved.table]
      exact found
    · intro found
      exact ⟨(unmoved.found_iff f).mp found, unmoved.refCount f⟩

theorem Sustained.cacheFlow (sustained : Sustained store) {key : FlowKey}
    (filed : store.table.lookup key = some f) :
    Sustained (dpCacheFlowVal store f) where
  filed := sustained.filed
  cached := by
    intro g held
    rw [← Option.some_inj.mp held]
    exact sustained.filed key f filed
  once := sustained.once
  unused := sustained.unused
  spent := sustained.spent
  counted := sustained.counted
  unruled := sustained.unruled
  intact := by
    intro g live undecided
    refine (sustained.intact g live undecided).transport rfl rfl (fun _ => id) ?_
    rintro (filedG | held)
    · exact ⟨Or.inl filedG, rfl⟩
    · refine ⟨Or.inl ⟨key, ?_⟩, rfl⟩
      rw [← Option.some_inj.mp held]
      exact filed

/-! ## New flows -/

theorem Lasting.inserted (lasting : Lasting store) (key : FlowKey) (natType : FlowNatType)
    (port : PortId) : Lasting (inserted store key natType port) := by
  have allocated := lasting.allocate (show (FlowValue.created key natType port).rules = 0 from rfl)
  have live :
      (store.allocated (FlowValue.created key natType port)).Live store.arena.next :=
    (FlowStore.live_allocated_iff lasting _ _).mpr (Or.inr rfl)
  have value := FlowStore.allocated_value_new store (FlowValue.created key natType port)
  -- the two entries of the new flow are covered by its two references
  have first := FiniteTable.card_holders_insert_le store.table key store.arena.next
  have second :=
    FiniteTable.card_holders_insert_le
      (store.table.insert key store.arena.next) (dpInvertFlowKey key)
      store.arena.next
  rw [lasting.holders_next, Finset.card_empty] at first
  have filedOnce :=
    @Lasting.file _ _ allocated live key (by
      rw [value]
      exact Nat.add_le_add_right (first.trans (by decide)) 0)
  refine @Lasting.file _ _ filedOnce live (dpInvertFlowKey key) ?_
  change
    (FiniteTable.holders
        ((store.table.insert key store.arena.next).insert
          (dpInvertFlowKey key) store.arena.next) store.arena.next).card +
      ((store.allocated (FlowValue.created key natType port)).value store.arena.next).rules ≤
      ((store.allocated (FlowValue.created key natType port)).value store.arena.next).refCount
  rw [value]
  change _ + 0 ≤ 2
  omega

/-- What a visit of a packet leaves for the others: no flow is freed, and one
that nobody has decided about has kept its references. -/
structure Outlasts (before after : FlowStore) : Prop where
  live : ∀ f, before.Live f → after.Live f
  undecided : ∀ f, before.Live f → (after.value f).Undecided →
    (before.value f).Undecided ∧ (after.value f).refCount = (before.value f).refCount

theorem Outlasts.trans {first second third : FlowStore} (left : Outlasts first second)
    (right : Outlasts second third) : Outlasts first third where
  live := fun f live => right.live f (left.live f live)
  undecided := by
    intro f live undecided
    obtain ⟨middle, counts⟩ := right.undecided f (left.live f live) undecided
    obtain ⟨before, same⟩ := left.undecided f live middle
    exact ⟨before, counts.trans same⟩

theorem Unmoved.outlasts (unmoved : Unmoved before after) : Outlasts before after where
  live := fun f => (unmoved.live_iff f).mpr
  undecided := fun f _ undecided => ⟨unmoved.undecided f undecided, unmoved.refCount f⟩

theorem Sustained.modify (sustained : Sustained store) (live : store.Live f)
    {change : FlowValue → FlowValue}
    (org : (change (store.value f)).org = (store.value f).org)
    (reply : (change (store.value f)).reply = (store.value f).reply)
    (counted : (store.table.holders f).card + (change (store.value f)).rules ≤
        (change (store.value f)).refCount)
    (undecided : (change (store.value f)).Undecided → (store.value f).Undecided ∧
      (change (store.value f)).refCount = (store.value f).refCount ∧
      (change (store.value f)).rules = (store.value f).rules) :
    Sustained (store.modify f change) ∧ Outlasts store (store.modify f change) := by
  have each : ∀ g, ((store.modify f change).value g).Undecided → (store.value g).Undecided ∧
        ((store.modify f change).value g).refCount = (store.value g).refCount := by
    intro g now
    by_cases same : g = f
    · subst same
      rw [FlowStore.modify_value_self] at now ⊢
      exact ⟨(undecided now).1, (undecided now).2.1⟩
    · rw [FlowStore.modify_value_of_ne store change same] at now ⊢
      exact ⟨now, rfl⟩
  have lasting : Lasting (store.modify f change) := by
    apply sustained.toLasting.modify live counted
    intro now
    rw [(undecided now).2.2]
    exact sustained.unruled f live (undecided now).1
  refine ⟨⟨lasting, ?_⟩, fun _ => id, fun g _ => each g⟩
  intro g liveG now
  obtain ⟨before, counts⟩ := each g now
  have keys := FlowStore.modify_keys org reply g
  exact
    (sustained.intact g liveG before).transport keys.1 keys.2 (fun _ => id)
      fun found => ⟨found, counts⟩

theorem Sustained.pair (sustained : Sustained store) (found : store.Found f)
    (undecided : (store.value f).Undecided) : (store.value f).refCount = 2 := by
  have live : store.Live f := by
    rcases found with ⟨key, filed⟩ | held
    · exact sustained.filed key f filed
    · exact sustained.cached f held
  exact (sustained.intact f live undecided).pair found

/-- The flows of before are the same ones, and are found where they were or
not at all. -/
structure Leaves (before after : FlowStore) : Prop where
  live : ∀ f, before.Live f → after.Live f
  value : ∀ f, before.Live f → after.value f = before.value f
  filed : ∀ key f, before.Live f → after.table.lookup key = some f →
    before.table.lookup key = some f
  cached : ∀ f, after.cache.cached = some f → before.cache.cached = some f

theorem Leaves.outlasts (leaves : Leaves before after) : Outlasts before after where
  live := leaves.live
  undecided := by
    intro f live undecided
    rw [leaves.value f live] at undecided ⊢
    exact ⟨undecided, rfl⟩

theorem Leaves.intact (leaves : Leaves before after) (live : before.Live f)
    (intact : Intact before f) : Intact after f := by
  have value := leaves.value f live
  refine
    intact.transport (congrArg FlowValue.org value)
      (congrArg FlowValue.reply value) (fun key => leaves.filed key f live) ?_
  rintro (⟨key, filed⟩ | held)
  · exact ⟨Or.inl ⟨key, leaves.filed key f live filed⟩, congrArg FlowValue.refCount value⟩
  · exact ⟨Or.inr (leaves.cached f held), congrArg FlowValue.refCount value⟩

theorem inserted_leaves (lasting : Lasting store) (key : FlowKey) (natType : FlowNatType)
    (port : PortId) : Leaves store (inserted store key natType port) where
  live := fun f live =>
    (FlowStore.live_allocated_iff lasting (FlowValue.created key natType port) f).mpr (Or.inl live)
  value := fun f => inserted_value_of_live key natType port
  filed := by
    intro other f live found
    rw [inserted_lookup] at found
    split at found
    · exact absurd (Option.some_inj.mp found).symm (Nat.ne_of_lt live.1)
    · exact found
  cached := fun _ => id

theorem Sustained.inserted (sustained : Sustained store) (key : FlowKey) (natType : FlowNatType)
    (port : PortId) : Sustained (inserted store key natType port) where
  toLasting := sustained.toLasting.inserted key natType port
  intact := by
    intro f live undecided
    have leaves := inserted_leaves sustained.toLasting key natType port
    rcases (FlowStore.live_allocated_iff sustained.toLasting
      (FlowValue.created key natType port) f).mp live with old | new
    · rw [leaves.value f old] at undecided
      exact leaves.intact old (sustained.intact f old undecided)
    subst new
    have value := inserted_value_new store key natType port
    refine ⟨?_, ?_, fun _ => congrArg FlowValue.refCount value⟩
    · rw [value]
      exact dpInvertFlowKey_vni key
    intro other found
    rw [value]
    rw [inserted_lookup] at found
    split at found
    · rename_i keys
      exact keys
    · exact absurd (sustained.filed other _ found).1 (Nat.lt_irrefl _)

/-! ### New flows that are given up -/

theorem Lasting.cached_ne_next (lasting : Lasting store) :
    store.cache.cached ≠ some store.arena.next := by
  intro held
  exact Nat.lt_irrefl _ (lasting.cached _ held).1

def FlowStore.abandoned (store : FlowStore) (value : FlowValue) : FlowStore :=
  { store.allocated value with arena := (store.allocated value).arena.free store.arena.next }

theorem FlowStore.live_abandoned_iff (lasting : Lasting store) (value : FlowValue) (g : Handle) :
    (store.abandoned value).Live g ↔ store.Live g := by
  refine ((store.allocated value).live_free_iff store.arena.next g).trans ?_
  rw [FlowStore.live_allocated_iff lasting]
  constructor
  · rintro ⟨old | new, different⟩
    · exact old
    · exact absurd new different
  · intro old
    exact ⟨Or.inl old, Nat.ne_of_lt old.1⟩

theorem Sustained.of_leaves (sustained : Sustained store) (lasting : Lasting after)
    (leaves : Leaves store after) (old : ∀ g, after.Live g → store.Live g) : Sustained after where
  toLasting := lasting
  intact := by
    intro g live undecided
    have before := old g live
    rw [leaves.value g before] at undecided
    exact leaves.intact before (sustained.intact g before undecided)

theorem Sustained.abandon (sustained : Sustained store) {value : FlowValue}
    (noRules : value.rules = 0) :
    Sustained (store.abandoned value) ∧ Leaves store (store.abandoned value) := by
  have lasting := sustained.toLasting
  have survivors := FlowStore.live_abandoned_iff lasting value
  have leaves : Leaves store (store.abandoned value) :=
    ⟨fun g => (survivors g).mpr, fun g live => FlowStore.allocated_value_old value live.1,
      fun _ _ _ => id, fun _ => id⟩
  refine ⟨sustained.of_leaves ?_ leaves fun g => (survivors g).mp, leaves⟩
  apply (lasting.allocate noRules).giveUp
  · exact (FlowStore.live_allocated_iff lasting value _).mpr (Or.inr rfl)
  · exact lasting.holders_next
  · exact lasting.cached_ne_next
  · rw [FlowStore.allocated_value_new]
    exact noRules

theorem Lasting.filedNew (lasting : Lasting store) (key : FlowKey) (natType : FlowNatType)
    (port : PortId) :
    Lasting (store.filedNew (FlowValue.keyed key natType port)) := by
  have value := FlowStore.allocated_value_new store (FlowValue.keyed key natType port)
  have one := FiniteTable.card_holders_insert_le store.table key store.arena.next
  rw [lasting.holders_next, Finset.card_empty] at one
  apply (lasting.allocate (show (FlowValue.keyed key natType port).rules = 0 from rfl)).file
  · exact (FlowStore.live_allocated_iff lasting _ _).mpr (Or.inr rfl)
  · rw [value]
    exact one

theorem dpRefDec_arena_of_last (last : (store.value f).refCount = 1) :
    (dpRefDec store f).arena = store.arena.free f := by
  unfold dpRefDec
  dsimp only
  rw [if_pos last]
  rfl

theorem Sustained.unanswered (sustained : Sustained store) (key : FlowKey) (natType : FlowNatType)
    (port : PortId) :
    Sustained
        (dpDeleteFlow (store.filedNew (FlowValue.keyed key natType port)) key store.arena.next).1 ∧
      Leaves store
        (dpDeleteFlow (store.filedNew (FlowValue.keyed key natType port)) key
          store.arena.next).1 := by
  have lasting := sustained.toLasting
  have filed : (store.filedNew (FlowValue.keyed key natType port)).table.lookup key =
        some store.arena.next :=
    AList.lookup_insert _
  have deleted := dpDeleteFlow_deleted filed
  have lastingAfter := (lasting.filedNew key natType port).deleteFlow filed
  have value : (store.filedNew (FlowValue.keyed key natType port)).value store.arena.next =
        FlowValue.keyed key natType port :=
    FlowStore.allocated_value_new store _
  have arena :
      (dpDeleteFlow (store.filedNew (FlowValue.keyed key natType port)) key
          store.arena.next).1.arena =
        (store.abandoned (FlowValue.keyed key natType port)).arena := by
    rw [dpDeleteFlow_of_filed filed]
    exact dpRefDec_arena_of_last (congrArg FlowValue.refCount value)
  have survivors : ∀ g,
      (dpDeleteFlow (store.filedNew (FlowValue.keyed key natType port)) key
          store.arena.next).1.Live g ↔ store.Live g := by
    intro g
    rw [← FlowStore.live_abandoned_iff lasting
      (FlowValue.keyed key natType port), FlowStore.Live, arena]
    exact Iff.rfl
  have leaves :
      Leaves store
        (dpDeleteFlow (store.filedNew (FlowValue.keyed key natType port)) key
          store.arena.next).1 := by
    constructor
    · exact fun g => (survivors g).mpr
    · intro g live
      rw [deleted.others g (Nat.ne_of_lt live.1)]
      exact FlowStore.allocated_value_old _ live.1
    · intro other g live found
      rw [deleted.lookup] at found
      split at found
      · cases found
      · rename_i different
        exact (AList.lookup_insert_ne different).symm.trans found
    · intro g held
      rw [deleted.cached] at held
      cases held
  exact ⟨sustained.of_leaves lastingAfter leaves fun g => (survivors g).mp, leaves⟩

theorem Sustained.insertEntry (sustained : Sustained store) (outcomes : InsertOutcomes)
    (key : FlowKey) (natType : FlowNatType) (port : PortId) :
    Sustained (flowTableInsertEntry outcomes store key natType port).1 ∧
      Outlasts store (flowTableInsertEntry outcomes store key natType port).1 ∧
      ∀ f, (flowTableInsertEntry outcomes store key natType port).2 = some f →
        (flowTableInsertEntry outcomes store key natType port).1.table.lookup key = some f := by
  rcases outcomes with ⟨_ | _, addOrg, addReply⟩
  · exact ⟨sustained, (Unmoved.refl store).outlasts, nofun⟩
  cases addOrg with
  | false =>
    obtain ⟨kept, leaves⟩ :=
      sustained.abandon (show (FlowValue.fresh key natType port).rules = 0 from rfl)
    exact ⟨kept, leaves.outlasts, nofun⟩
  | true => ?_
  cases addReply with
  | false =>
    obtain ⟨kept, leaves⟩ := sustained.unanswered key natType port
    rw [flowTableInsertEntry_unanswered]
    exact ⟨kept, leaves.outlasts, nofun⟩
  | true => ?_
  have result := flowTableInsertEntry_succeed store key natType port
  rw [show (⟨true, true, true⟩ : InsertOutcomes) = InsertOutcomes.succeed from rfl, result]
  refine
    ⟨sustained.inserted key natType port,
      (inserted_leaves sustained.toLasting key natType port).outlasts, ?_⟩
  intro f returned
  rw [inserted_lookup, if_pos (Or.inl rfl)]
  exact returned

/-! ## New keys for the answers -/

def FlowValue.rekeyed (value : FlowValue) (rewrite : FlowKey → FlowKey) (refCount : Nat) :
    FlowValue :=
  { value with reply := rewrite value.reply, refCount }

/-- The key of a flow's answers has been exchanged, `added` telling whether
the new one is filed. -/
structure Refiles (before after : FlowStore) (f : Handle) (added : Bool)
    (rewrite : FlowKey → FlowKey) : Prop where
  arena : after.arena = before.arena
  ports : after.ports = before.ports
  others : ∀ g, g ≠ f → after.value g = before.value g
  value : after.value f = (before.value f).rekeyed rewrite (after.value f).refCount
  refCount :
    (after.value f).refCount +
        (if (before.table.lookup (before.value f).reply).isSome then 1
          else 0) =
      (before.value f).refCount + if added then 1 else 0
  lookup : ∀ key, after.table.lookup key =
      if added = true ∧ key = (after.value f).reply then some f
      else if key = (before.value f).reply then none
      else before.table.lookup key
  cache : after.cache.cached = none ∨
    (after.cache = before.cache ∧ before.table.lookup (before.value f).reply = none)

/-- The last steps of `replaceReplyKey`, for the store that the deletion
left. -/
def fileAnswers (added : Bool) (store : FlowStore) (f : Handle)
    (rewrite : FlowKey → FlowKey) : FlowStore :=
  if added then
    { dpRefInc
        (store.modify f fun value => { value with reply := rewrite value.reply }) f with
      table := store.table.insert (rewrite (store.value f).reply) f }
  else store.modify f fun value => { value with reply := rewrite value.reply }

theorem replaceReplyKey_eq (added : Bool) (store : FlowStore) (f : Handle)
    (rewrite : FlowKey → FlowKey) :
    (replaceReplyKey added store f rewrite).1 =
      fileAnswers added (dpDeleteFlow store (store.value f).reply f).1 f
        rewrite := by
  cases added with
  | false => rfl
  | true =>
    simp [replaceReplyKey, fileAnswers, dpAddFlow, dpRefInc, FlowStore.modify]

theorem fileAnswers_value_self (added : Bool) (store : FlowStore) (f : Handle)
    (rewrite : FlowKey → FlowKey) :
    (fileAnswers added store f rewrite).value f =
      { store.value f with
        reply := rewrite (store.value f).reply
        refCount := (store.value f).refCount + if added then 1 else 0 } := by
  cases added with
  | false =>
    rw [fileAnswers, if_neg Bool.false_ne_true, FlowStore.modify_value_self]
    rfl
  | true => ?_
  rw [fileAnswers, if_pos rfl]
  dsimp only [dpRefInc]
  rw [FlowStore.modify_value_self, FlowStore.modify_value_self]
  rfl

theorem fileAnswers_value_of_ne (added : Bool) (store : FlowStore) (rewrite : FlowKey → FlowKey)
    (different : g ≠ f) :
    (fileAnswers added store f rewrite).value g = store.value g := by
  cases added with
  | false =>
    rw [fileAnswers, if_neg Bool.false_ne_true, FlowStore.modify_value_of_ne _ _ different]
  | true =>
    rw [fileAnswers, if_pos rfl]
    dsimp only [dpRefInc]
    rw [FlowStore.modify_value_of_ne _ _ different, FlowStore.modify_value_of_ne _ _ different]

theorem fileAnswers_lookup (added : Bool) (store : FlowStore) (f : Handle)
    (rewrite : FlowKey → FlowKey) (key : FlowKey) :
    (fileAnswers added store f rewrite).table.lookup key =
      if added = true ∧ key = rewrite (store.value f).reply then some f
      else store.table.lookup key := by
  cases added with
  | false =>
    rw [if_neg (by rintro ⟨absurdity, _⟩; cases absurdity)]
    rfl
  | true =>
    change (store.table.insert _ f).lookup key = _
    rw [FiniteTable.lookup_insert_eq]
    simp

theorem fileAnswers_arena (added : Bool) (store : FlowStore) (f : Handle)
    (rewrite : FlowKey → FlowKey) :
    (fileAnswers added store f rewrite).arena = store.arena ∧
      (fileAnswers added store f rewrite).ports = store.ports ∧
      (fileAnswers added store f rewrite).cache = store.cache := by
  cases added with
  | false => exact ⟨rfl, rfl, rfl⟩
  | true => exact ⟨rfl, rfl, rfl⟩

theorem Lasting.fileAnswers (lasting : Lasting store) (live : store.Live f) (added : Bool)
    (rewrite : FlowKey → FlowKey) :
    Lasting (fileAnswers added store f rewrite) := by
  have counted := lasting.counted f live
  have rekeyed :
      Lasting
        (store.modify f fun value => { value with reply := rewrite value.reply }) :=
    lasting.modify live counted (lasting.unruled f live)
  cases added with
  | false => exact rekeyed
  | true => ?_
  have value :
      (store.modify f fun value => { value with reply := rewrite value.reply }).value f =
        { store.value f with
          reply := rewrite (store.value f).reply } :=
    FlowStore.modify_value_self ..
  have referred :
      Lasting
        (dpRefInc
          (store.modify f fun value => { value with reply := rewrite value.reply }) f) := by
    apply rekeyed.modify live
    · rw [value]
      change (store.table.holders f).card + (store.value f).rules ≤ (store.value f).refCount + 1
      omega
    · rw [value]
      exact lasting.unruled f live
  have more := FiniteTable.card_holders_insert_le store.table (rewrite (store.value f).reply) f
  apply referred.file live
  rw [dpRefInc, FlowStore.modify_value_self, value]
  change
    (FiniteTable.holders (store.table.insert (rewrite (store.value f).reply) f) f).card +
      (store.value f).rules ≤ (store.value f).refCount + 1
  omega

theorem dpRefDec_of_more (more : (store.value f).refCount ≠ 1) :
    dpRefDec store f = store.modify f dropReference := by
  unfold dpRefDec
  dsimp only
  rw [if_neg more]
  rfl

/-- The key of the answers is exchanged.  If something is filed under the old
one, the flow must be able to spare a reference. -/
theorem Lasting.replaceReplyKey (lasting : Lasting store) (live : store.Live f)
    (spare : store.table.lookup (store.value f).reply = none ∨
      (2 ≤ (store.value f).refCount ∧
        (FiniteTable.holders (store.table.erase (store.value f).reply)
            f).card + (store.value f).rules + 1 ≤
          (store.value f).refCount))
    (added : Bool) (rewrite : FlowKey → FlowKey) :
    Lasting (replaceReplyKey added store f rewrite).1 ∧
      Refiles store (replaceReplyKey added store f rewrite).1 f added rewrite := by
  rw [replaceReplyKey_eq]
  cases filed : store.table.lookup (store.value f).reply with
  | none =>
    rw [dpDeleteFlow_of_absent filed]
    have value := fileAnswers_value_self added store f rewrite
    obtain ⟨arena, ports, cache⟩ := fileAnswers_arena added store f rewrite
    refine ⟨lasting.fileAnswers live added rewrite, arena, ports, ?_, ?_, ?_, ?_,
      Or.inr ⟨cache, filed⟩⟩
    · exact fun g => fileAnswers_value_of_ne added store rewrite
    · rw [value]
      rfl
    · rw [value, filed]
      rfl
    intro key
    rw [fileAnswers_lookup, value]
    split
    · rfl
    split
    · rename_i same
      rw [same]
      exact filed
    · rfl
  | some g =>
    obtain ⟨two, spare⟩ :=
      spare.resolve_left (by rw [filed]; exact nofun)
    have more : ((erased store (store.value f).reply).value f).refCount ≠ 1 := by
      change (store.value f).refCount ≠ 1
      omega
    have deleted := (lasting.erase (store.value f).reply).refDec ⟨live, spare⟩
    rw [dpDeleteFlow_of_filed filed, dpRefDec_of_more more]
    rw [dpRefDec_of_more more] at deleted
    generalize lost : (erased store (store.value f).reply).modify f dropReference = middle
      at deleted ⊢
    have valueF : middle.value f = dropReference (store.value f) := by
      rw [← lost, FlowStore.modify_value_self]
      rfl
    have value := fileAnswers_value_self added middle f rewrite
    rw [valueF] at value
    obtain ⟨arena, ports, cache⟩ := fileAnswers_arena added middle f rewrite
    refine ⟨deleted.fileAnswers ?_ added rewrite, ?_, ?_, ?_, ?_, ?_, ?_, Or.inl ?_⟩
    · rw [← lost]
      exact live
    · rw [arena, ← lost]
      rfl
    · rw [ports, ← lost]
      rfl
    · intro h different
      rw [fileAnswers_value_of_ne added middle rewrite different, ← lost,
        FlowStore.modify_value_of_ne _ _ different]
      rfl
    · rw [value]
      rfl
    · rw [value, filed]
      change
        (store.value f).refCount - 1 + (if added = true then 1 else 0) + 1 =
          (store.value f).refCount + if added = true then 1 else 0
      omega
    · intro key
      rw [fileAnswers_lookup, value, valueF]
      have erases : middle.table.lookup key =
            if key = (store.value f).reply then none
            else store.table.lookup key := by
        rw [← lost]
        exact FiniteTable.lookup_erase_eq store.table _ key
      rw [erases]
    · rw [cache, ← lost]
      rfl

/-- A flow with both of its references is decided about and gets another key
for its answers, which may or may not be filed. -/
theorem Sustained.rekey {start : FlowStore} (sustained : Sustained before) (live : before.Live f)
    (undecided : (before.value f).Undecided) (two : (before.value f).refCount = 2)
    (unmoved : Unmoved before start) (decided : ¬ (start.value f).Undecided) (added : Bool)
    (rewrite : FlowKey → FlowKey) :
    Sustained (replaceReplyKey added start f rewrite).1 ∧
      Outlasts before (replaceReplyKey added start f rewrite).1 ∧
      Refiles start (replaceReplyKey added start f rewrite).1 f added rewrite := by
  have intact := sustained.intact f live undecided
  have liveStart := (unmoved.live_iff f).mpr live
  -- apart from the key of its answers a flow has one entry
  have own :
      FiniteTable.holders (start.table.erase (start.value f).reply) f ⊆
        {(before.value f).org} := by
    intro key member
    rw [FiniteTable.mem_holders, FiniteTable.lookup_erase_eq, unmoved.reply,
      unmoved.table] at member
    split at member
    · cases member
    · rename_i notReply
      rw [Finset.mem_singleton]
      exact (intact.keys key member).resolve_right notReply
  have one := Finset.card_le_card own
  rw [Finset.card_singleton] at one
  have noRules : (start.value f).rules = 0 :=
    (unmoved.rules f).trans (sustained.unruled f live undecided)
  have references := (unmoved.refCount f).trans two
  obtain ⟨lasting, refiles⟩ :=
    (unmoved.lasting sustained.toLasting).replaceReplyKey liveStart
      (Or.inr ⟨by omega, by omega⟩) added rewrite
  -- whoever nobody has decided about is another flow
  have others : ∀ g, ((replaceReplyKey added start f rewrite).1.value g).Undecided → g ≠ f := by
    intro g now same
    rw [same, refiles.value] at now
    exact decided now
  have lives : ∀ g, (replaceReplyKey added start f rewrite).1.Live g ↔ before.Live g := by
    intro g
    rw [← unmoved.live_iff g, FlowStore.Live, refiles.arena]
    exact Iff.rfl
  refine ⟨⟨lasting, ?_⟩, ⟨fun g => (lives g).mpr, ?_⟩, refiles⟩
  · intro g liveG now
    have different := others g now
    have value := refiles.others g different
    rw [value] at now
    have kept :=
      unmoved.sustained sustained |>.intact g ((unmoved.live_iff g).mpr ((lives g).mp liveG)) now
    have filed : ∀ key, (replaceReplyKey added start f rewrite).1.table.lookup key = some g →
          start.table.lookup key = some g := by
      intro key found
      rw [refiles.lookup] at found
      split at found
      · exact absurd (Option.some_inj.mp found).symm different
      split at found
      · cases found
      · exact found
    refine kept.transport (congrArg FlowValue.org value) (congrArg FlowValue.reply value) filed ?_
    rintro (⟨key, found⟩ | held)
    · exact ⟨Or.inl ⟨key, filed key found⟩, congrArg FlowValue.refCount value⟩
    refine ⟨Or.inr ?_, congrArg FlowValue.refCount value⟩
    rcases refiles.cache with forgotten | ⟨same, _⟩
    · rw [forgotten] at held
      cases held
    · rw [← same]
      exact held
  intro g _ now
  have value := refiles.others g (others g now)
  rw [value] at now ⊢
  exact ⟨unmoved.undecided g now, unmoved.refCount g⟩

end DpService.Flow
