import DpService.Flow.Store

/-!
# Aging and removal

Aging and the removal of flows walk over the flow table and take entries out.
They keep the sharing of flows, and no flow that a packet can still find is
left with half of its entries, as long as the two entries of a flow are taken
out together.
-/

namespace DpService.Flow

open Foundations Packet Dataplane

variable {f : Handle} {key : FlowKey} {after start : FlowStore} {due : FlowKey → Handle → Prop}
    {rest : List (Sigma fun _ : FlowKey => Handle)} {Kept : FlowStore → Prop}

def FlowStore.Found (store : FlowStore) (f : Handle) : Prop :=
  (∃ key, store.table.lookup key = some f) ∨ store.cache.cached = some f

/-- The values differ in what they count only. -/
def SameFlow (before after : FlowValue) : Prop :=
  after = { before with refCount := after.refCount, rules := after.rules }

theorem SameFlow.refl (value : FlowValue) : SameFlow value value :=
  rfl

theorem SameFlow.trans {first second third : FlowValue} (left : SameFlow first second)
    (right : SameFlow second third) : SameFlow first third := by
  unfold SameFlow at left right ⊢
  rw [right, left]

theorem SameFlow.undecided_iff {before after : FlowValue} (same : SameFlow before after) :
    after.Undecided ↔ before.Undecided := by
  rw [same]
  exact Iff.rfl

variable {store : FlowStore}

/-! ## One entry -/

structure Trimmed (before after : FlowStore) (f : Handle) : Prop where
  arena : after.arena = before.arena
  table : after.table = before.table
  cache : after.cache = before.cache
  ports : after.ports = before.ports
  others : ∀ g, g ≠ f → after.value g = before.value g
  same : SameFlow (before.value f) (after.value f)
  undecided : (before.value f).Undecided → after.value f = before.value f

theorem Trimmed.refl (store : FlowStore) (f : Handle) : Trimmed store store f :=
  ⟨rfl, rfl, rfl, rfl, fun _ _ => rfl, rfl, fun _ => rfl⟩

theorem Trimmed.trans {first second third : FlowStore}
    (left : Trimmed first second f) (right : Trimmed second third f) :
    Trimmed first third f where
  arena := right.arena.trans left.arena
  table := right.table.trans left.table
  cache := right.cache.trans left.cache
  ports := right.ports.trans left.ports
  others := fun g different => (right.others g different).trans (left.others g different)
  same := left.same.trans right.same
  undecided := by
    intro undecided
    rw [right.undecided (left.same.undecided_iff.mpr undecided)]
    exact left.undecided undecided

theorem dropRule_trimmed (filed : store.table.lookup key = some f)
    (counted : (store.table.holders f).card + (store.value f).rules ≤ (store.value f).refCount)
    (unruled : (store.value f).Undecided → (store.value f).rules = 0) :
    Trimmed store (dropRule store f) f := by
  unfold dropRule
  split
  · exact Trimmed.refl store f
  rename_i some
  have held : 0 < (store.table.holders f).card :=
    Finset.card_pos.mpr ⟨key, (FiniteTable.mem_holders _ f key).mpr filed⟩
  have more :
      ((store.modify f fun value =>
        { value with rules := value.rules - 1 }).value f).refCount ≠ 1 := by
    rw [FlowStore.modify_value_self]
    change (store.value f).refCount ≠ 1
    omega
  unfold dpRefDec
  dsimp only
  rw [if_neg more]
  refine ⟨rfl, rfl, rfl, rfl, ?_, ?_, ?_⟩
  · intro g different
    rw [FlowStore.modify_value_of_ne _ _ different, FlowStore.modify_value_of_ne _ _ different]
  · rw [FlowStore.modify_value_self, FlowStore.modify_value_self]
    rfl
  · intro undecided
    exact absurd (unruled undecided) some

/-- A property of the flows that each step of a walk keeps. -/
structure Sweepable (Kept : FlowStore → Prop) : Prop where
  dropRule : ∀ {store key f}, Kept store → store.table.lookup key = some f →
    Trimmed store (dropRule store f) f ∧ Kept (dropRule store f)
  delete : ∀ {store key f}, Kept store → store.table.lookup key = some f →
    Kept (dpDeleteFlow store key f).1

theorem Sweepable.dropRules (sweepable : Sweepable Kept) (kept : Kept store)
    (filed : store.table.lookup key = some f) (count : Nat) :
    Trimmed store (dropRules count store f) f ∧ Kept (dropRules count store f) := by
  induction count generalizing store with
  | zero => exact ⟨Trimmed.refl store f, kept⟩
  | succ count ih =>
    obtain ⟨first, now⟩ := sweepable.dropRule kept filed
    have still : (Flow.dropRule store f).table.lookup key = some f := by
      rw [first.table]
      exact filed
    obtain ⟨rest, last⟩ := ih now still
    exact ⟨first.trans rest, last⟩

/-- What a walk does at an entry: the flow loses rules, and the entry is taken
out if it is due. -/
def Visits (Kept : FlowStore → Prop) (due : Prop) (before after : FlowStore)
    (key : FlowKey) (f : Handle) : Prop :=
  ∃ trimmed, Trimmed before trimmed f ∧ Kept trimmed ∧
    ((due ∧ after = (dpDeleteFlow trimmed key f).1) ∨ (¬ due ∧ after = trimmed))

structure Deleted (before after : FlowStore) (key : FlowKey) (f : Handle) :
    Prop where
  lookup : ∀ other, after.table.lookup other =
      if other = key then none else before.table.lookup other
  cached : after.cache.cached = none
  others : ∀ g, g ≠ f → after.value g = before.value g
  same : SameFlow (before.value f) (after.value f)

theorem dpRefDec_value (store : FlowStore) (f : Handle) :
    (dpRefDec store f).value = (store.modify f dropReference).value := by
  unfold dpRefDec
  dsimp only
  split
  · rfl
  · rfl

theorem dpRefDec_table (store : FlowStore) (f : Handle) :
    (dpRefDec store f).table = store.table := by
  unfold dpRefDec
  dsimp only
  split
  · rfl
  · rfl

theorem dpRefDec_cached {store : FlowStore} (forgotten : store.cache.cached = none) (f : Handle) :
    (dpRefDec store f).cache.cached = none := by
  unfold dpRefDec
  dsimp only
  split
  · rfl
  · exact forgotten

theorem cached_of_dpRefDec {store : FlowStore} {g : Handle}
    (held : (dpRefDec store f).cache.cached = some g) :
    store.cache.cached = some g := by
  unfold dpRefDec at held
  dsimp only at held
  split at held
  · cases held
  · exact held

theorem dpDeleteFlow_deleted (filed : store.table.lookup key = some f) :
    Deleted store (dpDeleteFlow store key f).1 key f := by
  rw [dpDeleteFlow_of_filed filed]
  constructor
  · intro other
    rw [dpRefDec_table]
    exact FiniteTable.lookup_erase_eq store.table key other
  · exact @dpRefDec_cached (erased store key) rfl f
  · intro g different
    rw [dpRefDec_value, FlowStore.modify_value_of_ne _ _ different]
    rfl
  · rw [dpRefDec_value, FlowStore.modify_value_self]
    rfl

theorem live_of_dpRefDec {g : Handle} (live : (dpRefDec store f).Live g) : store.Live g := by
  unfold dpRefDec at live
  dsimp only at live
  split at live
  · exact ((FlowStore.live_free_iff _ f g).mp live).1
  · exact live

/-! ## The walk -/

/-- The state of a walk with some entries left to visit.  A flow without an
entry that is due has not been touched, and what is remembered is from before
the first deletion. -/
structure Sweeping
    (Kept : FlowStore → Prop) (due : FlowKey → Handle → Prop) (start store : FlowStore)
    (rest : List (Sigma fun _ : FlowKey => Handle)) : Prop where
  kept : Kept store
  pending : ∀ entry ∈ rest, store.table.lookup entry.1 = some entry.2
  distinct : (rest.map Sigma.fst).Nodup
  left : ∀ key f, store.table.lookup key = some f → due key f → ⟨key, f⟩ ∈ rest
  filed : ∀ key f, store.table.lookup key = some f → start.table.lookup key = some f
  live : ∀ f, store.Live f → start.Live f
  same : ∀ f, SameFlow (start.value f) (store.value f)
  untouched : ∀ f, (start.value f).Undecided →
    (∀ key, start.table.lookup key = some f → ¬ due key f) → store.value f = start.value f
  cache : store.cache.cached = none ∨ (store.cache = start.cache ∧ store.table = start.table)

theorem Trimmed.sameFlow {before : FlowStore} (trimmed : Trimmed before after f) (g : Handle) :
    SameFlow (before.value g) (after.value g) := by
  by_cases same : g = f
  · rw [same]
    exact trimmed.same
  · rw [trimmed.others g same]
    exact SameFlow.refl _

theorem Trimmed.value_of_undecided {before : FlowStore} {g : Handle}
    (trimmed : Trimmed before after f) (undecided : (after.value g).Undecided) :
    after.value g = before.value g := by
  by_cases same : g = f
  · subst same
    exact trimmed.undecided (trimmed.same.undecided_iff.mp undecided)
  · exact trimmed.others g same

theorem Sweeping.trim (sweeping : Sweeping Kept due start store rest)
    (trimmed : Trimmed store after f) (kept : Kept after) :
    Sweeping Kept due start after rest where
  kept := kept
  pending := by
    rw [trimmed.table]
    exact sweeping.pending
  distinct := sweeping.distinct
  left := by
    rw [trimmed.table]
    exact sweeping.left
  filed := by
    rw [trimmed.table]
    exact sweeping.filed
  live := by
    intro g live
    rw [FlowStore.Live, trimmed.arena] at live
    exact sweeping.live g live
  same := fun g => (sweeping.same g).trans (trimmed.sameFlow g)
  untouched := by
    intro g undecided spared
    have before := sweeping.untouched g undecided spared
    have still : (after.value g).Undecided :=
      ((sweeping.same g).trans (trimmed.sameFlow g)).undecided_iff.mpr undecided
    rw [trimmed.value_of_undecided still]
    exact before
  cache := by
    rw [trimmed.cache, trimmed.table]
    exact sweeping.cache

theorem Sweeping.pass (sweeping : Sweeping Kept due start store (⟨key, f⟩ :: rest))
    (notDue : ¬ due key f) : Sweeping Kept due start store rest :=
  { sweeping with
    pending := fun entry member => sweeping.pending entry (List.mem_cons_of_mem _ member)
    distinct := (List.nodup_cons.mp sweeping.distinct).2
    left := by
      intro other g filed dueG
      rcases List.mem_cons.mp (sweeping.left other g filed dueG) with
        same | later
      · cases same
        exact absurd dueG notDue
      · exact later }

theorem Sweeping.delete (sweeping : Sweeping Kept due start store (⟨key, f⟩ :: rest))
    (sweepable : Sweepable Kept) (isDue : due key f) :
    Sweeping Kept due start (dpDeleteFlow store key f).1 rest := by
  have filed := sweeping.pending ⟨key, f⟩ List.mem_cons_self
  have deleted := dpDeleteFlow_deleted filed
  obtain ⟨fresh, distinct⟩ := List.nodup_cons.mp sweeping.distinct
  -- what is still filed was filed before, under another key
  have before : ∀ other g, (dpDeleteFlow store key f).1.table.lookup other = some g →
        other ≠ key ∧ store.table.lookup other = some g := by
    intro other g found
    rw [deleted.lookup other] at found
    split at found
    · cases found
    · rename_i different
      exact ⟨different, found⟩
  constructor
  · exact sweepable.delete sweeping.kept filed
  · intro entry member
    have different : entry.1 ≠ key := by
      intro same
      exact fresh (List.mem_map.mpr ⟨entry, member, same⟩)
    rw [deleted.lookup, if_neg different]
    exact sweeping.pending entry (List.mem_cons_of_mem _ member)
  · exact distinct
  · intro other g found dueG
    obtain ⟨different, filedBefore⟩ := before other g found
    rcases List.mem_cons.mp (sweeping.left other g filedBefore dueG) with
      same | later
    · cases same
      exact absurd rfl different
    · exact later
  · intro other g found
    exact sweeping.filed other g (before other g found).2
  · intro g live
    rw [dpDeleteFlow_of_filed filed] at live
    have before := live_of_dpRefDec live
    exact sweeping.live g before
  · intro g
    by_cases same : g = f
    · rw [same]
      exact (sweeping.same f).trans deleted.same
    · rw [deleted.others g same]
      exact sweeping.same g
  · intro g undecided spared
    have different : g ≠ f := by
      intro same
      subst same
      exact spared key (sweeping.filed key g filed) isDue
    rw [deleted.others g different]
    exact sweeping.untouched g undecided spared
  · exact Or.inl deleted.cached

theorem Sweeping.visit (sweeping : Sweeping Kept due start store (⟨key, f⟩ :: rest))
    (sweepable : Sweepable Kept) (visits : Visits Kept (due key f) store after key f) :
    Sweeping Kept due start after rest := by
  obtain ⟨middle, trimmed, keptMiddle, result⟩ := visits
  have now := sweeping.trim trimmed keptMiddle
  rcases result with ⟨isDue, deleted⟩ | ⟨notDue, kept⟩
  · rw [deleted]
    exact now.delete sweepable isDue
  · rw [kept]
    exact now.pass notDue

theorem Sweepable.sweep (sweepable : Sweepable Kept) (kept : Kept store)
    {due : FlowKey → Handle → Prop} {visit : FlowStore → FlowKey → Handle → FlowStore}
    (visits : ∀ current key f, Kept current → current.table.lookup key = some f →
      SameFlow (store.value f) (current.value f) →
        Visits Kept (due key f) current (visit current key f) key f) :
    Sweeping Kept due store (sweep visit store) [] := by
  have begun : Sweeping Kept due store store store.table.entries :=
    { kept := kept
      pending := fun entry member => FiniteTable.lookup_of_mem_entries store.table member
      distinct := store.table.nodupKeys
      left := fun key f filed _ => FiniteTable.mem_entries_of_lookup store.table filed
      filed := fun _ _ => id
      live := fun _ => id
      same := fun f => SameFlow.refl _
      untouched := fun _ _ _ => rfl
      cache := Or.inr ⟨rfl, rfl⟩ }
  -- induction on the entries that are left
  have walk : ∀ rest current, Sweeping Kept due store current rest →
      Sweeping Kept due store
        (rest.foldl (fun current entry => visit current entry.1 entry.2) current) [] := by
    intro rest
    induction rest with
    | nil =>
      intro current sweeping
      exact sweeping
    | cons entry rest ih =>
      intro current sweeping
      have filed := sweeping.pending entry List.mem_cons_self
      have visited := visits current entry.1 entry.2 sweeping.kept filed (sweeping.same entry.2)
      exact ih _ (sweeping.visit sweepable visited)
  exact walk store.table.entries store begun

/-- A flow that can be found after a walk that takes its entries together or
not at all is as it was. -/
theorem Sweeping.value_of_found (sweeping : Sweeping Kept due start store [])
    (undecided : (start.value f).Undecided)
    (whole : ∀ key other, start.table.lookup key = some f → start.table.lookup other = some f →
      due key f → due other f)
    (found : store.Found f) : store.value f = start.value f ∧ start.Found f := by
  -- an entry that is left is not due, and so is none of the flow
  have spared : ∀ key, store.table.lookup key = some f →
      ∀ other, start.table.lookup other = some f → ¬ due other f := by
    intro key filed other filedOther isDue
    have both := whole other key filedOther (sweeping.filed key f filed) isDue
    cases sweeping.left key f filed both
  rcases found with ⟨key, filed⟩ | held
  · exact
      ⟨sweeping.untouched f undecided (spared key filed), Or.inl ⟨key, sweeping.filed key f filed⟩⟩
  rcases sweeping.cache with forgotten | ⟨cache, table⟩
  · rw [forgotten] at held
    cases held
  · refine ⟨sweeping.untouched f undecided ?_, Or.inr (cache ▸ held)⟩
    intro key filed
    exact spared key (table ▸ filed) key filed

/-! ## Aging -/

theorem Sweepable.ageEntry (sweepable : Sweepable Kept) (kept : Kept store)
    (filed : store.table.lookup key = some f) {value : FlowValue}
    (same : SameFlow value (store.value f)) (now timerHz : UInt64) (expired : FlowKey → Nat) :
    Visits Kept (value.timedOut now timerHz = true) store
      (ageEntry now timerHz expired store key f) key f := by
  obtain ⟨trimmed, still⟩ := sweepable.dropRules kept filed (expired key)
  refine ⟨_, trimmed, still, ?_⟩
  have unchanged : ((Flow.dropRules (expired key) store f).value f).timedOut now timerHz =
        value.timedOut now timerHz := by
    rw [same.trans trimmed.same]
    rfl
  unfold Flow.ageEntry
  dsimp only
  rw [unchanged]
  by_cases due : value.timedOut now timerHz = true
  · rw [if_pos due]
    exact Or.inl ⟨due, rfl⟩
  · rw [if_neg due]
    exact Or.inr ⟨due, rfl⟩

theorem Sweepable.age (sweepable : Sweepable Kept) (kept : Kept store)
    (now timerHz : UInt64) (expired : FlowKey → Nat) :
    Sweeping Kept (fun _ f => (store.value f).timedOut now timerHz = true) store
      (dpProcessAgedFlowsNonOffload now timerHz expired store) [] :=
  sweepable.sweep kept fun _ _ _ current filed same =>
    sweepable.ageEntry current filed same now timerHz expired

/-- A choice that takes a flow with both of its keys or not at all. -/
structure WholeFlows (chosen : FlowKey → FlowValue → Bool) : Prop where
  counts : ∀ key before after, SameFlow before after → chosen key after = chosen key before
  keys : ∀ value : FlowValue, value.reply.vni = value.org.vni →
    chosen value.org value = chosen value.reply value

theorem Sweepable.remove (sweepable : Sweepable Kept) (kept : Kept store)
    {chosen : FlowKey → FlowValue → Bool}
    (counts : ∀ key before after, SameFlow before after → chosen key after = chosen key before)
    (stored : FlowKey → Nat) :
    Sweeping Kept (fun key f => chosen key (store.value f) = true) store
      (dpRemoveFlows chosen stored store) [] := by
  apply sweepable.sweep kept
  intro current key f now filed same
  rw [← counts key _ _ same]
  by_cases due : chosen key (current.value f) = true
  · obtain ⟨trimmed, still⟩ := sweepable.dropRules now filed (stored key)
    rw [if_pos due]
    exact ⟨_, trimmed, still, Or.inl ⟨due, rfl⟩⟩
  · rw [if_neg due]
    exact ⟨current, Trimmed.refl current f, now, Or.inr ⟨due, rfl⟩⟩

end DpService.Flow
