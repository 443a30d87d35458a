import DpService.Flow.Sweeps

/-!
# Keys and flows

A flow is filed and remembered under its own keys only, whatever becomes of it
and of other flows, and the key of its first direction is never exchanged.
This holds without any assumption about what succeeds, so that it can be used
for all traffic.
-/

namespace DpService.Flow

open Foundations Packet Dataplane

variable {f : Handle}

/-- Flows are found under their own keys, and the key that the cache remembers
is filed. -/
structure Coherent (store : FlowStore) : Prop where
  filed : ∀ key f, store.table.lookup key = some f →
    f < store.arena.next ∧ (key = (store.value f).org ∨ key = (store.value f).reply)
  cached : ∀ f, store.cache.cached = some f → f < store.arena.next ∧
      (store.cache.other = (store.value f).org ∨ store.cache.other = (store.value f).reply) ∧
      ∃ g, store.table.lookup store.cache.other = some g

theorem coherent_empty : Coherent FlowStore.empty where
  filed := nofun
  cached := nofun

variable {store before after : FlowStore}

theorem Coherent.found_lt (coherent : Coherent store) (found : store.Found f) :
    f < store.arena.next := by
  rcases found with ⟨key, filed⟩ | held
  · exact (coherent.filed key f filed).1
  · exact (coherent.cached f held).1

section Modify

variable {change : FlowValue → FlowValue}
variable (org : (change (store.value f)).org = (store.value f).org)
variable (reply : (change (store.value f)).reply = (store.value f).reply)

include org reply in
theorem FlowStore.modify_keys (g : Handle) :
    ((store.modify f change).value g).org = (store.value g).org ∧
      ((store.modify f change).value g).reply = (store.value g).reply := by
  by_cases same : g = f
  · rw [same, FlowStore.modify_value_self]
    exact ⟨org, reply⟩
  · rw [FlowStore.modify_value_of_ne store change same]
    exact ⟨rfl, rfl⟩

include org reply in
theorem Coherent.modify (coherent : Coherent store) : Coherent (store.modify f change) where
  filed := by
    intro key g filed
    rw [(FlowStore.modify_keys org reply g).1, (FlowStore.modify_keys org reply g).2]
    exact coherent.filed key g filed
  cached := by
    intro g cached
    rw [(FlowStore.modify_keys org reply g).1, (FlowStore.modify_keys org reply g).2]
    exact coherent.cached g cached

end Modify

/-- The target in a flow that is load balanced is an allowed one. -/
def Guided (Allowed : FlowKey → Ipv6 → Prop) (value : FlowValue) : Prop :=
  value.flowFlags.dstLb = true → Allowed value.org value.nfInfo.underlayDst

structure SameCourse (before after : FlowValue) : Prop where
  org : after.org = before.org
  reply : after.reply = before.reply
  dstLb : after.flowFlags.dstLb = before.flowFlags.dstLb
  underlayDst : after.nfInfo.underlayDst = before.nfInfo.underlayDst

theorem SameCourse.refl (value : FlowValue) : SameCourse value value :=
  ⟨rfl, rfl, rfl, rfl⟩

theorem SameCourse.trans {first second third : FlowValue} (left : SameCourse first second)
    (right : SameCourse second third) : SameCourse first third :=
  ⟨right.org.trans left.org, right.reply.trans left.reply,
    right.dstLb.trans left.dstLb, right.underlayDst.trans left.underlayDst⟩

theorem SameCourse.guided {Allowed : FlowKey → Ipv6 → Prop} {before after : FlowValue}
    (same : SameCourse before after) (guided : Guided Allowed before) :
    Guided Allowed after := by
  intro balanced
  rw [same.org, same.underlayDst]
  exact guided (same.dstLb ▸ balanced)

/-! ## Steps that only take something away -/

/-- Entries are taken out, after which nothing is remembered, and no flow
changes its keys or its target. -/
structure Trims (before after : FlowStore) : Prop where
  next : after.arena.next = before.arena.next
  course : ∀ f, SameCourse (before.value f) (after.value f)
  table : ∀ key f, after.table.lookup key = some f → before.table.lookup key = some f
  cache : after.cache.cached = none ∨
    (after.cache.cached = before.cache.cached ∧
      after.cache.other = before.cache.other ∧ after.table = before.table)

namespace Trims

theorem refl (store : FlowStore) : Trims store store :=
  ⟨rfl, fun _ => SameCourse.refl _, fun _ _ => id, Or.inr ⟨rfl, rfl, rfl⟩⟩

theorem trans {first second third : FlowStore} (left : Trims first second)
    (right : Trims second third) : Trims first third where
  next := right.next.trans left.next
  course := fun f => (left.course f).trans (right.course f)
  table := fun key f filed => left.table key f (right.table key f filed)
  cache := by
    rcases right.cache with forgotten | ⟨cached, other, table⟩
    · exact Or.inl forgotten
    · rcases left.cache with forgotten | ⟨cached', other', table'⟩
      · exact Or.inl (cached.trans forgotten)
      · exact Or.inr ⟨cached.trans cached', other.trans other', table.trans table'⟩

theorem coherent (trims : Trims before after) (coherent : Coherent before) : Coherent after where
  filed := by
    intro key f filed
    rw [trims.next, (trims.course f).org, (trims.course f).reply]
    exact coherent.filed key f (trims.table key f filed)
  cached := by
    intro f held
    rcases trims.cache with forgotten | ⟨cached, other, table⟩
    · rw [forgotten] at held
      cases held
    · rw [trims.next, other, table, (trims.course f).org, (trims.course f).reply]
      exact coherent.cached f (cached ▸ held)

theorem found (trims : Trims before after) (found : after.Found f) : before.Found f := by
  rcases found with ⟨key, filed⟩ | held
  · exact Or.inl ⟨key, trims.table key f filed⟩
  rcases trims.cache with forgotten | ⟨cached, -, -⟩
  · rw [forgotten] at held
    cases held
  · exact Or.inr (cached ▸ held)

theorem modify {change : FlowValue → FlowValue}
    (course : SameCourse (store.value f) (change (store.value f))) :
    Trims store (store.modify f change) where
  next := rfl
  course := by
    intro g
    by_cases same : g = f
    · rw [same, FlowStore.modify_value_self]
      exact course
    · rw [FlowStore.modify_value_of_ne store change same]
      exact SameCourse.refl _
  table := fun _ _ => id
  cache := Or.inr ⟨rfl, rfl, rfl⟩

theorem setCurr (key : FlowKey) :
    Trims store { store with cache := { store.cache with curr := key } } :=
  ⟨rfl, fun _ => SameCourse.refl _, fun _ _ => id, Or.inr ⟨rfl, rfl, rfl⟩⟩

theorem freeFlow (store : FlowStore) (f : Handle) : Trims store (dpFreeFlow store f) :=
  ⟨rfl, fun _ => SameCourse.refl _, fun _ _ => id, Or.inl rfl⟩

theorem refInc (store : FlowStore) (f : Handle) : Trims store (dpRefInc store f) :=
  modify ⟨rfl, rfl, rfl, rfl⟩

theorem freeArena (store : FlowStore) (f : Handle) :
    Trims store { store with arena := store.arena.free f } :=
  ⟨rfl, fun _ => SameCourse.refl _, fun _ _ => id, Or.inr ⟨rfl, rfl, rfl⟩⟩

theorem refDec (store : FlowStore) (f : Handle) : Trims store (dpRefDec store f) := by
  have decreased :
      Trims store
        (store.modify f fun value => { value with refCount := value.refCount - 1 }) :=
    modify ⟨rfl, rfl, rfl, rfl⟩
  unfold dpRefDec
  dsimp only
  split
  · exact decreased.trans (freeFlow _ f)
  · exact decreased

theorem erase (store : FlowStore) (key : FlowKey) : Trims store (erased store key) where
  next := rfl
  course := fun _ => SameCourse.refl _
  table := by
    intro other f found
    change (store.table.erase key).lookup other = some f at found
    rw [FiniteTable.lookup_erase_eq] at found
    split at found
    · cases found
    · exact found
  cache := Or.inl rfl

theorem deleteFlow (store : FlowStore) (key : FlowKey) (f : Handle) :
    Trims store (dpDeleteFlow store key f).1 := by
  cases filed : store.table.lookup key with
  | none =>
    rw [dpDeleteFlow_of_absent filed]
    exact refl store
  | some g =>
    rw [dpDeleteFlow_of_filed filed]
    exact (erase store key).trans (refDec _ f)

theorem dropRule (store : FlowStore) (f : Handle) : Trims store (Flow.dropRule store f) := by
  unfold Flow.dropRule
  split
  · exact refl store
  · exact (modify ⟨rfl, rfl, rfl, rfl⟩).trans (refDec _ f)

theorem dropRules (count : Nat) (store : FlowStore) (f : Handle) :
    Trims store (Flow.dropRules count store f) := by
  induction count generalizing store with
  | zero => exact refl store
  | succ count ih => exact (dropRule store f).trans (ih _)

theorem sweep {visit : FlowStore → FlowKey → Handle → FlowStore}
    (visits : ∀ store key f, Trims store (visit store key f))
    (store : FlowStore) : Trims store (Flow.sweep visit store) := by
  unfold Flow.sweep
  generalize store.table.entries = entries
  induction entries generalizing store with
  | nil => exact refl store
  | cons entry entries ih =>
    exact (visits store entry.1 entry.2).trans (ih _)

theorem ageFlows (now timerHz : UInt64) (expired : FlowKey → Nat) (store : FlowStore) :
    Trims store (dpProcessAgedFlowsNonOffload now timerHz expired store) := by
  apply sweep
  intro store key f
  have dropped := dropRules (expired key) store f
  unfold ageEntry
  dsimp only
  split
  · exact dropped.trans (deleteFlow _ key f)
  · exact dropped

theorem removeFlow (chosen : FlowKey → FlowValue → Bool) (stored : FlowKey → Nat)
    (store : FlowStore) (key : FlowKey) (f : Handle) :
    Trims store
      (if chosen key (store.value f) then
        (dpDeleteFlow (Flow.dropRules (stored key) store f) key f).1
      else store) := by
  split
  · exact (dropRules _ store f).trans (deleteFlow _ key f)
  · exact refl store

theorem removeFlows (chosen : FlowKey → FlowValue → Bool) (stored : FlowKey → Nat)
    (store : FlowStore) : Trims store (dpRemoveFlows chosen stored store) :=
  sweep (removeFlow chosen stored) store

end Trims

/-! ## What a removal leaves -/

theorem dpDeleteFlow_lookup (store : FlowStore) (key : FlowKey) (f : Handle) :
    (dpDeleteFlow store key f).1.table.lookup key = none := by
  cases filed : store.table.lookup key with
  | none =>
    rw [dpDeleteFlow_of_absent filed]
    exact filed
  | some g =>
    rw [dpDeleteFlow_of_filed filed, dpRefDec_table]
    change (store.table.erase key).lookup key = none
    rw [FiniteTable.lookup_erase_eq, if_pos rfl]

section Removal

variable {chosen : FlowKey → FlowValue → Bool} {stored : FlowKey → Nat}

private def removeEntries (chosen : FlowKey → FlowValue → Bool) (stored : FlowKey → Nat)
    (entries : List (Sigma fun _ : FlowKey => Handle)) (store : FlowStore) :
    FlowStore :=
  entries.foldl
    (fun store entry =>
      if chosen entry.1 (store.value entry.2) then
        (dpDeleteFlow (dropRules (stored entry.1) store entry.2) entry.1 entry.2).1
      else store)
    store

private theorem removeEntries_trims
    (entries : List (Sigma fun _ : FlowKey => Handle)) (store : FlowStore) :
    Trims store (removeEntries chosen stored entries store) := by
  induction entries generalizing store with
  | nil => exact Trims.refl store
  | cons entry entries ih =>
    exact (Trims.removeFlow chosen stored store entry.1 entry.2).trans (ih _)

private theorem removeEntries_left
    (byCourse : ∀ key first second, SameCourse first second → chosen key second = chosen key first)
    (entries : List (Sigma fun _ : FlowKey => Handle)) (store : FlowStore)
    {key : FlowKey}
    (listed : ⟨key, f⟩ ∈ entries)
    (filed : (removeEntries chosen stored entries store).table.lookup key = some f) :
    chosen key ((removeEntries chosen stored entries store).value f) =
      false := by
  induction entries generalizing store with
  | nil => simp at listed
  | cons entry entries ih =>
    rcases List.mem_cons.mp listed with rfl | later
    · have visited :=
        Trims.removeFlow chosen stored store key f
      have rest := @removeEntries_trims chosen stored entries
        (if chosen key (store.value f) then (dpDeleteFlow (dropRules (stored key) store f) key f).1
        else store)
      have course := (visited.trans rest).course f
      have still := rest.table key f filed
      cases due : chosen key (store.value f) with
      | true =>
        rw [due, if_pos rfl, dpDeleteFlow_lookup] at still
        cases still
      | false => exact (byCourse key _ _ course).trans due
    · exact ih _ later filed

theorem dpRemoveFlows_left
    (byCourse : ∀ key first second, SameCourse first second → chosen key second = chosen key first)
    {key : FlowKey} {f : Handle}
    (filed : (dpRemoveFlows chosen stored store).table.lookup key = some f) :
    chosen key ((dpRemoveFlows chosen stored store).value f) = false := by
  have before := (Trims.removeFlows chosen stored store).table key f filed
  exact
    removeEntries_left byCourse store.table.entries store
      (FiniteTable.mem_entries_of_lookup store.table before) filed

def CacheFiled (store : FlowStore) : Prop :=
  ∀ f, store.cache.cached = some f → ∃ key, store.table.lookup key = some f

/-- If the flow that is remembered is filed, then no flow is found any more
that was to be removed. -/
theorem dpRemoveFlows_not_found {due : FlowValue → Bool}
    (byCourse : ∀ first second, SameCourse first second → due second = due first)
    (cacheFiled : CacheFiled store) (found : (dpRemoveFlows (fun _ => due) stored store).Found f) :
    due ((dpRemoveFlows (fun _ => due) stored store).value f) = false := by
  have left : ∀ {key f}, (dpRemoveFlows (fun _ => due) stored store).table.lookup key = some f →
        due ((dpRemoveFlows (fun _ => due) stored store).value f) = false :=
    fun filed =>
      @dpRemoveFlows_left store (fun _ => due) stored
        (fun _ first second => byCourse first second) _ _ filed
  rcases found with ⟨key, filed⟩ | held
  · exact left filed
  rcases (Trims.removeFlows (fun _ => due) stored store).cache with
    forgotten | ⟨cached, -, table⟩
  · rw [forgotten] at held
    cases held
  · obtain ⟨key, filed⟩ := cacheFiled f (cached ▸ held)
    rw [← table] at filed
    exact left filed

section Elsewhere

variable {key : FlowKey} {g : Handle}

theorem dpRefDec_value_of_ne (store : FlowStore) (different : f ≠ g) :
    (dpRefDec store g).value f = store.value f := by
  rw [dpRefDec_value]
  exact FlowStore.modify_value_of_ne store _ different

theorem dropRules_of_ne (store : FlowStore) (count : Nat) (different : f ≠ g) :
    (dropRules count store g).table = store.table ∧
      (dropRules count store g).value f = store.value f := by
  induction count generalizing store with
  | zero => exact ⟨rfl, rfl⟩
  | succ count ih =>
    obtain ⟨table, value⟩ := ih (dropRule store g)
    rw [dropRules, table, value, dropRule]
    split
    · exact ⟨rfl, rfl⟩
    · rw [dpRefDec_table, dpRefDec_value_of_ne _ different,
        FlowStore.modify_value_of_ne _ _ different]
      exact ⟨rfl, rfl⟩

theorem dpDeleteFlow_of_ne {other : FlowKey} (store : FlowStore) (elsewhere : key ≠ other)
    (different : f ≠ g) :
    (dpDeleteFlow store other g).1.table.lookup key = store.table.lookup key ∧
      (dpDeleteFlow store other g).1.value f = store.value f := by
  cases filed : store.table.lookup other with
  | none =>
    rw [dpDeleteFlow_of_absent filed]
    exact ⟨rfl, rfl⟩
  | some _ => ?_
  rw [dpDeleteFlow_of_filed filed, dpRefDec_table, dpRefDec_value_of_ne _ different]
  refine ⟨?_, rfl⟩
  change (store.table.erase other).lookup key = _
  rw [FiniteTable.lookup_erase_eq, if_neg elsewhere]

theorem dpRemoveFlows_keeps {due : FlowValue → Bool} {stored : FlowKey → Nat}
    (filed : store.table.lookup key = some f) (stays : due (store.value f) = false) :
    (dpRemoveFlows (fun _ => due) stored store).table.lookup key = some f ∧
      (dpRemoveFlows (fun _ => due) stored store).value f = store.value f := by
  have listed : ∀ entry ∈ store.table.entries, entry.2 ≠ f → key ≠ entry.1 := by
    intro entry member different same
    have held := FiniteTable.lookup_of_mem_entries store.table member
    rw [← same, filed] at held
    exact different (Option.some_inj.mp held).symm
  unfold dpRemoveFlows sweep
  generalize store.table.entries = entries at listed
  generalize valueOf : store.value f = value at stays
  induction entries generalizing store with
  | nil => exact ⟨filed, valueOf⟩
  | cons entry rest ih =>
    rw [List.foldl_cons]
    dsimp only
    have later := fun other member => listed other (List.mem_cons_of_mem _ member)
    split
    · rename_i removed
      have different : f ≠ entry.2 := by
        intro same
        rw [← same, valueOf, stays] at removed
        cases removed
      have elsewhere := listed entry List.mem_cons_self different.symm
      obtain ⟨table, trimmed⟩ := dropRules_of_ne store (stored entry.1) different
      obtain ⟨lookup, kept⟩ :=
        dpDeleteFlow_of_ne (dropRules (stored entry.1) store entry.2) elsewhere different
      rw [table, filed] at lookup
      exact ih lookup later (kept.trans (trimmed.trans valueOf))
    · exact ih filed later valueOf

end Elsewhere

end Removal

/-! ## Visits of packets -/

/-- What the visit of a packet does to the flows: the key of the first
direction of a flow stays, targets stay allowed, and a flow that is found now
was found before or has an allowed target. -/
structure Keeps
    (Allowed : FlowKey → Ipv6 → Prop) (before after : FlowStore) : Prop where
  next_le : before.arena.next ≤ after.arena.next
  org : ∀ f < before.arena.next, (after.value f).org = (before.value f).org
  guided : ∀ f < before.arena.next, Guided Allowed (before.value f) → Guided Allowed (after.value f)
  found : ∀ f, after.Found f → before.Found f ∨ Guided Allowed (after.value f)
  coherent : Coherent after

section Keeps

variable {Allowed : FlowKey → Ipv6 → Prop}

theorem Trims.keeps (trims : Trims before after)
    (coherent : Coherent before) : Keeps Allowed before after where
  next_le := trims.next.ge
  org := fun f _ => (trims.course f).org
  guided := fun f _ => (trims.course f).guided
  found := fun _ found => Or.inl (trims.found found)
  coherent := trims.coherent coherent

theorem Keeps.trans {first second third : FlowStore} (left : Keeps Allowed first second)
    (right : Keeps Allowed second third) :
    Keeps Allowed first third where
  next_le := left.next_le.trans right.next_le
  org := fun f old => (right.org f (old.trans_le left.next_le)).trans (left.org f old)
  guided := fun f old guided =>
    right.guided f (old.trans_le left.next_le) (left.guided f old guided)
  found := by
    intro f found
    rcases right.found f found with middle | guided
    · rcases left.found f middle with first | guided
      · exact Or.inl first
      · exact Or.inr (right.guided f (left.coherent.found_lt middle) guided)
    · exact Or.inr guided
  coherent := right.coherent

theorem Keeps.modify (coherent : Coherent store) {change : FlowValue → FlowValue}
    (org : (change (store.value f)).org = (store.value f).org)
    (reply : (change (store.value f)).reply = (store.value f).reply)
    (guided : Guided Allowed (store.value f) → Guided Allowed (change (store.value f))) :
    Keeps Allowed store (store.modify f change) where
  next_le := Nat.le_refl _
  org := fun g _ => (FlowStore.modify_keys org reply g).1
  guided := by
    intro g _ before
    by_cases same : g = f
    · rw [same, FlowStore.modify_value_self]
      exact guided (same ▸ before)
    · rw [FlowStore.modify_value_of_ne store change same]
      exact before
  found := fun _ found => Or.inl found
  coherent := coherent.modify org reply

theorem Keeps.file (coherent : Coherent store) {f : Handle} (old : f < store.arena.next)
    (guided : Guided Allowed (store.value f)) {key : FlowKey}
    (own : key = (store.value f).org ∨ key = (store.value f).reply) :
    Keeps Allowed store
      { store with table := store.table.insert key f } where
  next_le := Nat.le_refl _
  org := fun _ _ => rfl
  guided := fun _ _ => id
  found := by
    rintro g (⟨other, filed⟩ | cached)
    · rw [FiniteTable.lookup_insert_eq] at filed
      split at filed
      · obtain rfl := Option.some.inj filed
        exact Or.inr guided
      · exact Or.inl (Or.inl ⟨other, filed⟩)
    · exact Or.inl (Or.inr cached)
  coherent := by
    constructor
    · intro other g filed
      rw [FiniteTable.lookup_insert_eq] at filed
      split at filed
      · rename_i same
        obtain rfl := Option.some.inj filed
        rw [same]
        exact ⟨old, own⟩
      · exact coherent.filed other g filed
    intro g cached
    obtain ⟨inside, keys, h, filed⟩ := coherent.cached g cached
    refine ⟨inside, keys, ?_⟩
    rw [FiniteTable.lookup_insert_eq]
    split
    · exact ⟨f, rfl⟩
    · exact ⟨h, filed⟩

theorem Keeps.rekey (coherent : Coherent store)
    (absent : store.table.lookup (store.value f).reply = none) (rewrite : FlowKey → FlowKey) :
    Keeps Allowed store
      (store.modify f fun value => { value with reply := rewrite value.reply }) := by
  have org : ∀ g,
      ((store.modify f fun value => { value with reply := rewrite value.reply }).value g).org =
      (store.value g).org := by
    intro g
    by_cases same : g = f
    · rw [same, FlowStore.modify_value_self]
    · rw [FlowStore.modify_value_of_ne _ _ same]
  -- under a key that is filed the flow is found as before
  have keys : ∀ g key h, store.table.lookup key = some h →
      (key = (store.value g).org ∨ key = (store.value g).reply) →
        key = ((store.modify f fun value =>
            { value with reply := rewrite value.reply }).value g).org ∨
          key = ((store.modify f fun value =>
            { value with reply := rewrite value.reply }).value g).reply := by
    intro g key h filed own
    rcases own with first | second
    · exact Or.inl (first.trans (org g).symm)
    by_cases same : g = f
    · rw [second, same, absent] at filed
      cases filed
    · rw [FlowStore.modify_value_of_ne _ _ same]
      exact Or.inr second
  constructor
  · exact Nat.le_refl _
  · exact fun g _ => org g
  · intro g _ guided
    by_cases same : g = f
    · subst same
      rw [FlowStore.modify_value_self]
      exact guided
    · rw [FlowStore.modify_value_of_ne _ _ same]
      exact guided
  · exact fun g found => Or.inl found
  constructor
  · intro key g filed
    obtain ⟨inside, own⟩ := coherent.filed key g filed
    exact ⟨inside, keys g key g filed own⟩
  · intro g cached
    obtain ⟨inside, own, h, filed⟩ := coherent.cached g cached
    exact ⟨inside, keys g _ h filed own, h, filed⟩

theorem Keeps.replaceReplyKey (coherent : Coherent store) (old : f < store.arena.next)
    (guided : Guided Allowed (store.value f)) (added : Bool) (rewrite : FlowKey → FlowKey) :
    Keeps Allowed store (Flow.replaceReplyKey added store f rewrite).1 := by
  have trims := Trims.deleteFlow store (store.value f).reply f
  have absent := dpDeleteFlow_lookup store (store.value f).reply f
  unfold Flow.replaceReplyKey
  dsimp only
  generalize (dpDeleteFlow store (store.value f).reply f).1 = deleted at trims absent ⊢
  have deletes : Keeps Allowed store deleted := trims.keeps coherent
  rw [← (trims.course f).reply] at absent
  have rekeys :
      Keeps Allowed store
        (deleted.modify f fun value => { value with reply := rewrite value.reply }) :=
    deletes.trans (.rekey deletes.coherent absent rewrite)
  cases added with
  | false => exact rekeys
  | true => ?_
  have files :=
    rekeys.trans
      (.file rekeys.coherent (old.trans_le rekeys.next_le)
        (rekeys.guided f old guided) (Or.inr rfl))
  exact files.trans ((Trims.refInc _ f).keeps files.coherent)

/-! ## New flows -/

def FlowStore.allocated (store : FlowStore) (value : FlowValue) : FlowStore :=
  { store with
    arena := store.arena.alloc
    value := Function.update store.value store.arena.next value }

theorem FlowStore.allocated_value_new (store : FlowStore) (value : FlowValue) :
    (store.allocated value).value store.arena.next = value :=
  Function.update_self ..

theorem FlowStore.allocated_value_old (value : FlowValue) (old : f < store.arena.next) :
    (store.allocated value).value f = store.value f :=
  Function.update_of_ne (Nat.ne_of_lt old) ..

theorem Keeps.alloc (coherent : Coherent store) (value : FlowValue) :
    Keeps Allowed store (store.allocated value) := by
  constructor
  · exact Nat.le_succ _
  · intro f old
    rw [FlowStore.allocated_value_old value old]
  · intro f old before
    rw [FlowStore.allocated_value_old value old]
    exact before
  · exact fun f found => Or.inl found
  constructor
  · intro key f filed
    obtain ⟨old, own⟩ := coherent.filed key f filed
    rw [FlowStore.allocated_value_old value old]
    exact ⟨Nat.lt_succ_of_lt old, own⟩
  intro f cached
  obtain ⟨old, own, filed⟩ := coherent.cached f cached
  rw [FlowStore.allocated_value_old value old]
  exact ⟨Nat.lt_succ_of_lt old, own, filed⟩

def FlowStore.filedNew (store : FlowStore) (value : FlowValue) : FlowStore :=
  { store.allocated value with table := store.table.insert value.org store.arena.next }

theorem Keeps.fileNew (coherent : Coherent store) {value : FlowValue}
    (guided : Guided Allowed value) :
    Keeps Allowed store (store.filedNew value) := by
  have allocates : Keeps Allowed store (store.allocated value) := .alloc coherent value
  have value := FlowStore.allocated_value_new store value
  refine allocates.trans (.file allocates.coherent (Nat.lt_succ_self _) ?_ (Or.inl ?_))
  · rw [value]
    exact guided
  · rw [value]

def FlowValue.keyed (key : FlowKey) (natType : FlowNatType) (port : PortId) :
    FlowValue :=
  { FlowValue.fresh key natType port with reply := dpInvertFlowKey key }

theorem flowTableInsertEntry_unanswered (store : FlowStore) (key : FlowKey) (natType : FlowNatType)
    (port : PortId) :
    flowTableInsertEntry ⟨true, true, false⟩ store key natType port =
      ((dpDeleteFlow (store.filedNew (FlowValue.keyed key natType port)) key store.arena.next).1,
        none) := by
  simp [flowTableInsertEntry, dpAddFlow, dpDeleteFlow, FlowStore.filedNew,
    FlowStore.allocated, FlowStore.modify, FlowValue.keyed, FlowValue.fresh]

theorem flowTableInsertEntry_answered (store : FlowStore) (key : FlowKey) (natType : FlowNatType)
    (port : PortId) :
    (flowTableInsertEntry ⟨true, true, true⟩ store key natType port).1 =
      dpRefInc
        { store.filedNew (FlowValue.keyed key natType port) with
          table :=
            (store.filedNew (FlowValue.keyed key natType port)).table.insert
              (dpInvertFlowKey key) store.arena.next }
        store.arena.next := by
  simp [flowTableInsertEntry, dpAddFlow, dpRefInc, FlowStore.filedNew,
    FlowStore.allocated, FlowStore.modify, FlowValue.keyed, FlowValue.fresh]

theorem flowTableInsertEntry_value (outcomes : InsertOutcomes) (store : FlowStore) (key : FlowKey)
    (natType : FlowNatType) (port : PortId) (f : Handle) :
    (flowTableInsertEntry outcomes store key natType port).1.value f = store.value f ∨
      ∃ reply refCount, (flowTableInsertEntry outcomes store key natType port).1.value f =
          { FlowValue.fresh key natType port with reply, refCount } := by
  by_cases new : f = store.arena.next
  · subst new
    rcases outcomes with ⟨_ | _, addOrg, addReply⟩
    · exact Or.inl rfl
    apply Or.inr
    cases addOrg with
    | false => exact ⟨_, _, Function.update_self ..⟩
    | true => ?_
    cases addReply with
    | false =>
      have filed : (store.filedNew (FlowValue.keyed key natType port)).table.lookup key =
            some store.arena.next :=
        AList.lookup_insert _
      have value : (store.filedNew (FlowValue.keyed key natType port)).value store.arena.next =
            FlowValue.keyed key natType port :=
        Function.update_self ..
      rw [flowTableInsertEntry_unanswered, dpDeleteFlow_of_filed filed, dpRefDec_value,
        FlowStore.modify_value_self]
      change
        ∃ reply refCount,
          dropReference
            ((store.filedNew (FlowValue.keyed key natType port)).value store.arena.next) = _
      rw [value]
      exact ⟨_, _, rfl⟩
    | true =>
      have value : (store.filedNew (FlowValue.keyed key natType port)).value store.arena.next =
            FlowValue.keyed key natType port :=
        Function.update_self ..
      rw [flowTableInsertEntry_answered, dpRefInc, FlowStore.modify_value_self]
      change
        ∃ reply refCount,
          { (store.filedNew (FlowValue.keyed key natType port)).value store.arena.next with
            refCount :=
              ((store.filedNew
                (FlowValue.keyed key natType port)).value store.arena.next).refCount + 1 } = _
      rw [value]
      exact ⟨_, _, rfl⟩
  apply Or.inl
  rcases outcomes with ⟨_ | _, addOrg, addReply⟩
  · rfl
  cases addOrg with
  | false => exact Function.update_of_ne new ..
  | true => ?_
  have others : (store.filedNew (FlowValue.keyed key natType port)).value f = store.value f :=
    Function.update_of_ne new ..
  cases addReply with
  | false =>
    have filed : (store.filedNew (FlowValue.keyed key natType port)).table.lookup key =
          some store.arena.next :=
      AList.lookup_insert _
    rw [flowTableInsertEntry_unanswered, (dpDeleteFlow_deleted filed).others f new, others]
  | true =>
    rw [flowTableInsertEntry_answered, dpRefInc, FlowStore.modify_value_of_ne _ _ new]
    exact others

theorem Keeps.insertEntry (coherent : Coherent store) (outcomes : InsertOutcomes) (key : FlowKey)
    (natType : FlowNatType) (port : PortId) :
    Keeps Allowed store (flowTableInsertEntry outcomes store key natType port).1 := by
  have unguided : Guided Allowed (FlowValue.fresh key natType port) := by
    intro flag
    cases flag
  have allocates :
      Keeps Allowed store (store.allocated (FlowValue.fresh key natType port)) :=
    .alloc coherent _
  have files :
      Keeps Allowed store (store.filedNew (FlowValue.keyed key natType port)) :=
    .fileNew coherent unguided
  rcases outcomes with ⟨_ | _, addOrg, addReply⟩
  · exact (Trims.refl store).keeps coherent
  cases addOrg with
  | false =>
    exact allocates.trans ((Trims.freeArena _ _).keeps allocates.coherent)
  | true => ?_
  cases addReply with
  | false =>
    rw [flowTableInsertEntry_unanswered]
    exact files.trans ((Trims.deleteFlow _ _ _).keeps files.coherent)
  | true => ?_
  rw [flowTableInsertEntry_answered]
  have own := FlowStore.allocated_value_new store (FlowValue.keyed key natType port)
  have both :=
    files.trans
      (.file files.coherent (Nat.lt_succ_self _) (own.symm ▸ unguided)
        (Or.inr (congrArg FlowValue.reply own).symm))
  exact both.trans ((Trims.refInc _ _).keeps both.coherent)

theorem Keeps.cacheFlow (coherent : Coherent store)
    (filed : store.table.lookup store.cache.curr = some f) :
    Keeps Allowed store (dpCacheFlowVal store f) where
  next_le := Nat.le_refl _
  org := fun _ _ => rfl
  guided := fun _ _ => id
  found := by
    rintro g (⟨key, filed'⟩ | cached)
    · exact Or.inl (Or.inl ⟨key, filed'⟩)
    · obtain rfl := Option.some.inj cached
      exact Or.inl (Or.inl ⟨_, filed⟩)
  coherent := by
    constructor
    · exact coherent.filed
    intro g cached
    obtain rfl := Option.some.inj cached
    obtain ⟨inside, own⟩ := coherent.filed _ _ filed
    exact ⟨inside, own, f, filed⟩

end Keeps

end DpService.Flow
