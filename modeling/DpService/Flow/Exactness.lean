import DpService.Flow.Withdrawal

/-!
# Exact counting

Without offloading, nothing but an entry of the flow table refers to a flow.
As long as no entry is given to another flow and the two keys of a flow
differ, every flow has exactly as many references as entries, and it is freed
together with the last of them.
-/

namespace DpService.Flow

open Foundations Packet Dataplane

/-- Every flow that was not freed has one reference for each entry. -/
def ExactlyCounted (store : FlowStore) : Prop :=
  ∀ f, store.Live f → (store.value f).refCount = (store.table.holders f).card

structure WellCounted (store : FlowStore) : Prop where
  exactly : ExactlyCounted store
  kept : ∀ f, store.Live f → 0 < (store.value f).refCount
  noRules : ∀ f, (store.value f).rules = 0

theorem wellCounted_empty : WellCounted FlowStore.empty where
  exactly := fun _ live => absurd live.1 (Nat.not_lt_zero _)
  kept := fun _ live => absurd live.1 (Nat.not_lt_zero _)
  noRules := fun _ => rfl

variable {store before after : FlowStore} {f g : Handle} {key : FlowKey}

theorem WellCounted.not_live (wellCounted : WellCounted store) (empty : store.table.entries = [])
    (f : Handle) : ¬ store.Live f := by
  intro live
  have positive := wellCounted.kept f live
  rw [wellCounted.exactly f live, Finset.card_pos] at positive
  obtain ⟨key, member⟩ := positive
  have filed := (FiniteTable.mem_holders store.table f key).mp member
  have entry := FiniteTable.mem_entries_of_lookup store.table filed
  rw [empty] at entry
  cases entry

theorem Unmoved.wellCounted (unmoved : Unmoved before after) (wellCounted : WellCounted before) :
    WellCounted after where
  exactly := by
    intro f live
    rw [unmoved.table, unmoved.refCount]
    exact wellCounted.exactly f ((unmoved.live_iff f).mp live)
  kept := by
    intro f live
    rw [unmoved.refCount]
    exact wellCounted.kept f ((unmoved.live_iff f).mp live)
  noRules := by
    intro f
    rw [unmoved.rules]
    exact wellCounted.noRules f

theorem WellCounted.of_others (wellCounted : WellCounted before)
    (live : ∀ g, g ≠ f → after.Live g → before.Live g)
    (others : ∀ g, g ≠ f → after.value g = before.value g)
    (entries : ∀ g key, g ≠ f →
      (after.table.lookup key = some g ↔ before.table.lookup key = some g))
    (exactly : after.Live f → (after.value f).refCount = (after.table.holders f).card)
    (kept : after.Live f → 0 < (after.value f).refCount)
    (noRules : (after.value f).rules = 0) : WellCounted after where
  exactly := by
    intro g liveG
    by_cases same : g = f
    · rw [same] at liveG ⊢
      exact exactly liveG
    have holders : after.table.holders g = before.table.holders g := by
      ext key
      rw [FiniteTable.mem_holders, FiniteTable.mem_holders]
      exact entries g key same
    rw [others g same, holders]
    exact wellCounted.exactly g (live g same liveG)
  kept := by
    intro g liveG
    by_cases same : g = f
    · rw [same] at liveG ⊢
      exact kept liveG
    · rw [others g same]
      exact wellCounted.kept g (live g same liveG)
  noRules := by
    intro g
    by_cases same : g = f
    · rw [same]
      exact noRules
    · rw [others g same]
      exact wellCounted.noRules g

/-! ## Entries that are left alone -/

/-- No entry is given to another flow, only `own` loses one, and the keys of a
flow differ. -/
structure Gentle (own : Option Handle) (before after : FlowStore) : Prop where
  entries : ∀ key g, before.table.lookup key = some g →
    after.table.lookup key = some g ∨ (own = some g ∧ after.table.lookup key = none)
  apart : ∀ f, after.Live f → (after.value f).org ≠ (after.value f).reply

theorem Gentle.of_unmoved {own : Option Handle} {start finish : FlowStore}
    (gentle : Gentle own before after) (begun : Unmoved before start)
    (finished : Unmoved finish after) : Gentle own start finish where
  entries := by
    intro key g filed
    rw [begun.table] at filed
    rw [← finished.table]
    exact gentle.entries key g filed
  apart := by
    intro f live
    rw [← finished.org, ← finished.reply]
    exact gentle.apart f ((finished.live_iff f).mpr live)

theorem WellCounted.inserted {own : Option Handle} {natType : FlowNatType} {port : PortId}
    (wellCounted : WellCounted store) (lasting : Lasting store)
    (gentle : Gentle own store (inserted store key natType port)) :
    WellCounted (inserted store key natType port) := by
  have cases := FlowStore.live_allocated_iff lasting (FlowValue.created key natType port)
  have value := inserted_value_new store key natType port
  have apart := gentle.apart store.arena.next ((cases _).mpr (Or.inr rfl))
  rw [value] at apart
  change key ≠ dpInvertFlowKey key at apart
  have holders : (Flow.inserted store key natType port).table.holders store.arena.next =
        {key, dpInvertFlowKey key} := by
    ext other
    rw [FiniteTable.mem_holders, inserted_lookup, Finset.mem_insert, Finset.mem_singleton]
    split
    · rename_i either
      exact iff_of_true rfl either
    rename_i neither
    refine iff_of_false ?_ neither
    intro filed
    exact absurd (lasting.filed other _ filed).1 (Nat.lt_irrefl _)
  refine @WellCounted.of_others store _ store.arena.next wellCounted ?_ ?_ ?_ ?_ ?_ ?_
  · intro g different live
    exact ((cases g).mp live).resolve_right different
  · intro g different
    exact Function.update_of_ne different ..
  · intro g other different
    rw [inserted_lookup]
    constructor
    · intro filed
      split at filed
      · exact absurd (Option.some_inj.mp filed).symm different
      · exact filed
    intro filed
    rcases gentle.entries other g filed with stays | ⟨_, lost⟩
    · rw [← inserted_lookup store key natType port]
      exact stays
    rw [inserted_lookup] at lost
    split at lost
    · cases lost
    rw [lost] at filed
    cases filed
  · intro _
    rw [holders, Finset.card_pair apart, value]
    rfl
  · intro _
    rw [value]
    exact Nat.two_pos
  · rw [value]
    rfl

/-! ## Entries that are taken out -/

theorem refCount_of_live_dpRefDec (live : (dpRefDec store f).Live f) :
    (store.value f).refCount ≠ 1 := by
  intro last
  rw [FlowStore.Live, dpRefDec_arena_of_last last] at live
  exact ((FlowStore.live_free_iff store f f).mp live).2 rfl

theorem WellCounted.deleteFlow (wellCounted : WellCounted store) (live : store.Live f)
    (filed : store.table.lookup key = some f) :
    WellCounted (dpDeleteFlow store key f).1 := by
  have deleted := dpDeleteFlow_deleted filed
  have definition := dpDeleteFlow_of_filed filed f
  have counts := wellCounted.exactly f live
  have fewer := FiniteTable.card_holders_erase_of_lookup store.table filed
  have value : (dpDeleteFlow store key f).1.value f = dropReference (store.value f) := by
    rw [definition, dpRefDec_value, FlowStore.modify_value_self]
    rfl
  apply wellCounted.of_others (f := f)
  · intro g _ liveG
    rw [definition] at liveG
    have before := live_of_dpRefDec liveG
    exact before
  · exact deleted.others
  · intro g other different
    rw [deleted.lookup]
    split
    · rename_i same
      rw [same, filed]
      refine iff_of_false nofun ?_
      intro mine
      exact different (Option.some_inj.mp mine).symm
    · exact Iff.rfl
  · intro _
    rw [value, definition, dpRefDec_table]
    change (store.value f).refCount - 1 = (FiniteTable.holders (store.table.erase key) f).card
    omega
  · intro still
    rw [definition] at still
    have more := refCount_of_live_dpRefDec still
    change (store.value f).refCount ≠ 1 at more
    rw [value]
    change 0 < (store.value f).refCount - 1
    omega
  · rw [value]
    exact wellCounted.noRules f

/-! ## Exchanged keys -/

theorem WellCounted.holders_eq (wellCounted : WellCounted store) (live : store.Live f)
    (intact : Intact store f) (two : (store.value f).refCount = 2) :
    (store.value f).org ≠ (store.value f).reply ∧ store.table.holders f =
        {(store.value f).org, (store.value f).reply} := by
  have counts := wellCounted.exactly f live
  rw [two] at counts
  have within :
      store.table.holders f ⊆
        {(store.value f).org, (store.value f).reply} := by
    intro key member
    rw [Finset.mem_insert, Finset.mem_singleton]
    exact intact.keys key ((FiniteTable.mem_holders _ f key).mp member)
  have different : (store.value f).org ≠ (store.value f).reply := by
    intro same
    have few := Finset.card_le_card within
    rw [same, Finset.pair_eq_singleton, Finset.card_singleton] at few
    omega
  refine ⟨different, Finset.eq_of_subset_of_card_le within ?_⟩
  rw [Finset.card_pair different]
  exact counts.le

theorem WellCounted.rekey (wellCounted : WellCounted before) (live : before.Live f)
    (different : (before.value f).org ≠ (before.value f).reply)
    (holders : before.table.holders f = {(before.value f).org, (before.value f).reply})
    {rewrite : FlowKey → FlowKey} (refiles : Refiles before after f true rewrite)
    (gentle : Gentle (some f) before after) : WellCounted after := by
  have member : ∀ key, before.table.lookup key = some f ↔
      key = (before.value f).org ∨ key = (before.value f).reply := by
    intro key
    rw [← FiniteTable.mem_holders, holders, Finset.mem_insert, Finset.mem_singleton]
  have answers := (member (before.value f).reply).mpr (Or.inr rfl)
  have counts := wellCounted.exactly f live
  rw [holders, Finset.card_pair different] at counts
  have liveAfter : after.Live f := by
    rw [FlowStore.Live, refiles.arena]
    exact live
  have org : (after.value f).org = (before.value f).org :=
    (congrArg FlowValue.org refiles.value).trans rfl
  have apart := gentle.apart f liveAfter
  have refCount := refiles.refCount
  simp only [answers, Option.isSome_some, if_true] at refCount
  have now : after.table.holders f = {(after.value f).org, (after.value f).reply} := by
    ext key
    rw [FiniteTable.mem_holders, refiles.lookup, Finset.mem_insert,
      Finset.mem_singleton, org]
    split
    · rename_i new
      exact iff_of_true rfl (Or.inr new.2)
    rename_i notNew
    have notReply : key ≠ (after.value f).reply := fun same => notNew ⟨rfl, same⟩
    split
    · rename_i old
      refine iff_of_false (Option.some_ne_none f).symm ?_
      rintro (first | reply)
      · exact different (first.symm.trans old)
      · exact notReply reply
    · rename_i notOld
      rw [member]
      exact or_congr_right (iff_of_false notOld notReply)
  apply wellCounted.of_others (f := f)
  · intro g _ liveG
    rw [FlowStore.Live, refiles.arena] at liveG
    exact liveG
  · exact refiles.others
  · intro g key other
    constructor
    · intro found
      rw [refiles.lookup] at found
      split at found
      · exact absurd (Option.some_inj.mp found).symm other
      split at found
      · cases found
      · exact found
    intro found
    rcases gentle.entries key g found with stays | ⟨own, _⟩
    · exact stays
    · exact absurd (Option.some_inj.mp own).symm other
  · intro _
    rw [now, Finset.card_pair apart]
    omega
  · intro _
    omega
  · rw [show (after.value f).rules = _ from congrArg FlowValue.rules refiles.value]
    exact wellCounted.noRules f

/-! ## Walks -/

theorem dropRules_of_none (none : (store.value f).rules = 0) (count : Nat) :
    dropRules count store f = store := by
  induction count with
  | zero => rfl
  | succ count ih =>
    rw [dropRules, dropRule, if_pos none]
    exact ih

theorem WellCounted.sweep (wellCounted : WellCounted store) (lasting : Lasting store)
    {visit : FlowStore → FlowKey → Handle → FlowStore}
    (handles : ∀ current key f, WellCounted current →
      visit current key f = current ∨ visit current key f = (dpDeleteFlow current key f).1) :
    WellCounted (sweep visit store) := by
  -- induction on the entries that are left
  have walk : ∀ (rest : List (Sigma fun _ : FlowKey => Handle)) current,
      WellCounted current → Lasting current →
      (∀ entry ∈ rest, current.table.lookup entry.1 = some entry.2) →
      (rest.map Sigma.fst).Nodup →
        WellCounted
          (rest.foldl (fun current entry => visit current entry.1 entry.2) current) := by
    intro rest
    induction rest with
    | nil =>
      intro current counted _ _ _
      exact counted
    | cons entry rest ih =>
      intro current counted lasting pending distinct
      obtain ⟨fresh, distinct⟩ := List.nodup_cons.mp distinct
      have filed := pending entry List.mem_cons_self
      have later := fun next member => pending next (List.mem_cons_of_mem entry member)
      rw [List.foldl_cons]
      rcases handles current entry.1 entry.2 counted with same | deleted
      · rw [same]
        exact ih current counted lasting later distinct
      have live := lasting.filed _ _ filed
      rw [deleted]
      refine ih _ (counted.deleteFlow live filed) (lasting.deleteFlow filed) ?_ distinct
      intro next member
      have different : next.1 ≠ entry.1 := by
        intro same
        exact fresh (List.mem_map.mpr ⟨next, member, same⟩)
      rw [(dpDeleteFlow_deleted filed).lookup, if_neg different]
      exact later next member
  exact
    walk store.table.entries store wellCounted lasting
      (fun entry member => FiniteTable.lookup_of_mem_entries store.table member)
      store.table.nodupKeys

theorem WellCounted.age (wellCounted : WellCounted store) (lasting : Lasting store)
    (now timerHz : UInt64) (expired : FlowKey → Nat) :
    WellCounted (dpProcessAgedFlowsNonOffload now timerHz expired store) := by
  apply wellCounted.sweep lasting
  intro current key f counted
  rw [ageEntry, dropRules_of_none (counted.noRules f)]
  split
  · exact Or.inr rfl
  · exact Or.inl rfl

theorem WellCounted.remove (wellCounted : WellCounted store) (lasting : Lasting store)
    (chosen : FlowKey → FlowValue → Bool) (stored : FlowKey → Nat) :
    WellCounted (dpRemoveFlows chosen stored store) := by
  apply wellCounted.sweep lasting
  intro current key f counted
  rw [dropRules_of_none (counted.noRules f)]
  split
  · exact Or.inr rfl
  · exact Or.inl rfl

end DpService.Flow
