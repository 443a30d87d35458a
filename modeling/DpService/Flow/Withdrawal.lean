import DpService.Flow.Lifetime

/-!
# Walks over the flow table and how long flows last

Aging and removal only take entries from the flows they belong to, so nothing
is left that refers to a flow that was freed.  A flow that nobody has decided
about stays intact unless a removal takes only one of its two entries.
-/

namespace DpService.Flow

open Foundations Packet Dataplane

variable {store before after : FlowStore} {f g : Handle}

theorem sweepable_lasting : Sweepable Lasting where
  dropRule := by
    intro store key f lasting filed
    have live := lasting.filed key f filed
    exact
      ⟨dropRule_trimmed filed (lasting.counted f live) (lasting.unruled f live), lasting.dropRule f⟩
  delete := fun lasting filed => lasting.deleteFlow filed

theorem Sweeping.sustained {Kept : FlowStore → Prop} {due : FlowKey → Handle → Prop}
    {start : FlowStore} (sweeping : Sweeping Kept due start store []) (lasting : Lasting store)
    (sustained : Sustained start)
    (whole : ∀ f key other, start.Live f → (start.value f).Undecided →
      start.table.lookup key = some f → start.table.lookup other = some f →
        due key f → due other f) :
    Sustained store where
  toLasting := lasting
  intact := by
    intro f live now
    have same := sweeping.same f
    have liveStart := sweeping.live f live
    have undecided := same.undecided_iff.mp now
    refine
      (sustained.intact f liveStart undecided).transport ?_ ?_ (fun key => sweeping.filed key f) ?_
    · rw [same]
    · rw [same]
    intro found
    obtain ⟨value, before⟩ :=
      sweeping.value_of_found undecided
        (fun key other => whole f key other liveStart undecided) found
    exact ⟨before, congrArg FlowValue.refCount value⟩

/-! ## Aging and removal -/

theorem Sustained.age (sustained : Sustained store) (now timerHz : UInt64)
    (expired : FlowKey → Nat) :
    Sustained (dpProcessAgedFlowsNonOffload now timerHz expired store) := by
  have aged := sweepable_lasting.age sustained.toLasting now timerHz expired
  exact aged.sustained aged.kept sustained fun _ _ _ _ _ _ _ due => due

/-- The choice reads no counter, and takes the entries of a flow that nobody
has decided about together or not at all. -/
structure SplitsNone
    (store : FlowStore) (chosen : FlowKey → FlowValue → Bool) : Prop where
  counts : ∀ key before after, SameFlow before after → chosen key after = chosen key before
  whole : ∀ f key other, store.Live f → (store.value f).Undecided →
    store.table.lookup key = some f → store.table.lookup other = some f →
      chosen key (store.value f) = true → chosen other (store.value f) = true

theorem Sustained.remove (sustained : Sustained store) {chosen : FlowKey → FlowValue → Bool}
    (splitsNone : SplitsNone store chosen) (stored : FlowKey → Nat) :
    Sustained (dpRemoveFlows chosen stored store) := by
  have removed := sweepable_lasting.remove sustained.toLasting splitsNone.counts stored
  exact removed.sustained removed.kept sustained splitsNone.whole

theorem WholeFlows.splitsNone {chosen : FlowKey → FlowValue → Bool} (whole : WholeFlows chosen)
    (sustained : Sustained store) : SplitsNone store chosen where
  counts := whole.counts
  whole := by
    intro f key other live undecided filed filedOther isChosen
    have intact := sustained.intact f live undecided
    have keys := whole.keys (store.value f) intact.vni
    have either : ∀ key, store.table.lookup key = some f → chosen key (store.value f) =
          chosen (store.value f).org (store.value f) := by
      intro key found
      rcases intact.keys key found with org | reply
      · rw [org]
      · rw [reply, keys]
    rw [either other filedOther, ← either key filed]
    exact isChosen

theorem Sustained.dropRule (sustained : Sustained store) (f : Handle) :
    Sustained (Flow.dropRule store f) where
  toLasting := sustained.toLasting.dropRule f
  intact := by
    intro g live now
    unfold Flow.dropRule at live now ⊢
    split
    · rename_i none
      rw [if_pos none] at live now
      exact sustained.intact g live now
    rename_i some
    rw [if_neg some] at live now
    have liveF : store.Live f := by
      by_contra gone
      exact some (sustained.spent f gone)
    rw [dpRefDec_value, FlowStore.modify_modify] at now
    have different : g ≠ f := by
      intro same
      rw [same, FlowStore.modify_value_self] at now
      exact some (sustained.unruled f liveF now)
    rw [FlowStore.modify_value_of_ne _ _ different] at now
    have value :
        (dpRefDec
            (store.modify f fun value => { value with rules := value.rules - 1 }) f).value g =
          store.value g := by
      rw [dpRefDec_value, FlowStore.modify_modify, FlowStore.modify_value_of_ne _ _ different]
    have liveBefore := live_of_dpRefDec live
    have intact := sustained.intact g liveBefore now
    refine intact.transport (congrArg FlowValue.org value) (congrArg FlowValue.reply value) ?_ ?_
    · intro key found
      rw [dpRefDec_table] at found
      exact found
    rintro (⟨key, found⟩ | held)
    · rw [dpRefDec_table] at found
      exact ⟨Or.inl ⟨key, found⟩, congrArg FlowValue.refCount value⟩
    · have before := cached_of_dpRefDec held
      exact ⟨Or.inr before, congrArg FlowValue.refCount value⟩

end DpService.Flow
