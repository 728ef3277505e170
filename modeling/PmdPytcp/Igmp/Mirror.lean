import PmdPytcp.Igmp.StateChange

namespace PmdPytcp.Igmp
open Ip4MulticastFilter

def filterOf (i : Interface) (group : Ip4Address) : Ip4MulticastFilter := (i.filters.get group).getD nonmember

def socketFilterOf (i : Interface) (group : Ip4Address) (token : Nat) : Option Ip4MulticastFilter :=
  (i.refs.get group).bind (·.socketFilters.get token)

def operatorHolds (i : Interface) (group : Ip4Address) : Bool := (membershipOf i group).operator

-- The observer of every record holds the interface's filters, what is still
-- to be repeated changes none of them, and each is the merge of its contributors.
structure Mirrored (i : Interface) : Prop where
  observed : ∀ group, group ≠ allSystems → observed i.sent group nonmember = filterOf i group
  owner : ∀ group p, i.pending.get group = some p → ∀ r ∈ p.records, r.multicastAddress = group
  steady : ∀ group p, i.pending.get group = some p → replay p.records (filterOf i group) = filterOf i group

structure Sound (i : Interface) : Prop where
  mirrored : Mirrored i
  merged : ∀ group, group ≠ allSystems → filterOf i group = merge (contributorsOf i group)

structure Announced (group : Ip4Address) (old new : Ip4MulticastFilter) (i i' : Interface) : Prop where
  refs : i'.refs = i.refs
  filters : i'.filters = i.filters
  sent : i'.sent = i.sent ++ differenceRecords group old new
  others : ∀ group', group' ≠ group → i'.pending.get group' = i.pending.get group'
  train : ∀ p, i'.pending.get group = some p → p.records = differenceRecords group old new

theorem emitV3Report_sent (emitted : emitV3Report records i = some i') :
    i' = { i with sent := i.sent ++ records } := by
  unfold emitV3Report at emitted
  split at emitted
  · next empty =>
    obtain rfl := Option.some.inj emitted
    simp [empty]
  · split at emitted
    · exact (Option.some.inj emitted).symm
    · cases emitted

theorem sendIgmpStateChange_announced (ordinary : group ≠ allSystems)
    (sends : sendIgmpStateChange config group old new i = some i') : Announced group old new i i' := by
  unfold sendIgmpStateChange at sends
  rw [if_neg ordinary] at sends
  cases built : stateChangeRecords group old new with
  | none => simp [built] at sends
  | some records =>
    obtain rfl : differenceRecords group old new = records := by
      unfold stateChangeRecords at built
      split at built
      · exact Option.some.inj built
      · cases built
    cases emitted : emitV3Report (differenceRecords group old new) i with
    | none => simp [built,emitted] at sends
    | some mid =>
      obtain rfl := emitV3Report_sent emitted
      simp only [built,emitted] at sends
      split at sends
      · obtain rfl := Option.some.inj sends
        refine ⟨rfl,rfl,rfl,?_,?_⟩
        · intro group' other
          exact Store.get_erase_other _ other
        · intro p found
          simp at found
      · obtain rfl := Option.some.inj sends
        refine ⟨rfl,rfl,rfl,?_,?_⟩
        · intro group' other
          exact Store.get_set_other _ _ other
        · intro p found
          simp only [armStateChangeRetransmit,Store.get_set_self] at found
          rw [← Option.some.inj found]

theorem materialize_mirrored (mirrored : Mirrored i) (ordinary : group ≠ allSystems)
    (filters : Store Ip4Address Ip4MulticastFilter) (here : (filters.get group).getD nonmember = new)
    (others : ∀ group', group' ≠ group → filters.get group' = i.filters.get group')
    (ran : (materialize config group (filterOf i group) new filters i).stopped = false) :
    Mirrored (materialize config group (filterOf i group) new filters i).after ∧
      (materialize config group (filterOf i group) new filters i).after.refs = i.refs ∧
      (materialize config group (filterOf i group) new filters i).after.filters = filters := by
  unfold materialize at ran ⊢
  dsimp only at ran ⊢
  cases sends : sendIgmpStateChange config group (filterOf i group) new { i with filters } with
  | none => simp [sends] at ran
  | some i' =>
    obtain ⟨refs,written,sent,pending,train⟩ := sendIgmpStateChange_announced ordinary sends
    dsimp only at refs written sent pending ⊢
    have current : ∀ group', filterOf i' group' = (filters.get group').getD nonmember := by
      intro group'
      rw [filterOf,written]
    refine ⟨⟨?_,?_,?_⟩,refs,written⟩
    · intro group' ordinary'
      rw [sent,observed_append,mirrored.observed group' ordinary',current]
      by_cases other : group' = group
      · subst other
        rw [observed_own _ fun r member => differenceRecords_group member,here]
        exact replay_difference _ _ _ _ (.inl rfl)
      · rw [observed_other _ (fun r member => differenceRecords_group member) other,others group' other]
        rfl
    · intro group' p found
      by_cases other : group' = group
      · subst other
        rw [train p found]
        intro r member
        exact differenceRecords_group member
      · rw [pending group' other] at found
        exact mirrored.owner group' p found
    · intro group' p found
      by_cases other : group' = group
      · subst other
        rw [train p found,current,here]
        exact replay_difference _ _ _ _ (.inr rfl)
      · rw [pending group' other] at found
        have steady := mirrored.steady group' p found
        rw [current,others group' other]
        exact steady

structure Recomputed (group : Ip4Address) (i i' : Interface) : Prop where
  mirrored : Mirrored i'
  refs : i'.refs = i.refs
  here : filterOf i' group = merge (contributorsOf i group)
  others : ∀ group', group' ≠ group → filterOf i' group' = filterOf i group'

theorem materialize_recomputed (mirrored : Mirrored i) (ordinary : group ≠ allSystems)
    (before : filterOf i group = old) (filters : Store Ip4Address Ip4MulticastFilter) (here : (filters.get group).getD nonmember = new)
    (merges : new = merge (contributorsOf i group))
    (others : ∀ group', group' ≠ group → filters.get group' = i.filters.get group')
    (ran : (materialize config group old new filters i).stopped = false) :
    Recomputed group i (materialize config group old new filters i).after := by
  subst before
  obtain ⟨mirrored,refs,written⟩ := materialize_mirrored mirrored ordinary filters here others ran
  refine ⟨mirrored,refs,?_,?_⟩
  · rw [filterOf,written,here,merges]
  · intro group' other
    rw [filterOf,written,others group' other]
    rfl

theorem filterFor_merge (hears : (merge (contributorsOf i group)).hasReception) :
    ip4MulticastFilterFor i group = merge (contributorsOf i group) := by
  unfold ip4MulticastFilterFor contributorsOf at *
  cases found : i.refs.get group with
  | none => simp [found,merge_nil,nonmember,hasReception] at hears
  | some membership => rfl

theorem mcRecompute_spec (mirrored : Mirrored i) (ordinary : group ≠ allSystems)
    (ran : (mcRecompute config group i).stopped = false) : Recomputed group i (mcRecompute config group i).after := by
  unfold mcRecompute at ran ⊢
  dsimp only at ran ⊢
  cases found : i.filters.get group with
  | none =>
    have held : filterOf i group = nonmember := by rw [filterOf,found]; rfl
    rw [found] at ran
    dsimp only at ran ⊢
    split
    · next hears =>
      rw [if_pos hears] at ran
      unfold assignIp4Multicast at ran ⊢
      refine materialize_recomputed mirrored ordinary held _ ?_ (filterFor_merge hears) ?_ ran
      · rw [Store.get_set_self]
        rfl
      · intro group' other
        exact Store.get_set_other _ _ other
    · next deaf =>
      refine ⟨mirrored,rfl,?_,fun _ _ => rfl⟩
      have unheard := eq_nonmember (Bool.eq_false_iff.mpr deaf)
      rw [held,unheard]
  | some old =>
    have held : filterOf i group = old := by rw [filterOf,found]; rfl
    rw [found] at ran
    dsimp only at ran ⊢
    split
    · next hears =>
      rw [if_pos hears] at ran
      split
      · next differs =>
        rw [if_pos differs] at ran
        refine materialize_recomputed mirrored ordinary held _ ?_ rfl ?_ ran
        · rw [Store.get_set_self]
          rfl
        · intro group' other
          exact Store.get_set_other _ _ other
      · next same =>
        refine ⟨mirrored,rfl,?_,fun _ _ => rfl⟩
        rw [held]
        exact (not_not.mp same).symm
    · next deaf =>
      rw [if_neg deaf] at ran
      unfold removeIp4Multicast at ran ⊢
      refine materialize_recomputed mirrored ordinary held _ ?_ (eq_nonmember (Bool.eq_false_iff.mpr deaf)).symm ?_ ran
      · rw [Store.get_erase_self]
        rfl
      · intro group' other
        exact Store.get_erase_other _ other

theorem recompute_sound (sound : Sound i) (ordinary : group ≠ allSystems) (refs : Store Ip4Address Ip4GroupMembership)
    (others : ∀ group', group' ≠ group → refs.get group' = i.refs.get group')
    (ran : (mcRecompute config group { i with refs }).stopped = false) :
    Sound (mcRecompute config group { i with refs }).after ∧
      (mcRecompute config group { i with refs }).after.refs = refs := by
  have start : Mirrored { i with refs } := ⟨sound.mirrored.observed,sound.mirrored.owner,sound.mirrored.steady⟩
  obtain ⟨mirrored,kept,here,elsewhere⟩ := mcRecompute_spec start ordinary ran
  refine ⟨⟨mirrored,?_⟩,kept⟩
  intro group' ordinary'
  have same : contributorsOf (mcRecompute config group { i with refs }).after group' =
      contributorsOf { i with refs } group' := by
    rw [contributorsOf,contributorsOf,kept]
  rw [same]
  by_cases other : group' = group
  · subst other
    exact here
  · rw [elsewhere group' other]
    have before := sound.merged group' ordinary'
    rw [contributorsOf,others group' other]
    exact before

-- What an operation on one group leaves: the sockets' filters it does not name
-- and the holds of every other group.
structure Settled (group : Ip4Address) (i i' : Interface) (filters : Nat → Option Ip4MulticastFilter) : Prop where
  sound : Sound i'
  here : ∀ token, socketFilterOf i' group token = filters token
  others : ∀ group', group' ≠ group → ∀ token, socketFilterOf i' group' token = socketFilterOf i group' token

theorem recompute_settled (sound : Sound i) (ordinary : group ≠ allSystems)
    (refs : Store Ip4Address Ip4GroupMembership) (others : ∀ group', group' ≠ group → refs.get group' = i.refs.get group')
    (here : ∀ token, (refs.get group).bind (·.socketFilters.get token) = filters token)
    (ran : (mcRecompute config group { i with refs }).stopped = false) :
    Settled group i (mcRecompute config group { i with refs }).after filters := by
  obtain ⟨sound,kept⟩ := recompute_sound sound ordinary refs others ran
  refine ⟨sound,?_,?_⟩
  · intro token
    rw [socketFilterOf,kept,here]
  · intro group' other token
    rw [socketFilterOf,kept,others group' other]
    rfl

theorem membershipOf_filters (i : Interface) (group : Ip4Address) (token : Nat) :
    (membershipOf i group).socketFilters.get token = socketFilterOf i group token := by
  unfold membershipOf socketFilterOf
  cases i.refs.get group with
  | none => rfl
  | some membership => rfl

theorem mcRefAcquire_settled (sound : Sound i) (ordinary : group ≠ allSystems)
    (ran : (mcRefAcquire config group i).stopped = false) :
    Settled group i (mcRefAcquire config group i).after (socketFilterOf i group) := by
  unfold mcRefAcquire at ran ⊢
  rw [if_neg ordinary] at ran ⊢
  refine recompute_settled sound ordinary _ ?_ ?_ ran
  · intro group' other
    exact Store.get_set_other _ _ other
  · intro token
    rw [Store.get_set_self]
    exact membershipOf_filters i group token

theorem mcSetSocketFilter_settled (sound : Sound i) (ordinary : group ≠ allSystems) (token : Nat)
    (f : Ip4MulticastFilter) (ran : (mcSetSocketFilter config group token f i).stopped = false) :
    Settled group i (mcSetSocketFilter config group token f i).after
      fun token' => if token' = token then some f else socketFilterOf i group token' := by
  unfold mcSetSocketFilter at ran ⊢
  rw [if_neg ordinary] at ran ⊢
  refine recompute_settled sound ordinary _ ?_ ?_ ran
  · intro group' other
    exact Store.get_set_other _ _ other
  · intro token'
    rw [Store.get_set_self]
    show ((membershipOf i group).socketFilters.set token f).get token' = _
    rw [Store.get_set,membershipOf_filters]

theorem putMembership_refs (group : Ip4Address) (membership : Ip4GroupMembership) (i : Interface) :
    ∃ refs, putMembership group membership i = { i with refs } ∧
      (∀ group', group' ≠ group → refs.get group' = i.refs.get group') ∧
      ∀ token, (refs.get group).bind (·.socketFilters.get token) = membership.socketFilters.get token := by
  unfold putMembership
  split
  · next gone =>
    refine ⟨i.refs.erase group,rfl,?_,?_⟩
    · intro group' other
      exact Store.get_erase_other _ other
    · intro token
      rw [Store.get_erase_self]
      have missing : membership.socketFilters.get token = none := by
        rw [Store.get_eq_none,Store.keys,gone.2]
        simp
      rw [missing]
      rfl
  · refine ⟨i.refs.set group membership,rfl,?_,?_⟩
    · intro group' other
      exact Store.get_set_other _ _ other
    · intro token
      rw [Store.get_set_self]
      rfl

theorem Settled.refl (sound : Sound i) (here : ∀ token, socketFilterOf i group token = filters token) :
    Settled group i i filters := ⟨sound,here,fun _ _ _ => rfl⟩

theorem mcRefRelease_settled (sound : Sound i) (ordinary : group ≠ allSystems)
    (ran : (mcRefRelease config group i).stopped = false) :
    Settled group i (mcRefRelease config group i).after (socketFilterOf i group) := by
  unfold mcRefRelease at ran ⊢
  rw [if_neg ordinary] at ran ⊢
  cases found : i.refs.get group with
  | none => exact Settled.refl sound fun _ => rfl
  | some membership =>
    rw [found] at ran
    obtain ⟨refs,written,others,here⟩ := putMembership_refs group { membership with operator := false } i
    dsimp only at ran ⊢
    rw [written] at ran ⊢
    refine recompute_settled sound ordinary refs others ?_ ran
    intro token
    rw [here,socketFilterOf,found]
    rfl

theorem mcClearSocketFilter_settled (sound : Sound i) (ordinary : group ≠ allSystems) (token : Nat)
    (ran : (mcClearSocketFilter config group token i).stopped = false) :
    Settled group i (mcClearSocketFilter config group token i).after
      fun token' => if token' = token then none else socketFilterOf i group token' := by
  unfold mcClearSocketFilter at ran ⊢
  rw [if_neg ordinary] at ran ⊢
  cases found : i.refs.get group with
  | none =>
    refine Settled.refl sound ?_
    intro token'
    rw [socketFilterOf,found]
    simp
  | some membership =>
    rw [found] at ran
    obtain ⟨refs,written,others,here⟩ :=
      putMembership_refs group { membership with socketFilters := membership.socketFilters.erase token } i
    dsimp only at ran ⊢
    rw [written] at ran ⊢
    refine recompute_settled sound ordinary refs others ?_ ran
    intro token'
    rw [here]
    split
    · next same => rw [same,Store.get_erase_self]
    · next other => rw [Store.get_erase_other _ other,socketFilterOf,found]; rfl

theorem observed_pending (entries : List (Ip4Address × IgmpPendingChange)) (group : Ip4Address)
    (f : Ip4MulticastFilter) (owner : ∀ entry ∈ entries, ∀ r ∈ entry.2.records, r.multicastAddress = entry.1)
    (steady : ∀ entry ∈ entries, entry.1 = group → replay entry.2.records f = f) :
    observed ((entries.map Prod.snd).flatMap (·.records)) group f = f := by
  induction entries with
  | nil => rfl
  | cons entry rest ih =>
    rw [List.map_cons,List.flatMap_cons,observed_append]
    have head : observed entry.2.records group f = f := by
      by_cases same : entry.1 = group
      · rw [observed_own _ fun r member => (owner entry (by simp) r member).trans same]
        exact steady entry (by simp) same
      · exact observed_other _ (owner entry (by simp)) (Ne.symm same) f
    rw [head]
    exact ih (fun e member => owner e (by simp [member])) (fun e member => steady e (by simp [member]))

theorem fire_mirrored (mirrored : Mirrored i) :
    Mirrored (fireStateChangeRetransmit i).after ∧ (fireStateChangeRetransmit i).after.refs = i.refs ∧
      (fireStateChangeRetransmit i).after.filters = i.filters := by
  unfold fireStateChangeRetransmit
  dsimp only
  cases emitted : emitV3Report (i.pending.values.flatMap (·.records)) { i with armed := false } with
  | none => exact ⟨⟨mirrored.observed,mirrored.owner,mirrored.steady⟩,rfl,rfl⟩
  | some mid =>
    obtain rfl := emitV3Report_sent emitted
    have kept : Mirrored { i with
        sent := i.sent ++ i.pending.values.flatMap (·.records), armed := false,
        pending := (i.pending.filter fun _ p => 1 < p.remaining).map fun _ p =>
          { p with remaining := p.remaining - 1 } } := by
      have owed : ∀ group p, ((i.pending.filter fun _ p => 1 < p.remaining).map fun _ p =>
          { p with remaining := p.remaining - 1 }).get group = some p →
          ∃ old, i.pending.get group = some old ∧ p.records = old.records := by
        intro group p found
        rw [Store.get_map,Store.get_filter] at found
        obtain ⟨old,kept,rfl⟩ := Option.map_eq_some_iff.mp found
        obtain ⟨was,_⟩ := Option.filter_eq_some_iff.mp kept
        exact ⟨old,was,rfl⟩
      refine ⟨?_,?_,?_⟩
      · intro group ordinary
        rw [observed_append,mirrored.observed group ordinary]
        refine observed_pending i.pending.entries group _ ?_ ?_
        · intro entry member
          exact mirrored.owner entry.1 entry.2 (Store.get_eq_some.mpr member)
        · intro entry member same
          subst same
          exact mirrored.steady entry.1 entry.2 (Store.get_eq_some.mpr member)
      · intro group p found
        obtain ⟨old,was,same⟩ := owed group p found
        rw [same]
        exact mirrored.owner group old was
      · intro group p found
        obtain ⟨old,was,same⟩ := owed group p found
        rw [same]
        exact mirrored.steady group old was
    dsimp only
    split
    · exact ⟨⟨kept.observed,kept.owner,kept.steady⟩,rfl,rfl⟩
    · exact ⟨⟨kept.observed,kept.owner,kept.steady⟩,rfl,rfl⟩

theorem fire_sound (sound : Sound i) :
    Sound (fireStateChangeRetransmit i).after ∧ (fireStateChangeRetransmit i).after.refs = i.refs := by
  obtain ⟨mirrored,refs,filters⟩ := fire_mirrored sound.mirrored
  refine ⟨⟨mirrored,?_⟩,refs⟩
  intro group ordinary
  rw [filterOf,filters,contributorsOf,refs]
  exact sound.merged group ordinary

end PmdPytcp.Igmp
