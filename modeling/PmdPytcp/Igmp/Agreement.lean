import PmdPytcp.Igmp.Mirror

namespace PmdPytcp.Igmp
open Ip4MulticastFilter

-- The registry of the interface holds the filters the sockets hold themselves.
structure Kept (h : Host) : Prop where
  sound : Sound h.interface
  owned : ∀ group, group ≠ allSystems → ∀ token, socketFilterOf h.interface group token = h.held.get (token,group)

theorem Kept.start : Kept Host.start := by
  refine ⟨⟨⟨?_,?_,?_⟩,?_⟩,?_⟩
  · intro group ordinary
    rw [filterOf,Host.start,Store.get_set_other _ _ ordinary]
    rfl
  · intro group p found
    cases found
  · intro group p found
    cases found
  · intro group ordinary
    rw [filterOf,Host.start,Store.get_set_other _ _ ordinary]
    rfl
  · intro group ordinary token
    rfl

-- The all-systems group is outside the registry, so its filters are free.
theorem Kept.held_elsewhere (kept : Kept h) (held : Store (Nat × Ip4Address) Ip4MulticastFilter)
    (same : ∀ group, group ≠ allSystems → ∀ token, held.get (token,group) = h.held.get (token,group)) :
    Kept { h with held } := by
  refine ⟨kept.sound,?_⟩
  intro group ordinary token
  rw [kept.owned group ordinary token]
  exact (same group ordinary token).symm

theorem Kept.of_settled (kept : Kept h) (settled : Settled group h.interface i filters)
    (held : Store (Nat × Ip4Address) Ip4MulticastFilter)
    (here : ∀ token, filters token = held.get (token,group))
    (others : ∀ group', group' ≠ group → ∀ token, held.get (token,group') = h.held.get (token,group')) :
    Kept ⟨i,held⟩ := by
  refine ⟨settled.sound,?_⟩
  intro group' ordinary token
  by_cases other : group' = group
  · subst other
    exact (settled.here token).trans (here token)
  · rw [settled.others group' other,others group' other]
    exact kept.owned group' ordinary token

theorem get_set_pair (held : Store (Nat × Ip4Address) Ip4MulticastFilter) (token token' : Nat) (group : Ip4Address)
    (f : Ip4MulticastFilter) :
    (held.set (token,group) f).get (token',group) = if token' = token then some f else held.get (token',group) := by
  rw [Store.get_set]
  simp

theorem Kept.setFilter (kept : Kept h) (token : Nat) (group : Ip4Address) (f : Ip4MulticastFilter)
    (ran : (setFilter config token group f h).stopped = false) : Kept (setFilter config token group f h).after := by
  unfold Igmp.setFilter at ran ⊢
  split
  · next allowed =>
    rw [if_pos allowed] at ran
    dsimp only at ran ⊢
    rw [ran,if_neg Bool.false_ne_true]
    by_cases system : group = allSystems
    · subst system
      rw [mcSetSocketFilter,if_pos rfl]
      refine kept.held_elsewhere _ ?_
      intro group ordinary token'
      refine Store.get_set_other _ _ ?_
      simp [ordinary]
    · refine kept.of_settled (mcSetSocketFilter_settled kept.sound system token f ran) _ ?_ ?_
      · intro token'
        rw [get_set_pair,kept.owned group system token']
      · intro group' other token'
        refine Store.get_set_other _ _ ?_
        simp [other]
  · exact kept

theorem Kept.clearFilter (kept : Kept h) (token : Nat) (group : Ip4Address)
    (ran : (clearFilter config token group h).stopped = false) : Kept (clearFilter config token group h).after := by
  unfold Igmp.clearFilter at ran ⊢
  dsimp only at ran ⊢
  rw [ran,if_neg Bool.false_ne_true]
  by_cases system : group = allSystems
  · subst system
    rw [mcClearSocketFilter,if_pos rfl]
    refine kept.held_elsewhere _ ?_
    intro group ordinary token'
    refine Store.get_erase_other _ ?_
    simp [ordinary]
  · refine kept.of_settled (mcClearSocketFilter_settled kept.sound system token ran) _ ?_ ?_
    · intro token'
      split
      · next same => rw [same,Store.get_erase_self]
      · next other =>
        rw [Store.get_erase_other _ (by simp [other])]
        exact kept.owned group system token'
    · intro group' other token'
      refine Store.get_erase_other _ ?_
      simp [other]

theorem clearEach_spec (token : Nat) (groups : List Ip4Address) (sound : Sound i)
    (ran : (clearEach config token groups i).stopped = false) :
    Sound (clearEach config token groups i).after ∧ ∀ group, group ≠ allSystems → ∀ token',
      socketFilterOf (clearEach config token groups i).after group token' =
        if token' = token ∧ group ∈ groups then none else socketFilterOf i group token' := by
  induction groups generalizing i with
  | nil => exact ⟨sound,fun _ _ _ => by simp [clearEach]⟩
  | cons first rest ih =>
    unfold clearEach at ran ⊢
    dsimp only at ran ⊢
    have went : (mcClearSocketFilter config first token i).stopped = false := by
      cases stop : (mcClearSocketFilter config first token i).stopped with
      | false => rfl
      | true => simp [stop] at ran
    rw [if_neg (by simp [went])] at ran ⊢
    by_cases system : first = allSystems
    · have same : (mcClearSocketFilter config first token i).after = i := by rw [mcClearSocketFilter,if_pos system]
      rw [same] at ran ⊢
      obtain ⟨sound,cleared⟩ := ih sound ran
      refine ⟨sound,?_⟩
      intro group ordinary token'
      rw [cleared group ordinary token']
      have elsewhere : group ≠ first := fun here => ordinary (here.trans system)
      simp [elsewhere]
    · have settled := mcClearSocketFilter_settled sound system token went
      obtain ⟨sound,cleared⟩ := ih settled.sound ran
      refine ⟨sound,?_⟩
      intro group ordinary token'
      rw [cleared group ordinary token']
      by_cases here : group = first
      · subst here
        rw [settled.here]
        by_cases same : token' = token
        · simp [same]
        · simp [same]
      · rw [settled.others group here]
        simp [here]

theorem Kept.release (kept : Kept h) (token : Nat)
    (ran : (releaseIp4Memberships config token h).stopped = false) :
    Kept (releaseIp4Memberships config token h).after := by
  unfold releaseIp4Memberships at ran ⊢
  dsimp only at ran ⊢
  rw [ran,if_neg Bool.false_ne_true]
  obtain ⟨sound,cleared⟩ := clearEach_spec token _ kept.sound ran
  refine ⟨sound,?_⟩
  intro group ordinary token'
  rw [Store.get_filter]
  dsimp only
  rw [cleared group ordinary token',kept.owned group ordinary token']
  cases found : h.held.get (token',group) with
  | none => simp
  | some f =>
    by_cases same : token' = token
    · subst same
      have listed : (token',group) ∈ h.held.keys := Store.mem_keys.mpr ⟨f,found⟩
      simp [Option.filter,listed]
    · simp [Option.filter,same]

-- An operation that no assertion of the report code stops; the retransmission
-- timer may be stopped by one.
def Passes (config : Config) (op : Op) (h : Host) : Prop :=
  op = .fire ∨ (h.step config op).stopped = false

instance (config : Config) (op : Op) (h : Host) : Decidable (Passes config op h) :=
  inferInstanceAs (Decidable (_ ∨ _))

theorem Kept.step (kept : Kept h) (op : Op) (passes : Passes config op h) : Kept (h.step config op).after := by
  cases op with
  | join group =>
    have ran := passes.resolve_left (by simp)
    unfold Host.step onInterface at ran ⊢
    dsimp only at ran ⊢
    split
    · next allowed =>
      rw [if_pos allowed] at ran
      by_cases system : group = allSystems
      · rw [mcRefAcquire,if_pos system]
        exact kept
      · exact kept.of_settled (mcRefAcquire_settled kept.sound system ran) h.held
          (kept.owned group system) (fun _ _ _ => rfl)
    · exact kept
  | leave group =>
    have ran := passes.resolve_left (by simp)
    unfold Host.step onInterface at ran ⊢
    dsimp only at ran ⊢
    split
    · next allowed =>
      rw [if_pos allowed] at ran
      exact kept.of_settled (mcRefRelease_settled kept.sound allowed.2 ran) h.held
        (kept.owned group allowed.2) (fun _ _ _ => rfl)
    · exact kept
  | addMembership token group =>
    have ran := passes.resolve_left (by simp)
    unfold Host.step at ran ⊢
    dsimp only at ran ⊢
    split
    · next allowed =>
      rw [if_pos allowed] at ran
      exact kept.setFilter token group anySource ran
    · exact kept
  | dropMembership token group =>
    have ran := passes.resolve_left (by simp)
    unfold Host.step at ran ⊢
    dsimp only at ran ⊢
    split
    · next allowed =>
      rw [if_pos allowed] at ran
      exact kept.clearFilter token group ran
    · exact kept
  | source op token group source =>
    have ran := passes.resolve_left (by simp)
    unfold Host.step at ran ⊢
    dsimp only at ran ⊢
    split
    · next allowed =>
      rw [if_pos allowed] at ran
      cases change : applySourceOp op (h.held.get (token,group)) source with
      | refused => exact kept
      | leaves =>
        rw [change] at ran
        exact kept.clearFilter token group ran
      | becomes f =>
        rw [change] at ran
        exact kept.setFilter token group f ran
    · exact kept
  | close token => exact kept.release token (passes.resolve_left (by simp))
  | fire =>
    unfold Host.step onInterface
    dsimp only
    split
    · obtain ⟨sound,refs⟩ := fire_sound kept.sound
      refine ⟨sound,?_⟩
      intro group ordinary token
      rw [socketFilterOf,refs]
      exact kept.owned group ordinary token
    · exact kept

def Reached (config : Config) (h : Host) : Prop :=
  Runs.Reached (fun h => h = .start) (fun op h => (h.step config op).after) (Passes config) h

theorem Reached.kept (reached : Reached config h) : Kept h := by
  refine Runs.Reached.invariant Kept ?_ ?_ reached
  · intro s first
    subst first
    exact Kept.start
  · intro s op kept passes
    exact kept.step op passes

theorem mem_contributorsOf {i : Interface} {group : Ip4Address} {f : Ip4MulticastFilter} :
    f ∈ contributorsOf i group ↔
      (∃ token, socketFilterOf i group token = some f) ∨ operatorHolds i group ∧ f = anySource := by
  unfold contributorsOf socketFilterOf operatorHolds membershipOf
  cases found : i.refs.get group with
  | none => simp [Ip4GroupMembership.fresh]
  | some membership =>
    have values : f ∈ membership.socketFilters.values ↔ ∃ token, membership.socketFilters.get token = some f := by
      simp [Store.values,Store.get_eq_some]
    cases hold : membership.operator <;> simp [Ip4GroupMembership.contributors,values,hold]

-- An observer of every state-change record holds the interface's filter of the
-- group, and that filter accepts what some contributor accepts.
structure Agrees (h : Host) (group : Ip4Address) : Prop where
  observer : observed h.interface.sent group nonmember = filterOf h.interface group
  accepts : ∀ source, (filterOf h.interface group).allows source = true ↔
    (operatorHolds h.interface group ∧ anySource.allows source = true) ∨
      ∃ token f, h.held.get (token,group) = some f ∧ f.allows source = true
  order : ∀ contributors, contributors.Perm (contributorsOf h.interface group) →
    merge contributors = filterOf h.interface group

theorem igmp_observer_agrees (config : Config) (h : Host) (reached : Reached config h) (group : Ip4Address)
    (ordinary : group ≠ allSystems) : Agrees h group := by
  have kept := reached.kept
  have merged := kept.sound.merged group ordinary
  refine ⟨kept.sound.mirrored.observed group ordinary,?_,?_⟩
  · intro source
    rw [merged,merge_allows]
    constructor
    · rintro ⟨f,member,passes⟩
      rcases mem_contributorsOf.mp member with ⟨token,held⟩ | ⟨holds,rfl⟩
      · exact .inr ⟨token,f,(kept.owned group ordinary token).symm.trans held,passes⟩
      · exact .inl ⟨holds,passes⟩
    · rintro (⟨holds,passes⟩ | ⟨token,f,held,passes⟩)
      · exact ⟨anySource,mem_contributorsOf.mpr (.inr ⟨holds,rfl⟩),passes⟩
      · exact ⟨f,mem_contributorsOf.mpr (.inl ⟨token,(kept.owned group ordinary token).trans held⟩),passes⟩
  · intro contributors order
    rw [merged]
    exact merge_congr fun f => order.mem_iff

def usual : Config := ⟨2,20⟩

def group : Ip4Address := 0xEF010203

-- One socket blocks a source, another asks for a single one, and the interface
-- leaves; the timer fires between and after.
def changes : List Op :=
  [.join group,.addMembership 1 group,.source .blockSource 1 group 0x0A000005,.fire,
    .source .addSourceMembership 2 group 0x0A000006,.leave group,.fire]

def changed : Host := Runs.run (fun op h => (h.step usual op).after) Host.start changes

instance (config : Config) (op : Op) (h : Host) : Decidable (Passes config op h) :=
  inferInstanceAs (Decidable (op = .fire ∨ (h.step config op).stopped = false))

theorem igmp_observer_agrees_joined :
    Reached usual changed ∧ Agrees changed group ∧ filterOf changed.interface group = ⟨.excl,{0x0A000005}⟩ ∧
      changed.interface.sent.length = 4 := by
  have first : Reached usual Host.start := .start _ rfl
  have reached : Reached usual changed := Runs.Reached.run first changes (by decide +kernel)
  exact ⟨reached,igmp_observer_agrees usual changed reached group (by decide),by decide +kernel,by decide +kernel⟩

-- Runs of any operations, also of those an assertion stops.
def AnyRun (config : Config) (h : Host) : Prop :=
  Runs.Reached (fun h => h = .start) (fun op h => (h.step config op).after) (fun _ _ => True) h

-- A source that is itself a group: the filter is written, its record is not.
def stopped : Host := (Host.start.step usual (.source .addSourceMembership 1 group 0xE0000005)).after

-- The all-systems group is joined and never announced, and neither is a source
-- that is not a unicast address.
theorem igmp_observer_misses :
    (AnyRun usual Host.start ∧ ¬Agrees Host.start allSystems) ∧ AnyRun usual stopped ∧ ¬Agrees stopped group := by
  refine ⟨⟨.start _ rfl,?_⟩,.step _ _ (.start _ rfl) trivial,?_⟩
  · intro agrees
    exact absurd agrees.observer (by decide +kernel)
  · intro agrees
    exact absurd agrees.observer (by decide +kernel)

end PmdPytcp.Igmp
