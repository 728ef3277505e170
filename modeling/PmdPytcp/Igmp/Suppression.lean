import PmdPytcp.Igmp.Queries

namespace PmdPytcp.Igmp.Queries
open Listener

-- Every scheduled callback is the one its pending response names, and was
-- scheduled since the latest change of the mode; every suppressed group was
-- heard after the query of the pending response.
structure Held (l : Listener) : Prop where
  fresh : ∀ id t, l.tickets.get id = some t → id < l.nextHandle
  due : ∀ id t, l.tickets.get id = some t → l.changed ≤ t.query
  general : ∀ id t, l.tickets.get id = some t → t.kind = .general → l.handle = some id
  group : ∀ id t group, l.tickets.get id = some t → t.kind = .group group →
    ∃ p, l.groupPending.get group = some p ∧ p.handle = id
  filed : ∀ group p, l.groupPending.get group = some p → ∃ t, l.tickets.get p.handle = some t ∧ t.kind = .group group
  armed : l.pendingResponseAtMs ≠ none → ∃ id t, l.handle = some id ∧ l.tickets.get id = some t ∧ t.kind = .general
  idle : l.handle ≠ none → l.pendingResponseAtMs ≠ none
  suppressed : ∀ group ∈ l.suppressedGroups, ∃ id t k, l.handle = some id ∧ l.tickets.get id = some t ∧
    t.kind = .general ∧ (group,k) ∈ l.heard ∧ t.query < k
  past : ∀ id t, l.tickets.get id = some t → t.query ≤ l.event
  changed : l.changed ≤ l.event
  answered : Answered l

theorem Held.counted (held : Held l) : Held { l with event := l.event + 1 } := by
  obtain ⟨fresh,due,general,group,filed,armed,idle,suppressed,past,changed,answered⟩ := held
  refine ⟨fresh,due,general,group,filed,armed,idle,suppressed,?_,Nat.le_succ_of_le changed,
    answered.justified,answered.timely⟩
  intro id t found
  exact Nat.le_succ_of_le (past id t found)

theorem Held.of_none (none' : ∀ id, l.tickets.get id = none) (handle : l.handle = none)
    (pending : l.pendingResponseAtMs = none) (groups : ∀ group, l.groupPending.get group = none)
    (unsuppressed : l.suppressedGroups = []) (changed : l.changed ≤ l.event) (answered : Answered l) : Held l := by
  have absent : ∀ {id t}, l.tickets.get id ≠ some t := by
    intro id t
    rw [none' id]
    simp
  constructor
  case answered => exact answered
  case changed => exact changed
  case suppressed =>
    intro group member
    rw [unsuppressed] at member
    cases member
  case armed => exact fun armed => absurd pending armed
  case idle => exact fun armed => absurd handle armed
  case filed =>
    intro group p found
    rw [groups group] at found
    cases found
  case fresh => exact fun _ _ found => absurd found absent
  case due => exact fun _ _ found => absurd found absent
  case general => exact fun _ _ found => absurd found absent
  case group => exact fun _ _ _ found => absurd found absent
  case past => exact fun _ _ found => absurd found absent

theorem Held.start : Held Listener.start :=
  Held.of_none (fun _ => rfl) rfl rfl (fun _ => rfl) rfl (Nat.le_refl 0) ⟨nofun,nofun⟩

def Quiet (l : Listener) : Prop := l.pendingResponseAtMs = none ∧ l.groupPending.entries = []

instance (l : Listener) : Decidable (Quiet l) := inferInstanceAs (Decidable (_ ∧ _))

theorem Quiet.groups (quiet : Quiet l) (group : Ip4Address) : l.groupPending.get group = none := by
  rw [Store.get_eq_none,Store.keys,quiet.2]
  simp

theorem Held.quiet_tickets (held : Held l) (quiet : Quiet l) (id : Nat) : l.tickets.get id = none := by
  cases found : l.tickets.get id with
  | none => rfl
  | some t =>
    cases kind : t.kind with
    | general =>
      have handle := held.general id t found kind
      exact absurd quiet.1 (held.idle (by simp [handle]))
    | group group =>
      obtain ⟨p,filed,_⟩ := held.group id t group found kind
      rw [quiet.groups group] at filed
      cases filed

theorem Held.quiet_handle (held : Held l) (quiet : Quiet l) : l.handle = none := by
  by_contra armed
  exact held.idle armed quiet.1

theorem Held.quiet_suppressed (held : Held l) (quiet : Quiet l) : l.suppressedGroups = [] := by
  rw [List.eq_nil_iff_forall_not_mem]
  intro group member
  obtain ⟨id,t,k,_,found,_⟩ := held.suppressed group member
  rw [held.quiet_tickets quiet id] at found
  cases found

theorem Held.marked (held : Held l) (calm : l.hostCompatibilityMode ≠ before → Quiet l) : Held (l.marked before) := by
  unfold Listener.marked
  split
  · exact held
  · next differs =>
    have quiet := calm differs
    exact Held.of_none (held.quiet_tickets quiet) (held.quiet_handle quiet) quiet.1 quiet.groups
      (held.quiet_suppressed quiet) (Nat.le_refl _) ⟨held.answered.justified,held.answered.timely⟩

theorem Answered.general (answered : Answered l) (timely : l.changed ≤ query)
    (heard : ∀ group ∈ l.suppressedGroups, ∃ k, (group,k) ∈ l.heard ∧ query < k) :
    Answered (l.querySendNow query) := by
  refine ⟨?_,?_⟩
  · intro r member
    rcases List.mem_cons.mp member with rfl | member
    · intro old group joined ordinary missing
      apply heard
      by_contra unsuppressed
      apply missing
      cases mode : l.hostCompatibilityMode with
      | v1 => simp [joined,unsuppressed,ordinary]
      | v2 => simp [joined,unsuppressed,ordinary]
      | v3 => exact absurd mode old
    · exact answered.justified r member
  · intro r member
    rcases List.mem_cons.mp member with rfl | member
    · exact timely
    · exact answered.timely r member

theorem Answered.single (answered : Answered l) (timely : l.changed ≤ query) (group : Ip4Address)
    (sources : Finset Ip4Address) : Answered (l.groupQuerySendNow group sources query) := by
  unfold Listener.groupQuerySendNow
  split
  · exact answered
  · refine ⟨?_,?_⟩
    · intro r member
      rcases List.mem_cons.mp member with rfl | member
      · trivial
      · exact answered.justified r member
    · intro r member
      rcases List.mem_cons.mp member with rfl | member
      · exact timely
      · exact answered.timely r member

theorem Held.sendNow (held : Held l) (timely : l.changed ≤ query)
    (heard : ∀ group ∈ l.suppressedGroups, ∃ k, (group,k) ∈ l.heard ∧ query < k) : Held (l.querySendNow query) := by
  have answered := held.answered.general timely heard
  obtain ⟨fresh,due,general,group,filed,armed,idle,_,past,changed,_⟩ := held
  exact ⟨fresh,due,general,group,filed,armed,idle,by simp [querySendNow],past,changed,answered⟩

theorem Held.groupSendNow (held : Held l) (timely : l.changed ≤ query) (address : Ip4Address)
    (sources : Finset Ip4Address) : Held (l.groupQuerySendNow address sources query) := by
  have answered := held.answered.single timely address sources
  obtain ⟨fresh,due,general,group,filed,armed,idle,suppressed,past,changed,_⟩ := held
  unfold groupQuerySendNow at answered ⊢
  split
  · next absent =>
    rw [if_pos absent] at answered
    exact ⟨fresh,due,general,group,filed,armed,idle,suppressed,past,changed,answered⟩
  · next joined =>
    rw [if_neg joined] at answered
    exact ⟨fresh,due,general,group,filed,armed,idle,suppressed,past,changed,answered⟩

theorem cancelEach_tickets (handles : List Nat) (l : Listener) :
    ∃ tickets, cancelEach handles l = { l with tickets } ∧
      ∀ id, tickets.get id = if id ∈ handles then none else l.tickets.get id := by
  induction handles generalizing l with
  | nil => exact ⟨l.tickets,rfl,fun id => by simp⟩
  | cons first rest ih =>
    obtain ⟨tickets,written,left⟩ := ih (l.cancel first)
    refine ⟨tickets,written,?_⟩
    intro id
    rw [left]
    by_cases here : id = first
    · subst here
      simp [cancel]
    · simp [cancel,here,Store.get_erase_other _ here]

theorem Held.cancelPending (held : Held l) (unsuppressed : l.suppressedGroups = []) (since : Nat)
    (past : since ≤ l.event) : Held { l with changed := since }.cancelPendingTimers := by
  have gone : ∀ id t, l.tickets.get id = some t → l.handle ≠ some id →
      id ∈ l.groupPending.values.map (·.handle) := by
    intro id t found other
    cases kind : t.kind with
    | general => exact absurd (held.general id t found kind) other
    | group group =>
      obtain ⟨p,filed,rfl⟩ := held.group id t group found kind
      refine List.mem_map.mpr ⟨p,?_,rfl⟩
      exact List.mem_map.mpr ⟨(group,p),Store.get_eq_some.mp filed,rfl⟩
  unfold cancelPendingTimers
  dsimp only
  cases handle : l.handle with
  | none =>
    dsimp only
    obtain ⟨tickets,written,left⟩ := cancelEach_tickets (l.groupPending.values.map (·.handle))
      { l with changed := since, pendingResponseAtMs := none, handle := none }
    rw [written]
    refine Held.of_none ?_ rfl rfl (fun _ => rfl) unsuppressed past ⟨held.answered.justified,held.answered.timely⟩
    intro id
    dsimp only
    rw [left]
    split
    · rfl
    · next kept =>
      cases found : l.tickets.get id with
      | none => rfl
      | some t => exact absurd (gone id t found (by simp [handle])) kept
  | some handle' =>
    dsimp only
    obtain ⟨tickets,written,left⟩ := cancelEach_tickets (l.groupPending.values.map (·.handle))
      { { l with changed := since }.cancel handle' with handle := none, pendingResponseAtMs := none }
    dsimp only [cancel] at written left ⊢
    rw [written]
    refine Held.of_none ?_ rfl rfl (fun _ => rfl) unsuppressed past ⟨held.answered.justified,held.answered.timely⟩
    intro id
    dsimp only
    rw [left]
    split
    · rfl
    · next kept =>
      by_cases same : id = handle'
      · subst same
        exact Store.get_erase_self _ _
      · rw [Store.get_erase_other _ same]
        cases found : l.tickets.get id with
        | none => rfl
        | some t =>
          refine absurd (gone id t found ?_) kept
          rw [handle]
          intro equal
          exact same (Option.some.inj equal).symm

theorem Held.dropGeneral (held : Held l) {id : Nat} (handle : l.handle = some id) :
    Held { l.cancel id with handle := none, pendingResponseAtMs := none, suppressedGroups := [] } := by
  obtain ⟨fresh,due,general,group,filed,armed,idle,suppressed,past,changed,answered⟩ := held
  have still : ∀ id' t, (l.tickets.erase id).get id' = some t → id' ≠ id ∧ l.tickets.get id' = some t := by
    intro id' t found
    by_cases same : id' = id
    · rw [same,Store.get_erase_self] at found
      cases found
    · rw [Store.get_erase_other _ same] at found
      exact ⟨same,found⟩
  refine ⟨?_,?_,?_,?_,?_,fun h => absurd rfl h,fun h => absurd rfl h,nofun,?_,changed,answered.justified,answered.timely⟩
  · intro id' t found
    exact fresh id' t (still id' t found).2
  · intro id' t found
    exact due id' t (still id' t found).2
  · intro id' t found kind
    obtain ⟨other,was⟩ := still id' t found
    rw [general id' t was kind] at handle
    exact absurd (Option.some.inj handle) other
  · intro id' t address found kind
    exact group id' t address (still id' t found).2 kind
  · intro address p found
    obtain ⟨t,was,kind⟩ := filed address p found
    refine ⟨t,?_,kind⟩
    by_cases same : p.handle = id
    · have pending := idle (by simp [handle])
      obtain ⟨id',t',handle',was',kind'⟩ := armed pending
      obtain rfl : id' = id := Option.some.inj (handle'.symm.trans handle)
      rw [same,was'] at was
      obtain rfl := Option.some.inj was
      rw [kind] at kind'
      cases kind'
    · dsimp only [cancel]
      rw [Store.get_erase_other _ same]
      exact was
  · intro id' t found
    exact past id' t (still id' t found).2

theorem Held.armGeneral (held : Held l) (handle : l.handle = none) (unsuppressed : l.suppressedGroups = [])
    (delayMs responseAt : Nat) :
    Held { (l.callLater delayMs .general l.event).2 with
      pendingResponseAtMs := some responseAt, handle := some l.nextHandle } := by
  obtain ⟨fresh,due,general,group,filed,armed,idle,suppressed,past,changed,answered⟩ := held
  have cases' : ∀ id t, (l.tickets.set l.nextHandle ⟨l.now + delayMs,.general,l.event⟩).get id = some t →
      (id = l.nextHandle ∧ t = ⟨l.now + delayMs,.general,l.event⟩) ∨ l.tickets.get id = some t := by
    intro id t found
    by_cases new : id = l.nextHandle
    · rw [new,Store.get_set_self] at found
      exact .inl ⟨new,(Option.some.inj found).symm⟩
    · rw [Store.get_set_other _ _ new] at found
      exact .inr found
  dsimp only [callLater]
  refine ⟨?_,?_,?_,?_,?_,?_,nofun,?_,?_,changed,answered.justified,answered.timely⟩
  · intro id t found
    rcases cases' id t found with ⟨rfl,_⟩ | was
    · exact Nat.lt_succ_self _
    · exact Nat.lt_succ_of_lt (fresh id t was)
  · intro id t found
    rcases cases' id t found with ⟨_,rfl⟩ | was
    · exact changed
    · exact due id t was
  · intro id t found kind
    rcases cases' id t found with ⟨rfl,_⟩ | was
    · rfl
    · rw [general id t was kind] at handle
      cases handle
  · intro id t address found kind
    rcases cases' id t found with ⟨_,rfl⟩ | was
    · cases kind
    · exact group id t address was kind
  · intro address p found
    obtain ⟨t,was,kind⟩ := filed address p found
    refine ⟨t,?_,kind⟩
    have older : p.handle ≠ l.nextHandle := Nat.ne_of_lt (fresh _ _ was)
    dsimp only
    rw [Store.get_set_other _ _ older]
    exact was
  · intro _
    exact ⟨l.nextHandle,_,rfl,Store.get_set_self _ _ _,rfl⟩
  · intro address member
    dsimp only at member
    rw [unsuppressed] at member
    cases member
  · intro id t found
    rcases cases' id t found with ⟨_,rfl⟩ | was
    · exact Nat.le_refl _
    · exact past id t was

def Without (address : Ip4Address) (l : Listener) (tickets : Store Nat Ticket) : Prop :=
  ∀ id t, tickets.get id = some t ↔ l.tickets.get id = some t ∧ t.kind ≠ .group address

theorem Held.without_absent (held : Held l) (absent : l.groupPending.get address = none) :
    Without address l l.tickets := by
  intro id t
  refine ⟨fun found => ⟨found,?_⟩,fun both => both.1⟩
  intro kind
  obtain ⟨p,filed,_⟩ := held.group id t address found kind
  rw [absent] at filed
  cases filed

theorem Held.without_cancel (held : Held l) (filed : l.groupPending.get address = some p) :
    Without address l (l.cancel p.handle).tickets := by
  intro id t
  dsimp only [cancel]
  by_cases same : id = p.handle
  · subst same
    rw [Store.get_erase_self]
    refine ⟨nofun,?_⟩
    intro both
    obtain ⟨t',found,kind⟩ := held.filed address p filed
    obtain rfl := Option.some.inj (found.symm.trans both.1)
    exact absurd kind both.2
  · rw [Store.get_erase_other _ same]
    refine ⟨fun found => ⟨found,?_⟩,fun both => both.1⟩
    intro kind
    obtain ⟨p',filed',here⟩ := held.group id t address found kind
    obtain rfl := Option.some.inj (filed.symm.trans filed')
    exact same here.symm

theorem Held.dropGroup (held : Held l) {tickets : Store Nat Ticket} (without : Without address l tickets) :
    Held { l with tickets, groupPending := l.groupPending.erase address } := by
  obtain ⟨fresh,due,general,group,filed,armed,idle,suppressed,past,changed,answered⟩ := held
  refine ⟨?_,?_,?_,?_,?_,?_,idle,?_,?_,changed,answered.justified,answered.timely⟩
  · intro id t found
    exact fresh id t ((without id t).mp found).1
  · intro id t found
    exact due id t ((without id t).mp found).1
  · intro id t found kind
    exact general id t ((without id t).mp found).1 kind
  · intro id t address' found kind
    obtain ⟨was,other⟩ := (without id t).mp found
    obtain ⟨p,filed,here⟩ := group id t address' was kind
    refine ⟨p,?_,here⟩
    dsimp only
    rw [Store.get_erase_other]
    · exact filed
    · intro same
      rw [same] at kind
      exact other kind
  · intro address' p found
    by_cases same : address' = address
    · dsimp only at found
      rw [same,Store.get_erase_self] at found
      cases found
    · dsimp only at found
      rw [Store.get_erase_other _ same] at found
      obtain ⟨t,was,kind⟩ := filed address' p found
      refine ⟨t,(without _ t).mpr ⟨was,?_⟩,kind⟩
      simp [kind,same]
  · intro pending
    obtain ⟨id,t,handle,was,kind⟩ := armed pending
    exact ⟨id,t,handle,(without id t).mpr ⟨was,by simp [kind]⟩,kind⟩
  · intro address' member
    obtain ⟨id,t,k,handle,was,kind,heard,later⟩ := suppressed address' member
    exact ⟨id,t,k,handle,(without id t).mpr ⟨was,by simp [kind]⟩,kind,heard,later⟩
  · intro id t found
    exact past id t ((without id t).mp found).1

theorem Held.armGroup (held : Held l) {tickets : Store Nat Ticket} (without : Without address l tickets)
    (fireAt responseAt : Nat) (sources : Finset Ip4Address) :
    Held { l with
      tickets := tickets.set l.nextHandle ⟨fireAt,.group address,l.event⟩
      nextHandle := l.nextHandle + 1
      groupPending := l.groupPending.set address ⟨responseAt,l.nextHandle,sources⟩ } := by
  obtain ⟨fresh,due,general,group,filed,armed,idle,suppressed,past,changed,answered⟩ := held
  have cases' : ∀ id t, (tickets.set l.nextHandle ⟨fireAt,.group address,l.event⟩).get id = some t →
      (id = l.nextHandle ∧ t = ⟨fireAt,.group address,l.event⟩) ∨
        l.tickets.get id = some t ∧ t.kind ≠ .group address := by
    intro id t found
    by_cases new : id = l.nextHandle
    · rw [new,Store.get_set_self] at found
      exact .inl ⟨new,(Option.some.inj found).symm⟩
    · rw [Store.get_set_other _ _ new] at found
      exact .inr ((without id t).mp found)
  have keeps : ∀ id t, l.tickets.get id = some t → t.kind ≠ .group address →
      (tickets.set l.nextHandle ⟨fireAt,.group address,l.event⟩).get id = some t := by
    intro id t found other
    rw [Store.get_set_other _ _ (Nat.ne_of_lt (fresh id t found))]
    exact (without id t).mpr ⟨found,other⟩
  refine ⟨?_,?_,?_,?_,?_,?_,idle,?_,?_,changed,answered.justified,answered.timely⟩
  · intro id t found
    rcases cases' id t found with ⟨rfl,_⟩ | ⟨was,_⟩
    · exact Nat.lt_succ_self _
    · exact Nat.lt_succ_of_lt (fresh id t was)
  · intro id t found
    rcases cases' id t found with ⟨_,rfl⟩ | ⟨was,_⟩
    · exact changed
    · exact due id t was
  · intro id t found kind
    rcases cases' id t found with ⟨_,rfl⟩ | ⟨was,_⟩
    · cases kind
    · exact general id t was kind
  · intro id t address' found kind
    rcases cases' id t found with ⟨rfl,rfl⟩ | ⟨was,other⟩
    · cases kind
      exact ⟨_,Store.get_set_self _ _ _,rfl⟩
    · obtain ⟨p,filed,here⟩ := group id t address' was kind
      refine ⟨p,?_,here⟩
      dsimp only
      rw [Store.get_set_other]
      · exact filed
      · intro same
        rw [same] at kind
        exact other kind
  · intro address' p found
    by_cases same : address' = address
    · subst same
      dsimp only at found
      rw [Store.get_set_self] at found
      obtain rfl := Option.some.inj found
      exact ⟨_,Store.get_set_self _ _ _,rfl⟩
    · dsimp only at found
      rw [Store.get_set_other _ _ same] at found
      obtain ⟨t,was,kind⟩ := filed address' p found
      exact ⟨t,keeps _ t was (by simp [kind,same]),kind⟩
  · intro pending
    obtain ⟨id,t,handle,was,kind⟩ := armed pending
    exact ⟨id,t,handle,keeps id t was (by simp [kind]),kind⟩
  · intro address' member
    obtain ⟨id,t,k,handle,was,kind,heard,later⟩ := suppressed address' member
    exact ⟨id,t,k,handle,keeps id t was (by simp [kind]),kind,heard,later⟩
  · intro id t found
    rcases cases' id t found with ⟨_,rfl⟩ | ⟨was,_⟩
    · exact Nat.le_refl _
    · exact past id t was

theorem Held.resource (held : Held l) (filed : l.groupPending.get address = some p) (sources : Finset Ip4Address) :
    Held { l with groupPending := l.groupPending.set address { p with sources } } := by
  obtain ⟨fresh,due,general,group,filed',armed,idle,suppressed,past,changed,answered⟩ := held
  refine ⟨fresh,due,general,?_,?_,armed,idle,suppressed,past,changed,answered.justified,answered.timely⟩
  · intro id t address' found kind
    obtain ⟨p',stored,here⟩ := group id t address' found kind
    by_cases same : address' = address
    · subst same
      obtain rfl := Option.some.inj (filed.symm.trans stored)
      exact ⟨_,Store.get_set_self _ _ _,here⟩
    · refine ⟨p',?_,here⟩
      dsimp only
      rw [Store.get_set_other _ _ same]
      exact stored
  · intro address' p' found
    by_cases same : address' = address
    · subst same
      dsimp only at found
      rw [Store.get_set_self] at found
      obtain rfl := Option.some.inj found
      exact filed' address' p filed
    · dsimp only at found
      rw [Store.get_set_other _ _ same] at found
      exact filed' address' p' found

theorem Held.scheduleGeneral (held : Held l) (delayMs : Nat) (unsuppressed : delayMs = 0 → l.suppressedGroups = []) :
    Held (l.scheduleGeneral delayMs) := by
  unfold Listener.scheduleGeneral
  split
  · next now =>
    refine held.sendNow held.changed ?_
    rw [unsuppressed now]
    intro group member
    cases member
  · dsimp only
    cases pending : l.pendingResponseAtMs with
    | none =>
      have handle : l.handle = none := by
        by_contra armed
        exact held.idle armed pending
      refine held.armGeneral handle ?_ delayMs _
      rw [List.eq_nil_iff_forall_not_mem]
      intro group member
      obtain ⟨id,t,k,handle',_⟩ := held.suppressed group member
      rw [handle] at handle'
      cases handle'
    | some at' =>
      dsimp only
      split
      · exact held
      · obtain ⟨id,t,handle,found,kind⟩ := held.armed (by simp [pending])
        rw [handle]
        exact (held.dropGeneral handle).armGeneral rfl rfl delayMs _

theorem Held.scheduleGroup (held : Held l) (address : Ip4Address) (sources : Finset Ip4Address) (delayMs : Nat) :
    Held (l.scheduleGroup address sources delayMs) := by
  unfold Listener.scheduleGroup
  dsimp only
  split
  · exact held
  · cases filed : l.groupPending.get address with
    | none =>
      dsimp only
      split
      · exact held.groupSendNow held.changed _ _
      · exact held.armGroup (held.without_absent filed) _ _ _
    | some existing =>
      dsimp only
      split
      · split
        · exact held
        · exact held.resource filed _
      · split
        · exact (held.dropGroup (held.without_cancel filed)).groupSendNow held.changed _ _
        · exact held.armGroup (held.without_cancel filed) _ _ _

theorem Held.noteQuerier (held : Held l) (timing : Timing) (m : IgmpMessageQuery) :
    Held (l.noteQuerier timing m) ∧ (l.noteQuerier timing m).suppressedGroups = l.suppressedGroups := by
  obtain ⟨fresh,due,general,group,filed,armed,idle,suppressed,past,changed,answered⟩ := held
  have same : ∀ v1 v2, Held { l with v1QuerierPresentUntilMs := v1, v2QuerierPresentUntilMs := v2 } := by
    intro v1 v2
    exact ⟨fresh,due,general,group,filed,armed,idle,suppressed,past,changed,answered.justified,answered.timely⟩
  unfold Listener.noteQuerier
  cases m.version with
  | v1 => exact ⟨same _ _,rfl⟩
  | v2 => exact ⟨same _ _,rfl⟩
  | v3 => exact ⟨same _ _,rfl⟩

theorem cancelPendingTimers_suppressed (l : Listener) :
    l.cancelPendingTimers.suppressedGroups = l.suppressedGroups := by
  unfold cancelPendingTimers
  dsimp only
  cases l.handle with
  | none =>
    obtain ⟨tickets,written,_⟩ := cancelEach_tickets (l.groupPending.values.map (·.handle))
      { l with pendingResponseAtMs := none }
    dsimp only
    rw [written]
  | some handle =>
    obtain ⟨tickets,written,_⟩ := cancelEach_tickets (l.groupPending.values.map (·.handle))
      { l.cancel handle with pendingResponseAtMs := none, handle := none }
    dsimp only [cancel] at written ⊢
    rw [written]

theorem Held.update (held : Held l) (timing : Timing) (m : IgmpMessageQuery)
    (calm : (l.noteQuerier timing m).hostCompatibilityMode ≠ l.hostCompatibilityMode → l.suppressedGroups = []) :
    Held (l.updateCompatibilityMode timing m) ∧
      (l.updateCompatibilityMode timing m).suppressedGroups = l.suppressedGroups := by
  obtain ⟨noted,same⟩ := held.noteQuerier timing m
  unfold updateCompatibilityMode
  dsimp only
  split
  · next differs =>
    have marks : (l.noteQuerier timing m).marked l.hostCompatibilityMode =
        { l.noteQuerier timing m with changed := (l.noteQuerier timing m).event } := by
      rw [Listener.marked,if_neg differs]
    rw [marks]
    refine ⟨noted.cancelPending (same.trans (calm differs)) _ (Nat.le_refl _),?_⟩
    rw [cancelPendingTimers_suppressed]
    exact same
  · exact ⟨noted,same⟩

theorem Held.report (held : Held l) (later : ∀ id t, l.tickets.get id = some t → t.query < l.event)
    (address : Ip4Address) : Held (l.report address) := by
  obtain ⟨fresh,due,general,group,filed,armed,idle,suppressed,past,changed,answered⟩ := held
  have grown : Answered { l with heard := (address,l.event) :: l.heard } := by
    refine ⟨?_,answered.timely⟩
    intro r member
    have before := answered.justified r member
    unfold Justified at before ⊢
    cases answer : r.answer with
    | single mode g sources => trivial
    | general mode joined reported =>
      rw [answer] at before
      intro old g inside ordinary missing
      obtain ⟨k,told,after⟩ := before old g inside ordinary missing
      exact ⟨k,List.mem_cons_of_mem _ told,after⟩
  have told : ∀ g ∈ l.suppressedGroups, ∃ id t k, l.handle = some id ∧ l.tickets.get id = some t ∧
      t.kind = .general ∧ (g,k) ∈ (address,l.event) :: l.heard ∧ t.query < k := by
    intro g member
    obtain ⟨id,t,k,handle,found,kind,told,after⟩ := suppressed g member
    exact ⟨id,t,k,handle,found,kind,List.mem_cons_of_mem _ told,after⟩
  unfold Listener.report
  dsimp only
  split
  · next suppresses =>
    refine ⟨fresh,due,general,group,filed,armed,idle,?_,past,changed,grown.justified,grown.timely⟩
    intro g member
    rcases List.mem_cons.mp member with rfl | member
    · obtain ⟨id,t,handle,found,kind⟩ := armed suppresses.2.1
      exact ⟨id,t,l.event,handle,found,kind,List.mem_cons_self,later id t found⟩
    · exact told g member
  · exact ⟨fresh,due,general,group,filed,armed,idle,told,past,changed,grown.justified,grown.timely⟩

theorem Held.fire (held : Held l) (handle : Nat) : Held (l.fire handle) := by
  unfold Listener.fire
  cases found : l.tickets.get handle with
  | none => exact held
  | some ticket =>
    dsimp only
    split
    · exact held
    · cases kind : ticket.kind with
      | general =>
        have armed := held.general handle ticket found kind
        have dropped := held.dropGeneral armed
        have answered : Answered (querySendNow ticket.query (l.cancel handle)) := by
          refine Answered.general ⟨held.answered.justified,held.answered.timely⟩ (held.due handle ticket found) ?_
          intro group member
          obtain ⟨id,t,k,handle',was,_,told,after⟩ := held.suppressed group member
          obtain rfl : handle = id := Option.some.inj (armed.symm.trans handle')
          obtain rfl := Option.some.inj (found.symm.trans was)
          exact ⟨k,told,after⟩
        obtain ⟨fresh,due,general,group,filed,armed',idle,_,past,changed,_⟩ := dropped
        exact ⟨fresh,due,general,group,filed,armed',idle,nofun,past,changed,answered.justified,answered.timely⟩
      | group address =>
        obtain ⟨p,filed,rfl⟩ := held.group handle ticket address found kind
        have dropped := held.dropGroup (held.without_cancel filed)
        exact dropped.groupSendNow (held.due _ ticket found) _ _

-- No query that comes while groups are suppressed changes the mode or is
-- answered at once, and the mode changes by itself, or by hand, only while no
-- response is pending.
def Orderly (timing : Timing) (e : Event) (l : Listener) : Prop :=
  match e with
  | .query m draw =>
    l.suppressedGroups ≠ [] →
      (l.noteQuerier timing m).hostCompatibilityMode = l.hostCompatibilityMode ∧
        ¬(m.isGeneralQuery ∧ pickResponseDelayMs draw (m.maxResponseTime*100) = 0)
  | .elapse ms => { l with now := l.now + ms }.hostCompatibilityMode ≠ l.hostCompatibilityMode → Quiet l
  | .force version => { l with forced := version }.hostCompatibilityMode ≠ l.hostCompatibilityMode → Quiet l
  | _ => True

theorem Held.next (held : Held l) (timing : Timing) (e : Event) (orderly : Orderly timing e l) :
    Held (next timing e l) := by
  have begun := held.counted
  unfold Queries.next
  cases e with
  | query m draw =>
    have unsuppressed : ∀ changes : Prop, (l.suppressedGroups ≠ [] → ¬changes) → changes →
        l.suppressedGroups = [] := by
      intro changes orderly happens
      by_contra suppressed
      exact orderly suppressed happens
    have noted : ({ l with event := l.event + 1 } : Listener).noteQuerier timing m =
        { l.noteQuerier timing m with event := l.event + 1 } := by
      unfold Listener.noteQuerier
      cases m.version with
      | v1 => rfl
      | v2 => rfl
      | v3 => rfl
    obtain ⟨updated,same⟩ := begun.update timing m (by
      rw [noted]
      exact unsuppressed _ fun suppressed differs => differs (orderly suppressed).1)
    dsimp only [membershipQuery]
    split
    · next general =>
      refine updated.scheduleGeneral _ ?_
      intro at'
      rw [same]
      exact unsuppressed _ (fun suppressed => (orderly suppressed).2) ⟨general,at'⟩
    · exact updated.scheduleGroup _ _ _
  | report group =>
    refine begun.report ?_ group
    intro id t found
    exact Nat.lt_succ_of_le (held.past id t found)
  | fire handle => exact begun.fire handle
  | elapse ms =>
    obtain ⟨fresh,due,general,group,filed,armed,idle,suppressed,past,changed,answered⟩ := begun
    refine Held.marked ⟨fresh,due,general,group,filed,armed,idle,suppressed,past,changed,answered.justified,
      answered.timely⟩ ?_
    exact orderly
  | force version =>
    obtain ⟨fresh,due,general,group,filed,armed,idle,suppressed,past,changed,answered⟩ := begun
    refine Held.marked ⟨fresh,due,general,group,filed,armed,idle,suppressed,past,changed,answered.justified,
      answered.timely⟩ ?_
    exact orderly
  | join address =>
    obtain ⟨fresh,due,general,group,filed,armed,idle,suppressed,past,changed,answered⟩ := begun
    dsimp only
    split
    · exact ⟨fresh,due,general,group,filed,armed,idle,suppressed,past,changed,answered.justified,answered.timely⟩
    · exact ⟨fresh,due,general,group,filed,armed,idle,suppressed,past,changed,answered.justified,answered.timely⟩
  | leave address =>
    obtain ⟨fresh,due,general,group,filed,armed,idle,suppressed,past,changed,answered⟩ := begun
    dsimp only
    split
    · exact ⟨fresh,due,general,group,filed,armed,idle,suppressed,past,changed,answered.justified,answered.timely⟩
    · exact ⟨fresh,due,general,group,filed,armed,idle,suppressed,past,changed,answered.justified,answered.timely⟩

instance (timing : Timing) (e : Event) (l : Listener) : Decidable (Orderly timing e l) :=
  match e with
  | .query _ _ => inferInstanceAs (Decidable (_ → _ ∧ ¬(_ ∧ _)))
  | .elapse _ => inferInstanceAs (Decidable (_ ≠ _ → Quiet l))
  | .force _ => inferInstanceAs (Decidable (_ ≠ _ → Quiet l))
  | .report _ => .isTrue trivial
  | .fire _ => .isTrue trivial
  | .join _ => .isTrue trivial
  | .leave _ => .isTrue trivial

def Reached (timing : Timing) (meets : Event → Listener → Prop) (l : Listener) : Prop :=
  Runs.Reached (fun l => l = .start) (next timing) meets l

theorem query_responses_answered (timing : Timing) (l : Listener) (reached : Reached timing (Orderly timing) l) :
    Answered l := by
  have held : Held l := by
    refine Runs.Reached.invariant Held ?_ ?_ reached
    · intro s first
      subst first
      exact Held.start
    · intro s e held orderly
      exact held.next timing e orderly
  exact held.answered

def usual : Timing := ⟨2,125000⟩

def group : Ip4Address := 0xEF010203

-- A query of an IGMPv2 router, to be answered within ten seconds.
def olderQuery : IgmpMessageQuery := ⟨.v2,100,0,[]⟩

def answeredOnce : List Event :=
  [.join group,.query olderQuery 5000,.report group,.elapse 5000,.fire 0]

theorem query_responses_answered_once :
    Reached usual (Orderly usual) (Runs.run (next usual) .start answeredOnce) ∧
      Answered (Runs.run (next usual) .start answeredOnce) := by
  have first : Reached usual (Orderly usual) .start := .start _ rfl
  have reached := first.run answeredOnce (by decide +kernel)
  exact ⟨reached,query_responses_answered usual _ reached⟩

-- A report suppresses the group in the answer to the first query; the query of
-- an IGMPv1 router cancels that answer and is answered at once, without the group.
def cancelled : List Event :=
  [.join group,.query olderQuery 5000,.report group,.query ⟨.v1,0,0,[]⟩ 0]

theorem suppression_outlives_query :
    ¬∀ timing l, Reached timing (fun _ _ => True) l → Answered l := by
  intro always
  have first : Reached usual (fun _ _ => True) .start := .start _ rfl
  have answered := always usual _ (first.run cancelled (Runs.met_true _))
  have sent : (⟨4,4,.general .v1 [allSystems,group] []⟩ : Response) ∈
      (Runs.run (next usual) .start cancelled).responses := by decide +kernel
  obtain ⟨k,told,later⟩ := answered.justified _ sent (by decide) group (by decide) (by decide) (by decide)
  have only : (Runs.run (next usual) .start cancelled).heard = [(group,3)] := by decide +kernel
  rw [only] at told
  obtain rfl : k = 3 := by simpa using told
  exact absurd later (by decide)

end PmdPytcp.Igmp.Queries
