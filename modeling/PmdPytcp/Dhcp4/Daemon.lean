import PmdPytcp.Fib
import PmdPytcp.Dhcp4.Lease

namespace PmdPytcp.Dhcp4
open Fib Runs

abbrev Ip4Route := Route Ip4Address Ip4Network
abbrev Ip4Table := RouteTable Ip4Address Ip4Network

def defaultNetwork : Ip4Network := ⟨0,0⟩

def dhcpRoute (entry : Ip4Network × Ip4Address) : Ip4Route :=
  { destination := entry.1, gateway := some entry.2, protocol := .dhcp }

-- A router of 0.0.0.0 is an on-link destination, which is not installed.
def installRoute (table : Ip4Table) (entry : Ip4Network × Ip4Address) : Ip4Table :=
  if entry.2 = 0 then table
  else if entry.1 = defaultNetwork then table.replaceDefault defaultNetwork entry.2 .dhcp
  else table.add (dhcpRoute entry)

def installLeaseRoutes (lease : Dhcp4Lease) (table : Ip4Table) : Ip4Table :=
  match lease.classlessStaticRoutes with
  | some routes => routes.foldl installRoute table
  | none =>
    match lease.gateway with
    | some gateway => table.replaceDefault defaultNetwork gateway .dhcp
    | none => table

def removeRoute (table : Ip4Table) (entry : Ip4Network × Ip4Address) : Ip4Table :=
  if entry.2 = 0 ∨ entry.1 = defaultNetwork then table else table.remove entry.1 (some entry.2)

def removeLeaseRoutes (lease : Dhcp4Lease) (table : Ip4Table) : Ip4Table :=
  match lease.classlessStaticRoutes with
  | some routes => routes.foldl removeRoute table
  | none => table

-- SELECTING, REQUESTING and REBOOTING pass inside one handler.
inductive Dhcp4State where
  | init | initReboot | bound | renewing | rebinding
deriving DecidableEq,Repr

-- The client with the address list and the table it works on. A worker that has
-- halted runs no further tick; `stop()` can still come.
structure Client where
  state : Dhcp4State
  lease : Option Dhcp4Lease
  addresses : List Ip4IfAddr := []
  table : Ip4Table
  halted : Bool := false
  stopped : Bool := false
deriving DecidableEq

inductive Reply where
  | nak
  | silent
  | ack (ack : Ack)
deriving DecidableEq

-- What one tick meets outside: the clock, the exchange, the probe of the cached
-- gateway and the conflict signal. `raised` ends the handler before it changed
-- anything, `interrupted` while it waits for the address's defence to begin.
structure Env where
  now : ℚ
  acknowledged : ℚ
  acquired : Option (Ack × Ip4Address) := none
  reply : Reply := .silent
  reachable : Bool := false
  conflict : Bool := false
  raised : Bool := false
  interrupted : Bool := false
deriving DecidableEq

namespace Client

def withoutAddress (addresses : List Ip4IfAddr) (address : Ip4Address) : List Ip4IfAddr :=
  addresses.filter fun host => host.address ≠ address

def onBound (s : Client) (lease : Dhcp4Lease) (interrupted : Bool) : Client :=
  let table :=
    match s.lease with
    | some previous => removeLeaseRoutes previous s.table
    | none => s.table
  let s := { s with
    lease := some lease
    addresses := s.addresses ++ [lease.ip4Host]
    table := installLeaseRoutes lease table }
  if interrupted then { s with halted := true } else { s with state := .bound }

def resetToInit (s : Client) : Client :=
  match s.lease with
  | some lease => { s with
      addresses := withoutAddress s.addresses lease.ip4Host.address
      table := removeLeaseRoutes lease (s.table.removeDefault defaultNetwork)
      lease := none
      state := .init }
  | none => { s with state := .init }

-- The lease an exchange for `lease` comes back with.
def refreshed (env : Env) (lease : Dhcp4Lease) : Option Dhcp4Lease :=
  match env.reply with
  | .ack ack => leaseOf ack (ack.serverId.getD lease.serverId) env.acknowledged
  | _ => none

def consumeRenewOrRebindOutcome (s : Client) (env : Env) (prior : Dhcp4Lease) : Client :=
  if env.reply = .nak then s.resetToInit
  else
    match refreshed env prior with
    | none => s
    | some outcome =>
      if prior.ip4Host.address = outcome.ip4Host.address then { s with lease := some outcome, state := .bound }
      else
        let s := { s with addresses := withoutAddress (s.addresses ++ [outcome.ip4Host]) prior.ip4Host.address }
        if env.interrupted then { s with halted := true } else { s with lease := some outcome, state := .bound }

def doInit (s : Client) (env : Env) : Client :=
  match env.acquired with
  | none => { s with halted := true }
  | some (ack,serverId) =>
    match leaseOf ack serverId env.acknowledged with
    | none => { s with halted := true }
    | some lease => s.onBound lease env.interrupted

def doInitReboot (s : Client) (env : Env) (cached : Dhcp4Lease) : Client :=
  if env.reachable then s.onBound cached env.interrupted
  else
    match env.reply with
    | .nak => s.resetToInit
    | .silent => s.onBound cached env.interrupted
    | .ack _ =>
      match refreshed env cached with
      | none => s.resetToInit
      | some lease => s.onBound lease env.interrupted

def doBound (s : Client) (env : Env) (lease : Dhcp4Lease) : Client :=
  if env.conflict then s.resetToInit
  else if lease.t1Deadline ≤ env.now then { s with state := .renewing }
  else s

def doRenewing (s : Client) (env : Env) (lease : Dhcp4Lease) : Client :=
  match renewingMove lease env.now with
  | .escalate => { s with state := .rebinding }
  | _ => s.consumeRenewOrRebindOutcome env lease

def doRebinding (s : Client) (env : Env) (lease : Dhcp4Lease) : Client :=
  match rebindingMove lease env.now with
  | .expire => s.resetToInit
  | _ => s.consumeRenewOrRebindOutcome env lease

-- `_subsystem_loop`; a handler without its lease ends in the loop's guard.
def tick (s : Client) (env : Env) : Client :=
  if s.halted then s
  else if env.raised then { s with halted := true }
  else
    match s.state,s.lease with
    | .init,_ => s.doInit env
    | _,none => { s with halted := true }
    | .initReboot,some lease => s.doInitReboot env lease
    | .bound,some lease => s.doBound env lease
    | .renewing,some lease => s.doRenewing env lease
    | .rebinding,some lease => s.doRebinding env lease

-- `stop()`: only a bound client takes anything back.
def stop (s : Client) : Client :=
  match s.state,s.lease with
  | .bound,some lease => { s with
      addresses := withoutAddress s.addresses lease.ip4Host.address
      table := s.table.removeDefault defaultNetwork
      halted := true
      stopped := true }
  | _,_ => { s with halted := true, stopped := true }

end Client

inductive Input where
  | tick (env : Env)
  | stop

def step : Input → Client → Client
  | .tick env,s => s.tick env
  | .stop,s => s.stop

def Start (s : Client) : Prop :=
  s.addresses = [] ∧ (∀ route ∈ s.table.routes, route.protocol ≠ .dhcp) ∧ s.halted = false ∧ s.stopped = false ∧
    (s.state = .init ∧ s.lease = none ∨ s.state = .initReboot ∧ s.lease ≠ none)

def Describes (lease : Dhcp4Lease) (route : Ip4Route) : Prop :=
  match lease.classlessStaticRoutes with
  | some routes => ∃ entry ∈ routes, entry.2 ≠ 0 ∧ route = dhcpRoute entry
  | none => ∃ gateway, lease.gateway = some gateway ∧ route = dhcpRoute (defaultNetwork,gateway)

def Learned (table : Ip4Table) (route : Ip4Route) : Prop := route ∈ table.routes ∧ route.protocol = .dhcp

def Bare (s : Client) : Prop := s.addresses = [] ∧ ∀ route, ¬Learned s.table route

def Holding (s : Client) (lease : Dhcp4Lease) : Prop :=
  s.addresses = [lease.ip4Host] ∧ ∀ route, Learned s.table route ↔ Describes lease route

-- While a lease is held exactly what it describes is installed, and in INIT or
-- after the stop nothing is.
def Settled (s : Client) : Prop :=
  if s.stopped then Bare s
  else
    match s.state with
    | .init => Bare s
    | .initReboot => Bare s
    | _ => ∃ lease, s.lease = some lease ∧ Holding s lease

-- The classless routes name one default router at most.
def OneDefault (lease : Dhcp4Lease) : Prop :=
  ∀ routes, lease.classlessStaticRoutes = some routes → ∀ a ∈ routes, ∀ b ∈ routes,
    a.1 = defaultNetwork → b.1 = defaultNetwork → a.2 ≠ 0 → b.2 ≠ 0 → a.2 = b.2

-- A refreshed lease describes the same routes and, with the same address, the same mask.
def Continues (prior lease : Dhcp4Lease) : Prop :=
  (∀ route, Describes lease route ↔ Describes prior route) ∧
    (prior.ip4Host.address = lease.ip4Host.address → lease.ip4Host = prior.ip4Host)

def Offered (env : Env) (s : Client) (lease : Dhcp4Lease) : Prop :=
  match s.state with
  | .init => ∃ ack serverId, env.acquired = some (ack,serverId) ∧ leaseOf ack serverId env.acknowledged = some lease
  | _ => s.lease = some lease ∨ ∃ cached, s.lease = some cached ∧ Client.refreshed env cached = some lease

def Meets : Input → Client → Prop
  | .tick env,s =>
    match s.state with
    | .bound => True
    | .init => ∀ lease, Offered env s lease → env.interrupted = false ∧ OneDefault lease
    | .initReboot => ∀ lease, Offered env s lease → env.interrupted = false ∧ OneDefault lease
    | _ => ∀ prior lease, s.lease = some prior → Client.refreshed env prior = some lease →
        env.interrupted = false ∧ Continues prior lease
  | .stop,s => s.stopped = true ∨ s.state = .init ∨ s.state = .initReboot ∨
      (s.state = .bound ∧ ∀ lease route, s.lease = some lease → Describes lease route → route.destination = defaultNetwork)

theorem learned_add (table : Ip4Table) (entry : Ip4Network × Ip4Address) (route : Ip4Route) :
    Learned (table.add (dhcpRoute entry)) route ↔ Learned table route ∨ route = dhcpRoute entry := by
  unfold Learned
  rw [RouteTable.mem_add,or_and_right]
  refine or_congr_right ⟨fun both => both.1,?_⟩
  rintro rfl
  exact ⟨rfl,rfl⟩

theorem learned_replaceDefault (table : Ip4Table) (gateway : Ip4Address) (route : Ip4Route) :
    Learned (table.replaceDefault defaultNetwork gateway .dhcp) route ↔
      Learned table route ∧ route.destination ≠ defaultNetwork ∨ route = dhcpRoute (defaultNetwork,gateway) := by
  unfold Learned
  rw [RouteTable.mem_replaceDefault,or_and_right]
  refine or_congr (by tauto) ⟨fun both => both.1,?_⟩
  rintro rfl
  exact ⟨rfl,rfl⟩

theorem learned_removeDefault (table : Ip4Table) (route : Ip4Route) :
    Learned (table.removeDefault defaultNetwork) route ↔ Learned table route ∧ route.destination ≠ defaultNetwork := by
  unfold Learned
  rw [RouteTable.mem_removeDefault]
  tauto

theorem learned_removeRoute (table : Ip4Table) (entry : Ip4Network × Ip4Address) (route : Ip4Route) :
    Learned (removeRoute table entry) route ↔ Learned table route ∧
      ¬(entry.2 ≠ 0 ∧ entry.1 ≠ defaultNetwork ∧ route.destination = entry.1 ∧ route.gateway = some entry.2) := by
  unfold removeRoute
  split
  · next skipped => tauto
  · next taken =>
    unfold Learned
    rw [RouteTable.mem_remove]
    simp only [reduceCtorEq,false_or]
    tauto

theorem learned_removeRoutes (routes : List (Ip4Network × Ip4Address)) (table : Ip4Table) (route : Ip4Route) :
    Learned (routes.foldl removeRoute table) route ↔ Learned table route ∧
      ∀ entry ∈ routes, ¬(entry.2 ≠ 0 ∧ entry.1 ≠ defaultNetwork ∧ route.destination = entry.1 ∧ route.gateway = some entry.2) := by
  induction routes generalizing table with
  | nil => simp
  | cons entry rest ih =>
    rw [List.foldl_cons,ih,learned_removeRoute,List.forall_mem_cons,and_assoc]

theorem learned_removeLeaseRoutes (learned : Learned (removeLeaseRoutes lease table) route) : Learned table route := by
  unfold removeLeaseRoutes at learned
  split at learned
  · exact ((learned_removeRoutes _ _ _).mp learned).1
  · exact learned

theorem removed_bare (described : ∀ route, Learned table route → Describes lease route) (route : Ip4Route) :
    ¬Learned (removeLeaseRoutes lease (table.removeDefault defaultNetwork)) route := by
  intro learned
  have before := (learned_removeDefault table route).mp (learned_removeLeaseRoutes learned)
  have named := described route before.1
  unfold Describes at named
  unfold removeLeaseRoutes at learned
  cases classless : lease.classlessStaticRoutes with
  | some routes =>
    rw [classless] at named learned
    obtain ⟨entry,member,router,rfl⟩ := named
    exact ((learned_removeRoutes _ _ _).mp learned).2 entry member ⟨router,before.2,rfl,rfl⟩
  | none =>
    rw [classless] at named
    obtain ⟨gateway,-,rfl⟩ := named
    exact before.2 rfl

-- The entries installed so far, when they agree on the default router.
theorem learned_installRoute (done : List (Ip4Network × Ip4Address)) (entry : Ip4Network × Ip4Address)
    (single : ∀ a ∈ done, a.1 = defaultNetwork → entry.1 = defaultNetwork → a.2 ≠ 0 → entry.2 ≠ 0 → a.2 = entry.2)
    (before : ∀ route, Learned table route ↔ ∃ a ∈ done, a.2 ≠ 0 ∧ route = dhcpRoute a) (route : Ip4Route) :
    Learned (installRoute table entry) route ↔ ∃ a ∈ done ++ [entry], a.2 ≠ 0 ∧ route = dhcpRoute a := by
  have split : (∃ a ∈ done ++ [entry], a.2 ≠ 0 ∧ route = dhcpRoute a) ↔
      (∃ a ∈ done, a.2 ≠ 0 ∧ route = dhcpRoute a) ∨ (entry.2 ≠ 0 ∧ route = dhcpRoute entry) := by
    simp only [List.mem_append,List.mem_singleton,or_and_right,exists_or,exists_eq_left]
  rw [split]
  unfold installRoute
  split_ifs with onLink default
  · rw [before]
    exact ⟨.inl,fun either => either.resolve_right (fun both => both.1 onLink)⟩
  · have named : dhcpRoute (defaultNetwork,entry.2) = dhcpRoute entry := by rw [← default]
    rw [learned_replaceDefault,before,named]
    constructor
    · rintro (⟨earlier,-⟩ | rfl)
      · exact .inl earlier
      · exact .inr ⟨onLink,rfl⟩
    · rintro (⟨a,member,router,rfl⟩ | ⟨-,rfl⟩)
      · by_cases target : a.1 = defaultNetwork
        · have same := single a member target default router onLink
          refine .inr ?_
          rw [dhcpRoute,target,same,← default]
          rfl
        · exact .inl ⟨⟨a,member,router,rfl⟩,target⟩
      · exact .inr rfl
  · rw [learned_add,before]
    exact or_congr_right ⟨fun same => ⟨onLink,same⟩,fun both => both.2⟩

theorem learned_installRoutes (rest done : List (Ip4Network × Ip4Address)) (table : Ip4Table)
    (single : ∀ a ∈ done ++ rest, ∀ b ∈ done ++ rest, a.1 = defaultNetwork → b.1 = defaultNetwork →
      a.2 ≠ 0 → b.2 ≠ 0 → a.2 = b.2)
    (before : ∀ route, Learned table route ↔ ∃ a ∈ done, a.2 ≠ 0 ∧ route = dhcpRoute a) (route : Ip4Route) :
    Learned (rest.foldl installRoute table) route ↔ ∃ a ∈ done ++ rest, a.2 ≠ 0 ∧ route = dhcpRoute a := by
  induction rest generalizing done table with
  | nil => simpa using before route
  | cons entry rest ih =>
    have whole : done ++ entry :: rest = (done ++ [entry]) ++ rest := by simp
    rw [List.foldl_cons,whole]
    refine ih (done ++ [entry]) _ (whole ▸ single) ?_
    refine learned_installRoute done entry ?_ before
    intro a member
    exact single a (List.mem_append_left _ member) entry (List.mem_append_right _ List.mem_cons_self)

theorem installed_exact (bare : ∀ route, ¬Learned table route) (single : OneDefault lease) (route : Ip4Route) :
    Learned (installLeaseRoutes lease table) route ↔ Describes lease route := by
  unfold installLeaseRoutes Describes
  cases classless : lease.classlessStaticRoutes with
  | some routes =>
    refine learned_installRoutes routes [] table ?_ ?_ route
    · exact single routes classless
    · intro other
      exact iff_of_false (bare other) (by simp)
  | none =>
    cases gateway : lease.gateway with
    | none => exact iff_of_false (bare route) (by simp)
    | some router =>
      dsimp only
      rw [learned_replaceDefault]
      simp only [bare route,false_and,false_or,Option.some.injEq,exists_eq_left']

def Held (state : Dhcp4State) : Prop := state ≠ .init ∧ state ≠ .initReboot

structure Running (s : Client) : Prop where
  free : ¬Held s.state → Bare s
  held : Held s.state → ∃ lease, s.lease = some lease ∧ Holding s lease

theorem running_bare (state : s.state = .init ∨ s.state = .initReboot) (bare : Bare s) : Running s := by
  refine ⟨fun _ => bare,fun held => ?_⟩
  obtain first | reboot := state
  · exact absurd first held.1
  · exact absurd reboot held.2

theorem running_holding (state : Held s.state) (lease : s.lease = some l) (holding : Holding s l) : Running s :=
  ⟨fun free => absurd state free,fun _ => ⟨l,lease,holding⟩⟩

theorem onBound_running (bare : Bare s) (single : OneDefault lease) : Running (s.onBound lease false) := by
  refine running_holding (l := lease) ⟨by simp [Client.onBound],by simp [Client.onBound]⟩ rfl ?_
  refine ⟨?_,?_⟩
  · change s.addresses ++ [lease.ip4Host] = [lease.ip4Host]
    rw [bare.1]
    rfl
  · refine installed_exact ?_ single
    intro route learned
    cases previous : s.lease with
    | none =>
      rw [previous] at learned
      exact bare.2 route learned
    | some old =>
      rw [previous] at learned
      exact bare.2 route (learned_removeLeaseRoutes learned)

theorem resetToInit_held (lease : s.lease = some l) (holding : Holding s l) : Running s.resetToInit := by
  refine running_bare (.inl ?_) ?_
  · simp [Client.resetToInit,lease]
  · unfold Client.resetToInit
    rw [lease]
    refine ⟨?_,removed_bare fun route => (holding.2 route).mp⟩
    simp [Client.withoutAddress,holding.1]

theorem resetToInit_bare (bare : Bare s) : Running s.resetToInit := by
  refine running_bare (.inl ?_) ?_
  · unfold Client.resetToInit
    split <;> rfl
  · unfold Client.resetToInit
    split
    · refine ⟨by simp [Client.withoutAddress,bare.1],?_⟩
      intro route learned
      exact bare.2 route ((learned_removeDefault _ _).mp (learned_removeLeaseRoutes learned)).1
    · exact bare

theorem Holding.continued (holding : Holding s prior) (described : ∀ route, Describes lease route ↔ Describes prior route)
    (table : s'.table = s.table) (addresses : s'.addresses = [lease.ip4Host]) : Holding s' lease := by
  refine ⟨addresses,?_⟩
  intro route
  rw [table,holding.2,described]

theorem consume_running (state : Held s.state) (lease : s.lease = some prior) (holding : Holding s prior)
    (continues : ∀ next, Client.refreshed env prior = some next → env.interrupted = false ∧ Continues prior next) :
    Running (s.consumeRenewOrRebindOutcome env prior) := by
  unfold Client.consumeRenewOrRebindOutcome
  split
  · exact resetToInit_held lease holding
  · cases outcome : Client.refreshed env prior with
    | none => exact running_holding state lease holding
    | some next =>
      obtain ⟨whole,described,mask⟩ := continues next outcome
      dsimp only
      split
      · next same =>
        refine running_holding (l := next) ⟨by simp,by simp⟩ rfl (holding.continued described rfl ?_)
        rw [mask same]
        exact holding.1
      · next differs =>
        rw [whole]
        refine running_holding (l := next) ⟨by simp,by simp⟩ rfl (holding.continued described rfl ?_)
        have moved : next.ip4Host.address ≠ prior.ip4Host.address := fun same => differs same.symm
        simp [Client.withoutAddress,holding.1,moved]

theorem stop_bare (running : Running s) (meets : s.state = .init ∨ s.state = .initReboot ∨
    (s.state = .bound ∧ ∀ lease route, s.lease = some lease → Describes lease route → route.destination = defaultNetwork)) :
    Bare s.stop := by
  rcases meets with first | reboot | ⟨bound,defaults⟩
  · have bare := running.free (fun held => held.1 first)
    unfold Client.stop
    rw [first]
    exact bare
  · have bare := running.free (fun held => held.2 reboot)
    unfold Client.stop
    rw [reboot]
    exact bare
  · obtain ⟨lease,named,holding⟩ := running.held ⟨by simp [bound],by simp [bound]⟩
    unfold Client.stop
    rw [bound,named]
    refine ⟨by simp [Client.withoutAddress,holding.1],?_⟩
    intro route learned
    obtain ⟨before,other⟩ := (learned_removeDefault _ _).mp learned
    exact other (defaults lease route named ((holding.2 route).mp before))

theorem stop_again (bare : Bare s) : Bare s.stop := by
  unfold Client.stop
  split
  · refine ⟨by simp [Client.withoutAddress,bare.1],?_⟩
    intro route learned
    exact bare.2 route ((learned_removeDefault _ _).mp learned).1
  · exact bare

structure Kept (s : Client) : Prop where
  halts : s.stopped = true → s.halted = true ∧ Bare s
  runs : s.stopped = false → Running s

theorem Running.of_halted (running : Running s) : Running { s with halted := true } := ⟨running.free,running.held⟩

theorem doInit_running (bare : Bare s) (running : Running s)
    (offered : ∀ ack serverId lease, env.acquired = some (ack,serverId) → leaseOf ack serverId env.acknowledged = some lease →
      env.interrupted = false ∧ OneDefault lease) : Running (s.doInit env) := by
  unfold Client.doInit
  cases acquired : env.acquired with
  | none => exact running.of_halted
  | some pair =>
    obtain ⟨ack,serverId⟩ := pair
    dsimp only
    cases built : leaseOf ack serverId env.acknowledged with
    | none => exact running.of_halted
    | some lease =>
      obtain ⟨whole,single⟩ := offered ack serverId lease acquired built
      dsimp only
      rw [whole]
      exact onBound_running bare single

theorem doInitReboot_running (bare : Bare s) (own : env.interrupted = false ∧ OneDefault cached)
    (offered : ∀ lease, Client.refreshed env cached = some lease → OneDefault lease) :
    Running (s.doInitReboot env cached) := by
  unfold Client.doInitReboot
  rw [own.1]
  split
  · exact onBound_running bare own.2
  · cases reply : env.reply with
    | nak => exact resetToInit_bare bare
    | silent => exact onBound_running bare own.2
    | ack ack =>
      dsimp only
      cases fresh : Client.refreshed env cached with
      | none => exact resetToInit_bare bare
      | some next => exact onBound_running bare (offered next fresh)

theorem doBound_running (state : s.state = .bound) (named : s.lease = some lease) (holding : Holding s lease) :
    Running (s.doBound env lease) := by
  unfold Client.doBound
  split
  · exact resetToInit_held named holding
  · split
    · exact running_holding (l := lease) ⟨by simp,by simp⟩ named holding
    · exact running_holding ⟨by simp [state],by simp [state]⟩ named holding

theorem tick_running (running : Running s) (meets : Meets (.tick env) s) : Running (s.tick env) := by
  unfold Client.tick
  split
  · exact running
  · split
    · exact running.of_halted
    · unfold Meets at meets
      dsimp only at meets
      cases state : s.state with
      | init =>
        have bare := running.free (fun held => held.1 state)
        simp only [Offered,state] at meets
        refine doInit_running bare running ?_
        intro ack serverId lease acquired built
        exact meets lease ⟨ack,serverId,acquired,built⟩
      | initReboot =>
        have bare := running.free (fun held => held.2 state)
        simp only [Offered,state] at meets
        cases cached : s.lease with
        | none => exact running_bare (.inr rfl) bare
        | some lease =>
          refine doInitReboot_running bare (meets lease (.inl cached)) ?_
          intro next fresh
          exact (meets next (.inr ⟨lease,cached,fresh⟩)).2
      | bound =>
        obtain ⟨lease,named,holding⟩ := running.held ⟨by simp [state],by simp [state]⟩
        rw [named]
        exact doBound_running state named holding
      | renewing =>
        obtain ⟨lease,named,holding⟩ := running.held ⟨by simp [state],by simp [state]⟩
        simp only [state] at meets
        rw [named]
        dsimp only
        unfold Client.doRenewing
        split
        · exact running_holding (l := lease) ⟨by simp,by simp⟩ named holding
        · exact consume_running ⟨by simp [state],by simp [state]⟩ named holding (fun next => meets lease next named)
      | rebinding =>
        obtain ⟨lease,named,holding⟩ := running.held ⟨by simp [state],by simp [state]⟩
        simp only [state] at meets
        rw [named]
        dsimp only
        unfold Client.doRebinding
        split
        · exact resetToInit_held named holding
        · exact consume_running ⟨by simp [state],by simp [state]⟩ named holding (fun next => meets lease next named)

theorem tick_stopped (s : Client) (env : Env) : (s.tick env).stopped = s.stopped := by
  unfold Client.tick Client.doInit Client.doInitReboot Client.doBound Client.doRenewing Client.doRebinding
    Client.consumeRenewOrRebindOutcome Client.onBound Client.resetToInit
  repeat' split
  all_goals rfl

theorem step_kept (kept : Kept s) (meets : Meets input s) : Kept (step input s) := by
  cases input with
  | tick env =>
    change Kept (s.tick env)
    refine ⟨?_,?_⟩
    · intro stopped
      rw [tick_stopped] at stopped
      obtain ⟨halted,bare⟩ := kept.halts stopped
      have still : s.tick env = s := by
        unfold Client.tick
        rw [if_pos halted]
      rw [still]
      exact ⟨halted,bare⟩
    · intro going
      rw [tick_stopped] at going
      exact tick_running (kept.runs going) meets
  | stop =>
    change Kept s.stop
    have ended : s.stop.halted = true ∧ s.stop.stopped = true := by
      unfold Client.stop
      split <;> exact ⟨rfl,rfl⟩
    refine ⟨fun _ => ⟨ended.1,?_⟩,fun going => ?_⟩
    · cases stopped : s.stopped with
      | true => exact stop_again (kept.halts stopped).2
      | false =>
        refine stop_bare (kept.runs stopped) (meets.resolve_left ?_)
        rw [stopped]
        decide
    · rw [ended.2] at going
      cases going

theorem start_kept (start : Start s) : Kept s := by
  obtain ⟨addresses,table,-,running,begins⟩ := start
  have bare : Bare s := ⟨addresses,fun route learned => table route learned.1 learned.2⟩
  refine ⟨?_,fun _ => running_bare (begins.imp And.left And.left) bare⟩
  intro stopped
  rw [running] at stopped
  cases stopped

theorem Kept.settled (kept : Kept s) : Settled s := by
  unfold Settled
  cases stopped : s.stopped with
  | true => exact (kept.halts stopped).2
  | false =>
    have running := kept.runs stopped
    cases state : s.state with
    | init => exact running.free (fun held => held.1 state)
    | initReboot => exact running.free (fun held => held.2 state)
    | _ => exact running.held ⟨by simp [state],by simp [state]⟩

theorem daemon_settled (reached : Reached Start step Meets s) : Settled s :=
  (reached.invariant Kept (fun _ => start_kept) (fun _ _ => step_kept)).settled

-- One lease with a default and another route, taken and renewed.
def routedAck : Ack :=
  { yiaddr := 0x0a000005, subnetMask := some 24, leaseTime := some 100
    classlessStaticRoute := some [(defaultNetwork,0x0a000001),(⟨0x0a010000,16⟩,0x0a000002)] }

def freshClient : Client := { state := .init, lease := none, table := {} }

def acquiring : Input := .tick { now := 0, acknowledged := 0, acquired := some (routedAck,0x0a000001) }
def waking : Input := .tick { now := 50, acknowledged := 50 }
def renewal : Input := .tick { now := 51, acknowledged := 51, reply := .ack routedAck }

theorem daemon_settled_renewal :
    Settled (run step freshClient [acquiring,waking,renewal]) := by
  have first : Reached Start step Meets freshClient :=
    .start _ ⟨rfl,by simp [freshClient],rfl,rfl,.inl ⟨rfl,rfl⟩⟩
  refine daemon_settled (first.run [acquiring,waking,renewal] ⟨?_,trivial,?_,trivial⟩)
  · rintro lease ⟨ack,serverId,acquired,built⟩
    cases acquired
    cases built
    refine ⟨rfl,?_⟩
    intro routes same
    cases same
    decide
  · have state : step waking (step acquiring freshClient) = { step acquiring freshClient with state := .renewing } := by
      decide +kernel
    rw [state]
    rintro prior lease named fresh
    cases named
    cases fresh
    exact ⟨rfl,fun _ => Iff.rfl,fun _ => rfl⟩

-- The same client stopped: the default goes, the other route stays.
theorem daemon_unsettled_stop :
    ¬∀ s, Reached Start step (fun _ _ => True) s → Settled s := by
  intro all
  have first : Reached Start step (fun _ _ => True) freshClient :=
    .start _ ⟨rfl,by simp [freshClient],rfl,rfl,.inl ⟨rfl,rfl⟩⟩
  have settled := all _ (first.run [acquiring,.stop] (met_true _))
  exact settled.2 (dhcpRoute (⟨0x0a010000,16⟩,0x0a000002)) ⟨by decide +kernel,rfl⟩

end PmdPytcp.Dhcp4
