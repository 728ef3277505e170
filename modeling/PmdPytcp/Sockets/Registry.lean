import PmdPytcp.Sockets

namespace PmdPytcp.Sockets
open TcpHandler (IpAddress)

-- What the registry and the sockets keep true of each other in every run.
structure Filed (w : World) : Prop where
  filed : ∀ id h, h ∈ w.table.cohort id → ∃ s, w.sockets.get h = some s ∧ s.socketId = id
  family : ∀ h s, w.sockets.get h = some s → familyOf s.localIpAddress = s.addressFamily
  ports : ∀ h s, w.sockets.get h = some s → s.socketId.Full → s.bound = true
  registered : ∀ id h, h ∈ w.table.cohort id → id.socketType = .dgram → id.localPort ≠ 0

variable {w : World} {h r : Nat} {s t : Socket} {id : SocketId} {port : Nat} {address : Option IpAddress} {a : IpAddress}
  {stack : World.Stack}

theorem ofType_some {socketType : SocketType} (found : w.ofType socketType h = some s) :
    w.sockets.get h = some s ∧ s.socketType = socketType := by
  obtain ⟨held,type⟩ := Option.filter_eq_some_iff.mp found
  exact ⟨held,by simpa using type⟩

-- A socket is filed under its own id only, so unregistering it there removes
-- it altogether.
theorem Filed.unregister_cohort (filed : Filed w) (h : Nat) (id : SocketId) :
    (w.unregister h).table.cohort id = (w.table.cohort id).filter (· ≠ h) := by
  unfold World.unregister
  have absent (missing : ∀ s, w.sockets.get h = some s → s.socketId ≠ id) :
      w.table.cohort id = (w.table.cohort id).filter (· ≠ h) := by
    refine (List.filter_eq_self.mpr ?_).symm
    intro member inside
    rw [decide_eq_true_eq]
    rintro rfl
    obtain ⟨s,held,same⟩ := filed.filed id member inside
    exact missing s held same
  cases found : w.sockets.get h with
  | none => exact absent (by simp [found])
  | some s =>
    dsimp only
    rw [Cohorts.cohort_unregister]
    split
    · next same => rw [same]
    · next other =>
      refine absent ?_
      intro t held same
      rw [found] at held
      cases held
      exact other same.symm

theorem unregister_sockets (w : World) (h : Nat) : (w.unregister h).sockets = w.sockets := by
  unfold World.unregister
  split <;> rfl

theorem unregister_sessions (w : World) (h : Nat) : (w.unregister h).sessions = w.sessions := by
  unfold World.unregister
  split <;> rfl

theorem Filed.reregister_cohort (filed : Filed w) (h : Nat) (t : Socket) (id : SocketId) :
    (w.reregister h t).table.cohort id =
      (w.table.cohort id).filter (· ≠ h) ++ if id = t.socketId then [h] else [] := by
  show ((w.unregister h).table.register t.socketId h).cohort id = _
  rw [Cohorts.cohort_register]
  split
  · next same =>
    rw [← same,filed.unregister_cohort]
    rw [if_neg (by simp)]
  · rw [filed.unregister_cohort,List.append_nil]

theorem reregister_sockets (w : World) (h : Nat) (t : Socket) : (w.reregister h t).sockets = w.sockets.set h t := by
  show (w.unregister h).sockets.set h t = _
  rw [unregister_sockets]

theorem reregister_sessions (w : World) (h : Nat) (t : Socket) : (w.reregister h t).sessions = w.sessions :=
  unregister_sessions w h

theorem Filed.unregister (filed : Filed w) (h : Nat) : Filed (w.unregister h) where
  filed := by
    intro id member inside
    rw [filed.unregister_cohort] at inside
    rw [unregister_sockets]
    exact filed.filed id member (List.mem_of_mem_filter inside)
  family := by
    rw [unregister_sockets]
    exact filed.family
  ports := by
    rw [unregister_sockets]
    exact filed.ports
  registered := by
    intro id member inside
    rw [filed.unregister_cohort] at inside
    exact filed.registered id member (List.mem_of_mem_filter inside)

theorem Filed.reregister (filed : Filed w) (family : familyOf t.localIpAddress = t.addressFamily)
    (ports : t.bound = true) : Filed (w.reregister h t) where
  filed := by
    intro id member inside
    rw [filed.reregister_cohort] at inside
    rw [reregister_sockets,Store.get_set]
    rcases List.mem_append.mp inside with old | new
    · obtain ⟨kept,other⟩ := List.mem_filter.mp old
      rw [if_neg (by simpa using other)]
      exact filed.filed id member kept
    · split at new
      · next same =>
        rw [if_pos (List.mem_singleton.mp new)]
        exact ⟨t,rfl,same.symm⟩
      · cases new
  family := by
    intro k u held
    rw [reregister_sockets,Store.get_set] at held
    split at held
    · cases held
      exact family
    · exact filed.family k u held
  ports := by
    intro k u held full
    rw [reregister_sockets,Store.get_set] at held
    split at held
    · cases held
      exact ports
    · exact filed.ports k u held full
  registered := by
    intro id member inside dgram
    rw [filed.reregister_cohort] at inside
    rcases List.mem_append.mp inside with old | new
    · exact filed.registered id member (List.mem_of_mem_filter old) dgram
    · split at new
      · next same =>
        rw [same]
        show t.localPort ≠ 0
        simp only [Socket.bound,Bool.and_eq_true,decide_eq_true_eq] at ports
        omega
      · cases new

theorem pool_ports (inside : port ∈ World.ephemeralPortPool stack) : 1 ≤ port ∧ port < 65536 := by
  obtain ⟨i,small,rfl⟩ := List.mem_map.mp inside
  have below := List.mem_range.mp small
  obtain ⟨low,high⟩ := of_decide_eq_true stack.rangeAdmitted
  omega

theorem pickLocalPort_admitted (picked : w.pickLocalPort stack = .ok port) : 1 ≤ port ∧ port < 65536 := by
  unfold World.pickLocalPort at picked
  dsimp only at picked
  split at picked
  · cases picked
  · next found =>
    cases picked
    exact pool_ports (List.mem_of_mem_filter (List.mem_of_getElem? found))

theorem pickLocalPortFor_admitted (picked : w.pickLocalPortFor stack = .ok port) :
    (1 ≤ port ∧ port < 65536) ∧ port ∉ w.usedPorts := by
  unfold World.pickLocalPortFor at picked
  dsimp only at picked
  split at picked
  · cases picked
  · next found =>
    cases picked
    have free := List.find?_some found
    obtain ⟨i,_,taken⟩ := List.mem_filterMap.mp (List.mem_of_find?_eq_some found)
    exact ⟨pool_ports (List.mem_of_getElem? taken),by simpa using free⟩

theorem bindPort_admitted {localIpAddress : IpAddress} {port : Int} {chosen : Nat} (range : 0 ≤ port ∧ port ≤ 65535)
    (bound : w.bindPort s stack localIpAddress port = .ok chosen) : 1 ≤ chosen ∧ chosen < 65536 := by
  unfold World.bindPort at bound
  split at bound
  · split at bound
    · cases bound
    · cases bound
      omega
  · exact pickLocalPort_admitted bound

theorem bound_iff : s.bound = true ↔ 1 ≤ s.localPort ∧ s.localPort < 65536 := by
  simp [Socket.bound]

theorem Filed.unused (filed : Filed w) (id : SocketId) (free : id.localPort ∉ w.usedPorts) : w.table.cohort id = [] := by
  refine List.eq_nil_iff_forall_not_mem.mpr ?_
  intro member inside
  obtain ⟨s,held,same⟩ := filed.filed id member inside
  apply free
  refine List.mem_map.mpr ⟨s,?_,by rw [← same]; rfl⟩
  refine List.mem_filterMap.mpr ⟨member,?_,held⟩
  unfold Cohorts.cohort at inside
  cases found : w.table.members.get id with
  | none => simp [found] at inside
  | some cohort =>
    rw [found] at inside
    exact List.mem_flatten.mpr ⟨cohort,List.mem_map.mpr ⟨(id,cohort),Store.get_eq_some.mp found,rfl⟩,inside⟩

theorem start_filed : Filed .start where
  filed := by intro id h inside; cases inside
  family := by intro h s held; cases held
  ports := by intro h s held; cases held
  registered := by intro id h inside; cases inside

theorem Filed.looked (filed : Filed w) (id : SocketId) : Filed {w with table := (w.table.get id).2} where
  filed := by
    intro key member inside
    rw [Cohorts.cohort_get] at inside
    exact filed.filed key member inside
  family := filed.family
  ports := filed.ports
  registered := by
    intro key member inside
    rw [Cohorts.cohort_get] at inside
    exact filed.registered key member inside

theorem Filed.sessions (filed : Filed w) (sessions : Store Nat Session) : Filed {w with sessions := sessions} :=
  ⟨filed.filed,filed.family,filed.ports,filed.registered⟩

theorem Filed.refresh (filed : Filed w) (held : w.sockets.get h = some s) (same : t.socketId = s.socketId) :
    Filed {w with sockets := w.sockets.set h t} where
  filed := by
    intro id member inside
    obtain ⟨u,found,here⟩ := filed.filed id member inside
    rw [Store.get_set]
    split
    · next known =>
      rw [known,held] at found
      cases found
      exact ⟨t,rfl,same.trans here⟩
    · exact ⟨u,found,here⟩
  family := by
    intro k u found
    rw [Store.get_set] at found
    split at found
    · cases found
      have before := filed.family h s held
      simp only [Socket.socketId,SocketId.mk.injEq] at same
      rw [same.1,same.2.2.1]
      exact before
    · exact filed.family k u found
  ports := by
    intro k u found full
    rw [Store.get_set] at found
    split at found
    · cases found
      have before := filed.ports h s held (same ▸ full)
      simp only [Socket.socketId,SocketId.mk.injEq] at same
      unfold Socket.bound at *
      rw [same.2.2.2.1]
      exact before
    · exact filed.ports k u found full
  registered := filed.registered

theorem Filed.enter (filed : Filed w) (held : w.sockets.get h = some s)
    (ports : s.socketType = .dgram → s.localPort ≠ 0) : Filed {w with table := w.table.register s.socketId h} where
  filed := by
    intro id member inside
    rw [Cohorts.cohort_register] at inside
    split at inside
    · next same =>
      rw [same]
      split at inside
      · exact filed.filed s.socketId member inside
      · rcases List.mem_append.mp inside with old | new
        · exact filed.filed s.socketId member old
        · rw [List.mem_singleton.mp new]
          exact ⟨s,held,rfl⟩
    · exact filed.filed id member inside
  family := filed.family
  ports := filed.ports
  registered := by
    intro id member inside dgram
    rw [Cohorts.cohort_register] at inside
    split at inside
    · next same =>
      rw [same] at dgram ⊢
      exact ports dgram
    · exact filed.registered id member inside dgram

theorem Filed.create (filed : Filed w) (absent : w.sockets.get h = none)
    (family : familyOf t.localIpAddress = t.addressFamily) (ports : t.socketId.Full → t.bound = true) :
    Filed {w with sockets := w.sockets.set h t} where
  filed := by
    intro id member inside
    obtain ⟨u,found,here⟩ := filed.filed id member inside
    rw [Store.get_set]
    split
    · next known =>
      rw [known,absent] at found
      cases found
    · exact ⟨u,found,here⟩
  family := by
    intro k u found
    rw [Store.get_set] at found
    split at found
    · cases found
      exact family
    · exact filed.family k u found
  ports := by
    intro k u found full
    rw [Store.get_set] at found
    split at found
    · cases found
      exact ports full
    · exact filed.ports k u found full
  registered := filed.registered

theorem parsed_family (ok : World.parsed s address = .ok a) : familyOf a = s.addressFamily := by
  unfold World.parsed at ok
  split at ok
  · cases ok
  · next found =>
    cases ok
    simpa using (Option.filter_eq_some_iff.mp found).2

theorem localFor_family {remote : IpAddress} (own : familyOf s.localIpAddress = s.addressFamily)
    (same : familyOf remote = s.addressFamily) (ok : World.localFor s stack remote = .ok a) :
    familyOf a = s.addressFamily := by
  unfold World.localFor at ok
  split at ok
  · split at ok
    · cases ok
    · cases ok
      rw [stack.sameFamily,same]
  · cases ok
    exact own

theorem udpLocalFor_family {remote : IpAddress} {port : Int} (own : familyOf s.localIpAddress = s.addressFamily)
    (same : familyOf remote = s.addressFamily) (ok : World.udpLocalFor s stack remote port = .ok a) :
    familyOf a = s.addressFamily := by
  unfold World.udpLocalFor at ok
  split at ok
  · split at ok
    · cases ok
      exact own
    · split at ok
      · cases ok
      · cases ok
        rw [stack.sameFamily,same]
  · cases ok
    exact own

theorem bind_cases {after : World} {port : Int} (ok : w.bind h stack address port = .ok after) :
    (after = w) ∨ ∃ s t, w.sockets.get h = some s ∧ s.bound = false ∧ after = w.reregister h t ∧
      t.bound = true ∧ familyOf t.localIpAddress = t.addressFamily ∧
      ∃ localIpAddress localPort, t = {s with localIpAddress := localIpAddress,localPort := localPort} := by
  unfold World.bind at ok
  cases found : w.sockets.get h with
  | none =>
    rw [found] at ok
    cases ok
    exact .inl rfl
  | some s =>
    rw [found] at ok
    dsimp only at ok
    split at ok
    · cases ok
    next unbound =>
    split at ok
    · cases ok
    next localIpAddress own =>
    split at ok
    · cases ok
    split at ok
    · cases ok
    next range =>
    split at ok
    · cases ok
    next localPort chosen =>
    cases ok
    have admitted := bindPort_admitted (by omega) chosen
    exact .inr ⟨s,_,rfl,by simpa using unbound,rfl,bound_iff.mpr admitted,parsed_family own,_,_,rfl⟩

theorem tcpConnect_cases {after : World} {port : Int} (filed : Filed w)
    (ok : w.tcpConnect h r stack address port = .ok after) :
    (after = w) ∨ ∃ s t remote, w.sockets.get h = some s ∧ s.socketType = .stream ∧ w.sessions.get r = none ∧
      World.parsed s address = .ok remote ∧ isUnspecified remote = false ∧
      World.localFor s stack remote = .ok t.localIpAddress ∧
      (s.bound = true ∧ t.localPort = s.localPort ∨ t.localPort ∉ w.usedPorts) ∧
      t.bound = true ∧ familyOf t.localIpAddress = t.addressFamily ∧
      t = {s with localIpAddress := t.localIpAddress,localPort := t.localPort,remoteIpAddress := remote
                  remotePort := port.toNat,tcpSession := some r} ∧
      after = {w.reregister h t with
        sessions := (w.sessions.set r ⟨t.localIpAddress,t.localPort,remote,port.toNat,h,.connection⟩)} := by
  unfold World.tcpConnect at ok
  split at ok
  · next s found fresh =>
    obtain ⟨held,stream⟩ := ofType_some found
    split at ok
    · cases ok
    split at ok
    · cases ok
    next remote parsed =>
    split at ok
    · cases ok
    next specified =>
    split at ok
    · cases ok
    · cases ok
    next localIpAddress localPort source chosen =>
    cases ok
    have family := localFor_family (filed.family h s held) (parsed_family parsed) source
    have port_ok : (s.bound = true ∧ localPort = s.localPort ∨ localPort ∉ w.usedPorts) ∧
        1 ≤ localPort ∧ localPort < 65536 := by
      split at chosen
      · next bound =>
        cases chosen
        exact ⟨.inl ⟨bound,rfl⟩,bound_iff.mp bound⟩
      · obtain ⟨range,free⟩ := pickLocalPortFor_admitted chosen
        exact ⟨.inr free,range⟩
    refine .inr ⟨s,{s with localIpAddress := localIpAddress,localPort := localPort,remoteIpAddress := remote
                           remotePort := port.toNat,tcpSession := some r},remote,held,stream,fresh,parsed,
      by simpa using specified,source,port_ok.1,bound_iff.mpr port_ok.2,family,rfl,?_⟩
    rw [reregister_sessions]
  · cases ok
    exact .inl rfl

theorem udpConnect_cases {after : World} {port : Int} (filed : Filed w)
    (ok : w.udpConnect h stack address port = .ok after) :
    (after = w) ∨ ∃ s t, w.sockets.get h = some s ∧ s.socketType = .dgram ∧ t.socketType = .dgram ∧
      t.tcpSession = s.tcpSession ∧ t.bound = true ∧ familyOf t.localIpAddress = t.addressFamily ∧ after = w.reregister h t := by
  unfold World.udpConnect at ok
  split at ok
  · cases ok
    exact .inl rfl
  · next s found =>
    obtain ⟨held,dgram⟩ := ofType_some found
    split at ok
    · cases ok
    split at ok
    · cases ok
    next localPort chosen =>
    split at ok
    · cases ok
    next remote parsed =>
    split at ok
    · cases ok
    next localIpAddress source =>
    cases ok
    have range : 1 ≤ localPort ∧ localPort < 65536 := by
      split at chosen
      · next bound =>
        cases chosen
        exact bound_iff.mp bound
      · exact pickLocalPort_admitted chosen
    refine .inr ⟨s,{s with localIpAddress := localIpAddress,localPort := localPort
                           remoteIpAddress := remote,remotePort := port.toNat},held,dgram,dgram,rfl,?_,?_,rfl⟩
    · exact bound_iff.mpr range
    · have family := udpLocalFor_family (filed.family h s held) (parsed_family parsed) source
      exact family

theorem udpSendto_cases {after : World} {port : Int} (filed : Filed w)
    (ok : w.udpSendto h stack port = .ok after) :
    (after = w) ∨ ∃ s t, w.sockets.get h = some s ∧ s.socketType = .dgram ∧ t.socketType = .dgram ∧
      t.tcpSession = s.tcpSession ∧ t.bound = true ∧ familyOf t.localIpAddress = t.addressFamily ∧ after = w.reregister h t := by
  unfold World.udpSendto at ok
  split at ok
  · cases ok
    exact .inl rfl
  · next s found =>
    obtain ⟨held,dgram⟩ := ofType_some found
    split at ok
    · cases ok
    split at ok
    · cases ok
      exact .inl rfl
    split at ok
    · cases ok
    next localPort chosen =>
    cases ok
    refine .inr ⟨s,{s with localPort := localPort},held,dgram,dgram,rfl,?_,filed.family h s held,rfl⟩
    exact bound_iff.mpr (pickLocalPort_admitted chosen)

-- Lookups of a handler leave all but the cursors alone.
structure Looked (w after : World) : Prop where
  sockets : after.sockets = w.sockets
  sessions : after.sessions = w.sessions
  cohorts : ∀ id, after.table.cohort id = w.table.cohort id

theorem Looked.filed {after : World} (looked : Looked w after) (filed : Filed w) : Filed after where
  filed := by
    intro id member inside
    rw [looked.cohorts] at inside
    rw [looked.sockets]
    exact filed.filed id member inside
  family := by
    rw [looked.sockets]
    exact filed.family
  ports := by
    rw [looked.sockets]
    exact filed.ports
  registered := by
    intro id member inside
    rw [looked.cohorts] at inside
    exact filed.registered id member inside

theorem Looked.trans {one two : World} (first : Looked w one) (second : Looked one two) : Looked w two where
  sockets := second.sockets.trans first.sockets
  sessions := second.sessions.trans first.sessions
  cohorts := fun id => (second.cohorts id).trans (first.cohorts id)

theorem lookup_looked (w : World) (id : SocketId) : Looked w {w with table := (w.table.get id).2} where
  sockets := rfl
  sessions := rfl
  cohorts := fun key => Cohorts.cohort_get w.table id key

theorem matchListening_looked (p : World.Syn) (ids : List SocketId) (w : World) :
    Looked w (w.matchListening p ids).2 := by
  induction ids generalizing w with
  | nil => exact ⟨rfl,rfl,fun _ => rfl⟩
  | cons id rest ih =>
    unfold World.matchListening
    dsimp only
    split
    · exact (lookup_looked w id).trans (ih _)
    · split
      · exact (lookup_looked w id).trans (ih _)
      · exact lookup_looked w id

def World.Syn.accepted (p : World.Syn) (s : Socket) (r : Nat) : Socket :=
  {socketType := .stream,addressFamily := familyOf p.dst,localIpAddress := p.dst,localPort := p.dport
   remoteIpAddress := p.src,remotePort := p.sport,tcpSession := some r
   dualStack := s.addressFamily = .inet6 && !s.ipv6V6only && familyOf p.dst = .inet4}

-- A fork takes a listening session, and makes a child and a new listener.
structure Forked (w : World) (p : World.Syn) (parent child fresh : Nat) (after : World) : Prop where
  made : ∃ u s r session, w.sockets.get parent = some u ∧ u.tcpSession = some r ∧ w.sessions.get r = some session ∧
    w.sockets.get session.socket = some s ∧ session.phase = .listen ∧
    w.sockets.get child = none ∧ w.sessions.get fresh = none ∧
    after.sockets = (w.sockets.set session.socket {s with tcpSession := some fresh}).set child (p.accepted s r) ∧
    after.sessions = (w.sessions.set fresh session).set r ⟨p.dst,p.dport,p.src,p.sport,child,.connection⟩ ∧
    after.table = w.table.register p.socketId child

theorem fork_cases (w : World) (p : World.Syn) (parent child fresh : Nat) (admitted : Bool) :
    w.fork p parent child fresh admitted = w ∨ Forked w p parent child fresh (w.fork p parent child fresh admitted) := by
  unfold World.fork
  split
  · exact .inl rfl
  next r opened =>
  obtain ⟨u,found,points⟩ := Option.bind_eq_some_iff.mp opened
  split
  · exact .inl rfl
  next session stored =>
  split
  · exact .inl rfl
  next s held =>
  split
  · next gates =>
    obtain ⟨listening,_,newSocket,newSession⟩ := gates
    exact .inr ⟨u,s,r,session,found,points,stored,held,listening,newSocket,newSession,rfl,rfl,rfl⟩
  · exact .inl rfl

theorem synArrives_cases (w : World) (p : World.Syn) (child fresh : Nat) (admitted : Bool) :
    ∃ looked, Looked w looked ∧ (w.synArrives p child fresh admitted = looked ∨
      ∃ parent, (parent ∈ w.table.cohort p.socketId ∨ w.table.cohort p.socketId = []) ∧
        Forked looked p parent child fresh (w.synArrives p child fresh admitted)) := by
  unfold World.synArrives
  dsimp only
  cases active : (w.table.get p.socketId).1 with
  | some parent =>
    refine ⟨_,lookup_looked w p.socketId,?_⟩
    rcases fork_cases {w with table := (w.table.get p.socketId).2} p parent child fresh admitted with same | forked
    · exact .inl same
    · exact .inr ⟨parent,.inl (Cohorts.get_mem active),forked⟩
  | none =>
    have vacant := Cohorts.get_none.mp active
    have looked := (lookup_looked w p.socketId).trans
      (matchListening_looked p p.listeningSocketIds {w with table := (w.table.get p.socketId).2})
    refine ⟨_,looked,?_⟩
    dsimp only
    cases found : World.matchListening {w with table := (w.table.get p.socketId).2} p p.listeningSocketIds with
    | mk parent after =>
      cases parent with
      | none => exact .inl rfl
      | some parent =>
        rcases fork_cases after p parent child fresh admitted with same | forked
        · exact .inl same
        · exact .inr ⟨parent,.inr vacant,forked⟩

theorem Forked.filed {p : World.Syn} {parent child fresh : Nat} {after : World} (forked : Forked w p parent child fresh after)
    (filed : Filed w) : Filed after := by
  obtain ⟨_,s,r,session,_,_,_,held,_,newSocket,_,sockets,_,table⟩ := forked.made
  have other : child ≠ session.socket := by
    rintro rfl
    rw [held] at newSocket
    cases newSocket
  have one : Filed {w with sockets := w.sockets.set session.socket {s with tcpSession := some fresh}} :=
    filed.refresh held rfl
  have two := one.create (h := child) (t := p.accepted s r) (by rw [Store.get_set_other _ _ other,newSocket]) rfl
    (fun _ => bound_iff.mpr p.dportRange)
  have three := two.enter (h := child) (s := p.accepted s r) (Store.get_set_self _ _ _) nofun
  refine ⟨?_,?_,?_,?_⟩
  · intro id member inside
    rw [table] at inside
    rw [sockets]
    exact three.filed id member inside
  · rw [sockets]
    exact three.family
  · rw [sockets]
    exact three.ports
  · intro id member inside
    rw [table] at inside
    exact three.registered id member inside

theorem wildcard_family (addressFamily : AddressFamily) : familyOf addressFamily.wildcard = addressFamily := by
  cases addressFamily <;> rfl

theorem wildcard_open (addressFamily : AddressFamily) : isUnspecified addressFamily.wildcard = true := by
  cases addressFamily <;> rfl

theorem next_filed (w : World) (event : World.Event) (filed : Filed w) : Filed (w.next event) := by
  cases event with
  | socket h socketType addressFamily =>
    show Filed (w.socket h socketType addressFamily)
    unfold World.socket
    cases found : w.sockets.get h with
    | some _ => exact filed
    | none =>
      refine filed.create found (wildcard_family addressFamily) ?_
      intro full
      rcases full with specified | port
      · change isUnspecified addressFamily.wildcard = false at specified
        rw [wildcard_open] at specified
        cases specified
      · exact absurd rfl port
  | setReuse h one two three four =>
    simp only [World.next]
    cases found : w.sockets.get h with
    | none => exact filed
    | some s => exact filed.refresh found rfl
  | bind h stack address port =>
    show Filed (w.kept (w.bind h stack address port))
    cases result : w.bind h stack address port with
    | error e => exact filed
    | ok after =>
      rcases bind_cases result with rfl | ⟨s,t,_,_,rfl,bound,family,_⟩
      · exact filed
      · exact filed.reregister family bound
  | tcpConnect h r stack address port =>
    show Filed (w.kept (w.tcpConnect h r stack address port))
    cases result : w.tcpConnect h r stack address port with
    | error e => exact filed
    | ok after =>
      rcases tcpConnect_cases filed result with rfl | ⟨s,t,remote,_,_,_,_,_,_,_,bound,family,_,rfl⟩
      · exact filed
      · exact (filed.reregister family bound).sessions _
  | udpConnect h stack address port =>
    show Filed (w.kept (w.udpConnect h stack address port))
    cases result : w.udpConnect h stack address port with
    | error e => exact filed
    | ok after =>
      rcases udpConnect_cases filed result with rfl | ⟨s,t,_,_,_,_,bound,family,rfl⟩
      · exact filed
      · exact filed.reregister family bound
  | udpSendto h stack port =>
    show Filed (w.kept (w.udpSendto h stack port))
    cases result : w.udpSendto h stack port with
    | error e => exact filed
    | ok after =>
      rcases udpSendto_cases filed result with rfl | ⟨s,t,_,_,_,_,bound,family,rfl⟩
      · exact filed
      · exact filed.reregister family bound
  | listen h r =>
    show Filed (w.listen h r)
    unfold World.listen
    split
    · next s found fresh =>
      obtain ⟨held,stream⟩ := ofType_some found
      have refreshed := filed.refresh (t := {s with tcpSession := some r}) held rfl
      have entered := refreshed.enter (s := {s with tcpSession := some r}) (Store.get_set_self w.sockets h _)
        (fun dgram => absurd (stream.symm.trans dgram) (by simp))
      exact entered.sessions _
    · exact filed
  | close h =>
    show Filed (w.close h)
    unfold World.close
    split
    · exact filed
    · split
      · exact filed.unregister h
      · exact filed
  | syn p child fresh admitted =>
    obtain ⟨looked,looks,same | ⟨parent,_,forked⟩⟩ := synArrives_cases w p child fresh admitted
    · show Filed (w.synArrives p child fresh admitted)
      rw [same]
      exact looks.filed filed
    · exact forked.filed (looks.filed filed)
  | segment id => exact filed.looked id
  | sessionCloses r =>
    show Filed (w.sessionCloses r)
    unfold World.sessionCloses
    split
    · exact filed
    · dsimp only
      split
      · exact filed
      · exact (filed.unregister _).sessions _

end PmdPytcp.Sockets
