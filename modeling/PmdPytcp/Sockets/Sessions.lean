import PmdPytcp.Sockets.Registry

namespace PmdPytcp.Sockets
open TcpHandler (IpAddress)
open TcpParser (firstHost secondHost)

def Session.socketId (session : Session) : SocketId :=
  ⟨familyOf session.localIpAddress,.stream,session.localIpAddress,session.localPort,session.remoteIpAddress,
    session.remotePort⟩

-- A connection is its socket's session, and its socket is the sole member of the
-- cohort that the connection's segments are looked up under.
structure Placed (w : World) (r : Nat) (session : Session) (s : Socket) : Prop where
  held : w.sockets.get session.socket = some s
  opened : s.tcpSession = some r
  stream : s.socketType = .stream
  full : s.socketId.Full
  same : session.socketId = s.socketId
  sole : w.table.cohort s.socketId = [session.socket]

structure Owned (w : World) : Prop where
  placed : ∀ r session, w.sessions.get r = some session → session.phase = .connection → ∃ s, Placed w r session s
  bare : ∀ r session, w.sessions.get r = some session → session.phase = .listen → ¬session.socketId.Full

-- The session a socket has knows it as long as it lives, and a listening socket
-- leaves its remote end open.
structure Link (h : Nat) (s : Socket) (session : Session) : Prop where
  stream : s.socketType = .stream
  back : session.phase ≠ .closed → session.socket = h
  bare : session.phase = .listen → ¬s.socketId.Full

def Linked (w : World) : Prop :=
  ∀ h s r, w.sockets.get h = some s → s.tcpSession = some r →
    ∃ session, w.sessions.get r = some session ∧ Link h s session

def Idle (w : World) (s : Socket) : Prop :=
  ∀ r session, s.tcpSession = some r → w.sessions.get r = some session → session.phase ≠ .connection

-- A socket that carries a connection is not made to connect or listen again; a
-- bound port connects to a peer only when no other socket has that connection,
-- and listens only with its remote end open.
def Lawful (event : World.Event) (w : World) : Prop :=
  match event with
  | .tcpConnect h _ stack address port =>
    ∀ s, w.sockets.get h = some s → Idle w s ∧
      ∀ remote localIpAddress, World.parsed s address = .ok remote →
        World.localFor s stack remote = .ok localIpAddress → s.bound = true →
        ∀ other ∈ w.table.cohort ⟨s.addressFamily,.stream,localIpAddress,s.localPort,remote,port.toNat⟩, other = h
  | .listen h _ => ∀ s, w.sockets.get h = some s → Idle w s ∧ ¬s.socketId.Full
  | _ => True

variable {w after : World} {h r : Nat} {s t : Socket} {session : Session}

theorem Placed.kept (placed : Placed w r session s) (held : after.sockets.get session.socket = some s)
    (cohort : after.table.cohort s.socketId = w.table.cohort s.socketId) : Placed after r session s :=
  {placed with held := held,sole := cohort.trans placed.sole}

theorem Placed.moved (filed : Filed w) (placed : Placed w r session s) (other : session.socket ≠ h)
    (apart : s.socketId ≠ t.socketId) : Placed (w.reregister h t) r session s := by
  refine placed.kept ?_ ?_
  · rw [reregister_sockets,Store.get_set_other _ _ other,placed.held]
  · rw [filed.reregister_cohort,placed.sole,if_neg apart]
    simp [other]

theorem Placed.unregistered (filed : Filed w) (placed : Placed w r session s) (other : session.socket ≠ h) :
    Placed (w.unregister h) r session s := by
  refine placed.kept ?_ ?_
  · rw [unregister_sockets,placed.held]
  · rw [filed.unregister_cohort,placed.sole]
    simp [other]

theorem Placed.alone {r' : Nat} {other : Session} (placed : Placed w r session s) (placed' : Placed w r' other t)
    (same : other.socket = session.socket) : r' = r := by
  have held := placed'.held
  rw [same,placed.held] at held
  cases held
  have opened := placed'.opened
  rw [placed.opened] at opened
  cases opened
  rfl

theorem Placed.apart (placed : Placed w r session s) (found : w.sessions.get r = some session)
    (connection : session.phase = .connection) (idle : Idle w t) (held : w.sockets.get h = some t) :
    session.socket ≠ h := by
  rintro rfl
  have same := placed.held
  rw [held] at same
  cases same
  exact idle r session placed.opened found connection

theorem Owned.each (owned : Owned w) (sessions : after.sessions = w.sessions)
    (kept : ∀ r session s, w.sessions.get r = some session → session.phase = .connection → Placed w r session s →
      ∃ t, Placed after r session t) : Owned after where
  placed := by
    intro r session found connection
    rw [sessions] at found
    obtain ⟨s,placed⟩ := owned.placed r session found connection
    exact kept r session s found connection placed
  bare := by
    rw [sessions]
    exact owned.bare

theorem Looked.owned (looked : Looked w after) (owned : Owned w) : Owned after := by
  refine owned.each looked.sessions ?_
  intro r session s _ _ placed
  refine ⟨s,placed.kept ?_ (looked.cohorts _)⟩
  rw [looked.sockets]
  exact placed.held

theorem Owned.attach (owned : Owned w) (sockets : after.sockets = w.sockets) (table : after.table = w.table)
    (sessions : after.sessions = w.sessions.set r session)
    (placed : session.phase = .connection → ∃ s, Placed w r session s)
    (bare : session.phase = .listen → ¬session.socketId.Full) : Owned after := by
  have kept {r' : Nat} {other : Session} {u : Socket} (there : Placed w r' other u) : Placed after r' other u := by
    refine there.kept ?_ ?_
    · rw [sockets]
      exact there.held
    · rw [table]
  refine ⟨?_,?_⟩
  · intro r' other found connection
    rw [sessions,Store.get_set] at found
    split at found
    · next known =>
      cases found
      obtain ⟨u,there⟩ := placed connection
      rw [known]
      exact ⟨u,kept there⟩
    · obtain ⟨u,there⟩ := owned.placed r' other found connection
      exact ⟨u,kept there⟩
  · intro r' other found listening
    rw [sessions,Store.get_set] at found
    split at found
    · cases found
      exact bare listening
    · exact owned.bare r' other found listening

theorem Owned.refresh (owned : Owned w) (held : w.sockets.get h = some s) (id : t.socketId = s.socketId)
    (same : t.tcpSession = s.tcpSession) : Owned {w with sockets := w.sockets.set h t} := by
  refine owned.each rfl ?_
  intro r session u found connection placed
  by_cases known : session.socket = h
  · have there := placed.held
    rw [known,held] at there
    cases there
    refine ⟨t,?_,same.trans placed.opened,?_,?_,?_,?_⟩
    · rw [known]
      exact Store.get_set_self _ _ _
    · exact (congrArg SocketId.socketType id).trans placed.stream
    · rw [id]
      exact placed.full
    · rw [id]
      exact placed.same
    · rw [id]
      exact placed.sole
  · refine ⟨u,placed.kept ?_ rfl⟩
    rw [Store.get_set_other _ _ known,placed.held]

theorem Owned.create (owned : Owned w) (absent : w.sockets.get h = none) :
    Owned {w with sockets := w.sockets.set h t} := by
  refine owned.each rfl ?_
  intro r session u found connection placed
  refine ⟨u,placed.kept ?_ rfl⟩
  rw [Store.get_set_other,placed.held]
  intro known
  have there := placed.held
  rw [known,absent] at there
  cases there

theorem start_owned : Owned .start where
  placed := by intro r session found; cases found
  bare := by intro r session found; cases found

theorem start_linked : Linked .start := by
  intro h s r held
  cases held

theorem Owned.bind {localIpAddress : IpAddress} {localPort : Nat} (filed : Filed w) (owned : Owned w)
    (held : w.sockets.get h = some s) (unbound : s.bound = false) :
    Owned (w.reregister h {s with localIpAddress := localIpAddress,localPort := localPort}) := by
  have bare : ¬s.socketId.Full := by
    intro full
    have bound := filed.ports h s held full
    rw [unbound] at bound
    cases bound
  refine owned.each (reregister_sessions _ _ _) ?_
  intro r session u found connection placed
  refine ⟨u,placed.moved filed ?_ ?_⟩
  · rintro rfl
    have there := placed.held
    rw [held] at there
    cases there
    exact bare placed.full
  · intro same
    have full := placed.full
    rw [same] at full
    exact bare full

theorem Owned.udp (filed : Filed w) (owned : Owned w) (held : w.sockets.get h = some s)
    (dgram : s.socketType = .dgram) (type : t.socketType = .dgram) : Owned (w.reregister h t) := by
  refine owned.each (reregister_sessions _ _ _) ?_
  intro r session u found connection placed
  have stream := placed.stream
  refine ⟨u,placed.moved filed ?_ ?_⟩
  · rintro rfl
    have there := placed.held
    rw [held] at there
    cases there
    rw [stream] at dgram
    cases dgram
  · intro same
    have types : u.socketType = t.socketType := congrArg SocketId.socketType same
    rw [stream,type] at types
    cases types

theorem Owned.connect {remote : IpAddress} {port : Nat} (filed : Filed w) (owned : Owned w)
    (held : w.sockets.get h = some s) (idle : Idle w s)
    (stream : t.socketType = .stream) (family : familyOf t.localIpAddress = t.addressFamily)
    (far : t.remoteIpAddress = remote) (specified : isUnspecified remote = false) (farPort : t.remotePort = port)
    (opened : t.tcpSession = some r) (vacant : ∀ other ∈ w.table.cohort t.socketId, other = h) :
    Owned {w.reregister h t with
      sessions := (w.sessions.set r ⟨t.localIpAddress,t.localPort,remote,port,h,.connection⟩)} := by
  have moved : Owned (w.reregister h t) := by
    refine owned.each (reregister_sessions _ _ _) ?_
    intro r' session u found connection placed
    have other := placed.apart found connection idle held
    refine ⟨u,placed.moved filed other ?_⟩
    intro same
    have inside : session.socket ∈ w.table.cohort t.socketId := by
      rw [← same,placed.sole]
      exact List.mem_singleton_self _
    exact other (vacant _ inside)
  refine moved.attach rfl rfl (by rw [reregister_sessions]) ?_ (by intro listening; cases listening)
  intro _
  refine ⟨t,?_,opened,stream,.inl ?_,?_,?_⟩
  · rw [reregister_sockets]
    exact Store.get_set_self _ _ _
  · exact (congrArg isUnspecified far).trans specified
  · simp only [Session.socketId,Socket.socketId,family,stream,far,farPort]
  · rw [filed.reregister_cohort,if_pos rfl,List.filter_eq_nil_iff.mpr]
    · rfl
    · intro other inside
      simp [vacant other inside]

theorem Owned.listen (owned : Owned w) (held : w.sockets.get h = some s) (idle : Idle w s)
    (bare : ¬s.socketId.Full) :
    Owned {sockets := w.sockets.set h {s with tcpSession := some r}
           sessions := w.sessions.set r ⟨s.localIpAddress,s.localPort,s.remoteIpAddress,s.remotePort,h,.listen⟩
           table := w.table.register s.socketId h} := by
  have entered : Owned {w with sockets := w.sockets.set h {s with tcpSession := some r}
                               table := w.table.register s.socketId h} := by
    refine owned.each rfl ?_
    intro r' session u found connection placed
    refine ⟨u,placed.kept ?_ ?_⟩
    · rw [Store.get_set_other _ _ (placed.apart found connection idle held),placed.held]
    · dsimp only
      rw [Cohorts.cohort_register,if_neg]
      intro same
      have full := placed.full
      rw [same] at full
      exact bare full
  exact entered.attach rfl rfl rfl nofun fun _ full => bare full

theorem Owned.sessionCloses (filed : Filed w) (owned : Owned w) (r : Nat) : Owned (w.sessionCloses r) := by
  unfold World.sessionCloses
  split
  · exact owned
  next session found =>
  dsimp only
  split
  · exact owned
  next ends =>
  have current : ∀ s, w.sockets.get session.socket = some s → s.tcpSession = some r := by
    intro s held
    cases phase : session.phase with
    | closed => exact absurd (.inl phase) ends
    | connection =>
      obtain ⟨u,placed⟩ := owned.placed r session found phase
      rw [placed.held] at held
      cases held
      exact placed.opened
    | listen =>
      by_contra other
      refine ends (.inr ⟨phase,?_⟩)
      rw [held]
      exact other
  refine ⟨?_,?_⟩
  · intro r' other found' connection
    change (w.sessions.set r {session with phase := .closed}).get r' = some other at found'
    rw [Store.get_set] at found'
    split at found'
    · cases found'
      cases connection
    next differs =>
    obtain ⟨t,placed⟩ := owned.placed r' other found' connection
    have elsewhere : other.socket ≠ session.socket := by
      intro same
      have opened := current t (same ▸ placed.held)
      rw [placed.opened] at opened
      cases opened
      exact differs rfl
    have kept := placed.unregistered filed elsewhere
    exact ⟨t,kept.kept kept.held rfl⟩
  · intro r' other found' listening
    change (w.sessions.set r {session with phase := .closed}).get r' = some other at found'
    rw [Store.get_set] at found'
    split at found'
    · cases found'
      cases listening
    · exact owned.bare r' other found' listening

theorem syn_full (p : World.Syn) : p.socketId.Full :=
  .inr (Nat.pos_iff_ne_zero.mp p.sportRange.1)

theorem Forked.owner {p : World.Syn} {parent child fresh : Nat} (forked : Forked w p parent child fresh after)
    (linked : Linked w) : ∃ s r session, w.sockets.get parent = some s ∧ s.tcpSession = some r ∧
      w.sessions.get r = some session ∧ session.socket = parent ∧ session.phase = .listen ∧ s.socketType = .stream ∧
      ¬s.socketId.Full ∧ w.sockets.get child = none ∧ w.sessions.get fresh = none ∧
      after.sockets = (w.sockets.set parent {s with tcpSession := some fresh}).set child (p.accepted s r) ∧
      after.sessions = (w.sessions.set fresh session).set r ⟨p.dst,p.dport,p.src,p.sport,child,.connection⟩ ∧
      after.table = w.table.register p.socketId child := by
  obtain ⟨u,s,r,session,found,opened,stored,held,listening,newSocket,newSession,sockets,sessions,table⟩ := forked.made
  obtain ⟨again,here,link⟩ := linked parent u r found opened
  rw [stored] at here
  cases here
  have live : session.phase ≠ .closed := by simp [listening]
  have owner := link.back live
  rw [owner,found] at held
  cases held
  rw [owner] at sockets
  exact ⟨u,r,session,found,opened,stored,owner,listening,link.stream,link.bare listening,newSocket,newSession,
    sockets,sessions,table⟩

-- The parent listens, so it was not found under the SYN's own four-tuple, and
-- the child is the first to be filed there.
theorem Forked.owned {p : World.Syn} {parent child fresh : Nat} (forked : Forked w p parent child fresh after)
    (filed : Filed w) (owned : Owned w) (linked : Linked w)
    (looked : parent ∈ w.table.cohort p.socketId ∨ w.table.cohort p.socketId = []) : Owned after := by
  obtain ⟨s,r,session,held,opened,found,owner,listening,stream,bare,newSocket,newSession,sockets,sessions,table⟩ :=
    forked.owner linked
  have vacant : w.table.cohort p.socketId = [] := by
    rcases looked with inside | vacant
    · obtain ⟨u,again,same⟩ := filed.filed _ _ inside
      rw [held] at again
      cases again
      rw [same] at bare
      exact absurd (syn_full p) bare
    · exact vacant
  have cohort (id : SocketId) : after.table.cohort id = if id = p.socketId then [child] else w.table.cohort id := by
    rw [table,Cohorts.cohort_register,vacant]
    simp
  refine ⟨?_,?_⟩
  · intro r' other found' connection
    rw [sessions,Store.get_set,Store.get_set] at found'
    split at found'
    · next known =>
      cases found'
      rw [known]
      refine ⟨p.accepted s r,?_,rfl,rfl,syn_full p,rfl,?_⟩
      · rw [sockets]
        exact Store.get_set_self _ _ _
      · exact (cohort _).trans (if_pos rfl)
    next notOld =>
    split at found'
    · cases found'
      rw [listening] at connection
      cases connection
    obtain ⟨u,placed⟩ := owned.placed r' other found' connection
    have there := placed.held
    have notParent : other.socket ≠ parent := by
      intro same
      rw [same,held] at there
      cases there
      have points := placed.opened
      rw [opened] at points
      cases points
      exact notOld rfl
    have notChild : other.socket ≠ child := by
      intro same
      rw [same,newSocket] at there
      cases there
    refine ⟨u,placed.kept ?_ ?_⟩
    · rw [sockets,Store.get_set_other _ _ notChild,Store.get_set_other _ _ notParent,placed.held]
    · rw [cohort,if_neg]
      intro same
      have sole := placed.sole
      rw [same,vacant] at sole
      cases sole
  · intro r' other found' listens
    rw [sessions,Store.get_set,Store.get_set] at found'
    split at found'
    · cases found'
      cases listens
    split at found'
    · cases found'
      exact owned.bare r session found listens
    · exact owned.bare r' other found' listens

theorem Linked.refresh (linked : Linked w) (held : w.sockets.get h = some s) (same : t.tcpSession = s.tcpSession)
    (type : t.socketType = s.socketType)
    (bare : s.socketType = .stream → ¬s.socketId.Full → ¬t.socketId.Full) (sockets : after.sockets = w.sockets.set h t)
    (sessions : after.sessions = w.sessions) : Linked after := by
  intro k u r found opened
  rw [sockets,Store.get_set] at found
  rw [sessions]
  split at found
  · next known =>
    cases found
    obtain ⟨session,stored,link⟩ := linked h s r held (same ▸ opened)
    refine ⟨session,stored,type.trans link.stream,?_,?_⟩
    · rw [known]
      exact link.back
    · intro listening
      exact bare link.stream (link.bare listening)
  · obtain ⟨session,stored,link⟩ := linked k u r found opened
    exact ⟨session,stored,link.stream,link.back,link.bare⟩

theorem Linked.datagram (linked : Linked w) (held : w.sockets.get h = some s) (dgram : s.socketType = .dgram)
    (same : t.tcpSession = s.tcpSession) (type : t.socketType = s.socketType)
    (sockets : after.sockets = w.sockets.set h t) (sessions : after.sessions = w.sessions) : Linked after := by
  refine linked.refresh held same type ?_ sockets sessions
  intro stream
  rw [dgram] at stream
  cases stream

theorem Linked.attach (linked : Linked w) (fresh : w.sessions.get r = none)
    (opened : t.tcpSession = some r) (type : t.socketType = .stream) (owner : session.socket = h)
    (bare : session.phase = .listen → ¬t.socketId.Full) (sockets : after.sockets = w.sockets.set h t)
    (sessions : after.sessions = w.sessions.set r session) : Linked after := by
  intro k u r' found pointing
  rw [sockets,Store.get_set] at found
  rw [sessions,Store.get_set]
  split at found
  · next known =>
    cases found
    rw [opened] at pointing
    cases pointing
    exact ⟨session,if_pos rfl,type,fun _ => owner.trans known.symm,bare⟩
  · obtain ⟨old,stored,link⟩ := linked k u r' found pointing
    refine ⟨old,?_,link.stream,link.back,link.bare⟩
    rw [if_neg,stored]
    rintro rfl
    rw [fresh] at stored
    cases stored

theorem Linked.create (linked : Linked w) (fresh : t.tcpSession = none)
    (sockets : after.sockets = w.sockets.set h t) (sessions : after.sessions = w.sessions) : Linked after := by
  intro k u r found opened
  rw [sockets,Store.get_set] at found
  rw [sessions]
  split at found
  · cases found
    rw [fresh] at opened
    cases opened
  · obtain ⟨session,stored,link⟩ := linked k u r found opened
    exact ⟨session,stored,link.stream,link.back,link.bare⟩

theorem Linked.same (linked : Linked w) (sockets : after.sockets = w.sockets)
    (sessions : after.sessions = w.sessions) : Linked after := by
  intro k u r found opened
  rw [sockets] at found
  rw [sessions]
  obtain ⟨session,stored,link⟩ := linked k u r found opened
  exact ⟨session,stored,link.stream,link.back,link.bare⟩

theorem Forked.linked {p : World.Syn} {parent child fresh : Nat} (forked : Forked w p parent child fresh after)
    (linked : Linked w) : Linked after := by
  obtain ⟨s,r,session,held,opened,found,owner,listening,stream,bare,newSocket,newSession,sockets,sessions,_⟩ :=
    forked.owner linked
  have differs : fresh ≠ r := by
    rintro rfl
    rw [found] at newSession
    cases newSession
  intro k u r' here pointing
  rw [sockets,Store.get_set,Store.get_set] at here
  rw [sessions,Store.get_set,Store.get_set]
  split at here
  · next known =>
    cases here
    cases pointing
    exact ⟨_,if_pos rfl,rfl,fun _ => known.symm,by intro listens; cases listens⟩
  · split at here
    · next known =>
      cases here
      cases pointing
      refine ⟨session,?_,stream,fun _ => owner.trans known.symm,fun _ => bare⟩
      rw [if_neg differs,if_pos rfl]
    · next notParent =>
      obtain ⟨old,stored,link⟩ := linked k u r' here pointing
      refine ⟨old,?_,link.stream,link.back,link.bare⟩
      rw [if_neg,if_neg,stored]
      · rintro rfl
        rw [newSession] at stored
        cases stored
      · rintro rfl
        -- two sockets would share the listening session
        rw [found] at stored
        cases stored
        have live : session.phase ≠ .closed := by simp [listening]
        exact notParent ((link.back live).symm.trans owner)

theorem Linked.sessionCloses (linked : Linked w) (r : Nat) : Linked (w.sessionCloses r) := by
  unfold World.sessionCloses
  split
  · exact linked
  next session found =>
  dsimp only
  split
  · exact linked
  intro h s r' held opened
  change (w.unregister session.socket).sockets.get h = some s at held
  rw [unregister_sockets] at held
  obtain ⟨old,stored,link⟩ := linked h s r' held opened
  change ∃ now, (w.sessions.set r {session with phase := .closed}).get r' = some now ∧ _
  rw [Store.get_set]
  split
  · exact ⟨_,rfl,link.stream,fun live => absurd rfl live,by intro listens; cases listens⟩
  · exact ⟨old,stored,link.stream,link.back,link.bare⟩

theorem next_linked (w : World) (event : World.Event) (filed : Filed w) (linked : Linked w)
    (lawful : Lawful event w) : Linked (w.next event) := by
  cases event with
  | socket h socketType addressFamily =>
    show Linked (w.socket h socketType addressFamily)
    unfold World.socket
    cases found : w.sockets.get h with
    | some _ => exact linked
    | none => exact linked.create rfl rfl rfl
  | setReuse h one two three four =>
    simp only [World.next]
    cases found : w.sockets.get h with
    | none => exact linked
    | some s => exact linked.refresh (t := {s with soReuseaddr := one,soReuseport := two,ipv6V6only := three
                                                   udpNoCheck6Rx := four}) found rfl rfl (fun _ => id) rfl rfl
  | bind h stack address port =>
    show Linked (w.kept (w.bind h stack address port))
    cases result : w.bind h stack address port with
    | error e => exact linked
    | ok after =>
      rcases bind_cases result with rfl | ⟨s,t,held,_,rfl,_,_,localIpAddress,localPort,rfl⟩
      · exact linked
      · exact linked.refresh (t := {s with localIpAddress := localIpAddress,localPort := localPort}) held rfl rfl
          (fun _ => id) (reregister_sockets _ _ _) (reregister_sessions _ _ _)
  | tcpConnect h r stack address port =>
    show Linked (w.kept (w.tcpConnect h r stack address port))
    cases result : w.tcpConnect h r stack address port with
    | error e => exact linked
    | ok after =>
      rcases tcpConnect_cases filed result with rfl | ⟨s,t,remote,_,stream,fresh,_,_,_,_,_,_,shape,rfl⟩
      · exact linked
      · refine linked.attach (h := h) (t := t) fresh ?_ ?_ rfl (by intro listens; cases listens)
          (reregister_sockets _ _ _) rfl
        · rw [shape]
        · rw [shape]
          exact stream
  | udpConnect h stack address port =>
    show Linked (w.kept (w.udpConnect h stack address port))
    cases result : w.udpConnect h stack address port with
    | error e => exact linked
    | ok after =>
      rcases udpConnect_cases filed result with rfl | ⟨s,t,held,dgram,type,same,_,_,rfl⟩
      · exact linked
      · exact linked.datagram (t := t) held dgram same (type.trans dgram.symm) (reregister_sockets _ _ _)
          (reregister_sessions _ _ _)
  | udpSendto h stack port =>
    show Linked (w.kept (w.udpSendto h stack port))
    cases result : w.udpSendto h stack port with
    | error e => exact linked
    | ok after =>
      rcases udpSendto_cases filed result with rfl | ⟨s,t,held,dgram,type,same,_,_,rfl⟩
      · exact linked
      · exact linked.datagram (t := t) held dgram same (type.trans dgram.symm) (reregister_sockets _ _ _)
          (reregister_sessions _ _ _)
  | listen h r =>
    show Linked (w.listen h r)
    unfold World.listen
    split
    · next s found fresh =>
      obtain ⟨held,stream⟩ := ofType_some found
      obtain ⟨_,bare⟩ := lawful s held
      exact linked.attach (h := h) (t := {s with tcpSession := some r}) fresh rfl stream rfl (fun _ => bare) rfl rfl
    · exact linked
  | close h =>
    show Linked (w.close h)
    unfold World.close
    split
    · exact linked
    · split
      · exact linked.same (unregister_sockets w h) (unregister_sessions w h)
      · exact linked
  | syn p child fresh admitted =>
    obtain ⟨looked,looks,same | ⟨parent,_,forked⟩⟩ := synArrives_cases w p child fresh admitted
    · show Linked (w.synArrives p child fresh admitted)
      rw [same]
      exact linked.same looks.sockets looks.sessions
    · exact forked.linked (linked.same looks.sockets looks.sessions)
  | segment id => exact linked.same rfl rfl
  | sessionCloses r => exact linked.sessionCloses r

-- A call that fails leaves everything as it was.
theorem Owned.kept {result : Except World.SocketError World} (owned : Owned w)
    (succeeds : ∀ after, result = .ok after → Owned after) : Owned (w.kept result) := by
  cases found : result with
  | error e => exact owned
  | ok after => exact succeeds after found

theorem Owned.tcpConnects (owned : Owned w) (filed : Filed w) (lawful : Lawful (.tcpConnect h r stack address port) w)
    (result : w.tcpConnect h r stack address port = .ok after) : Owned after := by
  rcases tcpConnect_cases filed result with rfl |
    ⟨s,t,remote,held,stream,fresh,parsed,specified,source,chosen,bound,family,shape,rfl⟩
  · exact owned
  obtain ⟨idle,clear⟩ := lawful s held
  have id : t.socketId = ⟨s.addressFamily,.stream,t.localIpAddress,t.localPort,remote,port.toNat⟩ := by
    rw [shape,← stream]
    rfl
  refine owned.connect (t := t) filed held idle ?_ family ?_ specified ?_ ?_ ?_
  · rw [shape]
    exact stream
  · rw [shape]
  · rw [shape]
  · rw [shape]
  · intro other inside
    rcases chosen with ⟨old,same⟩ | free
    · rw [id,same] at inside
      exact clear remote t.localIpAddress parsed source old other inside
    · rw [filed.unused t.socketId free] at inside
      cases inside

theorem Owned.closes (owned : Owned w) (filed : Filed w) (h : Nat) : Owned (w.close h) := by
  unfold World.close
  split
  · exact owned
  next s held =>
  split
  · next none =>
    refine owned.each (unregister_sessions w h) ?_
    intro r session u found connection placed
    refine ⟨u,placed.unregistered filed ?_⟩
    rintro rfl
    have there := placed.held
    rw [held] at there
    cases there
    have opened := placed.opened
    rw [none] at opened
    cases opened
  · exact owned

theorem next_owned (w : World) (event : World.Event) (filed : Filed w) (linked : Linked w) (owned : Owned w)
    (lawful : Lawful event w) : Owned (w.next event) := by
  cases event with
  | socket h socketType addressFamily =>
    show Owned (w.socket h socketType addressFamily)
    unfold World.socket
    cases found : w.sockets.get h with
    | some _ => exact owned
    | none => exact owned.create found
  | setReuse h one two three four =>
    simp only [World.next]
    cases found : w.sockets.get h with
    | none => exact owned
    | some s => exact owned.refresh found rfl rfl
  | bind h stack address port =>
    refine owned.kept ?_
    intro after result
    rcases bind_cases result with rfl | ⟨s,t,held,unbound,rfl,_,_,_,_,rfl⟩
    · exact owned
    · exact owned.bind filed held unbound
  | tcpConnect h r stack address port => exact owned.kept fun after result => owned.tcpConnects filed lawful result
  | udpConnect h stack address port =>
    refine owned.kept ?_
    intro after result
    rcases udpConnect_cases filed result with rfl | ⟨s,t,held,dgram,type,_,_,_,rfl⟩
    · exact owned
    · exact owned.udp filed held dgram type
  | udpSendto h stack port =>
    refine owned.kept ?_
    intro after result
    rcases udpSendto_cases filed result with rfl | ⟨s,t,held,dgram,type,_,_,_,rfl⟩
    · exact owned
    · exact owned.udp filed held dgram type
  | listen h r =>
    show Owned (w.listen h r)
    unfold World.listen
    split
    · next s found fresh =>
      obtain ⟨held,_⟩ := ofType_some found
      obtain ⟨idle,bare⟩ := lawful s held
      exact owned.listen held idle bare
    · exact owned
  | close h => exact owned.closes filed h
  | syn p child fresh admitted =>
    obtain ⟨looked,looks,same | ⟨parent,place,forked⟩⟩ := synArrives_cases w p child fresh admitted
    · show Owned (w.synArrives p child fresh admitted)
      rw [same]
      exact looks.owned owned
    · refine forked.owned (looks.filed filed) (looks.owned owned) (linked.same looks.sockets looks.sessions) ?_
      rw [looks.cohorts]
      exact place
  | segment id => exact (lookup_looked w id).owned owned
  | sessionCloses r => exact owned.sessionCloses filed r

-- A four-tuple has one live session, and its connection gets every segment.
structure Unambiguous (w : World) : Prop where
  one : ∀ r r' session other, w.sessions.get r = some session → w.sessions.get r' = some other →
    session.phase ≠ .closed → other.phase ≠ .closed → session.socketId.Full →
    other.socketId = session.socketId → r' = r
  reaches : ∀ r session, w.sessions.get r = some session → session.phase = .connection →
    w.receiver session.socketId = some r

theorem Owned.connection (owned : Owned w) (found : w.sessions.get r = some session) (live : session.phase ≠ .closed)
    (full : session.socketId.Full) : session.phase = .connection := by
  cases phase : session.phase with
  | closed => exact absurd phase live
  | listen => exact absurd full (owned.bare r session found phase)
  | connection => rfl

theorem Owned.unambiguous (owned : Owned w) : Unambiguous w where
  one := by
    intro r r' session other found found' live live' full same
    obtain ⟨s,placed⟩ := owned.placed r session found (owned.connection found live full)
    obtain ⟨t,placed'⟩ := owned.placed r' other found' (owned.connection found' live' (same ▸ full))
    refine placed.alone placed' ?_
    have sole := placed'.sole
    rw [← placed'.same,same,placed.same,placed.sole] at sole
    exact (List.cons.inj sole).1.symm
  reaches := by
    intro r session found connection
    obtain ⟨s,placed⟩ := owned.placed r session found connection
    unfold World.receiver
    rw [placed.same,Cohorts.get_single placed.sole]
    change (w.sockets.get session.socket).bind Socket.tcpSession = some r
    rw [placed.held]
    exact placed.opened

theorem reached_owned (reached : Runs.Reached (· = .start) World.next Lawful w) : Filed w ∧ Linked w ∧ Owned w := by
  refine reached.invariant (fun w => Filed w ∧ Linked w ∧ Owned w) ?_ ?_
  · rintro w rfl
    exact ⟨start_filed,start_linked,start_owned⟩
  · intro w event before lawful
    obtain ⟨filed,linked,owned⟩ := before
    exact ⟨next_filed w event filed,next_linked w event filed linked lawful,
      next_owned w event filed linked owned lawful⟩

def soleAddress : IpAddress → IpAddress
  | .ip4 _ => .ip4 firstHost
  | .ip6 _ => AddressFamily.inet6.wildcard

theorem soleAddress_family (remote : IpAddress) : familyOf (soleAddress remote) = familyOf remote := by
  cases remote <;> rfl

def soleStack : World.Stack where
  localUnicast := [.ip4 firstHost]
  pickLocalIpAddress := soleAddress
  offset := 0
  sameFamily := soleAddress_family

theorem connections_unambiguous (reached : Runs.Reached (· = .start) World.next Lawful w) : Unambiguous w := by
  obtain ⟨_,_,owned⟩ := reached_owned reached
  exact owned.unambiguous

-- A listener's child and a second socket on its port, connected elsewhere.
def serving : List World.Event :=
  [.socket 0 .stream .inet4,.setReuse 0 true false true false,.bind 0 soleStack (some (.ip4 firstHost)) 5000,
    .listen 0 0,.syn ⟨.ip4 firstHost,5000,.ip4 secondHost,80,rfl,by decide,by decide⟩ 1 1 true,
    .socket 2 .stream .inet4,.setReuse 2 true false true false,.bind 2 soleStack (some (.ip4 firstHost)) 5000,
    .tcpConnect 2 2 soleStack (some (.ip4 secondHost)) 443]

theorem connections_unambiguous_serving : Unambiguous (Runs.run World.next .start serving) ∧
    (Runs.run World.next .start serving).receiver ⟨.inet4,.stream,.ip4 firstHost,5000,.ip4 secondHost,80⟩ = some 0 ∧
    (Runs.run World.next .start serving).receiver ⟨.inet4,.stream,.ip4 firstHost,5000,.ip4 secondHost,443⟩ = some 2 := by
  refine ⟨?_,by decide +kernel,by decide +kernel⟩
  have first : Runs.Reached (· = .start) World.next Lawful .start := .start _ rfl
  apply connections_unambiguous
  refine first.run serving ?_
  refine ⟨trivial,trivial,trivial,?_,trivial,trivial,trivial,trivial,?_,trivial⟩
  · intro s held
    cases held
    refine ⟨?_,by decide⟩
    intro r session opened
    cases opened
  · intro s held
    cases held
    refine ⟨?_,?_⟩
    · intro r session opened
      cases opened
    · intro remote localIpAddress parsed source _
      cases parsed
      cases source
      intro other inside
      cases inside

-- Two sockets share a port by SO_REUSEADDR and connect to one peer.
def shared : List World.Event :=
  [.socket 0 .stream .inet4,.socket 1 .stream .inet4,
    .setReuse 0 true false true false,.setReuse 1 true false true false,
    .bind 0 soleStack (some (.ip4 firstHost)) 5000,.bind 1 soleStack (some (.ip4 firstHost)) 5000,
    .tcpConnect 0 0 soleStack (some (.ip4 secondHost)) 80,.tcpConnect 1 1 soleStack (some (.ip4 secondHost)) 80]

def sharedId : SocketId := ⟨.inet4,.stream,.ip4 firstHost,5000,.ip4 secondHost,80⟩

-- Segments of the first connection go to both sessions in turn.
theorem shared_port_alternates :
    (Runs.run World.next .start shared).receiver sharedId = some 0 ∧
    (Runs.run World.next .start (shared ++ [.segment sharedId])).receiver sharedId = some 1 ∧
    ¬∀ events, Unambiguous (Runs.run World.next .start events) := by
  refine ⟨by decide +kernel,by decide +kernel,?_⟩
  intro all
  have both := (all shared).one 0 1 ⟨.ip4 firstHost,5000,.ip4 secondHost,80,0,.connection⟩
    ⟨.ip4 firstHost,5000,.ip4 secondHost,80,1,.connection⟩
  have same := both (by decide +kernel) (by decide +kernel) (by decide) (by decide) (by decide +kernel) rfl
  cases same

end PmdPytcp.Sockets
