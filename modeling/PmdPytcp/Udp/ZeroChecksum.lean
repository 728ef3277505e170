import PmdPytcp.Udp.Handler

namespace PmdPytcp.Udp
open InetCksum Buffer Sockets
open TcpHandler (IpAddress IpEnvelope)

variable {interface : Interface} {p : PacketRx} {w looked : World} {before : State} {h : Nat} {s : Socket}
  {ids : List SocketId} {stats : Stats}

-- A socket is a candidate when it is filed under one of the datagram's ids.
def Candidate (p : PacketRx) (w : World) (h : Nat) (s : Socket) : Prop :=
  ∃ id ∈ p.candidate.socketIds, h ∈ w.table.cohort id ∧ w.sockets.get h = some s

theorem socketIds_dgram (md : UdpMetadata) (id : SocketId) (member : id ∈ md.socketIds) : id.socketType = .dgram := by
  unfold UdpMetadata.socketIds at member
  dsimp only at member
  split at member
  · simp only [List.mem_cons,List.not_mem_nil,or_false] at member
    rcases member with rfl | rfl <;> rfl
  · split at member
    · simp only [List.mem_cons,List.not_mem_nil,or_false] at member
      rcases member with rfl | rfl <;> rfl
    · simp only [List.mem_cons,List.not_mem_nil,or_false] at member
      rcases member with rfl | rfl | rfl <;> rfl

theorem socketIds_port (md : UdpMetadata) (id : SocketId) (member : id ∈ md.socketIds) :
    id.localPort = md.localPort := by
  unfold UdpMetadata.socketIds at member
  dsimp only at member
  split at member
  · next dhcp =>
    simp only [List.mem_cons,List.not_mem_nil,or_false] at member
    rcases member with rfl | rfl <;> exact dhcp.2.1.symm
  · split at member
    · next dhcp =>
      simp only [List.mem_cons,List.not_mem_nil,or_false] at member
      rcases member with rfl | rfl <;> exact dhcp.2.1.symm
    · simp only [List.mem_cons,List.not_mem_nil,or_false] at member
      rcases member with rfl | rfl | rfl <;> rfl

-- The raw ports are the parsed ones, so both passes go through the same ids.
theorem metadata_ids (p : PacketRx) (payload : List UInt8) :
    (p.metadata ⟨wireHeader p.frame,payload⟩).socketIds = p.candidate.socketIds := rfl

-- The search stops at the first candidate it sees with the mark, and parses again.
structure Sought (w : World) (ids : List SocketId) : Prop where
  marked : ∃ id ∈ ids, ∃ h s, h ∈ w.table.cohort id ∧ w.sockets.get h = some s ∧ s.udpNoCheck6Rx = true

theorem retryZeroCksumIp6_cases (interface : Interface) (p : PacketRx) (ids : List SocketId) (w : World) :
    (∃ looked, Looked w looked ∧ retryZeroCksumIp6 interface p w ids = .ok (none,looked)) ∨
    Sought w ids ∧ ∃ looked, Looked w looked ∧ retryZeroCksumIp6 interface p w ids =
      match udpParser (p.context interface true) p.frame with
      | .error e => .error e
      | .ok packet => .ok (some packet,looked) := by
  induction ids generalizing w with
  | nil => exact .inl ⟨w,⟨rfl,rfl,fun _ => rfl⟩,rfl⟩
  | cons id rest ih =>
    have first := lookup_looked w id
    unfold retryZeroCksumIp6
    dsimp only
    split
    · rcases ih {w with table := (w.table.get id).2} with ⟨last,later,none⟩ | ⟨sought,last,later,same⟩
      · exact .inl ⟨last,first.trans later,none⟩
      · refine .inr ⟨?_,last,first.trans later,same⟩
        obtain ⟨key,member,h,s,inside,held,marked⟩ := sought.marked
        rw [first.cohorts] at inside
        exact ⟨key,List.mem_cons_of_mem _ member,h,s,inside,held,marked⟩
    · next s found =>
      refine .inr ⟨?_,_,first,rfl⟩
      obtain ⟨some_s,marked⟩ := Option.filter_eq_some_iff.mp found
      obtain ⟨h,got,held⟩ := Option.bind_eq_some_iff.mp some_s
      exact ⟨id,List.mem_cons_self,h,s,Cohorts.get_mem got,held,marked⟩

theorem matchSocket_ip6 (interface : Interface) (ip6 : p.ip.isIp6 = true) (stats : Stats) (ids : List SocketId) (w : World)
    (some_member : ∃ id ∈ ids, w.table.cohort id ≠ []) :
    ∃ h looked, Looked w looked ∧ matchSocket interface p w stats ids = (some h,looked,stats) ∧
      ∃ id ∈ ids, h ∈ w.table.cohort id := by
  induction ids generalizing w with
  | nil =>
    obtain ⟨id,member,_⟩ := some_member
    cases member
  | cons id rest ih =>
    have first := lookup_looked w id
    unfold matchSocket
    dsimp only
    cases got : (w.table.get id).1 with
    | none =>
      have vacant := Cohorts.get_none.mp got
      have later : ∃ key ∈ rest, (w.table.get id).2.cohort key ≠ [] := by
        obtain ⟨key,member,filled⟩ := some_member
        rcases List.mem_cons.mp member with rfl | member
        · exact absurd vacant filled
        · refine ⟨key,member,?_⟩
          rw [Cohorts.cohort_get]
          exact filled
      obtain ⟨h,last,looks,same,key,member,inside⟩ := ih {w with table := (w.table.get id).2} later
      rw [first.cohorts] at inside
      exact ⟨h,last,first.trans looks,same,key,List.mem_cons_of_mem _ member,inside⟩
    | some h =>
      have allowed : multicastSourceAllowed interface p h = true := by
        unfold multicastSourceAllowed
        rw [ip6]
        rfl
      refine ⟨h,_,first,?_,id,List.mem_cons_self,Cohorts.get_mem got⟩
      dsimp only
      rw [if_pos allowed]

-- Cursors of the registry and two counters are all that changes.
structure Discarded (before after : State) : Prop where
  looked : Looked before.world after.world
  queues : after.queues = before.queues
  sent : after.sent = before.sent
  stats :
    after.stats = {before.stats with preParse := before.stats.preParse + 1
                                     ip6ZeroCksumDrop := before.stats.ip6ZeroCksumDrop + 1} ∨
    after.stats = {before.stats with preParse := before.stats.preParse + 1
                                     failedParseDrop := before.stats.failedParseDrop + 1}

-- One candidate gets the datagram, and some candidate has opted in.
structure HandedOver (interface : Interface) (p : PacketRx) (before after : State) : Prop where
  optedIn : ∃ h s, Candidate p before.world h s ∧ s.udpNoCheck6Rx = true
  queues : ∃ h s, Candidate p before.world h s ∧ after.queues =
    processUdpPacket interface before.queues h (p.metadata ⟨wireHeader p.frame,slice p.frame 8 p.payloadLen⟩)
  looked : Looked before.world after.world
  sent : after.sent = before.sent
  stats : after.stats = {before.stats with preParse := before.stats.preParse + 1
                                           socketMatch := before.stats.socketMatch + 1}

theorem deliver_handedOver (filed : Filed before.world) (ip6 : p.ip.isIp6 = true)
    (sought : Sought before.world p.candidate.socketIds) (looks : Looked before.world looked)
    (counted : stats = {before.stats with preParse := before.stats.preParse + 1}) :
    HandedOver interface p before
      (deliver interface p ⟨wireHeader p.frame,slice p.frame 8 p.payloadLen⟩
        {before with world := looked,stats := stats}) := by
  obtain ⟨id,member,h,s,inside,held,marked⟩ := sought.marked
  have filled : ∃ id ∈ p.candidate.socketIds, looked.table.cohort id ≠ [] := by
    refine ⟨id,member,?_⟩
    rw [looks.cohorts]
    exact List.ne_nil_of_mem inside
  obtain ⟨taker,after,later,found,key,here,place⟩ :=
    matchSocket_ip6 interface ip6 stats p.candidate.socketIds looked filled
  rw [looks.cohorts] at place
  obtain ⟨t,got,_⟩ := filed.filed key taker place
  unfold deliver
  dsimp only
  rw [metadata_ids,found]
  exact ⟨⟨h,s,⟨id,member,inside,held⟩,marked⟩,⟨taker,t,⟨key,here,place,got⟩,rfl⟩,looks.trans later,rfl,
    by rw [counted]⟩

theorem Sought.dport (filed : Filed w) (sought : Sought w p.candidate.socketIds) : beNat (slice p.frame 2 4) ≠ 0 := by
  obtain ⟨id,member,h,_,inside,_⟩ := sought.marked
  have port := filed.registered id h inside (socketIds_dgram _ id member)
  rw [socketIds_port _ id member] at port
  exact port

theorem zeroCksum_handled (interface : Interface) (filed : Filed before.world) (ip6 : p.ip.isIp6 = true)
    (zero : beNat (slice p.frame 6 8) = 0) :
    ∃ after, phrxUdp interface p before = .ok after ∧ (Discarded before after ∨ HandedOver interface p before after) := by
  unfold phrxUdp
  dsimp only
  rcases validateIntegrity_lengths (p.context interface false) zero with unsummed | ⟨message,rejected⟩
  · have refused := validateIntegrity_unsummed (p.context interface false) unsummed
    rw [if_pos ⟨ip6,Bool.false_ne_true⟩] at refused
    rw [udpParser_rejected refused]
    dsimp only [udpZeroCksumIp6Error]
    rcases retryZeroCksumIp6_cases interface p p.candidate.socketIds before.world with
      ⟨looked,looks,none⟩ | ⟨sought,looked,looks,again⟩
    · rw [none]
      exact ⟨_,rfl,.inl ⟨looks,rfl,rfl,.inl rfl⟩⟩
    · -- the second parse passes: a registered datagram socket has a port
      have accepted := validateIntegrity_unsummed (p.context interface true) unsummed
      rw [if_neg (fun both => both.2 rfl)] at accepted
      rw [again,udpParser_unsummed (p.context interface true) unsummed accepted (sought.dport filed)]
      exact ⟨_,rfl,.inr (deliver_handedOver filed ip6 sought looks rfl)⟩
  · rw [udpParser_rejected rejected]
    exact ⟨_,rfl,.inl ⟨⟨rfl,rfl,fun _ => rfl⟩,rfl,rfl,.inr rfl⟩⟩

-- Whatever calls made the registry.
theorem zero_cksum_opt_in_by_port
    (reached : Runs.Reached (· = .start) World.next (fun _ _ => True) before.world) (ip6 : p.ip.isIp6 = true)
    (zero : beNat (slice p.frame 6 8) = 0) :
    ∃ after, phrxUdp interface p before = .ok after ∧
      (Discarded before after ∨ HandedOver interface p before after) ∧
      ((∀ h s, Candidate p before.world h s → s.udpNoCheck6Rx = false) → Discarded before after) := by
  have filed : Filed before.world := by
    refine reached.invariant Filed ?_ ?_
    · rintro w rfl
      exact start_filed
    · intro w event filed _
      exact next_filed w event filed
  obtain ⟨after,result,outcome⟩ := zeroCksum_handled interface filed ip6 zero
  refine ⟨after,result,outcome,?_⟩
  intro unmarked
  rcases outcome with discarded | handed
  · exact discarded
  · obtain ⟨h,s,candidate,marked⟩ := handed.optedIn
    rw [unmarked h s candidate] at marked
    cases marked

def host6 (last : UInt8) : Vector UInt8 16 :=
  .ofFn fun i => if i.1 = 0 then 0x20 else if i.1 = 1 then 0x01 else if i.1 = 15 then last else 0

def sourceOf : IpAddress → IpAddress
  | .ip4 _ => AddressFamily.inet4.wildcard
  | .ip6 _ => .ip6 (host6 1)

theorem sourceOf_family (remote : IpAddress) : familyOf (sourceOf remote) = familyOf remote := by
  cases remote <;> rfl

def stack6 : World.Stack where
  localUnicast := [.ip6 (host6 1)]
  pickLocalIpAddress := sourceOf
  offset := 0
  sameFamily := sourceOf_family

def bothBound : List World.Event :=
  [.socket 0 .dgram .inet6,.setReuse 0 true false true false,.bind 0 stack6 (some (.ip6 (host6 1))) 5000,
    .socket 1 .dgram .inet6,.setReuse 1 true false true true,
    .bind 1 stack6 (some AddressFamily.inet6.wildcard) 5000]

def atRest : State := ⟨Runs.run World.next .start bothBound,{},.empty,[]⟩

def plain : Interface where
  rxCksumValidate := true
  multicastSourceAdmits := fun _ _ _ => true
  closed := fun _ => false
  udpEchoNative := false
  suppression := fun _ => none

def unsummedDatagram : PacketRx where
  ip := .ip6 (host6 2) (host6 1)
  ip4Options := []
  dscp := 0
  ecn := 0
  payloadLen := 9
  pshdrSum := 0
  frame := [0x27,0x0F,0x13,0x88,0,9,0,0,42]
  packetBytes := []

theorem atRest_reached : Runs.Reached (· = .start) World.next (fun _ _ => True) atRest.world := by
  have first : Runs.Reached (· = .start) World.next (fun _ _ => True) World.start := .start _ rfl
  exact first.run bothBound ⟨trivial,trivial,trivial,trivial,trivial,trivial,trivial⟩

theorem zero_cksum_opt_in_atRest : ∃ after, phrxUdp plain unsummedDatagram atRest = .ok after ∧
      (Discarded atRest after ∨ HandedOver plain unsummedDatagram atRest after) ∧
      ((∀ h s, Candidate unsummedDatagram atRest.world h s → s.udpNoCheck6Rx = false) → Discarded atRest after) :=
  zero_cksum_opt_in_by_port atRest_reached rfl (by decide)

-- The datagram goes to the socket with the more specific address, which has not
-- opted in.
theorem delivered_without_opt_in : ¬∀ (interface : Interface) (p : PacketRx) (before after : State),
    Runs.Reached (· = .start) World.next (fun _ _ => True) before.world → p.ip.isIp6 = true →
    beNat (slice p.frame 6 8) = 0 → phrxUdp interface p before = .ok after →
    ∀ h, (after.queues.get h).getD [] ≠ (before.queues.get h).getD [] →
      ∃ s, before.world.sockets.get h = some s ∧ s.udpNoCheck6Rx = true := by
  intro claim
  have queued : ((phrxUdp plain unsummedDatagram atRest).toOption.bind fun after =>
      (after.queues.get 0).map List.length) = some 1 := by decide +kernel
  have unmarked : (atRest.world.sockets.get 0).map Socket.udpNoCheck6Rx = some false := by decide +kernel
  cases result : phrxUdp plain unsummedDatagram atRest with
  | error e =>
    rw [result] at queued
    cases queued
  | ok after =>
    rw [result] at queued
    change (after.queues.get 0).map List.length = some 1 at queued
    obtain ⟨queue,stored,one⟩ := Option.map_eq_some_iff.mp queued
    obtain ⟨s,held,marked⟩ := claim plain unsummedDatagram atRest after atRest_reached rfl (by decide) result 0 (by
      rw [stored]
      rintro rfl
      cases one)
    rw [held] at unmarked
    cases marked.symm.trans (Option.some.inj unmarked)

end PmdPytcp.Udp
