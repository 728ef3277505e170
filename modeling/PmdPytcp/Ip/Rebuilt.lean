import PmdPytcp.Ip.Defrag

namespace PmdPytcp.Ip
open InetCksum Buffer Tiles Runs

-- A record opened under a good header whose chunks end within the limit,
-- the header counted in.
structure Sized (good : List UInt8 → Prop) (limit : Nat) (data : IpFragData) : Prop where
  apart : data.Apart
  header : good data.header
  short : ∀ p : Piece UInt8, data.payload.get p.1 = some p.2 → data.header.length + stop p ≤ limit

def TableSized (good : List UInt8 → Prop) (limit : Nat) (table : IpFragTable) : Prop :=
  ∀ flowId data, table.flows.get flowId = some data → data.discarded = false → Sized good limit data

def IpFragTable.found (now : Int) (f : Fragment) (table : IpFragTable) : Option IpFragData :=
  (table.sweepExpired now).flows.get f.flowId

def IpFragTable.Opens (now : Int) (f : Fragment) (table : IpFragTable) : Prop :=
  table.found now f = none ∧ (table.sweepExpired now).flows.size < ipFragMaxFlows

instance (now : Int) (f : Fragment) (table : IpFragTable) : Decidable (table.Opens now f) :=
  inferInstanceAs (Decidable (_ ∧ _))

-- It ends within the limit under the header it is kept with.
def Roomy (limit : Nat) (now : Int) (f : Fragment) (table : IpFragTable) : Prop :=
  (∀ data ∈ table.found now f, data.discarded = false → data.overlaps f = false →
    data.header.length + f.stop ≤ limit) ∧
  (table.Opens now f → f.header.length + f.stop ≤ limit)

instance (limit : Nat) (now : Int) (f : Fragment) (table : IpFragTable) : Decidable (Roomy limit now f table) :=
  inferInstanceAs (Decidable (_ ∧ _))

section Table
variable {good : List UInt8 → Prop} {limit : Nat} {now : Int} {f : Fragment} {table : IpFragTable}

theorem taken_header (now : Int) (f : Fragment) (data : IpFragData) :
    (taken now f (some data)).header = data.header ∧
      (taken now f (some data)).payload = data.payload.set f.offset f.payload := by
  simp only [taken]
  split
  · exact ⟨rfl,rfl⟩
  · exact ⟨rfl,rfl⟩

theorem Sized.taken (sized : Sized good limit data) (clear : data.overlaps f = false)
    (room : data.header.length + f.stop ≤ limit) : Sized good limit (taken now f (some data)) := by
  obtain ⟨header,payload⟩ := taken_header now f data
  refine ⟨taken_apart now ?_,header ▸ sized.header,?_⟩
  · intro other same
    cases same
    exact ⟨sized.apart,clear⟩
  · intro p stored
    rw [payload,Store.get_set] at stored
    rw [header]
    split at stored
    · next here =>
      have chunk := Option.some.inj stored
      simp only [stop,Fragment.stop,here,← chunk] at room ⊢
      exact room
    · exact sized.short p stored

theorem sized_opened (fine : good f.header) (room : f.header.length + f.stop ≤ limit) :
    Sized good limit (taken now f none) := by
  have fields : (Ip.taken now f none).header = f.header ∧
      (Ip.taken now f none).payload = Store.empty.set f.offset f.payload := by
    simp only [Ip.taken]
    split
    · exact ⟨rfl,rfl⟩
    · exact ⟨rfl,rfl⟩
  obtain ⟨header,payload⟩ := fields
  refine ⟨taken_apart now (fun _ held => by cases held),header ▸ fine,?_⟩
  intro p stored
  rw [payload,Store.get_set] at stored
  rw [header]
  split at stored
  · next here =>
    have chunk := Option.some.inj stored
    simp only [stop,Fragment.stop,here,← chunk] at room ⊢
    exact room
  · exact absurd stored (by simp [Store.get,Store.empty,Dict.get])

theorem sweep_sized (sized : TableSized good limit table) : TableSized good limit (table.sweepExpired now) := by
  intro flowId data found live
  rw [IpFragTable.get_sweep] at found
  exact sized flowId data (Option.filter_eq_some_iff.mp found).1 live

theorem set_sized (sized : TableSized good limit table)
    (new : data.discarded = false → Sized good limit data) :
    TableSized good limit {table with flows := table.flows.set flowId data} := by
  intro other record found live
  rw [Store.get_set] at found
  split at found
  · cases found
    exact new live
  · exact sized other record found live

theorem erase_sized (sized : TableSized good limit table) :
    TableSized good limit {table with flows := table.flows.erase flowId} := by
  intro other record found live
  by_cases same : other = flowId
  · rw [same,Store.get_erase_self] at found
    cases found
  · rw [Store.get_erase_other _ same] at found
    exact sized other record found live

theorem assemble_sized (sized : TableSized good limit table) (record : Sized good limit data) :
    TableSized good limit (table.assemble flowId data).2 := by
  have outcome := table.assemble_cases flowId record.apart
  generalize table.assemble flowId data = added at outcome
  have stored := @set_sized _ _ _ _ flowId sized fun _ => record
  cases outcome with
  | pending => exact stored
  | mixed => exact erase_sized stored
  | complete => exact erase_sized stored

theorem joined_within (sized : Sized good limit data) (tiled : Tiled 0 data.sorted) (held : data.payload.get i = some chunk) :
    data.header.length + (joined data.sorted).length ≤ limit := by
  have member := IpFragData.mem_sorted (p := (i,chunk)).mpr held
  obtain ⟨p,top⟩ : ∃ p, data.sorted.getLast? = some p :=
    Option.isSome_iff_exists.mp (by simpa using List.ne_nil_of_mem member)
  have ends := tiled.stop_last top
  have inside := sized.short p (IpFragData.mem_sorted.mp (List.mem_of_getLast? top))
  omega

theorem addFragment_sized (sized : TableSized good limit table) (roomy : Roomy limit now f table)
    (opener : table.Opens now f → good f.header) : TableSized good limit (table.addFragment now f).2 := by
  have swept := @sweep_sized _ _ now _ sized
  have outcome := table.addFragment_cases now f
  generalize table.addFragment now f = added at outcome
  cases outcome with
  | atomic => exact sized
  | dropped => exact swept
  | refused => exact swept
  | overlap _ _ live =>
    refine set_sized swept ?_
    intro alive
    cases alive
  | into _ found live clear =>
    exact assemble_sized swept ((swept _ _ found live).taken clear (roomy.1 _ found live clear))
  | opens _ absent room =>
    exact assemble_sized swept (sized_opened (opener ⟨absent,room⟩) (roomy.2 ⟨absent,room⟩))

-- A completed call: in isolation, or out of a record that it found.
inductive Completed (good : List UInt8 → Prop) (limit : Nat) (now : Int) (f : Fragment) (table : IpFragTable) :
    IpFragAddResult → Prop where
  | atomic (whole : f.Atomic) : Completed good limit now f table ⟨.complete,f.header,f.payload,f.ecn⟩
  | joined (found : table.found now f = some data) (live : data.discarded = false) (clear : data.overlaps f = false)
      (fine : good data.header) (last : (taken now f (some data)).last = true)
      (len : payloadLen 0 (taken now f (some data)).sorted = some (joined (taken now f (some data)).sorted).length)
      (ecn : aggregateEcn (taken now f (some data)).ecn.values = some e)
      (short : data.header.length + (joined (taken now f (some data)).sorted).length ≤ limit) :
      Completed good limit now f table ⟨.complete,data.header,joined (taken now f (some data)).sorted,e⟩

theorem addFragment_answers (sized : TableSized good limit table) (roomy : Roomy limit now f table)
    (opener : table.Opens now f → good f.header) :
    ∃ answer, (table.addFragment now f).1 = .ok answer ∧
      (answer.outcome = .complete → Completed good limit now f table answer) := by
  have swept := @sweep_sized _ _ now _ sized
  have outcome := table.addFragment_cases now f
  generalize table.addFragment now f = added at outcome
  cases outcome with
  | atomic whole => exact ⟨_,rfl,fun _ => .atomic whole⟩
  | dropped => exact ⟨_,rfl,fun complete => by cases complete⟩
  | refused => exact ⟨_,rfl,fun complete => by cases complete⟩
  | overlap => exact ⟨_,rfl,fun complete => by cases complete⟩
  | @into data _ found live clear =>
    have record := @Sized.taken _ _ now _ _ (swept _ _ found live) clear (roomy.1 _ found live clear)
    obtain ⟨header,payload⟩ := taken_header now f data
    have joins := (table.sweepExpired now).assemble_cases f.flowId record.apart
    generalize (table.sweepExpired now).assemble f.flowId (taken now f (some data)) = assembled at joins
    cases joins with
    | pending => exact ⟨_,rfl,fun complete => by cases complete⟩
    | mixed => exact ⟨_,rfl,fun complete => by cases complete⟩
    | complete last tiled ecn =>
      have held : (taken now f (some data)).payload.get f.offset = some f.payload := by
        rw [payload,Store.get_set_self]
      have short := joined_within record tiled held
      have len := (payloadLen_eq record.apart.sorted (fun p _ => Nat.zero_le p.1) _).mpr ⟨tiled,rfl⟩
      rw [header] at short ⊢
      exact ⟨_,rfl,fun _ => .joined found live clear (swept _ _ found live).header last (by simpa using len) ecn short⟩
  | opens part absent room =>
    -- the first fragment of a record leaves it with a gap or without its end
    have record := @sized_opened _ _ now _ (opener ⟨absent,room⟩) (roomy.2 ⟨absent,room⟩)
    have joins := (table.sweepExpired now).assemble_cases f.flowId record.apart
    have held : (taken now f none).payload = Store.empty.set f.offset f.payload ∧
        ((taken now f none).last = true → f.flagMf = false) := by
      simp only [taken]
      split
      · exact ⟨rfl,fun last => by cases last⟩
      · next final => exact ⟨rfl,fun _ => by simpa using final⟩
    generalize (table.sweepExpired now).assemble f.flowId (taken now f none) = assembled at joins
    cases joins with
    | pending => exact ⟨_,rfl,fun complete => by cases complete⟩
    | mixed => exact ⟨_,rfl,fun complete => by cases complete⟩
    | complete last tiled ecn =>
      obtain ⟨payload,final⟩ := held
      have member : (f.offset,f.payload) ∈ (taken now f none).sorted :=
        IpFragData.mem_sorted.mpr (by rw [payload,Store.get_set_self])
      cases pieces : (taken now f none).sorted with
      | nil => rw [pieces] at member; cases member
      | cons p rest =>
        have stored := IpFragData.mem_sorted.mp (show p ∈ (taken now f none).sorted by simp [pieces])
        rw [pieces] at tiled
        rw [payload,Store.get_set] at stored
        split at stored
        · next here => exact absurd ⟨here.symm.trans tiled.1,final last⟩ part
        · exact absurd stored (by simp [Store.get,Store.empty,Dict.get])

end Table

inductive Rx (α : Type) where
  | packet (now : Int) (p : α)
  | sweep (now : Int)
deriving Repr,DecidableEq

def EmptyTable (table : IpFragTable) : Prop := table.flows = .empty

theorem empty_sized (empty : EmptyTable table) : TableSized good limit table := by
  intro flowId data found
  rw [empty] at found
  exact absurd found (by simp [Store.get,Store.empty,Dict.get])

-- What the IPv4 receive path hands to the defragmentation step.
structure Ip4Arrival (packet : Ip4.Ip4Packet) : Prop where
  read : Ip4.ip4Parser packet.frame = .ok packet
  fragment : packet.header.offset ≠ 0 ∨ packet.header.flagMf = true

instance (packet : Ip4.Ip4Packet) : Decidable (Ip4Arrival packet) :=
  decidable_of_iff (Ip4.ip4Parser packet.frame = .ok packet ∧ (packet.header.offset ≠ 0 ∨ packet.header.flagMf = true))
    ⟨fun ⟨read,fragment⟩ => ⟨read,fragment⟩,fun ⟨read,fragment⟩ => ⟨read,fragment⟩⟩

-- The rewritten header of a record that is complete keeps its checksum's carry.
def CarryKept (data : IpFragData) : Prop :=
  ∀ ecn ∈ aggregateEcn data.ecn.values, ∀ len ∈ payloadLen 0 data.sorted, data.last = true →
    ¬CarryLost [blankIp4Header data.header ecn (data.header.length + len)] .plain

-- A fragment keeps the datagram within 65535 octets, header included; one that
-- opens a record shows its whole header; one that completes it leaves the
-- checksum its carry.
structure Ip4Meets (now : Int) (packet : Ip4.Ip4Packet) (table : IpFragTable) : Prop where
  roomy : Roomy 65535 now (fragmentIp4 packet) table
  whole : table.Opens now (fragmentIp4 packet) → packet.header.hlen ≤ packet.packetBytes.length
  carry : ∀ data ∈ table.found now (fragmentIp4 packet), data.discarded = false →
    data.overlaps (fragmentIp4 packet) = false → CarryKept (taken now (fragmentIp4 packet) (some data))

instance (buffers : List (List UInt8)) (caller : Caller) : Decidable (CarryLost buffers caller) :=
  inferInstanceAs (Decidable (_ ∧ _))

instance (data : IpFragData) : Decidable (CarryKept data) := by
  unfold CarryKept
  infer_instance

instance (now : Int) (packet : Ip4.Ip4Packet) (table : IpFragTable) : Decidable (Ip4Meets now packet table) :=
  decidable_of_iff (Roomy 65535 now (fragmentIp4 packet) table ∧
      (table.Opens now (fragmentIp4 packet) → packet.header.hlen ≤ packet.packetBytes.length) ∧
      ∀ data ∈ table.found now (fragmentIp4 packet), data.discarded = false →
        data.overlaps (fragmentIp4 packet) = false → CarryKept (taken now (fragmentIp4 packet) (some data)))
    ⟨fun ⟨roomy,whole,carry⟩ => ⟨roomy,whole,carry⟩,fun ⟨roomy,whole,carry⟩ => ⟨roomy,whole,carry⟩⟩

def nextIp4 : Rx Ip4.Ip4Packet → IpFragTable → IpFragTable
  | .packet now p,table => (defragmentIp4Packet now p table).2
  | .sweep now,table => table.sweepExpired now

def Ip4Steps : Rx Ip4.Ip4Packet → IpFragTable → Prop
  | .packet now p,table => Ip4Arrival p ∧ Ip4Meets now p table
  | .sweep _,_ => True

instance (rx : Rx Ip4.Ip4Packet) (table : IpFragTable) : Decidable (Ip4Steps rx table) := by
  cases rx <;> unfold Ip4Steps <;> infer_instance

-- The step returns, and a datagram it hands on is unfragmented and reads back
-- as the payload that the table joined.
def RebuiltIp4 (now : Int) (packet : Ip4.Ip4Packet) (table : IpFragTable) : Prop :=
  ∃ result, (defragmentIp4Packet now packet table).1 = .ok result ∧
    ∀ whole, result = some whole →
      ∃ answer, (table.addFragment now (fragmentIp4 packet)).1 = .ok answer ∧ answer.outcome = .complete ∧
        Unfragmented answer.payload whole

def WholeIp4Header (header : List UInt8) : Prop :=
  ∃ frame packet, Ip4.Parsed frame packet ∧ header = frame.take (Ip4.ihl frame)

theorem fragmentIp4_header (arrival : Ip4Arrival packet) (whole : packet.header.hlen ≤ packet.packetBytes.length) :
    WholeIp4Header (fragmentIp4 packet).header := by
  have parsed := Ip4.parsed_of_ok arrival.read
  have hlen : packet.header.hlen = Ip4.ihl packet.frame := by rw [parsed.fields]; rfl
  refine ⟨packet.frame,packet,parsed,?_⟩
  rw [Ip4.Ip4Packet.packetBytes,List.length_take] at whole
  simp only [fragmentIp4,Ip4.Ip4Packet.packetBytes,List.take_take]
  rw [hlen] at whole ⊢
  congr 1
  omega

theorem fragmentIp4_part (arrival : Ip4Arrival packet) : ¬(fragmentIp4 packet).Atomic := by
  rintro ⟨zero,final⟩
  rcases arrival.fragment with moved | more
  · exact moved zero
  · exact absurd (more.symm.trans final) (by simp)

theorem nextIp4_sized (sized : TableSized WholeIp4Header 65535 table) (met : Ip4Steps rx table) :
    TableSized WholeIp4Header 65535 (nextIp4 rx table) := by
  cases rx with
  | sweep now => exact sweep_sized sized
  | packet now packet =>
    obtain ⟨arrival,meets⟩ := met
    rw [nextIp4,defragmentIp4_table]
    exact addFragment_sized sized meets.roomy fun opens => fragmentIp4_header arrival (meets.whole opens)

theorem rebuiltIp4 (sized : TableSized WholeIp4Header 65535 table) (arrival : Ip4Arrival packet)
    (meets : Ip4Meets now packet table) : RebuiltIp4 now packet table := by
  obtain ⟨answer,answered,completed⟩ := addFragment_answers sized meets.roomy fun opens =>
    fragmentIp4_header arrival (meets.whole opens)
  have step := defragmentIp4_answer answered
  by_cases complete : answer.outcome = .complete
  · rw [if_pos complete] at step
    have outcome := completed complete
    cases outcome with
    | atomic whole => exact absurd whole (fragmentIp4_part arrival)
    | @joined data e found live clear fine last len ecn short =>
      obtain ⟨frame,first,parsed,header⟩ := fine
      have size := header_taken parsed.sound
      have kept := meets.carry data found live clear e ecn _ len last
      rw [(taken_header now (fragmentIp4 packet) data).1] at kept
      rw [header,size] at kept short
      obtain ⟨read,unfragmented⟩ := reassembleIp4_ok parsed (Nat.lt_succ_of_le short) kept
      rw [header,read] at step
      refine ⟨_,step,?_⟩
      intro whole same
      rw [← Option.some.inj same]
      exact ⟨_,answered,rfl,unfragmented⟩
  · rw [if_neg complete] at step
    exact ⟨none,step,fun whole same => by cases same⟩

-- An IPv6 packet, what the chain walk took off in front of the Fragment
-- header, and the header itself.
structure Ip6Fragment where
  packet : Ip6.Ip6Packet
  skip : Nat
  frag : Ip6.Ip6Frag
deriving Repr,DecidableEq

structure Ip6Arrival (arrived : Ip6Fragment) : Prop where
  read : Ip6.ip6Parser arrived.packet.frame = .ok arrived.packet
  behind : 40 ≤ arrived.skip
  fragment : Ip6.ip6FragParser (arrived.packet.frame.drop arrived.skip) = .ok arrived.frag

instance (arrived : Ip6Fragment) : Decidable (Ip6Arrival arrived) :=
  decidable_of_iff (Ip6.ip6Parser arrived.packet.frame = .ok arrived.packet ∧ 40 ≤ arrived.skip ∧
      Ip6.ip6FragParser (arrived.packet.frame.drop arrived.skip) = .ok arrived.frag)
    ⟨fun ⟨read,behind,fragment⟩ => ⟨read,behind,fragment⟩,fun ⟨read,behind,fragment⟩ => ⟨read,behind,fragment⟩⟩

def Ip6Fragment.fragment (arrived : Ip6Fragment) : Fragment := fragmentIp6 arrived.packet arrived.frag

-- The fixed header is not counted in the payload length.
def Ip6Meets (now : Int) (arrived : Ip6Fragment) (table : IpFragTable) : Prop :=
  Roomy (40 + 65535) now arrived.fragment table

def nextIp6 : Rx Ip6Fragment → IpFragTable → IpFragTable
  | .packet now arrived,table => (defragmentIp6Packet now arrived.packet arrived.frag table).2
  | .sweep now,table => table.sweepExpired now

def Ip6Steps : Rx Ip6Fragment → IpFragTable → Prop
  | .packet now arrived,table => Ip6Arrival arrived ∧ Ip6Meets now arrived table
  | .sweep _,_ => True

instance (now : Int) (arrived : Ip6Fragment) (table : IpFragTable) : Decidable (Ip6Meets now arrived table) :=
  inferInstanceAs (Decidable (Roomy _ _ _ _))

instance (rx : Rx Ip6Fragment) (table : IpFragTable) : Decidable (Ip6Steps rx table) := by
  cases rx <;> unfold Ip6Steps <;> infer_instance

def RebuiltIp6 (now : Int) (arrived : Ip6Fragment) (table : IpFragTable) : Prop :=
  ∃ result, (defragmentIp6Packet now arrived.packet arrived.frag table).1 = .ok result ∧
    ∀ rx, result = some rx →
      ∃ answer whole, (table.addFragment now arrived.fragment).1 = .ok answer ∧ answer.outcome = .complete ∧
        Ip6.ip6Parser rx.frame = .ok whole ∧ rx.frame.length = 40 + whole.header.dlen ∧ whole.header.dlen ≤ 65535 ∧
        whole.header.next = arrived.frag.next ∧ whole.payload = answer.payload

def WholeIp6Header (header : List UInt8) : Prop := ∃ frame, Ip6.Accepted frame ∧ header = frame.take 40

theorem Ip6Arrival.accepted (arrival : Ip6Arrival arrived) :
    Ip6.Accepted arrived.packet.frame ∧ arrived.packet = Ip6.packetOf arrived.packet.frame :=
  Ip6.ip6Parser_ok_iff.mp arrival.read

theorem Ip6Arrival.header (arrival : Ip6Arrival arrived) : WholeIp6Header arrived.fragment.header :=
  ⟨arrived.packet.frame,arrival.accepted.1,rfl⟩

theorem Ip6Arrival.short (arrival : Ip6Arrival arrived) :
    arrived.frag.next ≤ 255 ∧ arrived.fragment.payload.length < 65536 := by
  obtain ⟨long,_,same⟩ := Ip6.ip6FragParser_ok_iff.mp arrival.fragment
  have accepted := arrival.accepted.1
  have field := beNat_lt (slice arrived.packet.frame 4 6)
  rw [slice_length _ _ _ (by have := accepted.long; omega)] at field
  have size : beNat (slice arrived.packet.frame 4 6) = arrived.packet.frame.length - 40 := accepted.dlen
  have behind := arrival.behind
  refine ⟨by rw [same]; exact Ip6.fragFields_next _ long,?_⟩
  change arrived.frag.payload.length < 65536
  rw [same]
  simp only [Ip6.fragFields,List.length_drop]
  omega

theorem nextIp6_sized (sized : TableSized WholeIp6Header (40 + 65535) table) (met : Ip6Steps rx table) :
    TableSized WholeIp6Header (40 + 65535) (nextIp6 rx table) := by
  cases rx with
  | sweep now => exact sweep_sized sized
  | packet now arrived =>
    obtain ⟨arrival,meets⟩ := met
    rw [nextIp6,defragmentIp6_table]
    exact addFragment_sized sized meets fun _ => arrival.header

theorem reassembled_reads (accepted : Ip6.Accepted frame) (small : payload.length < 65536) (octet : next ≤ 255) :
    reassembleIp6 ⟨.complete,frame.take 40,payload,ecn⟩ next = .ok (some ⟨wholeIp6 frame payload ecn next,true⟩) ∧
      ∃ whole, Ip6.ip6Parser (wholeIp6 frame payload ecn next) = .ok whole ∧
        (wholeIp6 frame payload ecn next).length = 40 + whole.header.dlen ∧ whole.header.dlen ≤ 65535 ∧
        whole.header.next = next ∧ whole.payload = payload := by
  have long := accepted.long
  have dlen := @wholeIp6_dlen _ _ ecn next long small
  have length := @wholeIp6_length _ payload ecn next long
  refine ⟨reassembleIp6_ok long small octet,Ip6.packetOf (wholeIp6 frame payload ecn next),
    Ip6.accepted_parses (wholeIp6_accepted accepted small),?_,?_,wholeIp6_next long octet,wholeIp6_payload long⟩
  · rw [Ip6.packetOf,dlen,length]
  · rw [Ip6.packetOf,dlen]
    omega

theorem rebuiltIp6 (sized : TableSized WholeIp6Header (40 + 65535) table) (arrival : Ip6Arrival arrived)
    (meets : Ip6Meets now arrived table) : RebuiltIp6 now arrived table := by
  obtain ⟨answer,answered,completed⟩ := addFragment_answers sized meets fun _ => arrival.header
  obtain ⟨octet,short⟩ := arrival.short
  have step := defragmentIp6_answer answered
  by_cases complete : answer.outcome = .complete
  · rw [if_pos complete] at step
    have outcome := completed complete
    have finished (frame payload : List UInt8) (ecn : Nat) (accepted : Ip6.Accepted frame)
        (small : payload.length < 65536) (same : answer = ⟨.complete,frame.take 40,payload,ecn⟩) :
        RebuiltIp6 now arrived table := by
      obtain ⟨written,whole,read,size,bounded,next,joined⟩ :=
        @reassembled_reads _ _ _ ecn accepted small octet
      rw [same,written] at step
      refine ⟨_,step,?_⟩
      intro rx taken
      rw [← Option.some.inj taken]
      exact ⟨answer,whole,answered,complete,read,size,bounded,next,by rw [joined,same]⟩
    cases outcome with
    | atomic whole => exact finished arrived.packet.frame _ _ arrival.accepted.1 short rfl
    | @joined data e found live clear fine last len ecn within =>
      obtain ⟨frame,accepted,header⟩ := fine
      have size : (frame.take 40).length = 40 := by
        rw [List.length_take,Nat.min_eq_left accepted.long]
      rw [header,size] at within
      exact finished frame (joined (taken now arrived.fragment (some data)).sorted) e accepted (by omega) (by rw [header])
  · rw [if_neg complete] at step
    exact ⟨none,step,fun whole same => by cases same⟩

-- In every run whose fragments meet the conditions, on either table: the next
-- one that does is taken without an exception, and what is handed on is whole.
theorem defragment_rebuilds (table : IpFragTable) (now : Int) :
    (Reached EmptyTable nextIp4 Ip4Steps table →
      ∀ packet, Ip4Arrival packet → Ip4Meets now packet table → RebuiltIp4 now packet table) ∧
    (Reached EmptyTable nextIp6 Ip6Steps table →
      ∀ arrived, Ip6Arrival arrived → Ip6Meets now arrived table → RebuiltIp6 now arrived table) := by
  constructor
  · intro reached packet arrival meets
    have sized := reached.invariant (TableSized WholeIp4Header 65535) (fun _ empty => empty_sized empty)
      (fun _ _ before met => nextIp4_sized before met)
    exact rebuiltIp4 sized arrival meets
  · intro reached arrived arrival meets
    have sized := reached.invariant (TableSized WholeIp6Header (40 + 65535)) (fun _ empty => empty_sized empty)
      (fun _ _ before met => nextIp6_sized before met)
    exact rebuiltIp6 sized arrival meets

-- 10.0.0.1 to 192.168.0.2, UDP.
def ip4Fragment (options : List UInt8) (ttl : UInt8) (id field cksum : Nat) (payload : List UInt8) : Ip4.Ip4Packet :=
  let frame := [UInt8.ofNat (0x45 + options.length/4),0] ++ be16 (20 + options.length + payload.length) ++ be16 id ++
    be16 field ++ [ttl,17] ++ be16 cksum ++ [10,0,0,1,192,168,0,2] ++ options ++ payload
  ⟨frame,Ip4.headerFields frame,(Ip4.optionsFromBuffer (Ip4.optionArea frame) 0).toOption.getD [],payload⟩

def firstHalf : Ip4.Ip4Packet := ip4Fragment [] 64 7 0x2000 0x901F [1,2,3,4,5,6,7,8]
def secondHalf : Ip4.Ip4Packet := ip4Fragment [] 64 7 0x0001 0xB01E [9,10,11,12,13,14,15,16]

-- 2001:db8::1 to 2001:db8::2 with a Fragment header.
def ip6Fragment (next : UInt8) (field : Nat) (payload : List UInt8) : Ip6Fragment :=
  let address (last : UInt8) : List UInt8 := [0x20,0x01,0x0D,0xB8,0,0,0,0,0,0,0,0,0,0,0,last]
  let frame := [0x60,0,0,0] ++ be16 (8 + payload.length) ++ [44,64] ++ address 1 ++ address 2 ++ [next,0] ++
    be16 field ++ [0,0,0,7] ++ payload
  ⟨Ip6.packetOf frame,40,Ip6.fragFields (frame.drop 40)⟩

theorem defragment_rebuilds_halves :
    RebuiltIp4 1 firstHalf (run nextIp4 emptyTable [.packet 0 secondHalf]) ∧
      RebuiltIp6 1 (ip6Fragment 17 0x0001 [1,2,3,4,5,6,7,8])
        (run nextIp6 emptyTable [.packet 0 (ip6Fragment 17 0x0008 [9,10,11,12,13,14,15,16])]) := by
  have fresh : EmptyTable emptyTable := rfl
  have ip4 : Reached EmptyTable nextIp4 Ip4Steps (run nextIp4 emptyTable [.packet 0 secondHalf]) :=
    Reached.run (.start emptyTable fresh) _ (by decide +kernel)
  have ip6 : Reached EmptyTable nextIp6 Ip6Steps
      (run nextIp6 emptyTable [.packet 0 (ip6Fragment 17 0x0008 [9,10,11,12,13,14,15,16])]) :=
    Reached.run (.start emptyTable fresh) _ (by decide +kernel)
  exact ⟨(defragment_rebuilds _ 1).1 ip4 firstHalf (by decide +kernel) (by decide +kernel),
    (defragment_rebuilds _ 1).2 ip6 _ (by decide +kernel) (by decide +kernel)⟩

theorem two_fragments {first second : List UInt8} (flowId : IpFragFlowId) (header other : List UInt8)
    (size : first.length = 65520) :
    (((emptyTable.addFragment 0 ⟨flowId,0,first,true,header,0⟩).2).addFragment 1
        ⟨flowId,65520,second,false,other,0⟩).1 = .ok ⟨.complete,header,first ++ second,0⟩ := by
  let data := IpFragData.opened 0 ⟨flowId,0,first,true,header,0⟩
  let last : Fragment := ⟨flowId,65520,second,false,other,0⟩
  have found : ((emptyTable.addFragment 0 ⟨flowId,0,first,true,header,0⟩).2.sweepExpired 1).flows.get flowId =
      some data := by
    rw [IpFragTable.get_sweep]
    exact congrArg (Option.filter _) (Store.get_set_self _ _ data)
  have clear : data.overlaps last = false := by
    simp [data,last,IpFragData.overlaps,IpFragData.opened,Store.set,Store.empty,Dict.set,size]
  have apart : (taken 1 last (some data)).Apart :=
    taken_apart 1 fun other same => by
      cases same
      exact ⟨IpFragData.opened_apart 0 _,clear⟩
  have pieces : (taken 1 last (some data)).sorted = [(0,first),(65520,second)] := rfl
  have marks : aggregateEcn (taken 1 last (some data)).ecn.values = some 0 := rfl
  have tiled : Tiled 0 (taken 1 last (some data)).sorted := by
    rw [pieces]
    exact ⟨rfl,by simp [stop,size],trivial⟩
  have outcome := IpFragTable.addFragment_cases 1 last (emptyTable.addFragment 0 ⟨flowId,0,first,true,header,0⟩).2
  change (IpFragTable.addFragment 1 last _).1 = _
  generalize IpFragTable.addFragment 1 last _ = added at outcome
  cases outcome with
  | atomic whole => exact absurd whole.1 (by simp [last])
  | dropped _ held marked =>
    obtain rfl := Option.some.inj (found.symm.trans held)
    cases marked
  | refused _ absent => exact absurd (found.symm.trans absent) (by simp)
  | overlap _ held _ meets =>
    obtain rfl := Option.some.inj (found.symm.trans held)
    exact absurd (clear.symm.trans meets) (by simp)
  | opens _ absent => exact absurd (found.symm.trans absent) (by simp)
  | into _ held =>
    obtain rfl := Option.some.inj (found.symm.trans held)
    have joins := IpFragTable.assemble_cases
      ((emptyTable.addFragment 0 ⟨flowId,0,first,true,header,0⟩).2.sweepExpired 1) flowId apart
    change (IpFragTable.assemble _ flowId _).1 = _
    generalize IpFragTable.assemble _ flowId (taken 1 last (some data)) = assembled at joins
    cases joins with
    | pending gap => exact absurd ⟨rfl,tiled⟩ gap
    | mixed _ _ mixed => exact absurd (marks.symm.trans mixed) (by simp)
    | @complete e _ _ ecn =>
      have zero : e = 0 := (Option.some.inj (marks.symm.trans ecn)).symm
      rw [zero,pieces]
      simp only [joined_cons,joined_nil,List.append_nil]
      rfl

theorem reassembleIp6_oversize (long : header.length = 40) (big : 65535 < payload.length) :
    reassembleIp6 ⟨.complete,header,payload,ecn⟩ next = .error .structError := by
  simp only [reassembleIp6,rewriteIp6Header_oversize long (Nat.succ_le_of_lt big),error_bind]

theorem ip6Fragment_arrives (payload : List UInt8) (short : 8 + payload.length < 65536) (whole : payload.length % 8 = 0) :
    Ip6Arrival (ip6Fragment next field payload) := by
  have size : (ip6Fragment next field payload).packet.frame.length = 48 + payload.length := by
    simp [ip6Fragment,Ip6.packetOf,be16]
    omega
  have dlen : (Ip6.headerFields (ip6Fragment next field payload).packet.frame).dlen = beNat (be16 (8 + payload.length)) := rfl
  have src : (Ip6.headerFields (ip6Fragment next field payload).packet.frame).src = 0x20010DB8000000000000000000000001 := rfl
  have hop : (Ip6.headerFields (ip6Fragment next field payload).packet.frame).hop = 64 := rfl
  have accepted : Ip6.Accepted (ip6Fragment next field payload).packet.frame := by
    have version : (ip6Fragment next field payload).packet.frame[0]? = some 0x60 := rfl
    refine ⟨by omega,by rw [version]; decide,?_,by rw [hop]; decide,by rw [src]; decide,by rw [src]; decide⟩
    rw [dlen,beNat_be16 _ short]
    omega
  have fields : (Ip6.fragFields ((ip6Fragment next field payload).packet.frame.drop 40)).payload = payload := rfl
  refine ⟨Ip6.accepted_parses accepted,Nat.le_refl 40,Ip6.ip6FragParser_ok_iff.mpr ⟨?_,?_,rfl⟩⟩
  · rw [List.length_drop,size]
    change 8 ≤ 48 + payload.length - 40
    omega
  · rintro ⟨_,uneven⟩
    exact uneven (by rw [← whole]; rfl)

theorem ip6Fragment_fragment (payload : List UInt8) (small : field < 65536) :
    (ip6Fragment next field payload).fragment =
      ⟨⟨0x20010DB8000000000000000000000001,0x20010DB8000000000000000000000002,7,none⟩,field &&& 0xFFF8,payload,
        decide (field &&& 0x0001 ≠ 0),(ip6Fragment next field payload).packet.frame.take 40,0⟩ := by
  have word : slice ((ip6Fragment next field payload).packet.frame.drop 40) 2 4 = be16 field := rfl
  have first : slice (ip6Fragment next field payload).packet.frame 0 4 = [0x60,0,0,0] := rfl
  have frag : (ip6Fragment next field payload).frag =
      Ip6.fragFields ((ip6Fragment next field payload).packet.frame.drop 40) := rfl
  have header : (ip6Fragment next field payload).packet.header =
      Ip6.headerFields (ip6Fragment next field payload).packet.frame := rfl
  simp only [Ip6Fragment.fragment,fragmentIp6,frag,header,Ip6.fragFields,Ip6.headerFields,word,first,
    beNat_be16 _ small]
  rfl

theorem oversize_raises {first second : List UInt8} (size : first.length = 65520) (long : 16 ≤ second.length) :
    (defragmentIp6Packet 1 (ip6Fragment 17 0xFFF0 second).packet (ip6Fragment 17 0xFFF0 second).frag
      (run nextIp6 emptyTable [.packet 0 (ip6Fragment 17 0x0001 first)])).1 = .error .structError := by
  have before : run nextIp6 emptyTable [.packet 0 (ip6Fragment 17 0x0001 first)] =
      (emptyTable.addFragment 0 (ip6Fragment 17 0x0001 first).fragment).2 := defragmentIp6_table _ _ _ _
  have closer : fragmentIp6 (ip6Fragment 17 0xFFF0 second).packet (ip6Fragment 17 0xFFF0 second).frag = _ :=
    ip6Fragment_fragment second (by decide)
  have answered := @two_fragments _ second
    ⟨0x20010DB8000000000000000000000001,0x20010DB8000000000000000000000002,7,none⟩
    ((ip6Fragment 17 0x0001 first).packet.frame.take 40) ((ip6Fragment 17 0xFFF0 second).packet.frame.take 40) size
  rw [before,ip6Fragment_fragment first (by decide)]
  rw [@defragmentIp6_answer _ _ _ _ (⟨.complete,_,first ++ second,0⟩) (by rw [closer]; exact answered),if_pos rfl]
  exact reassembleIp6_oversize rfl (by rw [List.length_append]; omega)

-- Three ways to raise, each from accepted fragments on an empty table. The
-- final fragment opens the record with octets after its End of Option List, so
-- the captured header is cut short. The rewritten header of identification
-- 0xB01F loses the carry of its checksum. And 65520 octets and 16 more do not
-- fit the IPv6 payload length.
theorem defragment_raises :
    (Ip4Arrival (ip4Fragment [0,0,0,0] 64 7 0x0001 0xAF21 [9]) ∧ Ip4Arrival firstHalf ∧
      (defragmentIp4Packet 1 firstHalf
        (run nextIp4 emptyTable [.packet 0 (ip4Fragment [0,0,0,0] 64 7 0x0001 0xAF21 [9])])).1 =
          .error (Ip4.ip4IntegrityError "The packet checksum must be valid.")) ∧
    (Ip4Arrival (ip4Fragment [] 64 0xB01F 0x2000 0xE006 [1,2,3,4,5,6,7,8]) ∧
      Ip4Arrival (ip4Fragment [] 64 0xB01F 0x0001 0x0006 [9,10,11,12,13,14,15,16]) ∧
      (defragmentIp4Packet 1 (ip4Fragment [] 64 0xB01F 0x0001 0x0006 [9,10,11,12,13,14,15,16])
        (run nextIp4 emptyTable [.packet 0 (ip4Fragment [] 64 0xB01F 0x2000 0xE006 [1,2,3,4,5,6,7,8])])).1 =
          .error (Ip4.ip4IntegrityError "The packet checksum must be valid.")) ∧
    Ip6Arrival (ip6Fragment 17 0x0001 (List.replicate 65520 0)) ∧ Ip6Arrival (ip6Fragment 17 0xFFF0 (List.replicate 16 0)) ∧
      (defragmentIp6Packet 1 (ip6Fragment 17 0xFFF0 (List.replicate 16 0)).packet
        (ip6Fragment 17 0xFFF0 (List.replicate 16 0)).frag
        (run nextIp6 emptyTable [.packet 0 (ip6Fragment 17 0x0001 (List.replicate 65520 0))])).1 = .error .structError := by
  refine ⟨⟨by decide +kernel,by decide +kernel,by decide +kernel⟩,
    ⟨by decide +kernel,by decide +kernel,by decide +kernel⟩,?_,?_,?_⟩
  · exact ip6Fragment_arrives _ (by rw [List.length_replicate]; decide) (by rw [List.length_replicate])
  · exact ip6Fragment_arrives _ (by rw [List.length_replicate]; decide) (by rw [List.length_replicate])
  · exact oversize_raises List.length_replicate (by rw [List.length_replicate])

end PmdPytcp.Ip
