import PmdPytcp.Ip.Rebuilt
import PmdPytcp.Ip.Cut

namespace PmdPytcp.Ip
open InetCksum Buffer Tiles Runs

-- What a handler gives to the table, and what it makes of a completed answer.
structure Receiver (α β : Type) where
  fragment : α → Fragment
  finish : IpFragAddResult → α → Py (Option β)

def Receiver.step (r : Receiver α β) (now : Int) (a : α) (table : IpFragTable) : Py (Option β) × IpFragTable :=
  match table.addFragment now (r.fragment a) with
  | (.error e,table) => (.error e,table)
  | (.ok answer,table) => if answer.outcome = .complete then (r.finish answer a,table) else (.ok none,table)

def ip4Receiver : Receiver Ip4.Ip4Packet Ip4.Ip4Packet where
  fragment := fragmentIp4
  finish answer _ := reassembleIp4 answer

def ip6Receiver : Receiver Ip6Fragment PacketRx where
  fragment := Ip6Fragment.fragment
  finish answer arrived := reassembleIp6 answer arrived.frag.next

theorem ip4Receiver_step (now : Int) (packet : Ip4.Ip4Packet) (table : IpFragTable) :
    ip4Receiver.step now packet table = defragmentIp4Packet now packet table := rfl

theorem ip6Receiver_step (now : Int) (arrived : Ip6Fragment) (table : IpFragTable) :
    ip6Receiver.step now arrived table = defragmentIp6Packet now arrived.packet arrived.frag table := rfl

section Receiver
variable (r : Receiver α β) (flowId : IpFragFlowId)

-- What is handed on when the fragments of one flow arrive, between fragments
-- of other flows and sweeps.
def Receiver.handed : List (Rx α) → IpFragTable → List (Py (Option β))
  | [],_ => []
  | .sweep now :: rest,table => Receiver.handed rest (table.sweepExpired now)
  | .packet now a :: rest,table =>
    if (r.fragment a).flowId = flowId then (r.step now a table).1 :: Receiver.handed rest (r.step now a table).2
    else Receiver.handed rest (r.step now a table).2

def Receiver.arrived : List (Rx α) → List α
  | [] => []
  | .sweep _ :: rest => Receiver.arrived rest
  | .packet _ a :: rest =>
    if (r.fragment a).flowId = flowId then a :: Receiver.arrived rest else Receiver.arrived rest

def Receiver.event : Rx α → Event
  | .packet now a => .fragment now (r.fragment a)
  | .sweep now => .sweep now

def Receiver.respond (a : α) : Py IpFragAddResult → Py (Option β)
  | .error e => .error e
  | .ok answer => if answer.outcome = .complete then r.finish answer a else .ok none

variable {r flowId}

theorem Receiver.step_eq (now : Int) (a : α) (table : IpFragTable) :
    r.step now a table = (r.respond a (table.addFragment now (r.fragment a)).1,(table.addFragment now (r.fragment a)).2) := by
  unfold Receiver.step
  rcases table.addFragment now (r.fragment a) with ⟨_ | answer,after⟩
  · rfl
  · simp only [Receiver.respond]
    split
    · rfl
    · rfl

theorem Receiver.arrivals_event (events : List (Rx α)) :
    arrivals flowId (events.map r.event) = (r.arrived flowId events).map r.fragment := by
  induction events with
  | nil => rfl
  | cons event rest ih =>
    cases event with
    | sweep now => exact ih
    | packet now a =>
      simp only [List.map_cons,Receiver.event,arrivals,Receiver.arrived]
      split
      · rw [ih,List.map_cons]
      · exact ih

theorem Receiver.handed_eq (events : List (Rx α)) (table : IpFragTable) :
    r.handed flowId events table =
      List.zipWith r.respond (r.arrived flowId events) (answers flowId (events.map r.event) table) := by
  induction events generalizing table with
  | nil => rfl
  | cons event rest ih =>
    cases event with
    | sweep now => exact ih _
    | packet now a =>
      simp only [List.map_cons,Receiver.event,answers,Receiver.arrived,Receiver.handed,Receiver.step_eq]
      split
      · rw [ih,List.zipWith_cons_cons]
      · exact ih _

theorem zipWith_last (respond : α → γ → β) (front : List α) (last : α) (first final : γ)
    (quiet : ∀ a, respond a first = silent) :
    List.zipWith respond (front ++ [last]) (List.replicate front.length first ++ [final]) =
      List.replicate front.length silent ++ [respond last final] := by
  induction front with
  | nil => rfl
  | cons a rest ih =>
    simp only [List.cons_append,List.length_cons,List.replicate_succ,List.zipWith_cons_cons,quiet,ih]

end Receiver

-- Packets in the order of their places whose fragments are a cut.
structure Pieces (r : Receiver α β) (flowId : IpFragFlowId) (payload : List UInt8) where
  first : α
  others : List α
  cut : Cut flowId payload
  same : cut.fragments = (first :: others).map r.fragment

section Pieces
variable {r : Receiver α β} {flowId : IpFragFlowId} {payload : List UInt8}

def Pieces.all (pieces : Pieces r flowId payload) : List α := pieces.first :: pieces.others

-- What the handler makes of the datagram under one packet's header when
-- another completes it.
def Pieces.outcome (pieces : Pieces r flowId payload) (lead last : α) : Py (Option β) :=
  r.respond last (.ok (pieces.cut.verdict (r.fragment lead).header))

-- The pieces in some order of arrival, on a table that does not know the flow.
structure Delivery (pieces : Pieces r flowId payload) (table : IpFragTable) (events : List (Rx α)) : Prop where
  fresh : table.flows.get flowId = none
  order : (r.arrived flowId events).Perm pieces.all
  undisturbed : Met Event.apply (Undisturbed flowId) (events.map r.event) table

-- Whatever the order, the datagram is the one under the header (and, in IPv6,
-- with the Next Header) of the fragment at offset zero.
def Pieces.OrderFree (pieces : Pieces r flowId payload) : Prop :=
  ∀ table events, Delivery pieces table events →
    r.handed flowId events table =
      List.replicate pieces.others.length (.ok none) ++ [pieces.outcome pieces.first pieces.first]

variable {pieces : Pieces r flowId payload}

theorem Delivery.handed (delivery : Delivery pieces table events) (lead last : α)
    (leads : (r.arrived flowId events).head? = some lead) (ends : (r.arrived flowId events).getLast? = some last) :
    r.handed flowId events table = List.replicate pieces.others.length (.ok none) ++ [pieces.outcome lead last] := by
  have order : (arrivals flowId (events.map r.event)).Perm pieces.cut.fragments := by
    rw [Receiver.arrivals_event,pieces.same]
    exact delivery.order.map _
  obtain ⟨answered,_⟩ := @Midway.runs _ _ _ [] _ _ delivery.fresh order
    (List.length_pos_of_ne_nil pieces.cut.present) delivery.undisturbed
  obtain ⟨front,arrived⟩ := List.getLast?_eq_some_iff.mp ends
  have size : front.length = pieces.others.length := by
    have total := delivery.order.length_eq
    rw [arrived] at total
    simpa [Pieces.all] using total
  have count : pieces.cut.fragments.length - ([] : List Fragment).length - 1 = front.length := by
    rw [pieces.same,size]
    simp
  have header : leadHeader ([] ++ arrivals flowId (events.map r.event)) = (r.fragment lead).header := by
    rw [Receiver.arrivals_event,List.nil_append,leadHeader,List.head?_map,leads]
    rfl
  rw [Receiver.handed_eq,answered,count,header,arrived,@zipWith_last _ _ _ (.ok none) _ _ _ _ _ (fun _ => rfl),
    size,Pieces.outcome]

structure Quiet (flowId : IpFragFlowId) (table : IpFragTable) : Prop where
  timeout : table.timeout = 60
  only : ∀ other data, table.flows.get other = some data → other = flowId ∧ data.timestamp = 0

theorem Quiet.undisturbed {table : IpFragTable} (quiet : Quiet flowId table) (f : Fragment) :
    Undisturbed flowId (.fragment 0 f) table := by
  constructor
  · cases found : table.flows.get flowId with
    | none => rfl
    | some data =>
      obtain ⟨_,young⟩ := quiet.only flowId data found
      simp [Event.now,young,quiet.timeout]
  · intro _ absent
    have empty : table.flows.entries = [] := by
      refine List.eq_nil_iff_forall_not_mem.mpr ?_
      intro entry member
      have found : table.flows.get entry.1 = some entry.2 := Store.get_eq_some.mpr member
      obtain ⟨same,_⟩ := quiet.only entry.1 entry.2 found
      rw [same,absent] at found
      cases found
    have size : (table.sweepExpired 0).flows.size ≤ table.flows.size := Store.size_filter_le _ _
    have none : table.flows.size = 0 := by rw [Store.size,empty]; rfl
    rw [none] at size
    exact Nat.lt_of_le_of_lt size (by decide)

theorem Quiet.assemble {table : IpFragTable} (quiet : Quiet flowId table) (young : data.timestamp = 0) :
    Quiet flowId (table.assemble flowId data).2 := by
  have stored : Quiet flowId {table with flows := table.flows.set flowId data} := by
    refine ⟨quiet.timeout,?_⟩
    intro other record found
    rw [Store.get_set] at found
    split at found
    · next same =>
      cases found
      exact ⟨same,young⟩
    · exact quiet.only other record found
  have freed : Quiet flowId {table with flows := (table.flows.set flowId data).erase flowId} := by
    refine ⟨quiet.timeout,?_⟩
    intro other record found
    by_cases same : other = flowId
    · rw [same,Store.get_erase_self] at found
      cases found
    · rw [Store.get_erase_other _ same] at found
      exact stored.only other record found
  unfold IpFragTable.assemble
  repeat' split
  all_goals first | exact stored | exact freed

theorem Quiet.addFragment {table : IpFragTable} (quiet : Quiet flowId table) (same : f.flowId = flowId) :
    Quiet flowId (table.addFragment 0 f).2 := by
  have swept : Quiet flowId (table.sweepExpired 0) := by
    refine ⟨quiet.timeout,?_⟩
    intro other record found
    rw [IpFragTable.get_sweep] at found
    exact quiet.only other record (Option.filter_eq_some_iff.mp found).1
  have young (data : IpFragData) (before : data.timestamp = 0) : (taken 0 f (some data)).timestamp = 0 := by
    simp only [taken]
    split
    · exact before
    · exact before
  have outcome := table.addFragment_cases 0 f
  generalize table.addFragment 0 f = added at outcome
  cases outcome with
  | atomic => exact quiet
  | dropped => exact swept
  | refused => exact swept
  | overlap _ found live =>
    refine ⟨swept.timeout,?_⟩
    intro other record held
    rw [Store.get_set] at held
    split at held
    · next here =>
      cases held
      exact ⟨here.trans same,(swept.only _ _ found).2⟩
    · exact swept.only other record held
  | into _ found =>
    rw [same]
    exact swept.assemble (young _ (swept.only _ _ found).2)
  | opens =>
    rw [same]
    refine swept.assemble ?_
    simp only [taken]
    split
    · rfl
    · rfl

theorem Quiet.met {table : IpFragTable} (quiet : Quiet flowId table) (fragments : List Fragment)
    (flow : ∀ f ∈ fragments, f.flowId = flowId) :
    Met Event.apply (Undisturbed flowId) (fragments.map (Event.fragment 0)) table := by
  induction fragments generalizing table with
  | nil => trivial
  | cons f rest ih =>
    exact ⟨quiet.undisturbed f,ih (quiet.addFragment (flow f (by simp))) fun g member => flow g (by simp [member])⟩

theorem arrived_all {order : List α} (flow : ∀ a ∈ order, (r.fragment a).flowId = flowId) :
    r.arrived flowId (order.map (Rx.packet 0)) = order := by
  induction order with
  | nil => rfl
  | cons a rest ih =>
    simp only [List.map_cons,Receiver.arrived,flow a (by simp),if_true]
    rw [ih fun b member => flow b (by simp [member])]

theorem Pieces.delivered (pieces : Pieces r flowId payload) (order : List α) (perm : order.Perm pieces.all) :
    Delivery pieces emptyTable (order.map (Rx.packet 0)) := by
  have flow (a : α) (member : a ∈ order) : (r.fragment a).flowId = flowId := by
    refine pieces.cut.flow _ ?_
    rw [pieces.same]
    exact List.mem_map_of_mem (perm.mem_iff.mp member)
  refine ⟨rfl,by rw [arrived_all flow]; exact perm,?_⟩
  have events : (order.map (Rx.packet 0)).map r.event = (order.map r.fragment).map (Event.fragment 0) := by
    simp only [List.map_map]
    rfl
  rw [events]
  refine Quiet.met ⟨rfl,?_⟩ _ ?_
  · intro other data found
    exact absurd found (by simp [emptyTable,Store.get,Store.empty,Dict.get])
  · intro f member
    obtain ⟨a,inside,rfl⟩ := List.mem_map.mp member
    exact flow a inside

theorem Pieces.orderFree_iff (pieces : Pieces r flowId payload) :
    pieces.OrderFree ↔ ∀ order : List α, order.Perm pieces.all → ∀ lead last, order.head? = some lead →
      order.getLast? = some last → pieces.outcome lead last = pieces.outcome pieces.first pieces.first := by
  constructor
  · intro free order perm lead last leads ends
    have delivery := pieces.delivered order perm
    have arrived : r.arrived flowId (order.map (Rx.packet 0)) = order := by
      refine arrived_all ?_
      intro a member
      refine pieces.cut.flow _ ?_
      rw [pieces.same]
      exact List.mem_map_of_mem (perm.mem_iff.mp member)
    have one := delivery.handed lead last (by rw [arrived]; exact leads) (by rw [arrived]; exact ends)
    rw [free _ _ delivery] at one
    exact (List.singleton_inj.mp (List.append_cancel_left one)).symm
  · intro agree table events delivery
    have some : r.arrived flowId events ≠ [] := by
      intro none
      have size := delivery.order.length_eq
      rw [none] at size
      cases size
    have leads := List.head?_eq_some_head some
    have ends := List.getLast?_eq_some_getLast some
    rw [delivery.handed _ _ leads ends,agree _ delivery.order _ _ leads ends]

end Pieces

-- Equal in every octet that the rewrite keeps: version and header length, DSCP,
-- identification, TTL and protocol, addresses and options.
structure SameIp4Header (a b : List UInt8) : Prop where
  ihl : slice a 0 1 = slice b 0 1
  dscp : (a[1]?.getD 0).toNat &&& 0xFC = (b[1]?.getD 0).toNat &&& 0xFC
  id : slice a 4 6 = slice b 4 6
  ttl : slice a 8 10 = slice b 8 10
  rest : a.drop 12 = b.drop 12

theorem ip4Header_cut (header : List UInt8) :
    header = slice header 0 1 ++ slice header 1 2 ++ slice header 2 4 ++ slice header 4 6 ++ slice header 6 8 ++
      slice header 8 10 ++ slice header 10 12 ++ header.drop 12 := by
  rw [slice_zero,take_slice_append _ (by omega),take_slice_append _ (by omega),take_slice_append _ (by omega),
    take_slice_append _ (by omega),take_slice_append _ (by omega),take_slice_append _ (by omega),
    List.take_append_drop]

section SameIp4
variable {a b : List UInt8} {ecn total : Nat}

theorem SameIp4Header.length (same : SameIp4Header a b) (longA : 20 ≤ a.length) (longB : 20 ≤ b.length) :
    a.length = b.length := by
  have size := congrArg List.length same.rest
  simp only [List.length_drop] at size
  omega

theorem SameIp4Header.tos (same : SameIp4Header a b) : tosOctet a ecn = tosOctet b ecn := by
  rw [tosOctet,tosOctet,same.dscp]

theorem blank_kept (long : 20 ≤ a.length) (apart : y ≤ 1 ∨ (4 ≤ x ∧ y ≤ 6) ∨ (8 ≤ x ∧ y ≤ 10) ∨ 12 ≤ x) :
    slice (blankIp4Header a ecn total) x y = slice a x y := by
  refine slice_patched_apart (ip4Patches_fit long) ?_
  intro patch member
  simp only [ip4Patches,List.mem_cons,List.not_mem_nil,or_false] at member
  rcases member with rfl | rfl | rfl | rfl | rfl | rfl <;> simp [be16] <;> omega

theorem blank_cut (long : 20 ≤ a.length) :
    blankIp4Header a ecn total = slice a 0 1 ++ [tosOctet a ecn] ++ be16 total ++ slice a 4 6 ++ [0,0] ++ slice a 8 10 ++
      [0,0] ++ a.drop 12 := by
  have size := @blank_length _ ecn total long
  have read (front back : List (Nat × List UInt8)) (patch : Nat × List UInt8)
      (listed : ip4Patches a ecn total = front ++ patch :: back)
      (apart : ∀ later ∈ back, patch.1 + patch.2.length ≤ later.1 ∨ later.1 + later.2.length ≤ patch.1) :
      slice (blankIp4Header a ecn total) patch.1 (patch.1 + patch.2.length) = patch.2 := by
    rw [blankIp4Header,listed]
    exact slice_patched_self _ _ (listed ▸ ip4Patches_fit long) apart
  have tos := read [] _ (1,[tosOctet a ecn]) rfl (by simp [be16])
  have length := read [(1,[tosOctet a ecn])] _ (2,be16 total) rfl (by simp [be16])
  have flags := read [(1,[tosOctet a ecn]),(2,be16 total)] _ (6,[0]) rfl (by simp)
  have offset := read [(1,[tosOctet a ecn]),(2,be16 total),(6,[0])] _ (7,[0]) rfl (by simp)
  have high := read [(1,[tosOctet a ecn]),(2,be16 total),(6,[0]),(7,[0])] _ (10,[0]) rfl (by simp)
  have low := read [(1,[tosOctet a ecn]),(2,be16 total),(6,[0]),(7,[0]),(10,[0])] _ (11,[0]) rfl (by simp)
  have back : (blankIp4Header a ecn total).drop 12 = a.drop 12 := by
    rw [← slice_rest,size,blank_kept long (.inr (.inr (.inr (by omega)))),slice_rest]
  have fragment : slice (blankIp4Header a ecn total) 6 8 = [0,0] := by
    rw [← slice_append_slice _ (show 6 ≤ 7 by omega) (show 7 ≤ 8 by omega)]
    exact congrArg₂ (· ++ ·) flags offset
  have cksum : slice (blankIp4Header a ecn total) 10 12 = [0,0] := by
    rw [← slice_append_slice _ (show 10 ≤ 11 by omega) (show 11 ≤ 12 by omega)]
    exact congrArg₂ (· ++ ·) high low
  have whole := ip4Header_cut (blankIp4Header a ecn total)
  rw [blank_kept (x := 0) (y := 1) long (by omega),blank_kept (x := 4) (y := 6) long (by omega),
    blank_kept (x := 8) (y := 10) long (by omega),fragment,cksum,back] at whole
  rw [show slice (blankIp4Header a ecn total) 1 2 = [tosOctet a ecn] from tos,
    show slice (blankIp4Header a ecn total) 2 4 = be16 total from length] at whole
  exact whole

theorem SameIp4Header.blank (same : SameIp4Header a b) (longA : 20 ≤ a.length) (longB : 20 ≤ b.length) :
    blankIp4Header a ecn total = blankIp4Header b ecn total := by
  rw [blank_cut longA,blank_cut longB,same.ihl,same.tos,same.id,same.ttl,same.rest]

theorem newIp4Header_eq (a : List UInt8) (ecn total : Nat) :
    newIp4Header a ecn total =
      overwrite (blankIp4Header a ecn total) 10 (be16 (inetCksum [blankIp4Header a ecn total] 0)) := by
  rw [newIp4Header,patched_append]
  rfl

theorem SameIp4Header.new (same : SameIp4Header a b) (longA : 20 ≤ a.length) (longB : 20 ≤ b.length) :
    newIp4Header a ecn total = newIp4Header b ecn total := by
  rw [newIp4Header_eq,newIp4Header_eq,same.blank longA longB]

theorem SameIp4Header.rewritten (same : SameIp4Header a b) (longA : 20 ≤ a.length) (longB : 20 ≤ b.length) (size : Nat) :
    rewriteIp4Header a ecn size = rewriteIp4Header b ecn size := by
  have length := same.length longA longB
  by_cases small : a.length + size < 65536
  · rw [rewriteIp4Header_ok longA small,rewriteIp4Header_ok longB (by omega),length,same.new longA longB]
  · rw [rewriteIp4Header_oversize longA (by omega),rewriteIp4Header_oversize longB (by omega)]

end SameIp4

-- Every fragment's own header can be rebuilt over the joined payload.
structure Rebuildable (payload : List UInt8) (ecn : Nat) (packet : Ip4.Ip4Packet) : Prop where
  whole : packet.header.hlen ≤ packet.packetBytes.length
  bounded : packet.header.hlen + payload.length ≤ 65535
  carry : ¬CarryLost [blankIp4Header (fragmentIp4 packet).header ecn (packet.header.hlen + payload.length)] .plain

theorem captured_long (arrival : Ip4Arrival packet) : 20 ≤ (fragmentIp4 packet).header.length := by
  have parsed := Ip4.parsed_of_ok arrival.read
  have long := parsed.sound.long
  have least := parsed.sound.least
  have hlen : packet.header.hlen = Ip4.ihl packet.frame := by rw [parsed.fields]; rfl
  simp only [fragmentIp4,Ip4.Ip4Packet.packetBytes,List.length_take,hlen]
  omega

theorem Rebuildable.rebuilds (rebuildable : Rebuildable payload ecn packet) (arrival : Ip4Arrival packet) :
    (fragmentIp4 packet).header = packet.frame.take (Ip4.ihl packet.frame) ∧
      Ip4.HeaderSound packet.frame ∧
      reassembleIp4 ⟨.complete,(fragmentIp4 packet).header,payload,ecn⟩ =
        .ok (some (rebuilt packet.frame packet payload ecn)) := by
  have parsed := Ip4.parsed_of_ok arrival.read
  have hlen : packet.header.hlen = Ip4.ihl packet.frame := by rw [parsed.fields]; rfl
  have header : (fragmentIp4 packet).header = packet.frame.take (Ip4.ihl packet.frame) := by
    have whole := rebuildable.whole
    rw [Ip4.Ip4Packet.packetBytes,List.length_take] at whole
    simp only [fragmentIp4,Ip4.Ip4Packet.packetBytes,List.take_take]
    rw [hlen] at whole ⊢
    congr 1
    omega
  have bounded := rebuildable.bounded
  have carry := rebuildable.carry
  rw [hlen] at bounded carry
  rw [header] at carry
  refine ⟨header,parsed.sound,?_⟩
  rw [header]
  exact (reassembleIp4_ok parsed (Nat.lt_succ_of_le bounded) carry).1

theorem tos_masked (a b ecn : Nat) (same : (a &&& 0xFC) ||| (ecn &&& 0x03) = (b &&& 0xFC) ||| (ecn &&& 0x03)) :
    a &&& 0xFC = b &&& 0xFC := by
  have kept (n : Nat) : ((n &&& 0xFC) ||| (ecn &&& 0x03)) &&& 0xFC = n &&& 0xFC := by
    rw [Nat.and_or_distrib_right,Nat.and_assoc,Nat.and_assoc]
    simp
  rw [← kept a,same,kept b]

theorem same_of_rebuilt {p q : List UInt8} (soundP : Ip4.HeaderSound p) (soundQ : Ip4.HeaderSound q)
    (equal : wholeIp4 p payload ecn = wholeIp4 q payload ecn) :
    SameIp4Header (p.take (Ip4.ihl p)) (q.take (Ip4.ihl q)) := by
  have ihl : Ip4.ihl p = Ip4.ihl q := by
    rw [← @wholeIp4_ihl _ payload ecn soundP,equal,wholeIp4_ihl soundQ]
  have sizeP := header_taken soundP
  have sizeQ := header_taken soundQ
  have least := soundP.least
  have longP : 20 ≤ (p.take (Ip4.ihl p)).length := by omega
  have longQ : 20 ≤ (q.take (Ip4.ihl q)).length := by omega
  have new : newIp4Header (p.take (Ip4.ihl p)) ecn (Ip4.ihl p + payload.length) =
      newIp4Header (q.take (Ip4.ihl q)) ecn (Ip4.ihl q + payload.length) := by
    refine List.append_inj_left equal ?_
    rw [newIp4Header_length longP,newIp4Header_length longQ]
    omega
  have kept (x y : Nat) (apart : y ≤ 1 ∨ (4 ≤ x ∧ y ≤ 6) ∨ (8 ≤ x ∧ y ≤ 10) ∨ 12 ≤ x) :
      slice (p.take (Ip4.ihl p)) x y = slice (q.take (Ip4.ihl q)) x y := by
    rw [← @newIp4Header_kept _ ecn (Ip4.ihl p + payload.length) _ _ longP apart,new,
      newIp4Header_kept longQ apart]
  have tos : tosOctet (p.take (Ip4.ihl p)) ecn = tosOctet (q.take (Ip4.ihl q)) ecn := by
    have octets := @newIp4Header_tos _ ecn (Ip4.ihl p + payload.length) longP
    rw [new,newIp4Header_tos longQ] at octets
    exact (List.singleton_inj.mp octets).symm
  have dscp := congrArg UInt8.toNat tos
  simp only [tosOctet,UInt8.toNat_ofNat'] at dscp
  rw [Nat.mod_eq_of_lt (Nat.lt_succ_of_le (masked_octet _ _)),Nat.mod_eq_of_lt (Nat.lt_succ_of_le (masked_octet _ _))]
    at dscp
  refine ⟨kept 0 1 (by omega),tos_masked _ _ _ dscp,kept 4 6 (by omega),kept 8 10 (by omega),?_⟩
  have rest := kept 12 (Ip4.ihl p) (by omega)
  rw [← slice_rest,← slice_rest,sizeP,sizeQ,rest,ihl]

section Ip4Order
variable {flowId : IpFragFlowId} {payload : List UInt8} (pieces : Pieces ip4Receiver flowId payload)

theorem ip4_orderFree (arrivals : ∀ p ∈ pieces.all, Ip4Arrival p)
    (same : ∀ p ∈ pieces.all, SameIp4Header (fragmentIp4 p).header (fragmentIp4 pieces.first).header) :
    pieces.OrderFree := by
  rw [pieces.orderFree_iff]
  intro order perm lead last leads _
  have member : lead ∈ pieces.all := perm.mem_iff.mp (List.mem_of_head? leads)
  have rewritten (ecn size : Nat) := @SameIp4Header.rewritten _ _ ecn (same lead member) (captured_long (arrivals lead member))
    (captured_long (arrivals pieces.first (by simp [Pieces.all]))) size
  unfold Pieces.outcome Cut.verdict
  cases aggregateEcn (pieces.cut.fragments.map Fragment.ecn) with
  | none => rfl
  | some ecn =>
    simp only [Receiver.respond,if_true,ip4Receiver,reassembleIp4]
    rw [rewritten]

theorem ip4_sameHeader (arrivals : ∀ p ∈ pieces.all, Ip4Arrival p)
    (agreed : aggregateEcn (pieces.cut.fragments.map Fragment.ecn) = some ecn)
    (rebuildable : ∀ p ∈ pieces.all, Rebuildable payload ecn p) (free : pieces.OrderFree) :
    ∀ p ∈ pieces.all, SameIp4Header (fragmentIp4 p).header (fragmentIp4 pieces.first).header := by
  classical
  intro p member
  have perm : (p :: pieces.all.erase p).Perm pieces.all := (List.perm_cons_erase member).symm
  obtain ⟨last,ends⟩ : ∃ last, (p :: pieces.all.erase p).getLast? = some last :=
    ⟨_,List.getLast?_eq_some_getLast (by simp)⟩
  have outcome := pieces.orderFree_iff.mp free _ perm p last rfl ends
  have first : pieces.first ∈ pieces.all := by simp [Pieces.all]
  obtain ⟨headerP,soundP,builtP⟩ := (rebuildable p member).rebuilds (arrivals p member)
  obtain ⟨headerQ,soundQ,builtQ⟩ := (rebuildable pieces.first first).rebuilds (arrivals pieces.first first)
  simp only [Pieces.outcome,Cut.verdict,agreed,Receiver.respond,if_true,ip4Receiver] at outcome
  rw [builtP,builtQ] at outcome
  have frames := congrArg Ip4.Ip4Packet.frame (Option.some.inj (Except.ok.inj outcome))
  rw [headerP,headerQ]
  exact same_of_rebuilt soundP soundQ frames

end Ip4Order

-- Equal in every octet that the IPv6 rewrite keeps: version, DSCP, flow label,
-- hop limit and addresses.
structure SameIp6Header (a b : List UInt8) : Prop where
  version : slice a 0 1 = slice b 0 1
  dscp : (a[1]?.getD 0).toNat &&& 0xCF = (b[1]?.getD 0).toNat &&& 0xCF
  flow : slice a 2 4 = slice b 2 4
  rest : a.drop 7 = b.drop 7

section SameIp6
variable {a b : List UInt8} {ecn size next : Nat}

theorem newIp6Header_fields (long : a.length = 40) :
    slice (newIp6Header a ecn size next) 1 2 = [classOctet a ecn] ∧
      slice (newIp6Header a ecn size next) 4 6 = be16 size ∧
      slice (newIp6Header a ecn size next) 6 7 = [UInt8.ofNat next] := by
  refine ⟨?_,newIp6Header_dlen long,?_⟩
  · exact slice_patched_self [] (1,[classOctet a ecn]) (ip6Patches_fit long) (by simp [be16])
  · exact slice_patched_self [(1,[classOctet a ecn]),(4,be16 size)] (6,[UInt8.ofNat next])
      (ip6Patches_fit long) (by simp)

theorem newIp6Header_cut (long : a.length = 40) :
    newIp6Header a ecn size next =
      slice a 0 1 ++ [classOctet a ecn] ++ slice a 2 4 ++ be16 size ++ [UInt8.ofNat next] ++ a.drop 7 := by
  obtain ⟨octet,dlen,field⟩ := @newIp6Header_fields _ ecn size next long
  have length := @newIp6Header_length _ ecn next size long
  have rest : (newIp6Header a ecn size next).drop 7 = a.drop 7 := by
    rw [← slice_rest,length,newIp6Header_kept long (.inr (.inr (by omega))),← long,slice_rest]
  have whole : newIp6Header a ecn size next = slice (newIp6Header a ecn size next) 0 1 ++
      slice (newIp6Header a ecn size next) 1 2 ++ slice (newIp6Header a ecn size next) 2 4 ++
      slice (newIp6Header a ecn size next) 4 6 ++ slice (newIp6Header a ecn size next) 6 7 ++
      (newIp6Header a ecn size next).drop 7 := by
    rw [slice_zero,take_slice_append _ (by omega),take_slice_append _ (by omega),take_slice_append _ (by omega),
      take_slice_append _ (by omega),List.take_append_drop]
  rw [octet,dlen,field,rest,newIp6Header_kept (a := 0) (b := 1) long (by omega),
    newIp6Header_kept (a := 2) (b := 4) long (by omega)] at whole
  exact whole

theorem SameIp6Header.new (same : SameIp6Header a b) (longA : a.length = 40) (longB : b.length = 40) :
    newIp6Header a ecn size next = newIp6Header b ecn size next := by
  rw [newIp6Header_cut longA,newIp6Header_cut longB,same.version,same.flow,same.rest,classOctet,classOctet,same.dscp]

theorem SameIp6Header.rewritten (same : SameIp6Header a b) (longA : a.length = 40) (longB : b.length = 40)
    (octet : next ≤ 255) : rewriteIp6Header a ecn size next = rewriteIp6Header b ecn size next := by
  by_cases small : size < 65536
  · rw [rewriteIp6Header_ok longA small octet,rewriteIp6Header_ok longB small octet,same.new longA longB]
  · rw [rewriteIp6Header_oversize longA (by omega),rewriteIp6Header_oversize longB (by omega)]

theorem class_masked (a b ecn : Nat)
    (same : (a &&& 0xCF) ||| ((ecn &&& 0x03) <<< 4) = (b &&& 0xCF) ||| ((ecn &&& 0x03) <<< 4)) :
    a &&& 0xCF = b &&& 0xCF := by
  have bits : ((ecn &&& 0x03) <<< 4) &&& 0xCF = 0 := by
    have few : ecn &&& 0x03 < 4 := Nat.lt_of_le_of_lt Nat.and_le_right (by decide)
    generalize ecn &&& 0x03 = low at few ⊢
    revert low
    decide
  have kept (n : Nat) : ((n &&& 0xCF) ||| ((ecn &&& 0x03) <<< 4)) &&& 0xCF = n &&& 0xCF := by
    rw [Nat.and_or_distrib_right,Nat.and_assoc,bits]
    simp
  rw [← kept a,same,kept b]

theorem same_of_new {nextA nextB : Nat} (longA : a.length = 40) (longB : b.length = 40)
    (octetA : nextA ≤ 255) (octetB : nextB ≤ 255)
    (equal : newIp6Header a ecn size nextA = newIp6Header b ecn size nextB) : SameIp6Header a b ∧ nextA = nextB := by
  have kept (x y : Nat) (apart : y ≤ 1 ∨ (2 ≤ x ∧ y ≤ 4) ∨ 7 ≤ x) : slice a x y = slice b x y := by
    rw [← @newIp6Header_kept _ ecn nextA _ _ size longA apart,equal,newIp6Header_kept longB apart]
  obtain ⟨octet,_,field⟩ := @newIp6Header_fields _ ecn size nextA longA
  obtain ⟨octet',_,field'⟩ := @newIp6Header_fields _ ecn size nextB longB
  rw [equal,octet'] at octet
  rw [equal,field'] at field
  have dscp := congrArg UInt8.toNat (List.singleton_inj.mp octet)
  simp only [classOctet,UInt8.toNat_ofNat'] at dscp
  rw [Nat.mod_eq_of_lt (Nat.lt_succ_of_le (class_octet _ _)),Nat.mod_eq_of_lt (Nat.lt_succ_of_le (class_octet _ _))]
    at dscp
  have nexts := congrArg UInt8.toNat (List.singleton_inj.mp field)
  simp only [UInt8.toNat_ofNat'] at nexts
  have rest := kept 7 40 (by omega)
  nth_rewrite 1 [← longA] at rest
  rw [← longB,slice_rest,slice_rest] at rest
  exact ⟨⟨kept 0 1 (by omega),(class_masked _ _ _ dscp).symm,kept 2 4 (by omega),rest⟩,by omega⟩

end SameIp6

section Ip6Order
variable {flowId : IpFragFlowId} {payload : List UInt8} (pieces : Pieces ip6Receiver flowId payload)

theorem Ip6Arrival.fixed (arrival : Ip6Arrival arrived) : arrived.fragment.header.length = 40 := by
  have long := arrival.accepted.1.long
  change (arrived.packet.frame.take 40).length = 40
  rw [List.length_take,Nat.min_eq_left long]

-- The same header, and the same Next Header behind it.
def Agrees (a b : Ip6Fragment) : Prop := SameIp6Header a.fragment.header b.fragment.header ∧ a.frag.next = b.frag.next

theorem ip6_orderFree (arrivals : ∀ p ∈ pieces.all, Ip6Arrival p) (same : ∀ p ∈ pieces.all, Agrees p pieces.first) :
    pieces.OrderFree := by
  rw [pieces.orderFree_iff]
  intro order perm lead last leads ends
  have leading : lead ∈ pieces.all := perm.mem_iff.mp (List.mem_of_head? leads)
  have ending : last ∈ pieces.all := perm.mem_iff.mp (List.mem_of_getLast? ends)
  have first : pieces.first ∈ pieces.all := by simp [Pieces.all]
  have octet := (arrivals pieces.first first).short.1
  have rewritten (ecn size : Nat) := @SameIp6Header.rewritten _ _ ecn size _ (same lead leading).1
    (arrivals lead leading).fixed (arrivals pieces.first first).fixed octet
  unfold Pieces.outcome Cut.verdict
  cases aggregateEcn (pieces.cut.fragments.map Fragment.ecn) with
  | none => rfl
  | some ecn =>
    simp only [Receiver.respond,if_true,ip6Receiver,reassembleIp6]
    rw [(same last ending).2,rewritten]

theorem ip6_agrees (arrivals : ∀ p ∈ pieces.all, Ip6Arrival p)
    (agreed : aggregateEcn (pieces.cut.fragments.map Fragment.ecn) = some ecn) (small : payload.length ≤ 65535)
    (free : pieces.OrderFree) : ∀ p ∈ pieces.all, Agrees p pieces.first := by
  classical
  have first : pieces.first ∈ pieces.all := by simp [Pieces.all]
  -- the packet under one header and the Next Header of another is that of the first
  have joined (lead last : Ip6Fragment) (leading : lead ∈ pieces.all) (ending : last ∈ pieces.all)
      (outcome : pieces.outcome lead last = pieces.outcome pieces.first pieces.first) :
      SameIp6Header lead.fragment.header pieces.first.fragment.header ∧ last.frag.next = pieces.first.frag.next := by
    have octet := (arrivals last ending).short.1
    have octet' := (arrivals pieces.first first).short.1
    simp only [Pieces.outcome,Cut.verdict,agreed,Receiver.respond,if_true,ip6Receiver,reassembleIp6,
      rewriteIp6Header_ok (arrivals lead leading).fixed (Nat.lt_succ_of_le small) octet,
      rewriteIp6Header_ok (arrivals pieces.first first).fixed (Nat.lt_succ_of_le small) octet',ok_bind,pure_eq]
      at outcome
    have frames := congrArg PacketRx.frame (Option.some.inj (Except.ok.inj outcome))
    have headers := List.append_cancel_right frames
    exact same_of_new (arrivals lead leading).fixed (arrivals pieces.first first).fixed octet octet' headers
  intro p member
  constructor
  · have perm : (p :: pieces.all.erase p).Perm pieces.all := (List.perm_cons_erase member).symm
    obtain ⟨last,ends⟩ : ∃ last, (p :: pieces.all.erase p).getLast? = some last :=
      ⟨_,List.getLast?_eq_some_getLast (by simp)⟩
    have ending : last ∈ pieces.all := perm.mem_iff.mp (List.mem_of_getLast? ends)
    exact (joined p last member ending (pieces.orderFree_iff.mp free _ perm p last rfl ends)).1
  · have perm : (pieces.all.erase p ++ [p]).Perm pieces.all :=
      List.perm_append_comm.trans (List.perm_cons_erase member).symm
    obtain ⟨lead,leads⟩ : ∃ lead, (pieces.all.erase p ++ [p]).head? = some lead :=
      ⟨_,List.head?_eq_some_head (by simp)⟩
    have leading : lead ∈ pieces.all := perm.mem_iff.mp (List.mem_of_head? leads)
    exact (joined lead p leading member (pieces.orderFree_iff.mp free _ perm lead p leads (by simp))).2

end Ip6Order

-- The datagram does not depend on the order of arrival when its fragments'
-- headers agree; and, where every order hands one on, only then.
theorem reassembly_order_free (flowId : IpFragFlowId) (payload : List UInt8) :
    (∀ pieces : Pieces ip4Receiver flowId payload, (∀ p ∈ pieces.all, Ip4Arrival p) →
      ((∀ p ∈ pieces.all, SameIp4Header (fragmentIp4 p).header (fragmentIp4 pieces.first).header) →
        pieces.OrderFree) ∧
      ∀ ecn, aggregateEcn (pieces.cut.fragments.map Fragment.ecn) = some ecn →
        (∀ p ∈ pieces.all, Rebuildable payload ecn p) → pieces.OrderFree →
        ∀ p ∈ pieces.all, SameIp4Header (fragmentIp4 p).header (fragmentIp4 pieces.first).header) ∧
    ∀ pieces : Pieces ip6Receiver flowId payload, (∀ p ∈ pieces.all, Ip6Arrival p) →
      ((∀ p ∈ pieces.all, Agrees p pieces.first) → pieces.OrderFree) ∧
      ∀ ecn, aggregateEcn (pieces.cut.fragments.map Fragment.ecn) = some ecn →
        payload.length ≤ 65535 → pieces.OrderFree → ∀ p ∈ pieces.all, Agrees p pieces.first := by
  constructor
  · intro pieces arrivals
    exact ⟨ip4_orderFree pieces arrivals,fun ecn agreed rebuildable => ip4_sameHeader pieces arrivals agreed rebuildable⟩
  · intro pieces arrivals
    exact ⟨ip6_orderFree pieces arrivals,fun ecn agreed small => ip6_agrees pieces arrivals agreed small⟩

def halves (r : Receiver α β) (first second : α) (flowId : IpFragFlowId) (header other : List UInt8)
    (one : r.fragment first = ⟨flowId,0,[1,2,3,4,5,6,7,8],true,header,0⟩)
    (two : r.fragment second = ⟨flowId,8,[9,10,11,12,13,14,15,16],false,other,0⟩) :
    Pieces r flowId [1,2,3,4,5,6,7,8,9,10,11,12,13,14,15,16] where
  first := first
  others := [second]
  cut :=
    { fragments := [r.fragment first,r.fragment second]
      present := by simp
      flow := by simp [one,two]
      tiled := by rw [one,two]; exact ⟨rfl,rfl,trivial⟩
      whole := by rw [one,two]; rfl
      solid := by simp [Solid,one,Fragment.piece]
      aligned := by simp [one,two]
      more := by simp [one]
      final := by simp [two] }
  same := rfl

def udpFlow : IpFragFlowId := ⟨0x0A000001,0xC0A80002,7,some 17⟩
def udpFlow6 : IpFragFlowId := ⟨0x20010DB8000000000000000000000001,0x20010DB8000000000000000000000002,7,none⟩

def udpHalves :=
  halves ip4Receiver firstHalf secondHalf udpFlow (firstHalf.frame.take 20) (secondHalf.frame.take 20)
    (by decide +kernel) (by decide +kernel)

def firstHalf6 : Ip6Fragment := ip6Fragment 17 0x0001 [1,2,3,4,5,6,7,8]
def secondHalf6 (next : UInt8) : Ip6Fragment := ip6Fragment next 0x0008 [9,10,11,12,13,14,15,16]

def udpHalves6 :=
  halves ip6Receiver firstHalf6 (secondHalf6 17) udpFlow6 (firstHalf6.packet.frame.take 40)
    ((secondHalf6 17).packet.frame.take 40) (by decide +kernel) (by decide +kernel)

theorem reassembly_order_free_halves : udpHalves.OrderFree ∧ udpHalves6.OrderFree := by
  have refl4 : SameIp4Header (fragmentIp4 firstHalf).header (fragmentIp4 firstHalf).header := ⟨rfl,rfl,rfl,rfl,rfl⟩
  have refl6 : Agrees firstHalf6 firstHalf6 := ⟨⟨rfl,rfl,rfl,rfl⟩,rfl⟩
  refine ⟨((reassembly_order_free _ _).1 udpHalves ?_).1 ?_,((reassembly_order_free _ _).2 udpHalves6 ?_).1 ?_⟩
  · change ∀ p ∈ [firstHalf,secondHalf], Ip4Arrival p
    decide +kernel
  · change ∀ p ∈ [firstHalf,secondHalf], SameIp4Header (fragmentIp4 p).header (fragmentIp4 firstHalf).header
    simp only [List.forall_mem_cons,List.not_mem_nil,false_implies,implies_true,and_true]
    exact ⟨refl4,by decide +kernel,by decide +kernel,by decide +kernel,by decide +kernel,by decide +kernel⟩
  · change ∀ p ∈ [firstHalf6,secondHalf6 17], Ip6Arrival p
    decide +kernel
  · change ∀ p ∈ [firstHalf6,secondHalf6 17], Agrees p firstHalf6
    simp only [List.forall_mem_cons,List.not_mem_nil,false_implies,implies_true,and_true]
    exact ⟨refl6,⟨by decide +kernel,by decide +kernel,by decide +kernel,by decide +kernel⟩,by decide +kernel⟩

-- The second half took a longer way, or names another Next Header.
def lateHalf : Ip4.Ip4Packet := ip4Fragment [] 63 7 0x0001 0xB11E [9,10,11,12,13,14,15,16]

def lateHalves :=
  halves ip4Receiver firstHalf lateHalf udpFlow (firstHalf.frame.take 20) (lateHalf.frame.take 20)
    (by decide +kernel) (by decide +kernel)

def mixedHalves6 :=
  halves ip6Receiver firstHalf6 (secondHalf6 6) udpFlow6 (firstHalf6.packet.frame.take 40)
    ((secondHalf6 6).packet.frame.take 40) (by decide +kernel) (by decide +kernel)

-- The TTL is that of the fragment that arrived first, the IPv6 Next Header
-- that of the fragment that arrived last.
theorem reassembly_follows_arrival :
    ((∀ p ∈ lateHalves.all, Ip4Arrival p) ∧ ¬lateHalves.OrderFree ∧
      (ip4Receiver.handed udpFlow [.packet 0 firstHalf,.packet 0 lateHalf] emptyTable).map
          (·.map (·.map (·.header.ttl))) = [.ok none,.ok (some 64)] ∧
      (ip4Receiver.handed udpFlow [.packet 0 lateHalf,.packet 0 firstHalf] emptyTable).map
          (·.map (·.map (·.header.ttl))) = [.ok none,.ok (some 63)]) ∧
    (∀ p ∈ mixedHalves6.all, Ip6Arrival p) ∧ ¬mixedHalves6.OrderFree ∧
      (ip6Receiver.handed udpFlow6 [.packet 0 firstHalf6,.packet 0 (secondHalf6 6)] emptyTable).map
          (·.map (·.map fun rx => (Ip6.headerFields rx.frame).next)) = [.ok none,.ok (some 6)] ∧
      (ip6Receiver.handed udpFlow6 [.packet 0 (secondHalf6 6),.packet 0 firstHalf6] emptyTable).map
          (·.map (·.map fun rx => (Ip6.headerFields rx.frame).next)) = [.ok none,.ok (some 17)] := by
  have arrivals4 : ∀ p ∈ lateHalves.all, Ip4Arrival p := by
    change ∀ p ∈ [firstHalf,lateHalf], Ip4Arrival p
    decide +kernel
  have arrivals6 : ∀ p ∈ mixedHalves6.all, Ip6Arrival p := by
    change ∀ p ∈ [firstHalf6,secondHalf6 6], Ip6Arrival p
    decide +kernel
  refine ⟨⟨arrivals4,?_,by decide +kernel,by decide +kernel⟩,arrivals6,?_,by decide +kernel,by decide +kernel⟩
  · intro free
    have swapped := free _ _ (lateHalves.delivered [lateHalf,firstHalf] (.swap _ _ _))
    revert swapped
    change ip4Receiver.handed udpFlow [.packet 0 lateHalf,.packet 0 firstHalf] emptyTable = _ → False
    decide +kernel
  · intro free
    have forward := free _ _ (mixedHalves6.delivered [firstHalf6,secondHalf6 6] (.refl _))
    revert forward
    change ip6Receiver.handed udpFlow6 [.packet 0 firstHalf6,.packet 0 (secondHalf6 6)] emptyTable = _ → False
    decide +kernel

end PmdPytcp.Ip
