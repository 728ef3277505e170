import PmdPytcp.Ip.FragTable
import PmdPytcp.Lib.Runs

namespace PmdPytcp.Ip
open Buffer Tiles

theorem IpFragData.mem_sorted {data : IpFragData} {p : Piece UInt8} :
    p ∈ data.sorted ↔ data.payload.get p.1 = some p.2 := by
  obtain ⟨offset,chunk⟩ := p
  simp only [IpFragData.sorted,List.mem_map,List.mem_insertionSort]
  constructor
  · rintro ⟨key,member,same⟩
    obtain ⟨rfl,value⟩ := Prod.mk.inj same
    obtain ⟨stored,found⟩ := Store.mem_keys.mp member
    rw [found] at value ⊢
    exact congrArg some value
  · intro found
    exact ⟨offset,Store.mem_keys.mpr ⟨chunk,found⟩,by rw [found]; rfl⟩

theorem IpFragData.sorted_ascending (data : IpFragData) : data.sorted.Pairwise (fun p q => p.1 < q.1) := by
  unfold IpFragData.sorted
  rw [List.pairwise_map]
  have ordered := List.pairwise_insertionSort (· ≤ ·) data.payload.keys
  have distinct : (data.payload.keys.insertionSort (· ≤ ·)).Pairwise (· ≠ ·) :=
    (List.perm_insertionSort (· ≤ ·) data.payload.keys).nodup_iff.mpr data.payload.unique
  exact (ordered.and distinct).imp fun both => by
    obtain ⟨below,other⟩ := both
    omega

theorem IpFragData.sorted_perm (data : IpFragData) : data.sorted.Perm data.payload.entries := by
  have listed : data.payload.keys.map (fun offset => (offset,(data.payload.get offset).getD [])) =
      data.payload.entries := by
    unfold Store.keys
    rw [List.map_map]
    conv_rhs => rw [← List.map_id data.payload.entries]
    refine List.map_congr_left ?_
    intro p member
    have found : data.payload.get p.1 = some p.2 := Store.get_eq_some.mpr member
    simp [found]
  unfold IpFragData.sorted
  rw [← listed]
  exact (List.perm_insertionSort _ _).map _

def IpFragData.Apart (data : IpFragData) : Prop :=
  ∀ p q : Piece UInt8, data.payload.get p.1 = some p.2 → data.payload.get q.1 = some q.2 →
    p.1 < q.1 → Before p q

theorem IpFragData.Apart.sorted {data : IpFragData} (apart : data.Apart) : data.sorted.Pairwise Before := by
  refine (List.pairwise_iff_forall_sublist.mpr ?_)
  intro p q pair
  have below := List.pairwise_iff_forall_sublist.mp data.sorted_ascending pair
  have members := pair.subset
  exact apart p q (mem_sorted.mp (members (by simp))) (mem_sorted.mp (members (by simp))) below

theorem payloadLen_eq {start : Nat} {entries : List (Piece UInt8)} (apart : entries.Pairwise Before)
    (after : ∀ p ∈ entries, start ≤ p.1) (len : Nat) :
    payloadLen start entries = some len ↔ Tiled start entries ∧ len = start + (joined entries).length := by
  induction entries generalizing start with
  | nil => simp [payloadLen,Tiled,eq_comm]
  | cons head rest ih =>
    obtain ⟨following,others⟩ := List.pairwise_cons.mp apart
    have first := after head (by simp)
    unfold payloadLen Tiled
    split
    · next gap =>
      constructor
      · intro impossible
        cases impossible
      · rintro ⟨⟨here,_⟩,_⟩
        omega
    · next closed =>
      have here : head.1 = start := by omega
      rw [show head.1 + head.2.length = stop head from rfl,ih others following]
      simp only [stop,here,true_and,joined_cons,List.length_append,Nat.add_assoc]

theorem packAll_tiled {entries : List (Piece UInt8)} {front back : List UInt8}
    (tiled : Tiled front.length entries) (room : back.length = (joined entries).length) :
    packAll (front ++ back) entries = .ok (front ++ joined entries) := by
  induction entries generalizing front back with
  | nil =>
    have none : back = [] := List.length_eq_zero_iff.mp room
    simp [packAll,none]
  | cons head rest ih =>
    obtain ⟨here,others⟩ := tiled
    simp only [joined_cons,List.length_append] at room
    have packed : packInto (front ++ back) head.1 head.2 =
        .ok ((front ++ head.2) ++ back.drop head.2.length) := by
      unfold packInto
      rw [if_pos (by simp only [List.length_append]; omega),here,overwrite,List.take_left,
        List.drop_length_add_append]
    have next := @ih (front ++ head.2) (back.drop head.2.length)
      (by simpa [stop,here] using others) (by simp only [List.length_drop]; omega)
    simp only [packAll,List.foldlM_cons,packed,ok_bind] at next ⊢
    rw [next,joined_cons,List.append_assoc]

-- What a record with an arrived fragment in it leads to.
inductive Assembled (table : IpFragTable) (flowId : IpFragFlowId) (data : IpFragData) :
    Py IpFragAddResult × IpFragTable → Prop where
  | pending (gap : ¬(data.last = true ∧ Tiled 0 data.sorted)) :
      Assembled table flowId data
        (.ok {outcome := .pending},{table with flows := table.flows.set flowId data})
  | mixed (last : data.last = true) (tiled : Tiled 0 data.sorted) (ecn : aggregateEcn data.ecn.values = none) :
      Assembled table flowId data
        (.ok {outcome := .ecnMixedDrop},{table with flows := (table.flows.set flowId data).erase flowId})
  | complete (last : data.last = true) (tiled : Tiled 0 data.sorted) (ecn : aggregateEcn data.ecn.values = some e) :
      Assembled table flowId data
        (.ok {outcome := .complete,header := data.header,payload := joined data.sorted,ecn := e},
          {table with flows := (table.flows.set flowId data).erase flowId})

theorem IpFragTable.assemble_cases (table : IpFragTable) (flowId : IpFragFlowId) {data : IpFragData}
    (apart : data.Apart) : Assembled table flowId data (table.assemble flowId data) := by
  have walk := payloadLen_eq apart.sorted (fun p _ => Nat.zero_le p.1)
  unfold IpFragTable.assemble
  cases last : data.last with
  | false => exact .pending (by simp [last])
  | true =>
    rw [if_neg (by simp)]
    cases reached : payloadLen 0 data.sorted with
    | none =>
      refine .pending ?_
      rintro ⟨_,tiled⟩
      rw [(walk _).mpr ⟨tiled,rfl⟩] at reached
      cases reached
    | some len =>
      obtain ⟨tiled,total⟩ := (walk len).mp reached
      cases ecn : aggregateEcn data.ecn.values with
      | none => exact .mixed last tiled ecn
      | some e =>
        have packed := @packAll_tiled _ [] (List.replicate len 0) tiled (by simp [total])
        simp only [List.nil_append] at packed
        simp only [packed]
        exact .complete last tiled ecn

-- The record an arriving fragment leaves behind when it is taken in.
def taken (now : Int) (f : Fragment) (found : Option IpFragData) : IpFragData :=
  let data := match found with
    | some data => data.insert f
    | none => .opened now f
  if f.flagMf then data else data.receivedLastFrag

inductive Added (now : Int) (f : Fragment) (table : IpFragTable) : Py IpFragAddResult × IpFragTable → Prop where
  | atomic (whole : f.Atomic) :
      Added now f table (.ok {outcome := .complete,header := f.header,payload := f.payload,ecn := f.ecn},table)
  | dropped (part : ¬f.Atomic) (found : (table.sweepExpired now).flows.get f.flowId = some data)
      (marked : data.discarded = true) :
      Added now f table (.ok {outcome := .discarded},table.sweepExpired now)
  | refused (part : ¬f.Atomic) (absent : (table.sweepExpired now).flows.get f.flowId = none)
      (full : ipFragMaxFlows ≤ (table.sweepExpired now).flows.size) :
      Added now f table (.ok {outcome := .discarded},table.sweepExpired now)
  | overlap (part : ¬f.Atomic) (found : (table.sweepExpired now).flows.get f.flowId = some data)
      (live : data.discarded = false) (meets : data.overlaps f = true) :
      Added now f table (.ok {outcome := .overlap},
        {table.sweepExpired now with flows := (table.sweepExpired now).flows.set f.flowId data.markDiscarded})
  | into (part : ¬f.Atomic) (found : (table.sweepExpired now).flows.get f.flowId = some data)
      (live : data.discarded = false) (clear : data.overlaps f = false) :
      Added now f table ((table.sweepExpired now).assemble f.flowId (taken now f (some data)))
  | opens (part : ¬f.Atomic) (absent : (table.sweepExpired now).flows.get f.flowId = none)
      (room : (table.sweepExpired now).flows.size < ipFragMaxFlows) :
      Added now f table ((table.sweepExpired now).assemble f.flowId (taken now f none))

theorem IpFragTable.addFragment_cases (now : Int) (f : Fragment) (table : IpFragTable) :
    Added now f table (table.addFragment now f) := by
  unfold IpFragTable.addFragment
  split
  · next whole => exact .atomic whole
  · next part =>
    cases found : (table.sweepExpired now).flows.get f.flowId with
    | some data =>
      simp only [found]
      split
      · next marked => exact .dropped part found marked
      · next live =>
        have live : data.discarded = false := by simpa using live
        split
        · next meets => exact .overlap part found live meets
        · next clear => exact .into part found live (by simpa using clear)
    | none =>
      simp only [found]
      split
      · next full => exact .refused part found full
      · next room => exact .opens part found (by simpa using room)

theorem IpFragTable.assemble_other (table : IpFragTable) {flowId other : IpFragFlowId} (data : IpFragData)
    (differs : other ≠ flowId) : (table.assemble flowId data).2.flows.get other = table.flows.get other := by
  unfold IpFragTable.assemble
  have kept := Store.get_set_other table.flows data differs
  have freed := Store.get_erase_other (table.flows.set flowId data) differs
  repeat' split
  all_goals first | exact kept | exact freed.trans kept

theorem IpFragTable.addFragment_other (now : Int) (f : Fragment) (table : IpFragTable)
    (differs : other ≠ f.flowId) :
    (table.addFragment now f).2.flows.get other = table.flows.get other ∨
      (table.addFragment now f).2.flows.get other = (table.sweepExpired now).flows.get other := by
  have outcome := table.addFragment_cases now f
  generalize table.addFragment now f = added at outcome
  cases outcome with
  | atomic => exact .inl rfl
  | dropped => exact .inr rfl
  | refused => exact .inr rfl
  | overlap => exact .inr (Store.get_set_other _ _ differs)
  | into => exact .inr (IpFragTable.assemble_other _ _ differs)
  | opens => exact .inr (IpFragTable.assemble_other _ _ differs)

theorem IpFragTable.get_sweep (table : IpFragTable) (now : Int) (flowId : IpFragFlowId) :
    (table.sweepExpired now).flows.get flowId =
      (table.flows.get flowId).filter fun data => now - data.timestamp < table.timeout := by
  unfold IpFragTable.sweepExpired
  rw [Store.get_filter]

theorem IpFragData.overlaps_eq_false {data : IpFragData} {f : Fragment} (clear : data.overlaps f = false)
    (stored : data.payload.get p.1 = some p.2) : stop p ≤ f.offset ∨ f.stop ≤ p.1 := by
  have member : p ∈ data.payload.entries := Store.get_eq_some.mp stored
  have apart := List.any_eq_false.mp clear p member
  simp only [Bool.and_eq_true,decide_eq_true_eq,not_and,Nat.not_lt] at apart
  simp only [stop,Fragment.stop]
  omega

theorem IpFragData.Apart.insert {data : IpFragData} (apart : data.Apart) {f : Fragment}
    (clear : data.overlaps f = false) : (data.insert f).Apart := by
  intro p q first second below
  simp only [IpFragData.insert,Store.get_set] at first second
  split at first
  · next here =>
    have chunk := Option.some.inj first
    have other : q.1 ≠ f.offset := by omega
    rw [if_neg other] at second
    have away := overlaps_eq_false clear second
    simp only [stop,Fragment.stop,Before,← chunk] at away ⊢
    omega
  · next elsewhere =>
    split at second
    · next here =>
      have away := overlaps_eq_false clear first
      simp only [stop,Fragment.stop,Before] at away ⊢
      omega
    · next other => exact apart p q first second below

theorem IpFragData.opened_apart (now : Int) (f : Fragment) : (IpFragData.opened now f).Apart := by
  intro p q first second below
  simp only [IpFragData.opened,Store.get_set] at first second
  split at first
  · next here =>
    split at second
    · next there => omega
    · next => exact absurd second (by simp [Store.get,Store.empty,Dict.get])
  · next => exact absurd first (by simp [Store.get,Store.empty,Dict.get])

theorem taken_apart (now : Int) {f : Fragment} {found : Option IpFragData}
    (apart : ∀ data, found = some data → data.Apart ∧ data.overlaps f = false) : (taken now f found).Apart := by
  cases found with
  | none =>
    simp only [taken]
    split
    · exact IpFragData.opened_apart now f
    · exact IpFragData.opened_apart now f
  | some data =>
    obtain ⟨before,clear⟩ := apart data rfl
    simp only [taken]
    split
    · exact before.insert clear
    · exact before.insert clear

end PmdPytcp.Ip
