import PmdPytcp.Ip.Reassembly

namespace PmdPytcp.Ip
open Buffer Tiles Runs

-- What happens to the table: a fragment of some flow, or the housekeeping sweep.
inductive Event where
  | fragment (now : Int) (f : Fragment)
  | sweep (now : Int)
deriving Repr,DecidableEq

def Event.now : Event → Int
  | .fragment now _ => now
  | .sweep now => now

def Event.apply : Event → IpFragTable → IpFragTable
  | .fragment now f,table => (table.addFragment now f).2
  | .sweep now,table => table.sweepExpired now

def arrivals (flowId : IpFragFlowId) : List Event → List Fragment
  | [] => []
  | .sweep _ :: rest => arrivals flowId rest
  | .fragment _ f :: rest => if f.flowId = flowId then f :: arrivals flowId rest else arrivals flowId rest

-- What `add_fragment` returns to the fragments of one flow.
def answers (flowId : IpFragFlowId) : List Event → IpFragTable → List (Py IpFragAddResult)
  | [],_ => []
  | .sweep now :: rest,table => answers flowId rest (table.sweepExpired now)
  | .fragment now f :: rest,table =>
    if f.flowId = flowId then (table.addFragment now f).1 :: answers flowId rest (table.addFragment now f).2
    else answers flowId rest (table.addFragment now f).2

-- The flow does not expire under the event, and finds room when it opens.
def Undisturbed (flowId : IpFragFlowId) (event : Event) (table : IpFragTable) : Prop :=
  (table.flows.get flowId).all (fun data => event.now - data.timestamp < table.timeout) ∧
    match event with
    | .fragment now f => f.flowId = flowId → table.flows.get flowId = none →
        (table.sweepExpired now).flows.size < ipFragMaxFlows
    | .sweep _ => True

instance (flowId : IpFragFlowId) (event : Event) (table : IpFragTable) :
    Decidable (Undisturbed flowId event table) := by
  unfold Undisturbed
  cases event <;> infer_instance

def Fragment.piece (f : Fragment) : Piece UInt8 := (f.offset,f.payload)

-- The fragments of one datagram, in the order of their places. The last one
-- alone may be empty.
structure Cut (flowId : IpFragFlowId) (payload : List UInt8) where
  fragments : List Fragment
  present : fragments ≠ []
  flow : ∀ f ∈ fragments, f.flowId = flowId
  tiled : Tiled 0 (fragments.map Fragment.piece)
  whole : joined (fragments.map Fragment.piece) = payload
  solid : Solid (fragments.map Fragment.piece)
  aligned : ∀ f ∈ fragments, f.offset % 8 = 0
  more : ∀ f ∈ fragments.dropLast, f.flagMf = true
  final : (fragments.getLast present).flagMf = false

def EcnCompatible (fragments : List Fragment) : Prop :=
  (∀ f ∈ fragments, f.ecn = 0) ∨ ∀ f ∈ fragments, f.ecn ≠ 0

theorem aggregateEcn_perm {a b : List Nat} (perm : a.Perm b) : aggregateEcn a = aggregateEcn b := by
  have same := perm.dedup
  unfold aggregateEcn
  rcases first : a.dedup with _ | ⟨x,_ | ⟨y,rest⟩⟩
  · rw [first] at same
    rw [List.nil_perm.mp same]
  · rw [first] at same
    rw [List.singleton_perm.mp same]
  · rw [first] at same
    rcases second : b.dedup with _ | ⟨z,_ | ⟨w,others⟩⟩
    · rw [second] at same
      exact absurd same.length_eq (by simp)
    · rw [second] at same
      exact absurd same.length_eq (by simp)
    · rw [second] at same
      simp only [same.mem_iff]

theorem aggregateEcn_compatible {fragments : List Fragment} (present : fragments ≠ [])
    (compatible : EcnCompatible fragments) : ∃ ecn, aggregateEcn (fragments.map Fragment.ecn) = some ecn := by
  unfold aggregateEcn
  split
  · exact ⟨_,rfl⟩
  · next several =>
    rcases compatible with zero | nonzero
    · -- a list of zeros has one member
      exfalso
      have only : (fragments.map Fragment.ecn).dedup = [0] := by
        have constant : fragments.map Fragment.ecn = List.replicate fragments.length 0 :=
          List.eq_replicate_iff.mpr ⟨by simp,by simpa using zero⟩
        rw [constant]
        exact List.replicate_dedup (by simpa using present)
      exact several 0 only
    · have absent : 0 ∉ (fragments.map Fragment.ecn).dedup := by
        simpa using fun f member => nonzero f member
      rw [if_neg absent]
      split
      · exact ⟨_,rfl⟩
      · exact ⟨_,rfl⟩

-- The record holds these fragments of the flow, in their order of arrival.
structure Holds (data : IpFragData) (arrived : List Fragment) : Prop where
  payload : data.payload.entries = arrived.map Fragment.piece
  ecn : data.ecn.entries = arrived.map fun f => (f.offset,f.ecn)
  last : data.last = arrived.any fun f => !f.flagMf
  live : data.discarded = false
  lead : ∃ first rest, arrived = first :: rest ∧ data.header = first.header

theorem get_arrived_none {υ : Type} {d : Store Nat υ} {arrived : List Fragment}
    {value : Fragment → υ} (entries : d.entries = arrived.map fun f => (f.offset,value f))
    (fresh : ∀ g ∈ arrived, g.offset ≠ offset) : d.get offset = none := by
  rw [Store.get_eq_none,Store.keys,entries]
  intro member
  obtain ⟨_,inside,same⟩ := List.mem_map.mp member
  obtain ⟨g,arrived,rfl⟩ := List.mem_map.mp inside
  exact fresh g arrived same

theorem holds_opened (now : Int) (f : Fragment) : Holds (taken now f none) [f] := by
  simp only [taken]
  split
  · next more => exact ⟨rfl,rfl,by simp [IpFragData.opened,more],rfl,f,[],rfl,rfl⟩
  · next final => exact ⟨rfl,rfl,by simp [IpFragData.receivedLastFrag,final],rfl,f,[],rfl,rfl⟩

theorem Holds.taken {data : IpFragData} {arrived : List Fragment} (holds : Holds data arrived) (now : Int)
    {f : Fragment} (fresh : ∀ g ∈ arrived, g.offset ≠ f.offset) :
    Holds (taken now f (some data)) (arrived ++ [f]) := by
  have payload := Store.entries_set_new data.payload f.payload (get_arrived_none holds.payload fresh)
  have ecn := Store.entries_set_new data.ecn f.ecn (get_arrived_none holds.ecn fresh)
  rw [holds.payload] at payload
  rw [holds.ecn] at ecn
  obtain ⟨first,rest,order,header⟩ := holds.lead
  have lead : arrived ++ [f] = first :: (rest ++ [f]) := by rw [order]; rfl
  simp only [Ip.taken]
  split
  · next more =>
    refine ⟨?_,?_,?_,holds.live,first,_,lead,header⟩
    · simpa [IpFragData.insert,Fragment.piece] using payload
    · simpa [IpFragData.insert] using ecn
    · simp [IpFragData.insert,holds.last,more]
  · next final =>
    refine ⟨?_,?_,?_,holds.live,first,_,lead,header⟩
    · simpa [IpFragData.insert,IpFragData.receivedLastFrag,Fragment.piece] using payload
    · simpa [IpFragData.insert,IpFragData.receivedLastFrag] using ecn
    · simp [IpFragData.receivedLastFrag,final]

section Cut
variable {flowId : IpFragFlowId} {payload : List UInt8} (cut : Cut flowId payload)

theorem Cut.ascending : (cut.fragments.map Fragment.piece).Pairwise fun p q => p.1 < q.1 :=
  cut.tiled.ascending cut.solid

theorem Cut.distinct : cut.fragments.Pairwise fun f g => f.offset ≠ g.offset := by
  have ascending := cut.ascending
  rw [List.pairwise_map] at ascending
  exact ascending.imp fun below => Nat.ne_of_lt below

theorem Cut.atomic_iff (member : f ∈ cut.fragments) : f.Atomic ↔ cut.fragments = [f] := by
  obtain ⟨fragments,present,flow,tiled,whole,solid,aligned,more,final⟩ := cut
  simp only at member ⊢
  cases fragments with
  | nil => cases member
  | cons head rest =>
    have first : head.offset = 0 := tiled.1
    cases rest with
    | nil =>
      rw [List.mem_singleton] at member
      subst member
      exact iff_of_true ⟨first,final⟩ rfl
    | cons next others =>
      refine iff_of_false ?_ (by simp)
      rintro ⟨zero,last⟩
      rcases List.mem_cons.mp member with same | later
      · rw [more f (by rw [same]; simp [List.dropLast])] at last
        cases last
      · have behind := (List.pairwise_cons.mp (tiled.ascending solid)).1 f.piece
          (List.mem_map_of_mem later)
        simp only [Fragment.piece] at behind
        omega

variable {cut} {data : IpFragData} {arrived : List Fragment}

theorem offsets_of_part (part : (arrived ++ [f]).Subperm cut.fragments) : ∀ g ∈ arrived, g.offset ≠ f.offset := by
  have distinct : (arrived ++ [f]).Pairwise fun f g => f.offset ≠ g.offset := by
    obtain ⟨kept,perm,inside⟩ := part
    exact (cut.distinct.sublist inside).perm perm Ne.symm
  intro g earlier
  exact (List.pairwise_append.mp distinct).2.2 g earlier f (by simp)

theorem Holds.sublist (holds : Holds data arrived) (part : arrived.Subperm cut.fragments) :
    data.sorted.Sublist (cut.fragments.map Fragment.piece) := by
  refine sublist_of_ascending ?_ data.sorted_ascending cut.ascending
  obtain ⟨kept,perm,inside⟩ := part
  refine ⟨kept.map Fragment.piece,?_,inside.map _⟩
  exact (perm.map _).trans (holds.payload ▸ data.sorted_perm.symm)

theorem Holds.clear (holds : Holds data arrived) (part : (arrived ++ [f]).Subperm cut.fragments) :
    data.overlaps f = false := by
  have member (g : Fragment) (inside : g ∈ arrived ++ [f]) : g.piece ∈ cut.fragments.map Fragment.piece :=
    List.mem_map_of_mem (part.subset inside)
  have distinct := offsets_of_part part
  refine List.any_eq_false.mpr ?_
  rw [holds.payload]
  intro p stored
  obtain ⟨g,earlier,rfl⟩ := List.mem_map.mp stored
  have other : g.piece ≠ f.piece := by
    intro same
    exact distinct g earlier (congrArg Prod.fst same)
  have away := cut.tiled.apart (member g (by simp [earlier])) (member f (by simp)) other
  intro meets
  simp only [Bool.and_eq_true,decide_eq_true_eq] at meets
  simp only [Before,stop,Fragment.piece] at away meets
  omega

theorem Holds.incomplete (holds : Holds data arrived) (part : arrived.Subperm cut.fragments)
    (missing : arrived.length < cut.fragments.length) : ¬(data.last = true ∧ Tiled 0 data.sorted) := by
  rintro ⟨last,tiled⟩
  have inside := holds.sublist part
  have size : data.sorted.length = arrived.length := by
    rw [data.sorted_perm.length_eq,holds.payload,List.length_map]
  -- the final fragment is there, and it ends both tilings
  obtain ⟨g,arrived',closes⟩ := List.any_eq_true.mp (holds.last ▸ last)
  have final : g = cut.fragments.getLast cut.present := by
    by_contra other
    have before : g ∈ cut.fragments.dropLast := by
      have belongs := part.subset arrived'
      rw [← List.dropLast_append_getLast cut.present] at belongs
      rcases List.mem_append.mp belongs with early | late
      · exact early
      · exact absurd (List.mem_singleton.mp late) other
    simp [cut.more g before] at closes
  have top : (cut.fragments.map Fragment.piece).getLast? = some g.piece := by
    rw [List.getLast?_map,List.getLast?_eq_some_getLast cut.present,final]
    rfl
  have stored : g.piece ∈ data.sorted := by
    rw [data.sorted_perm.mem_iff,holds.payload]
    exact List.mem_map_of_mem arrived'
  have ends : data.sorted.getLast? = some g.piece :=
    getLast_of_sublist inside (cut.ascending.imp fun below same => by simp [same] at below) top stored
  have whole := cut.tiled.whole cut.solid inside tiled (by rw [top,ends])
  rw [whole,List.length_map] at size
  omega

theorem Holds.complete (holds : Holds data arrived) (all : arrived.Perm cut.fragments) :
    data.last = true ∧ data.sorted = cut.fragments.map Fragment.piece ∧
      aggregateEcn data.ecn.values = aggregateEcn (cut.fragments.map Fragment.ecn) := by
  refine ⟨?_,?_,?_⟩
  · rw [holds.last,List.any_eq_true]
    refine ⟨cut.fragments.getLast cut.present,all.mem_iff.mpr (List.getLast_mem _),?_⟩
    simp [cut.final]
  · refine List.Sublist.eq_of_length (holds.sublist all.subperm) ?_
    rw [data.sorted_perm.length_eq,holds.payload,List.length_map,List.length_map,all.length_eq]
  · rw [Store.values,holds.ecn,List.map_map]
    exact aggregateEcn_perm (all.map Fragment.ecn)

-- What the table knows of the flow once these fragments have arrived.
def Midway (table : IpFragTable) (flowId : IpFragFlowId) (arrived : List Fragment) : Prop :=
  match arrived with
  | [] => table.flows.get flowId = none
  | _ => ∃ data, table.flows.get flowId = some data ∧ Holds data arrived ∧ data.Apart

theorem IpFragTable.sweep_timely {table : IpFragTable}
    (timely : (table.flows.get flowId).all (fun data => now - data.timestamp < table.timeout)) :
    (table.sweepExpired now).flows.get flowId = table.flows.get flowId := by
  rw [table.get_sweep]
  cases found : table.flows.get flowId with
  | none => rfl
  | some data =>
    rw [found] at timely
    simp only [Option.all_some] at timely
    simp [Option.filter,timely]

theorem Midway.of_get {table after : IpFragTable} (midway : Midway table flowId arrived)
    (same : after.flows.get flowId = table.flows.get flowId) : Midway after flowId arrived := by
  cases arrived with
  | nil => exact same.trans midway
  | cons first rest =>
    obtain ⟨data,found,holds⟩ := midway
    exact ⟨data,same.trans found,holds⟩

theorem answers_nil {flowId : IpFragFlowId} {events : List Event} (none : arrivals flowId events = [])
    (table : IpFragTable) : answers flowId events table = [] := by
  induction events generalizing table with
  | nil => rfl
  | cons event rest ih =>
    cases event with
    | sweep now => exact ih none _
    | fragment now f =>
      simp only [arrivals] at none
      split at none
      · cases none
      · next other =>
        simp only [answers,if_neg other]
        exact ih none _

-- The header a record keeps is that of the first fragment to arrive.
def leadHeader (arrived : List Fragment) : List UInt8 := (arrived.head?.map Fragment.header).getD []

-- The answer to the fragment that closes the last gap.
def Cut.verdict (cut : Cut flowId payload) (header : List UInt8) : IpFragAddResult :=
  match aggregateEcn (cut.fragments.map Fragment.ecn) with
  | none => {outcome := .ecnMixedDrop}
  | some ecn => ⟨.complete,header,payload,ecn⟩

-- One fragment of the cut: it is stored, or it completes the datagram and the
-- flow's record goes.
def Progress (cut : Cut flowId payload) (arrived : List Fragment) (added : Py IpFragAddResult × IpFragTable) :
    Prop :=
  (arrived.length < cut.fragments.length ∧ added.1 = .ok {outcome := .pending} ∧
    Midway added.2 flowId arrived) ∨
  (arrived.length = cut.fragments.length ∧ added.1 = .ok (cut.verdict (leadHeader arrived)) ∧
    added.2.flows.get flowId = none)

theorem Holds.progress (holds : Holds data arrived) (apart : data.Apart)
    (part : arrived.Subperm cut.fragments) (table : IpFragTable) : Progress cut arrived (table.assemble flowId data) := by
  have outcome := table.assemble_cases flowId apart
  generalize table.assemble flowId data = added at outcome
  rcases Nat.lt_or_eq_of_le part.length_le with missing | all
  · have gap := holds.incomplete part missing
    cases outcome with
    | pending =>
      obtain ⟨first,rest,order,_⟩ := holds.lead
      refine .inl ⟨missing,rfl,?_⟩
      rw [order] at holds ⊢
      exact ⟨data,Store.get_set_self _ _ _,holds,apart⟩
    | mixed last tiled => exact absurd ⟨last,tiled⟩ gap
    | complete last tiled => exact absurd ⟨last,tiled⟩ gap
  · obtain ⟨closed,whole,ecns⟩ := holds.complete (part.perm_of_length_le (Nat.le_of_eq all.symm))
    have tiled : Tiled 0 data.sorted := whole ▸ cut.tiled
    refine .inr ⟨all,?_⟩
    unfold Cut.verdict
    rw [← ecns]
    cases outcome with
    | pending gap => exact absurd ⟨closed,tiled⟩ gap
    | mixed _ _ mixed =>
      rw [mixed]
      exact ⟨rfl,Store.get_erase_self _ _⟩
    | complete _ _ agreed =>
      obtain ⟨first,rest,order,header⟩ := holds.lead
      rw [agreed,whole,cut.whole,header,order]
      exact ⟨rfl,Store.get_erase_self _ _⟩

theorem Midway.step {table : IpFragTable} (midway : Midway table flowId arrived)
    (part : (arrived ++ [f]).Subperm cut.fragments) (undisturbed : Undisturbed flowId (.fragment now f) table) :
    Progress cut (arrived ++ [f]) (table.addFragment now f) := by
  have belongs : f ∈ cut.fragments := part.subset (by simp)
  have same := cut.flow f belongs
  have swept : (table.sweepExpired now).flows.get flowId = table.flows.get flowId :=
    IpFragTable.sweep_timely undisturbed.1
  have fresh := offsets_of_part part
  have outcome := table.addFragment_cases now f
  generalize table.addFragment now f = added at outcome
  cases outcome with
  | atomic whole =>
    have single := (cut.atomic_iff belongs).mp whole
    have only : arrived = [] := by
      have size := part.length_le
      rw [single] at size
      simp only [List.length_append,List.length_singleton] at size
      exact List.length_eq_zero_iff.mp (by omega)
    refine .inr ⟨by rw [only,single]; rfl,?_⟩
    have payload_eq := cut.whole
    rw [single] at payload_eq
    simp only [List.map_cons,List.map_nil,joined_cons,joined_nil,List.append_nil,Fragment.piece] at payload_eq
    have marks : aggregateEcn (cut.fragments.map Fragment.ecn) = some f.ecn := by
      rw [single]
      rfl
    rw [Cut.verdict,marks,payload_eq,only]
    rw [only] at midway
    exact ⟨rfl,midway⟩
  | dropped _ found marked =>
    rw [same,swept] at found
    cases arrived with
    | nil => rw [midway] at found; cases found
    | cons first rest =>
      obtain ⟨data,held,holds,_⟩ := midway
      rw [held] at found
      cases found
      rw [holds.live] at marked
      cases marked
  | refused _ absent full =>
    rw [same,swept] at absent
    have room := undisturbed.2 same absent
    omega
  | overlap _ found live meets =>
    rw [same,swept] at found
    cases arrived with
    | nil => rw [midway] at found; cases found
    | cons first rest =>
      obtain ⟨data,held,holds,_⟩ := midway
      rw [held] at found
      cases found
      rw [holds.clear part] at meets
      cases meets
  | into _ found live clear =>
    rw [same,swept] at found
    cases arrived with
    | nil => rw [midway] at found; cases found
    | cons first rest =>
      obtain ⟨data,held,holds,apart⟩ := midway
      rw [held] at found
      cases found
      rw [same]
      refine (holds.taken now fresh).progress (taken_apart now ?_) part _
      intro other held
      cases held
      exact ⟨apart,clear⟩
  | opens _ absent room =>
    rw [same,swept] at absent
    cases arrived with
    | nil =>
      rw [same]
      exact (holds_opened now f).progress (taken_apart now (fun _ held => by cases held)) part _
    | cons first rest =>
      obtain ⟨data,held,_⟩ := midway
      rw [held] at absent
      cases absent

theorem run_absent {table : IpFragTable} {events : List Event} (none : arrivals flowId events = [])
    (absent : table.flows.get flowId = .none) : (run Event.apply table events).flows.get flowId = .none := by
  have swept (table : IpFragTable) (now : Int) (absent : table.flows.get flowId = .none) :
      (table.sweepExpired now).flows.get flowId = .none := by
    rw [table.get_sweep,absent]
    rfl
  induction events generalizing table with
  | nil => exact absent
  | cons event rest ih =>
    cases event with
    | sweep now => exact ih none (swept table now absent)
    | fragment now f =>
      simp only [arrivals] at none
      split at none
      · cases none
      · next other =>
        refine ih none ?_
        rcases table.addFragment_other now f (Ne.symm other) with kept | dropped
        · exact kept.trans absent
        · exact dropped.trans (swept table now absent)

-- The rest of a run: pending until the last fragment, which completes it and
-- leaves no record of the flow.
theorem Midway.runs {table : IpFragTable} {events : List Event} (midway : Midway table flowId arrived)
    (order : (arrived ++ arrivals flowId events).Perm cut.fragments)
    (missing : arrived.length < cut.fragments.length)
    (undisturbed : Met Event.apply (Undisturbed flowId) events table) :
    answers flowId events table =
      List.replicate (cut.fragments.length - arrived.length - 1) (.ok {outcome := .pending}) ++
        [.ok (cut.verdict (leadHeader (arrived ++ arrivals flowId events)))] ∧
      (run Event.apply table events).flows.get flowId = none := by
  induction events generalizing table arrived with
  | nil =>
    simp only [arrivals,List.append_nil] at order
    exact absurd order.length_eq (Nat.ne_of_lt missing)
  | cons event rest ih =>
    obtain ⟨calm,later⟩ := undisturbed
    cases event with
    | sweep now =>
      exact ih (midway.of_get (IpFragTable.sweep_timely calm.1)) order missing later
    | fragment now f =>
      by_cases same : f.flowId = flowId
      · simp only [arrivals,same,if_true] at order
        simp only [Ip.answers,same,if_true]
        have part : (arrived ++ [f]).Subperm cut.fragments := by
          refine List.Subperm.trans (List.Sublist.subperm ?_) order.subperm
          simp
        rcases midway.step part calm with ⟨short,pending,onward⟩ | ⟨full,complete,freed⟩
        · obtain ⟨others,gone⟩ := ih onward (by simpa using order) short later
          have left : cut.fragments.length - arrived.length - 1 =
              (cut.fragments.length - (arrived ++ [f]).length - 1) + 1 := by
            simp only [List.length_append,List.length_singleton] at short ⊢
            omega
          refine ⟨?_,gone⟩
          rw [pending,others,left,List.replicate_succ,List.append_assoc]
          simp only [arrivals,same,if_true]
          rfl
        · have done : arrivals flowId rest = [] := by
            have size := order.length_eq
            simp only [List.length_append,List.length_cons,List.length_nil] at size full
            exact List.length_eq_zero_iff.mp (by omega)
          refine ⟨?_,@run_absent _ (table.addFragment now f).2 rest done freed⟩
          rw [complete,answers_nil done]
          simp only [List.length_append,List.length_singleton] at full
          rw [show cut.fragments.length - arrived.length - 1 = 0 by omega]
          simp only [arrivals,same,if_true,done]
          rfl
      · simp only [arrivals,same,if_false] at order
        simp only [Ip.answers,arrivals,same,if_false]
        refine ih (midway.of_get ?_) order missing later
        rcases table.addFragment_other now f (Ne.symm same) with kept | swept
        · exact kept
        · exact swept.trans (IpFragTable.sweep_timely calm.1)

end Cut

-- Completion is reported once, to the fragment that was still missing, with
-- the bytes that were cut, and the flow is forgotten.
theorem cut_reassembles (cut : Cut flowId payload) (table : IpFragTable) (events : List Event)
    (fresh : table.flows.get flowId = none) (order : (arrivals flowId events).Perm cut.fragments)
    (undisturbed : Met Event.apply (Undisturbed flowId) events table)
    (compatible : EcnCompatible cut.fragments) :
    (∃ header ecn, answers flowId events table =
      List.replicate (cut.fragments.length - 1) (.ok {outcome := .pending}) ++
        [.ok {outcome := .complete,header := header,payload := payload,ecn := ecn}]) ∧
    (run Event.apply table events).flows.get flowId = none := by
  obtain ⟨all,gone⟩ := @Midway.runs _ _ _ [] _ _ fresh order (List.length_pos_of_ne_nil cut.present) undisturbed
  obtain ⟨ecn,agreed⟩ := aggregateEcn_compatible cut.present compatible
  rw [Cut.verdict,agreed] at all
  exact ⟨⟨_,ecn,all⟩,gone⟩

-- Sixteen octets in two fragments between 10.0.0.1 and 10.0.0.2.
def echoFlow : IpFragFlowId := ⟨0x0A000001,0x0A000002,7,some 1⟩

def echoFragment (offset : Nat) (payload : List UInt8) (flagMf : Bool) (ecn : Nat) : Fragment :=
  ⟨echoFlow,offset,payload,flagMf,[],ecn⟩

def echoCut (first second : Nat) : Cut echoFlow [1,2,3,4,5,6,7,8,9,10,11,12,13,14,15,16] where
  fragments := [echoFragment 0 [1,2,3,4,5,6,7,8] true first,echoFragment 8 [9,10,11,12,13,14,15,16] false second]
  present := by simp
  flow := by simp [echoFragment]
  tiled := ⟨rfl,rfl,trivial⟩
  whole := rfl
  solid := by simp [Solid,echoFragment,Fragment.piece]
  aligned := by simp [echoFragment]
  more := by simp [echoFragment]
  final := rfl

-- The second half first, between two fragments of another flow and a sweep.
def echoEvents (first second : Nat) : List Event :=
  [.fragment 0 ⟨⟨0x0A000009,0x0A000002,7,some 1⟩,16,[1,2],false,[],0⟩,
    .fragment 1 (echoFragment 8 [9,10,11,12,13,14,15,16] false second),.sweep 20,
    .fragment 30 ⟨⟨0x0A000009,0x0A000002,7,some 1⟩,0,[3,4],true,[],0⟩,
    .fragment 40 (echoFragment 0 [1,2,3,4,5,6,7,8] true first)]

theorem cut_reassembles_reversed :
    (∃ header ecn, answers echoFlow (echoEvents 2 3) emptyTable =
      [.ok {outcome := .pending},
        .ok {outcome := .complete,header := header,payload := [1,2,3,4,5,6,7,8,9,10,11,12,13,14,15,16],ecn := ecn}]) ∧
    (run Event.apply emptyTable (echoEvents 2 3)).flows.get echoFlow = none :=
  cut_reassembles (echoCut 2 3) emptyTable (echoEvents 2 3) rfl (.swap _ _ _) (by decide +kernel)
    (.inr (by simp [echoCut,echoFragment]))

-- Not-ECT on one fragment and ECT(0) on the other: RFC 3168 has it dropped.
theorem cut_mixed_ecn_dropped :
    (arrivals echoFlow (echoEvents 0 2)).Perm (echoCut 0 2).fragments ∧
      Met Event.apply (Undisturbed echoFlow) (echoEvents 0 2) emptyTable ∧
      answers echoFlow (echoEvents 0 2) emptyTable = [.ok {outcome := .pending},.ok {outcome := .ecnMixedDrop}] ∧
      ¬∃ header ecn, answers echoFlow (echoEvents 0 2) emptyTable = [.ok {outcome := .pending},
        .ok {outcome := .complete,header := header,payload := [1,2,3,4,5,6,7,8,9,10,11,12,13,14,15,16],ecn := ecn}] := by
  have dropped : answers echoFlow (echoEvents 0 2) emptyTable =
      [.ok {outcome := .pending},.ok {outcome := .ecnMixedDrop}] := by decide +kernel
  refine ⟨.swap _ _ _,by decide +kernel,dropped,?_⟩
  rintro ⟨header,ecn,complete⟩
  rw [dropped] at complete
  simp at complete

end PmdPytcp.Ip
