import PmdPytcp.Ip.Cut

namespace PmdPytcp.Ip
open Buffer Tiles Runs

-- The table, and the fragments one flow has received since its record was opened.
structure Ledger where
  table : IpFragTable
  received : List Fragment
deriving Repr,DecidableEq

-- What the record that an event at `now` finds was built from.
def Ledger.standing (flowId : IpFragFlowId) (now : Int) (ledger : Ledger) : List Fragment :=
  if ((ledger.table.sweepExpired now).flows.get flowId).isSome then ledger.received else []

def Ledger.next (flowId : IpFragFlowId) (event : Event) (ledger : Ledger) : Ledger where
  table := event.apply ledger.table
  received := match event with
    | .fragment now f =>
      -- an atomic fragment is reassembled in isolation
      if f.flowId = flowId ∧ ¬f.Atomic then ledger.standing flowId now ++ [f] else ledger.received
    | .sweep _ => ledger.received

def Unopened (flowId : IpFragFlowId) (ledger : Ledger) : Prop :=
  ledger.table.flows.get flowId = none ∧ ledger.received = []

-- A fragment that the overlap test lets through is not empty over a chunk
-- that is not, does not reach past a final fragment, and, being final, does
-- not stop short of an earlier one.
def Fits (received : List Fragment) (f : Fragment) : Prop :=
  (f.payload = [] → ∀ g ∈ received, g.offset = f.offset → g.payload = []) ∧
    ∀ g ∈ received, (g.flagMf = false → f.stop ≤ g.stop) ∧ (f.flagMf = false → g.stop ≤ f.stop)

instance (received : List Fragment) (f : Fragment) : Decidable (Fits received f) :=
  inferInstanceAs (Decidable (_ ∧ _))

def Orderly (flowId : IpFragFlowId) (event : Event) (ledger : Ledger) : Prop :=
  match event with
  | .fragment now f => f.flowId = flowId → ¬f.Atomic →
      ((ledger.table.sweepExpired now).flows.get flowId).all (fun data => !data.discarded && !data.overlaps f) →
        Fits (ledger.standing flowId now) f
  | .sweep _ => True

instance (flowId : IpFragFlowId) (event : Event) (ledger : Ledger) : Decidable (Orderly flowId event ledger) :=
  match event with
  | .fragment .. => inferInstanceAs (Decidable (_ → _ → _ → _))
  | .sweep _ => .isTrue trivial

-- A payload that is the received fragments end to end: it stops where a final
-- fragment stops, and every fragment's octets stand in it at their place.
def Faithful (received : List Fragment) (payload : List UInt8) : Prop :=
  (∃ chosen : List Fragment, (∀ g ∈ chosen, g ∈ received) ∧ Tiled 0 (chosen.map Fragment.piece) ∧
    joined (chosen.map Fragment.piece) = payload) ∧
  (∃ g ∈ received, g.flagMf = false ∧ g.stop = payload.length) ∧
  ∀ g ∈ received, g.stop ≤ payload.length ∧ (payload.drop g.offset).take g.payload.length = g.payload

structure Record (data : IpFragData) (received : List Fragment) : Prop where
  apart : data.Apart
  sources : ∀ p : Piece UInt8, data.payload.get p.1 = some p.2 → ∃ g ∈ received, g.piece = p
  stored : ∀ g ∈ received, ∃ chunk, data.payload.get g.offset = some chunk ∧ (g.payload ≠ [] → chunk = g.payload)
  last : data.last = true → ∃ g ∈ received, g.flagMf = false
  bounded : ∀ g ∈ received, g.flagMf = false → ∀ h ∈ received, h.stop ≤ g.stop

theorem record_opened (now : Int) (f : Fragment) : Record (taken now f none) [f] := by
  have apart : (taken now f none).Apart := taken_apart now (fun _ held => by cases held)
  have payload : (taken now f none).payload = Store.empty.set f.offset f.payload := by
    simp only [taken]
    split
    · rfl
    · rfl
  refine ⟨apart,?_,?_,?_,?_⟩
  · intro p stored
    rw [payload,Store.get_set] at stored
    split at stored
    · next here => exact ⟨f,by simp,Prod.ext here.symm (Option.some.inj stored)⟩
    · exact absurd stored (by simp [Store.get,Store.empty,Dict.get])
  · intro g member
    rw [List.mem_singleton.mp member,payload]
    exact ⟨f.payload,Store.get_set_self _ _ _,fun _ => rfl⟩
  · intro last
    simp only [taken] at last
    split at last
    · next more => exact absurd last (by simp [IpFragData.opened])
    · next final => exact ⟨f,by simp,by simpa using final⟩
  · intro g first _ h second
    rw [List.mem_singleton.mp first,List.mem_singleton.mp second]

theorem Record.taken {data : IpFragData} {received : List Fragment} (record : Record data received)
    (now : Int) {f : Fragment} (clear : data.overlaps f = false) (fits : Fits received f) :
    Record (taken now f (some data)) (received ++ [f]) := by
  have apart : (Ip.taken now f (some data)).Apart := taken_apart now (fun other held => by
    cases held
    exact ⟨record.apart,clear⟩)
  have payload : (Ip.taken now f (some data)).payload = data.payload.set f.offset f.payload := by
    simp only [Ip.taken]
    split
    · rfl
    · rfl
  refine ⟨apart,?_,?_,?_,?_⟩
  · intro p stored
    rw [payload,Store.get_set] at stored
    split at stored
    · next here => exact ⟨f,by simp,Prod.ext here.symm (Option.some.inj stored)⟩
    · obtain ⟨g,member,same⟩ := record.sources p stored
      exact ⟨g,by simp [member],same⟩
  · intro g member
    rw [payload,Store.get_set]
    rcases List.mem_append.mp member with earlier | new
    · obtain ⟨chunk,found,kept⟩ := record.stored g earlier
      split
      · next here =>
        refine ⟨f.payload,rfl,?_⟩
        intro filled
        -- a second fragment at the same place got past the overlap test: it is empty
        have away := IpFragData.overlaps_eq_false (p := (g.offset,chunk)) clear found
        rw [kept filled] at away
        have long := List.length_pos_of_ne_nil filled
        simp only [stop,Fragment.stop] at away
        have empty : f.payload = [] := List.length_eq_zero_iff.mp (by omega)
        exact absurd (fits.1 empty g earlier here) filled
      · exact ⟨chunk,found,kept⟩
    · rw [List.mem_singleton.mp new,if_pos rfl]
      exact ⟨f.payload,rfl,fun _ => rfl⟩
  · intro last
    simp only [Ip.taken] at last
    split at last
    · next more =>
      obtain ⟨g,member,final⟩ := record.last last
      exact ⟨g,by simp [member],final⟩
    · next final => exact ⟨f,by simp,by simpa using final⟩
  · intro g first final h second
    rcases List.mem_append.mp first with earlier | new
    · rcases List.mem_append.mp second with old | newer
      · exact record.bounded g earlier final h old
      · rw [List.mem_singleton.mp newer]
        exact (fits.2 g earlier).1 final
    · rw [List.mem_singleton.mp new] at final ⊢
      rcases List.mem_append.mp second with old | newer
      · exact (fits.2 h old).2 final
      · rw [List.mem_singleton.mp newer]

theorem exists_map_eq {f : α → β} {P : α → Prop} {items : List β} (each : ∀ b ∈ items, ∃ a, P a ∧ f a = b) :
    ∃ chosen : List α, (∀ a ∈ chosen, P a) ∧ chosen.map f = items := by
  induction items with
  | nil => exact ⟨[],by simp,rfl⟩
  | cons head rest ih =>
    obtain ⟨a,holds,same⟩ := each head (by simp)
    obtain ⟨chosen,all,mapped⟩ := ih fun b member => each b (by simp [member])
    exact ⟨a :: chosen,by simpa [holds] using all,by simp [same,mapped]⟩

theorem Record.faithful {data : IpFragData} {received : List Fragment} (record : Record data received)
    (last : data.last = true) (tiled : Tiled 0 data.sorted) : Faithful received (joined data.sorted) := by
  have place (g : Fragment) (member : g ∈ received) : ∃ chunk,
      (g.offset,chunk) ∈ data.sorted ∧ (g.payload ≠ [] → chunk = g.payload) := by
    obtain ⟨chunk,found,kept⟩ := record.stored g member
    exact ⟨chunk,IpFragData.mem_sorted.mpr found,kept⟩
  have within (g : Fragment) (member : g ∈ received) : g.stop ≤ (joined data.sorted).length := by
    obtain ⟨chunk,stands,kept⟩ := place g member
    obtain ⟨inside,_⟩ := tiled.window stands
    simp only [stop] at inside
    unfold Fragment.stop
    by_cases empty : g.payload = []
    · simp [empty]
      omega
    · rw [kept empty] at inside
      omega
  refine ⟨?_,?_,?_⟩
  · obtain ⟨chosen,all,mapped⟩ := @exists_map_eq _ _ Fragment.piece (fun g => g ∈ received) data.sorted fun p member => record.sources p (IpFragData.mem_sorted.mp member)
    exact ⟨chosen,all,mapped ▸ tiled,by rw [mapped]⟩
  · obtain ⟨g,member,final⟩ := record.last last
    refine ⟨g,member,final,Nat.le_antisymm (within g member) ?_⟩
    -- the last chunk is a received fragment, and none reaches past a final one
    obtain ⟨chunk,stands,_⟩ := place g member
    obtain ⟨p,top⟩ : ∃ p, data.sorted.getLast? = some p :=
      Option.isSome_iff_exists.mp (by simpa using List.ne_nil_of_mem stands)
    have ends := tiled.stop_last top
    obtain ⟨h,source,same⟩ := record.sources p (IpFragData.mem_sorted.mp (List.mem_of_getLast? top))
    have below := record.bounded g member final h source
    rw [← same] at ends
    simp only [stop,Fragment.piece,Fragment.stop] at ends below ⊢
    omega
  · intro g member
    refine ⟨within g member,?_⟩
    by_cases empty : g.payload = []
    · simp [empty]
    · obtain ⟨chunk,stands,kept⟩ := place g member
      obtain ⟨_,window⟩ := tiled.window stands
      rw [kept empty] at window
      simpa using window

def Ledger.Kept (flowId : IpFragFlowId) (ledger : Ledger) : Prop :=
  ∀ data, ledger.table.flows.get flowId = some data → data.discarded = false → Record data ledger.received

theorem Ledger.Kept.swept {ledger : Ledger} (kept : ledger.Kept flowId)
    (found : (ledger.table.sweepExpired now).flows.get flowId = some data) (live : data.discarded = false) :
    Record data (ledger.standing flowId now) := by
  have before : ledger.table.flows.get flowId = some data := by
    rw [IpFragTable.get_sweep] at found
    exact (Option.filter_eq_some_iff.mp found).1
  unfold Ledger.standing
  rw [found]
  exact kept data before live

theorem assemble_kept {table : IpFragTable} {data : IpFragData} {received : List Fragment}
    (record : Record data received) :
    ∀ after, (table.assemble flowId data).2.flows.get flowId = some after → after.discarded = false →
      Record after received := by
  have outcome := table.assemble_cases flowId record.apart
  generalize table.assemble flowId data = added at outcome
  intro after found live
  cases outcome with
  | pending =>
    rw [Store.get_set_self] at found
    cases found
    exact record
  | mixed => rw [Store.get_erase_self] at found; cases found
  | complete => rw [Store.get_erase_self] at found; cases found

theorem Ledger.next_received {ledger : Ledger} (same : f.flowId = flowId) (part : ¬f.Atomic) :
    (ledger.next flowId (.fragment now f)).received = ledger.standing flowId now ++ [f] := by
  simp [Ledger.next,same,part]

theorem Ledger.Kept.joins {ledger : Ledger} (kept : ledger.Kept flowId)
    (orderly : Orderly flowId (.fragment now f) ledger) (same : f.flowId = flowId) (part : ¬f.Atomic)
    (found : (ledger.table.sweepExpired now).flows.get f.flowId = some data) (live : data.discarded = false)
    (clear : data.overlaps f = false) :
    Record (taken now f (some data)) (ledger.next flowId (.fragment now f)).received := by
  rw [same] at found
  rw [Ledger.next_received same part]
  refine (kept.swept found live).taken now clear (orderly same part ?_)
  simp [found,live,clear]

theorem Ledger.starts {ledger : Ledger} (same : f.flowId = flowId) (part : ¬f.Atomic)
    (absent : (ledger.table.sweepExpired now).flows.get f.flowId = none) :
    Record (taken now f none) (ledger.next flowId (.fragment now f)).received := by
  rw [same] at absent
  rw [Ledger.next_received same part]
  unfold Ledger.standing
  rw [absent]
  exact record_opened now f

theorem Ledger.Kept.next {ledger : Ledger} (kept : ledger.Kept flowId) (event : Event)
    (orderly : Orderly flowId event ledger) : (ledger.next flowId event).Kept flowId := by
  have passed (after : IpFragTable) (now : Int)
      (same : after.flows.get flowId = ledger.table.flows.get flowId ∨
        after.flows.get flowId = (ledger.table.sweepExpired now).flows.get flowId) :
      ∀ data, after.flows.get flowId = some data → data.discarded = false → Record data ledger.received := by
    intro data found live
    rcases same with unchanged | swept
    · exact kept data (unchanged ▸ found) live
    · rw [swept,IpFragTable.get_sweep] at found
      exact kept data (Option.filter_eq_some_iff.mp found).1 live
  cases event with
  | sweep now => exact passed _ now (.inr rfl)
  | fragment now f =>
    by_cases own : f.flowId = flowId ∧ ¬f.Atomic
    · obtain ⟨same,part⟩ := own
      intro after found live
      have outcome := ledger.table.addFragment_cases now f
      have landed : (ledger.table.addFragment now f).2.flows.get flowId = some after := found
      generalize ledger.table.addFragment now f = added at outcome landed
      cases outcome with
      | atomic whole => exact absurd whole part
      | dropped _ held marked =>
        rw [same,landed] at held
        cases held
        rw [live] at marked
        cases marked
      | refused _ absent =>
        rw [same,landed] at absent
        cases absent
      | overlap =>
        rw [same,Store.get_set_self] at landed
        cases landed
        cases live
      | into _ held alive clear =>
        rw [same] at landed
        exact assemble_kept (kept.joins orderly same part held alive clear) after landed live
      | opens _ absent =>
        rw [same] at landed
        exact assemble_kept (Ledger.starts same part absent) after landed live
    · have received : (ledger.next flowId (.fragment now f)).received = ledger.received := by
        simp only [Ledger.next,if_neg own]
      intro data found live
      rw [received]
      refine passed _ now ?_ data found live
      by_cases same : f.flowId = flowId
      · -- an atomic fragment of the flow touches nothing
        have whole : f.Atomic := by
          by_contra part
          exact own ⟨same,part⟩
        left
        simp [Ledger.next,Event.apply,IpFragTable.addFragment,whole]
      · exact ledger.table.addFragment_other now f (Ne.symm same)

theorem reached_kept (reached : Reached (Unopened flowId) (Ledger.next flowId) (Orderly flowId) ledger) :
    ledger.Kept flowId := by
  refine reached.invariant (Ledger.Kept flowId) ?_ ?_
  · rintro ledger ⟨absent,_⟩ data found
    rw [absent] at found
    cases found
  · intro ledger event kept orderly
    exact kept.next event orderly

theorem assemble_faithful {table : IpFragTable} {data : IpFragData} {received : List Fragment}
    (record : Record data received) (done : (table.assemble flowId data).1 = .ok result)
    (complete : result.outcome = .complete) : Faithful received result.payload := by
  have outcome := table.assemble_cases flowId record.apart
  generalize table.assemble flowId data = added at outcome done
  cases outcome with
  | pending => cases done; cases complete
  | mixed => cases done; cases complete
  | complete last tiled =>
    cases done
    exact record.faithful last tiled

theorem atomic_faithful {f : Fragment} (whole : f.Atomic) : Faithful [f] f.payload := by
  obtain ⟨zero,final⟩ := whole
  refine ⟨⟨[f],by simp,⟨zero,trivial⟩,by simp [Fragment.piece]⟩,⟨f,by simp,final,?_⟩,?_⟩
  · simp [Fragment.stop,zero]
  · simp [Fragment.stop,zero]

-- Completion hands on the received fragments end to end, nothing else.
theorem completion_faithful (reached : Reached (Unopened flowId) (Ledger.next flowId) (Orderly flowId) ledger)
    (orderly : Orderly flowId (.fragment now f) ledger) (same : f.flowId = flowId)
    (done : (ledger.table.addFragment now f).1 = .ok result) (complete : result.outcome = .complete) :
    Faithful (if f.Atomic then [f] else (ledger.next flowId (.fragment now f)).received) result.payload := by
  have kept := reached_kept reached
  have outcome := ledger.table.addFragment_cases now f
  generalize ledger.table.addFragment now f = added at outcome done
  cases outcome with
  | atomic whole =>
    cases done
    rw [if_pos whole]
    exact atomic_faithful whole
  | dropped => cases done; cases complete
  | refused => cases done; cases complete
  | overlap => cases done; cases complete
  | into part held alive clear =>
    rw [if_neg part]
    exact assemble_faithful (kept.joins orderly same part held alive clear) done complete
  | opens part absent =>
    rw [if_neg part]
    exact assemble_faithful (Ledger.starts same part absent) done complete

def untouched : Ledger := ⟨emptyTable,[]⟩

def emptyFinal : List Event :=
  [.fragment 0 (echoFragment 16 [] false 0),.fragment 1 (echoFragment 8 [9,10,11,12,13,14,15,16] true 0)]

theorem completion_faithful_empty_final :
    Faithful [echoFragment 16 [] false 0,echoFragment 8 [9,10,11,12,13,14,15,16] true 0,
      echoFragment 0 [1,2,3,4,5,6,7,8] true 0] [1,2,3,4,5,6,7,8,9,10,11,12,13,14,15,16] := by
  have reached : Reached (Unopened echoFlow) (Ledger.next echoFlow) (Orderly echoFlow)
      (run (Ledger.next echoFlow) untouched emptyFinal) :=
    Reached.run (.start untouched ⟨rfl,rfl⟩) emptyFinal (by decide +kernel)
  have received : ((run (Ledger.next echoFlow) untouched emptyFinal).next echoFlow
      (.fragment 2 (echoFragment 0 [1,2,3,4,5,6,7,8] true 0))).received =
      [echoFragment 16 [] false 0,echoFragment 8 [9,10,11,12,13,14,15,16] true 0,
        echoFragment 0 [1,2,3,4,5,6,7,8] true 0] := by decide +kernel
  have faithful := @completion_faithful _ _ 2 (echoFragment 0 [1,2,3,4,5,6,7,8] true 0) {outcome := .complete,payload := [1,2,3,4,5,6,7,8,9,10,11,12,13,14,15,16]}
    reached (by decide +kernel) rfl (by decide +kernel) rfl
  rwa [received,if_neg (by decide)] at faithful

-- The final fragment ends at 16, the fragment after it at 24: the datagram is
-- completed with 24 octets, and no final fragment ends there. An empty
-- fragment at 8 takes the eight octets stored there out again.
theorem completion_past_final :
    (∃ ledger result, ledger = run (Ledger.next echoFlow) untouched
        [.fragment 0 (echoFragment 8 [9,10,11,12,13,14,15,16] false 0),
          .fragment 1 (echoFragment 16 [17,18,19,20,21,22,23,24] true 0)] ∧
      (ledger.table.addFragment 2 (echoFragment 0 [1,2,3,4,5,6,7,8] true 0)).1 = .ok result ∧
      result.outcome = .complete ∧ result.payload.length = 24 ∧
      ¬Faithful (ledger.next echoFlow (.fragment 2 (echoFragment 0 [1,2,3,4,5,6,7,8] true 0))).received
        result.payload) ∧
    ∃ ledger result, ledger = run (Ledger.next echoFlow) untouched
        [.fragment 0 (echoFragment 8 [9,10,11,12,13,14,15,16] false 0),.fragment 1 (echoFragment 8 [] true 0)] ∧
      (ledger.table.addFragment 2 (echoFragment 0 [1,2,3,4,5,6,7,8] true 0)).1 = .ok result ∧
      result.outcome = .complete ∧ result.payload = [1,2,3,4,5,6,7,8] ∧
      ¬Faithful (ledger.next echoFlow (.fragment 2 (echoFragment 0 [1,2,3,4,5,6,7,8] true 0))).received
        result.payload := by
  refine ⟨⟨_,{outcome := .complete,payload := [1,2,3,4,5,6,7,8,9,10,11,12,13,14,15,16,17,18,19,20,21,22,23,24]},
    rfl,by decide +kernel,rfl,rfl,?_⟩,⟨_,{outcome := .complete,payload := [1,2,3,4,5,6,7,8]},
    rfl,by decide +kernel,rfl,rfl,?_⟩⟩
  · rintro ⟨_,final,_⟩
    revert final
    decide +kernel
  · rintro ⟨_,_,inside⟩
    revert inside
    decide +kernel

end PmdPytcp.Ip
