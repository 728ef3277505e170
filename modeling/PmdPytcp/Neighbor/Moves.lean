import PmdPytcp.Neighbor

namespace PmdPytcp.Neighbor
open NeighborCache

variable {A M P : Type} [DecidableEq A]

def about (a : A) (log : List (Note A M P)) : List (Note A M P) := log.filter fun note => note.address = a

@[simp] theorem about_nil (a : A) : about a ([] : List (Note A M P)) = [] := rfl

@[simp] theorem about_append (a : A) (one two : List (Note A M P)) : about a (one ++ two) = about a one ++ about a two :=
  List.filter_append one two

theorem mem_about {a : A} {note : Note A M P} {log : List (Note A M P)} :
    note ∈ about a log ↔ note ∈ log ∧ note.address = a := by
  simp [about]

theorem about_own {a : A} {log : List (Note A M P)} (own : ∀ note ∈ log, note.address = a) : about a log = log :=
  List.filter_eq_self.mpr fun note member => by simpa using own note member

theorem about_other {a b : A} {log : List (Note A M P)} (own : ∀ note ∈ log, note.address = b) (other : a ≠ b) :
    about a log = [] := by
  refine List.filter_eq_nil_iff.mpr ?_
  intro note member
  simpa [own note member] using fun same : b = a => other same.symm

omit [DecidableEq A] in
theorem lose_own {a : A} {packets : List P} {cause : Cause} :
    ∀ note ∈ (lose a packets cause : List (Note A M P)), note.address = a := by
  intro note member
  obtain ⟨packet,_,rfl⟩ := List.mem_map.mp member
  rfl

-- What each entry reports is about its own key, so one key sees its entry's
-- report alone.
theorem about_reports {V : Type} (d : Store A V) (report : A → V → List (Note A M P))
    (own : ∀ k v, ∀ note ∈ report k v, note.address = k) (a : A) :
    about a (d.entries.flatMap fun entry => report entry.1 entry.2) =
      ((d.get a).map (report a)).getD [] := by
  obtain ⟨entries,unique⟩ := d
  unfold Store.get Dict.get
  induction entries with
  | nil => rfl
  | cons head rest ih =>
    obtain ⟨k,v⟩ := head
    obtain ⟨fresh,others⟩ := List.nodup_cons.mp unique
    have later := ih others
    dsimp only at later
    rw [List.flatMap_cons,about_append]
    by_cases same : a = k
    · subst same
      have missing : rest.lookup a = none := by
        have absent := Store.get_eq_none (d := ⟨rest,others⟩) (k := a)
        exact absent.mpr fresh
      rw [later,missing,about_own (own a v)]
      simp [List.lookup]
    · have differs : (a == k) = false := by simpa using same
      rw [later,about_other (own k v) same]
      simp [List.lookup,differs]

def solicitLimit (knobs : Knobs) : NudState → Nat
  | .probe => knobs.maxUnicastSolicit
  | _ => knobs.maxMulticastSolicit

inductive Move (call : Call A M P) (a : A) :
    Option (NeighborEntry M P) → List (Note A M P) → Option (NeighborEntry M P) → Prop where
  | stay (o : Option (NeighborEntry M P)) : Move call a o [] o
  | create (now : ℚ) :
      Move call a none [.moved a .incomplete now,.solicited a none now]
        (some {state := .incomplete,stateChangedAt := now,probeCount := 1,lastUsedAt := now})
  | touch (e : NeighborEntry M P) (now : ℚ) : Move call a (some e) [] (some {e with lastUsedAt := now})
  | delay (e : NeighborEntry M P) (now : ℚ) (stale : e.state = .stale) :
      Move call a (some e) [.moved a .delay now] (some (transition {e with lastUsedAt := now} .delay now))
  | restart (e : NeighborEntry M P) (now : ℚ) (failed : e.state = .failed) :
      Move call a (some e) [.moved a .incomplete now,.solicited a none now]
        (some {transition {e with lastUsedAt := now} .incomplete now with probeCount := 1,macAddress := none})
  | learn (mac : M) (now : ℚ) :
      Move call a none [.moved a .reachable now]
        (some {macAddress := some mac,state := .reachable,stateChangedAt := now,lastUsedAt := now})
  | resolve (e : NeighborEntry M P) (mac : M) (now : ℚ) (called : call = .addEntry a mac now)
      (dynamic : e.state ≠ .permanent) :
      Move call a (some e) (.moved a .reachable now :: e.queuedPackets.map fun packet => .sent a packet mac)
        (some (transition {e with queuedPackets := [],macAddress := some mac,probeCount := 0} .reachable now))
  | pin (o : Option (NeighborEntry M P)) (mac : M) (now : ℚ) (called : call = .addPermanentEntry a mac now) :
      Move call a o (.moved a .permanent now :: lose a (queueOf o) .replaced)
        (some {macAddress := some mac,state := .permanent,stateChangedAt := now,lastUsedAt := now})
  | remove (o : Option (NeighborEntry M P)) (called : call = .removeEntry a) :
      Move call a o (lose a (queueOf o) .removed) none
  | clear (o : Option (NeighborEntry M P)) (called : call = .flush) : Move call a o (lose a (queueOf o) .flushed) none
  | confirm (e : NeighborEntry M P) (now : ℚ) (confirmable : e.state = .stale ∨ e.state = .delay ∨ e.state = .probe) :
      Move call a (some e) [.moved a .reachable now] (some {transition e .reachable now with probeCount := 0})
  | enqueue (e : NeighborEntry M P) (packet : P) (knobs : Knobs) (called : call = .enqueuePending a packet knobs) :
      Move call a (some e)
        (lose a (makeRoom knobs.unresQlen e.queuedPackets).1 .overflow ++ [.queued a packet knobs.unresQlen])
        (some {e with queuedPackets := (makeRoom knobs.unresQlen e.queuedPackets).2 ++ [packet]})
  | age (e : NeighborEntry M P) (now : ℚ) (reachable : e.state = .reachable) :
      Move call a (some e) [.moved a .stale now] (some (transition e .stale now))
  | probe (e : NeighborEntry M P) (used now : ℚ) (delayed : e.state = .delay) :
      Move call a (some e) [.moved a .probe now,.solicited a e.macAddress now]
        (some {transition e .probe now with probeCount := 1,lastUsedAt := used})
  | solicit (e : NeighborEntry M P) (mac : Option M) (knobs : Knobs) (touched : A → Option ℚ) (used now : ℚ)
      (called : call = .runMaintenanceOnce knobs touched now) (waiting : e.state = .incomplete ∨ e.state = .probe) :
      Move call a (some e) [.solicited a mac now]
        (some {e with probeCount := e.probeCount + 1,stateChangedAt := now,lastUsedAt := used})
  | fail (e : NeighborEntry M P) (knobs : Knobs) (touched : A → Option ℚ) (now : ℚ)
      (called : call = .runMaintenanceOnce knobs touched now) (waiting : e.state = .incomplete ∨ e.state = .probe)
      (spent : solicitLimit knobs e.state ≤ e.probeCount) :
      Move call a (some e) (.moved a .failed now :: lose a e.queuedPackets .resolutionFailed)
        (some (transition {e with queuedPackets := []} .failed now))

-- A maintenance pass may collect what the timers left.
inductive Turn (call : Call A M P) (a : A) :
    Option (NeighborEntry M P) → List (Note A M P) → Option (NeighborEntry M P) → Prop where
  | move {o o' : Option (NeighborEntry M P)} {notes : List (Note A M P)} (move : Move call a o notes o') :
      Turn call a o notes o'
  | collect {o : Option (NeighborEntry M P)} {notes : List (Note A M P)} (e : NeighborEntry M P) (knobs : Knobs)
      (touched : A → Option ℚ) (now : ℚ) (called : call = .runMaintenanceOnce knobs touched now)
      (move : Move call a o notes (some e)) (eligible : evictable e = true) :
      Turn call a o (notes ++ lose a e.queuedPackets (.evicted e.state)) none

variable {call : Call A M P} {c : NeighborCache A M P}

theorem Move.single {d d' : Store A (NeighborEntry M P)} {notes : List (Note A M P)} {b : A}
    (own : ∀ note ∈ notes, note.address = b) (others : ∀ a, a ≠ b → d'.get a = d.get a)
    (here : Move call b (d.get b) notes (d'.get b)) (a : A) : Move call a (d.get a) (about a notes) (d'.get a) := by
  by_cases same : a = b
  · subst same
    rw [about_own own]
    exact here
  · rw [about_other own same,others a same]
    exact .stay _

theorem set_others {d : Store A (NeighborEntry M P)} {b : A} {e : NeighborEntry M P} (a : A) (other : a ≠ b) :
    (d.set b e).get a = d.get a :=
  Store.get_set_other d e other

theorem findEntry_move (b : A) (now : ℚ) (a : A) :
    Move call a (c.entries.get a) (about a (c.findEntry b now).2.2) ((c.findEntry b now).2.1.entries.get a) := by
  unfold findEntry
  cases found : c.entries.get b with
  | none =>
    refine Move.single (b := b) (by simp [Note.address]) set_others ?_ a
    rw [found,Store.get_set_self]
    exact .create now
  | some e =>
    dsimp only
    split
    case h_5 stale =>
      refine Move.single (b := b) (by simp [Note.address]) set_others ?_ a
      rw [found,Store.get_set_self]
      exact .delay e now stale
    case h_6 failed =>
      refine Move.single (b := b) (by simp [Note.address]) set_others ?_ a
      rw [found,Store.get_set_self]
      exact .restart e now failed
    all_goals
      refine Move.single (b := b) (by simp) set_others ?_ a
      rw [found,Store.get_set_self]
      exact .touch e now

theorem addEntry_move (b : A) (mac : M) (now : ℚ) (a : A) :
    Move (.addEntry b mac now) a (c.entries.get a) (about a (c.addEntry b mac now).2) ((c.addEntry b mac now).1.entries.get a) := by
  unfold addEntry
  cases found : c.entries.get b with
  | none =>
    refine Move.single (b := b) (by simp [Note.address]) set_others ?_ a
    rw [found,Store.get_set_self]
    exact .learn mac now
  | some e =>
    dsimp only
    split
    · exact .stay _
    · rename_i dynamic
      refine Move.single (b := b) ?_ set_others ?_ a
      · intro note member
        rcases List.mem_cons.mp member with rfl | later
        · rfl
        · obtain ⟨packet,_,rfl⟩ := List.mem_map.mp later
          rfl
      · rw [found,Store.get_set_self]
        exact .resolve e mac now rfl dynamic

theorem addPermanentEntry_move (b : A) (mac : M) (now : ℚ) (a : A) :
    Move (.addPermanentEntry b mac now) a (c.entries.get a) (about a (c.addPermanentEntry b mac now).2)
      ((c.addPermanentEntry b mac now).1.entries.get a) := by
  unfold addPermanentEntry
  refine Move.single (b := b) ?_ set_others ?_ a
  · intro note member
    rcases List.mem_cons.mp member with rfl | later
    · rfl
    · exact lose_own note later
  · rw [Store.get_set_self]
    exact .pin _ mac now rfl

theorem removeEntry_move (b : A) (a : A) :
    Move (.removeEntry b) a (c.entries.get a) (about a (c.removeEntry b).2.2) ((c.removeEntry b).2.1.entries.get a) := by
  unfold removeEntry
  refine Move.single (b := b) lose_own (fun a other => Store.get_erase_other c.entries other) ?_ a
  rw [Store.get_erase_self]
  exact .remove _ rfl

theorem flush_move (a : A) :
    Move .flush a (c.entries.get a) (about a c.flush.2.2) (c.flush.2.1.entries.get a) := by
  unfold flush
  dsimp only
  have report := about_reports (M := M) c.entries (fun k (e : NeighborEntry M P) => lose k e.queuedPackets .flushed)
    (fun _ _ => lose_own) a
  rw [report]
  cases found : c.entries.get a with
  | none => exact .stay _
  | some e => exact .clear (some e) rfl

theorem confirmReachability_move (b : A) (now : ℚ) (a : A) :
    Move call a (c.entries.get a) (about a (c.confirmReachability b now).2)
      ((c.confirmReachability b now).1.entries.get a) := by
  unfold confirmReachability
  cases found : c.entries.get b with
  | none => exact .stay _
  | some e =>
    have promoted (confirmable : e.state = .stale ∨ e.state = .delay ∨ e.state = .probe) :
        Move call a (c.entries.get a) (about a [.moved b .reachable now])
          ((c.entries.set b {transition e .reachable now with probeCount := 0}).get a) := by
      refine Move.single (b := b) (by simp [Note.address]) set_others ?_ a
      rw [found,Store.get_set_self]
      exact .confirm e now confirmable
    dsimp only
    split
    case h_1 stale => exact promoted (.inl stale)
    case h_2 delayed => exact promoted (.inr (.inl delayed))
    case h_3 probed => exact promoted (.inr (.inr probed))
    case h_4 => exact .stay _

theorem enqueuePending_move (b : A) (packet : P) (knobs : Knobs) (a : A) :
    Move (.enqueuePending b packet knobs) a (c.entries.get a) (about a (c.enqueuePending b packet knobs).2)
      ((c.enqueuePending b packet knobs).1.entries.get a) := by
  unfold enqueuePending
  cases found : c.entries.get b with
  | none => exact .stay _
  | some e =>
    refine Move.single (b := b) ?_ set_others ?_ a
    · intro note member
      rcases List.mem_append.mp member with gone | here
      · exact lose_own note gone
      · cases List.mem_singleton.mp here
        rfl
    · rw [found,Store.get_set_self]
      exact .enqueue e packet knobs rfl

omit [DecidableEq A] in
theorem retransmit_move (knobs : Knobs) (used : Option ℚ) (touched : A → Option ℚ) (now : ℚ) (a : A)
    (e : NeighborEntry M P) (mac : Option M) (waiting : e.state = .incomplete ∨ e.state = .probe) :
    Move (.runMaintenanceOnce knobs touched now) a (some e)
      (retransmit a e (solicitLimit knobs e.state) mac knobs.retransTimer used now).2
      (some (retransmit a e (solicitLimit knobs e.state) mac knobs.retransTimer used now).1) := by
  unfold retransmit
  split
  · rename_i spent
    exact .fail e knobs touched now rfl waiting spent
  · split
    · exact .solicit e mac knobs touched (used.getD e.lastUsedAt) now rfl waiting
    · exact .stay _

omit [DecidableEq A] in
theorem maintain_move (knobs : Knobs) (override used : Option ℚ) (touched : A → Option ℚ) (now : ℚ) (a : A)
    (e : NeighborEntry M P) :
    Move (.runMaintenanceOnce knobs touched now) a (some e) (maintain knobs override used now a e).2
      (some (maintain knobs override used now a e).1) := by
  unfold maintain
  split
  · rename_i reachable
    split
    · exact .age e now reachable
    · exact .stay _
  · rename_i delayed
    split
    · exact .probe e (used.getD e.lastUsedAt) now delayed
    · exact .stay _
  · rename_i incomplete
    have turn := retransmit_move knobs used touched now a e none (.inl incomplete)
    rw [incomplete] at turn
    exact turn
  · rename_i probed
    have turn := retransmit_move knobs used touched now a e e.macAddress (.inr probed)
    rw [probed] at turn
    exact turn
  all_goals exact .stay _

omit [DecidableEq A] in
theorem Move.own {a : A} {o o' : Option (NeighborEntry M P)} {notes : List (Note A M P)} (move : Move call a o notes o') :
    ∀ note ∈ notes, note.address = a := by
  cases move with
  | resolve e mac now called dynamic =>
    intro note member
    rcases List.mem_cons.mp member with rfl | later
    · rfl
    · obtain ⟨packet,_,rfl⟩ := List.mem_map.mp later
      rfl
  | pin | fail =>
    intro note member
    rcases List.mem_cons.mp member with rfl | later
    · rfl
    · exact lose_own note later
  | remove | clear => exact lose_own
  | enqueue e packet knobs called =>
    intro note member
    rcases List.mem_append.mp member with gone | here
    · exact lose_own note gone
    · cases List.mem_singleton.mp here
      rfl
  | _ => simp [Note.address]

-- Each slot is left alone, or was eligible and is gone with its packets.
def Collected (d : Store A (NeighborEntry M P)) (notes : List (Note A M P)) (d' : Store A (NeighborEntry M P)) : Prop :=
  ∀ a, (d'.get a = d.get a ∧ about a notes = []) ∨
    ∃ e, d.get a = some e ∧ evictable e = true ∧ about a notes = lose a e.queuedPackets (.evicted e.state) ∧
      d'.get a = none

def Eligible (d : Store A (NeighborEntry M P)) (a : A) : Prop := ∀ e, d.get a = some e → evictable e = true

variable {d d' d'' : Store A (NeighborEntry M P)} {notes notes' : List (Note A M P)}

theorem Collected.refl (d : Store A (NeighborEntry M P)) : Collected d ([] : List (Note A M P)) d :=
  fun _ => .inl ⟨rfl,rfl⟩

theorem Collected.absent (collected : Collected d notes d') {a : A} (absent : d.get a = none) :
    d'.get a = none ∧ about a notes = [] := by
  rcases collected a with same | ⟨e,held,_⟩
  · exact ⟨same.1.trans absent,same.2⟩
  · rw [absent] at held
    cases held

theorem Collected.trans (one : Collected d notes d') (two : Collected d' notes' d'') : Collected d (notes ++ notes') d'' := by
  intro a
  rw [about_append]
  rcases one a with same | ⟨e,held,eligible,report,gone⟩
  · rcases two a with same' | ⟨e,held,eligible,report,gone⟩
    · exact .inl ⟨same'.1.trans same.1,by rw [same.2,same'.2]; rfl⟩
    · refine .inr ⟨e,same.1 ▸ held,eligible,?_,gone⟩
      rw [same.2,report]
      rfl
  · obtain ⟨still,silent⟩ := two.absent gone
    refine .inr ⟨e,held,eligible,?_,still⟩
    rw [report,silent,List.append_nil]

theorem Collected.eligible (collected : Collected d notes d') {a : A} (eligible : Eligible d a) : Eligible d' a := by
  intro e held
  rcases collected a with same | ⟨_,_,_,_,gone⟩
  · exact eligible e (same.1 ▸ held)
  · rw [gone] at held
    cases held

theorem evict_collects {b : A} (eligible : Eligible d b) : Collected d (evict d b).2 (evict d b).1 := by
  unfold evict
  cases found : d.get b with
  | none => exact .refl d
  | some e =>
    intro a
    by_cases same : a = b
    · subst same
      exact .inr ⟨e,found,eligible e found,about_own lose_own,Store.get_erase_self d a⟩
    · exact .inl ⟨Store.get_erase_other d same,about_other lose_own same⟩

theorem evictAll_collects (targets : List A) (eligible : ∀ a ∈ targets, Eligible d a) :
    Collected d (evictAll d targets).2 (evictAll d targets).1 := by
  induction targets generalizing d with
  | nil => exact .refl d
  | cons b rest ih =>
    have gone := evict_collects (eligible b List.mem_cons_self)
    exact gone.trans (ih fun a member => gone.eligible (eligible a (List.mem_cons_of_mem b member)))

theorem evictDown_collects {cap : Nat} (targets : List A) (eligible : ∀ a ∈ targets, Eligible d a) :
    Collected d (evictDown cap d targets).2 (evictDown cap d targets).1 := by
  induction targets generalizing d with
  | nil => exact .refl d
  | cons b rest ih =>
    unfold evictDown
    split
    · exact .refl d
    · have gone := evict_collects (eligible b List.mem_cons_self)
      exact gone.trans (ih fun a member => gone.eligible (eligible a (List.mem_cons_of_mem b member)))

theorem oldestFirst_eligible {time : NeighborEntry M P → ℚ} {keep : A → NeighborEntry M P → Bool} {a : A}
    (member : a ∈ oldestFirst time keep d) : Eligible d a := by
  obtain ⟨⟨k,e⟩,sorted,rfl⟩ := List.mem_map.mp member
  obtain ⟨held,passes⟩ := List.mem_filter.mp (List.mem_mergeSort.mp sorted)
  intro found get
  rw [Store.get_eq_some.mpr held] at get
  cases get
  exact (Bool.and_eq_true_iff.mp passes).1

theorem gcPass_collects (knobs : Knobs) (now : ℚ) (d : Store A (NeighborEntry M P)) :
    Collected d (gcPass knobs now d).2 (gcPass knobs now d).1 := by
  unfold gcPass
  split
  · exact .refl d
  · dsimp only
    have one := evictAll_collects (oldestFirst NeighborEntry.stateChangedAt (fun _ e => e.state = .failed) d)
      (fun a member => oldestFirst_eligible member)
    generalize evictAll d _ = first at one ⊢
    have two : Collected first.1
        (if knobs.gcThresh2 < first.1.size then
          evictDown knobs.gcThresh2 first.1 (oldestFirst NeighborEntry.stateChangedAt
            (fun address e => e.state = .stale && knobs.gcStaleTime ≤ now - e.stateChangedAt &&
              (first.1.get address).isSome) d)
        else (first.1,[])).2
        (if knobs.gcThresh2 < first.1.size then
          evictDown knobs.gcThresh2 first.1 (oldestFirst NeighborEntry.stateChangedAt
            (fun address e => e.state = .stale && knobs.gcStaleTime ≤ now - e.stateChangedAt &&
              (first.1.get address).isSome) d)
        else (first.1,[])).1 := by
      split
      · exact evictDown_collects _ fun a member => one.eligible (oldestFirst_eligible member)
      · exact .refl _
    generalize (if knobs.gcThresh2 < first.1.size then _ else _ :
      Store A (NeighborEntry M P) × List (Note A M P)) = second at two ⊢
    have both := one.trans two
    refine both.trans ?_
    split
    · exact evictDown_collects _ fun a member => both.eligible (oldestFirst_eligible member)
    · exact .refl _

theorem Collected.drops (collected : Collected d notes d') {note : Note A M P} (member : note ∈ notes) :
    ∃ a packet state, note = .dropped a packet (.evicted state) := by
  have own : note ∈ about note.address notes := mem_about.mpr ⟨member,rfl⟩
  rcases collected note.address with same | ⟨e,_,_,report,_⟩
  · rw [same.2] at own
    cases own
  · rw [report] at own
    obtain ⟨packet,_,same⟩ := List.mem_map.mp own
    exact ⟨_,packet,e.state,same.symm⟩

theorem runMaintenanceOnce_about (knobs : Knobs) (touched : A → Option ℚ) (now : ℚ) (a : A) :
    about a (c.runMaintenanceOnce knobs touched now).2 =
      ((c.entries.get a).map fun e => (maintain knobs c.reachableTimeOverride (touched a) now a e).2).getD [] ++
        about a (gcPass knobs now (c.entries.map fun address entry =>
          (maintain knobs c.reachableTimeOverride (touched address) now address entry).1)).2 := by
  unfold runMaintenanceOnce
  rw [about_append]
  congr 1
  exact about_reports c.entries (fun k e => (maintain knobs c.reachableTimeOverride (touched k) now k e).2)
    (fun k e => (maintain_move knobs _ _ touched now k e).own) a

theorem runMaintenanceOnce_turn (knobs : Knobs) (touched : A → Option ℚ) (now : ℚ) (a : A) :
    Turn (.runMaintenanceOnce knobs touched now) a (c.entries.get a)
      (about a (c.runMaintenanceOnce knobs touched now).2)
      ((c.runMaintenanceOnce knobs touched now).1.entries.get a) := by
  rw [runMaintenanceOnce_about]
  have collected := gcPass_collects knobs now (c.entries.map fun address entry =>
    (maintain knobs c.reachableTimeOverride (touched address) now address entry).1) a
  rw [Store.get_map] at collected
  change Turn _ a _ _ ((gcPass knobs now _).1.get a)
  cases found : c.entries.get a with
  | none =>
    rw [found] at collected
    rcases collected with ⟨same,silent⟩ | ⟨e,held,_⟩
    · rw [same,silent]
      exact .move (.stay _)
    · cases held
  | some e =>
    rw [found] at collected
    have moved := maintain_move knobs c.reachableTimeOverride (touched a) touched now a e
    rcases collected with ⟨same,silent⟩ | ⟨aged,held,eligible,report,gone⟩
    · rw [same,silent,List.append_nil]
      exact .move moved
    · cases held
      rw [report,gone]
      exact .collect _ knobs touched now rfl moved eligible

theorem perform_turn (call : Call A M P) (c : NeighborCache A M P) (a : A) :
    Turn call a (c.entries.get a) (about a (perform call c).2) ((perform call c).1.entries.get a) := by
  cases call with
  | findEntry b now => exact .move (findEntry_move b now a)
  | addEntry b mac now => exact .move (addEntry_move b mac now a)
  | addPermanentEntry b mac now => exact .move (addPermanentEntry_move b mac now a)
  | removeEntry b => exact .move (removeEntry_move b a)
  | flush => exact .move (flush_move a)
  | confirmReachability b now => exact .move (confirmReachability_move b now a)
  | enqueuePending b packet knobs => exact .move (enqueuePending_move b packet knobs a)
  | runMaintenanceOnce knobs touched now => exact runMaintenanceOnce_turn knobs touched now a
  | setReachableTimeOverrideMs valueMs => exact .move (.stay _)

end PmdPytcp.Neighbor
