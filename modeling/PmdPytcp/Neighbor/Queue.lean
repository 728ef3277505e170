import PmdPytcp.Neighbor.Moves

namespace PmdPytcp.Neighbor
open NeighborCache

variable {A M P : Type}

def arrival : Note A M P → Option P
  | .queued _ packet _ => some packet
  | .moved _ _ _ | .solicited _ _ _ | .sent _ _ _ | .dropped _ _ _ => none

def departure : Note A M P → Option P
  | .sent _ packet _ => some packet
  | .dropped _ packet _ => some packet
  | .moved _ _ _ | .solicited _ _ _ | .queued _ _ _ => none

def lastBound (bound : Nat) : Note A M P → Nat
  | .queued _ _ configured => configured
  | .moved _ _ _ | .solicited _ _ _ | .sent _ _ _ | .dropped _ _ _ => bound

def Cause.Accepted : Cause → Prop
  | .overflow | .resolutionFailed | .removed | .flushed => True
  | .evicted state => state = .failed
  | .replaced => False

variable {a : A} {packets : List P} {mac : M} {cause : Cause}

@[simp] theorem arrivals_lose : (lose a packets cause : List (Note A M P)).filterMap arrival = [] := by
  simp [lose,arrival]

@[simp] theorem departures_lose : (lose a packets cause : List (Note A M P)).filterMap departure = packets := by
  simp [lose,departure,List.filterMap_map,Function.comp_def]

@[simp] theorem arrivals_sent :
    (packets.map fun packet => (.sent a packet mac : Note A M P)).filterMap arrival = [] := by
  simp [arrival]

@[simp] theorem departures_sent :
    (packets.map fun packet => (.sent a packet mac : Note A M P)).filterMap departure = packets := by
  simp [departure,List.filterMap_map,Function.comp_def]

@[simp] theorem lastBound_lose (bound : Nat) :
    (lose a packets cause : List (Note A M P)).foldl lastBound bound = bound := by
  unfold lose
  induction packets with
  | nil => rfl
  | cons packet rest ih => exact ih

@[simp] theorem lastBound_sent (bound : Nat) :
    (packets.map fun packet => (.sent a packet mac : Note A M P)).foldl lastBound bound = bound := by
  induction packets with
  | nil => rfl
  | cons packet rest ih => exact ih

theorem makeRoom_splits (bound : Nat) (queue : List P) :
    (makeRoom bound queue).1 ++ (makeRoom bound queue).2 = queue := by
  induction queue with
  | nil => rfl
  | cons packet rest ih =>
    unfold makeRoom
    split
    · exact congrArg (packet :: ·) ih
    · rfl

theorem makeRoom_fits {bound : Nat} (positive : 0 < bound) (queue : List P) : (makeRoom bound queue).2.length < bound := by
  induction queue with
  | nil => exact positive
  | cons packet rest ih =>
    unfold makeRoom
    split
    · exact ih
    · rename_i short
      exact not_le.mp short

-- What came in is what went out and what waits, in that order.
def Conserved (o : Option (NeighborEntry M P)) (history : List (Note A M P)) : Prop :=
  history.filterMap arrival = history.filterMap departure ++ queueOf o

def Bounded (o : Option (NeighborEntry M P)) (bound : Nat) : Prop := (queueOf o).length ≤ bound

variable {call : Call A M P} {o o' : Option (NeighborEntry M P)} {notes history : List (Note A M P)} {bound : Nat}

@[simp] theorem queueOf_some (e : NeighborEntry M P) : queueOf (some e) = e.queuedPackets := rfl
@[simp] theorem queueOf_none : queueOf (none : Option (NeighborEntry M P)) = [] := rfl

theorem Move.balance (move : Move call a o notes o') :
    queueOf o ++ notes.filterMap arrival = notes.filterMap departure ++ queueOf o' := by
  cases move with
  | enqueue e packet knobs called =>
    have splits := makeRoom_splits knobs.unresQlen e.queuedPackets
    simp only [List.filterMap_append,arrivals_lose,departures_lose,queueOf_some]
    simp only [List.filterMap_cons,List.filterMap_nil,arrival,departure,List.nil_append,List.append_nil]
    rw [← List.append_assoc,splits]
  | resolve e mac now called dynamic =>
    simp only [List.filterMap_cons,arrivals_sent,departures_sent,arrival,departure,queueOf_some]
    rfl
  | _ => simp [List.filterMap_cons,arrival,departure,transition]

theorem Turn.balance (turn : Turn call a o notes o') :
    queueOf o ++ notes.filterMap arrival = notes.filterMap departure ++ queueOf o' := by
  cases turn with
  | move move => exact move.balance
  | collect e knobs touched now called move eligible =>
    have balance := move.balance
    simpa using balance

theorem Turn.conserved (turn : Turn call a o notes o') (before : Conserved o history) :
    Conserved o' (history ++ notes) := by
  unfold Conserved at *
  rw [List.filterMap_append,List.filterMap_append,before,List.append_assoc,turn.balance,List.append_assoc]

theorem Move.bounded (move : Move call a o notes o') (before : Bounded o bound) :
    Bounded o' (notes.foldl lastBound bound) := by
  unfold Bounded at *
  cases move with
  | enqueue e packet knobs called =>
    have fits := makeRoom_fits knobs.unresQlenPositive e.queuedPackets
    rw [List.foldl_append]
    simp only [queueOf_some,List.length_append,List.length_singleton]
    exact fits
  | _ => first
    | exact before
    | simp [lastBound,transition]

theorem Turn.bounded (turn : Turn call a o notes o') (before : Bounded o bound) :
    Bounded o' (notes.foldl lastBound bound) := by
  cases turn with
  | move move => exact move.bounded before
  | collect e knobs touched now called move eligible => exact Nat.zero_le _

theorem Move.lawful {packet : P} (move : Move call a o notes o') (lost : .dropped a packet cause ∈ notes) :
    cause.Accepted ∨ cause = .replaced ∧ ∃ mac now, call = .addPermanentEntry a mac now ∧ packet ∈ queueOf o := by
  cases move with
  | pin o mac now called =>
    simp only [lose,List.mem_cons,List.mem_map,reduceCtorEq,false_or] at lost
    obtain ⟨found,held,same⟩ := lost
    cases same
    exact .inr ⟨rfl,mac,now,called,held⟩
  | remove o called | clear o called =>
    obtain ⟨found,held,same⟩ := List.mem_map.mp lost
    cases same
    exact .inl trivial
  | enqueue e other knobs called =>
    simp only [lose,List.mem_append,List.mem_map,List.mem_singleton,reduceCtorEq,or_false] at lost
    obtain ⟨found,held,same⟩ := lost
    cases same
    exact .inl trivial
  | fail e knobs touched now called waiting spent =>
    simp only [lose,List.mem_cons,List.mem_map,reduceCtorEq,false_or] at lost
    obtain ⟨found,held,same⟩ := lost
    cases same
    exact .inl trivial
  | _ => simp at lost

theorem Turn.lawful {packet : P} (turn : Turn call a o notes o') (lost : .dropped a packet cause ∈ notes) :
    cause.Accepted ∨ cause = .replaced ∧ ∃ mac now, call = .addPermanentEntry a mac now ∧ packet ∈ queueOf o := by
  cases turn with
  | move move => exact move.lawful lost
  | collect e knobs touched now called move eligible =>
    rcases List.mem_append.mp lost with here | gone
    · exact move.lawful here
    · -- an entry that still holds packets is collected only once it has failed
      obtain ⟨found,held,same⟩ := List.mem_map.mp gone
      cases same
      left
      show e.state = .failed
      simp only [evictable,Bool.and_eq_true,Bool.or_eq_true,decide_eq_true_eq,List.isEmpty_iff] at eligible
      rcases eligible.2 with failed | none
      · exact failed
      · rw [none] at held
        cases held

def Unresolved (e : NeighborEntry M P) : Prop := e.state = .incomplete ∨ e.state = .failed

def exits (notes : List (Note A M P)) : List (Note A M P) := notes.filter fun note => (departure note).isSome

theorem exits_sent (now : ℚ) :
    exits (.moved a .reachable now :: packets.map fun packet => (.sent a packet mac : Note A M P)) =
      packets.map fun packet => .sent a packet mac := by
  unfold exits
  rw [List.filter_cons_of_neg (by simp [departure])]
  refine List.filter_eq_self.mpr ?_
  intro note member
  obtain ⟨packet,_,rfl⟩ := List.mem_map.mp member
  rfl

-- Packets leave for the MAC the neighbor has just been given, and whatever
-- resolves a neighbor sends its whole queue there.
structure Delivers (a : A) (o : Option (NeighborEntry M P)) (notes : List (Note A M P))
    (o' : Option (NeighborEntry M P)) : Prop where
  addressed : ∀ packet mac, .sent a packet mac ∈ notes →
    ∃ e, o' = some e ∧ e.state = .reachable ∧ e.macAddress = some mac
  flushed : ∀ e e', o = some e → Unresolved e → o' = some e' → ¬Unresolved e' →
    e'.queuedPackets = [] ∧
      ∃ mac, e'.macAddress = some mac ∧ exits notes = e.queuedPackets.map fun packet => .sent a packet mac

theorem Delivers.silent (unsent : ∀ packet mac, .sent a packet mac ∉ notes)
    (same : ∀ e e', o = some e → Unresolved e → o' = some e' → Unresolved e') : Delivers a o notes o' where
  addressed := fun packet mac member => absurd member (unsent packet mac)
  flushed := fun e e' before waiting after resolved => absurd (same e e' before waiting after) resolved

theorem Move.delivers (move : Move call a o notes o')
    (clear : ∀ mac now, call = .addPermanentEntry a mac now → queueOf o = []) : Delivers a o notes o' := by
  cases move with
  | resolve e mac now called dynamic =>
    refine ⟨?_,?_⟩
    · intro packet other member
      simp only [List.mem_cons,List.mem_map,reduceCtorEq,false_or] at member
      obtain ⟨_,_,same⟩ := member
      cases same
      exact ⟨_,rfl,rfl,rfl⟩
    · intro before after held _ got _
      cases held
      cases got
      exact ⟨rfl,mac,rfl,exits_sent now⟩
  | pin o mac now called =>
    have empty := clear mac now called
    refine ⟨?_,?_⟩
    · intro packet other member
      simp [lose] at member
    · intro before after held _ got _
      cases held
      cases got
      refine ⟨rfl,mac,rfl,?_⟩
      rw [queueOf_some] at empty
      simp [exits,lose,empty,departure]
  | remove o called | clear o called =>
    refine .silent (by simp [lose]) ?_
    intro e e' _ _ after
    cases after
  | create now | learn mac now =>
    refine .silent (by simp) ?_
    intro e e' before
    cases before
  | stay =>
    refine .silent (by simp) ?_
    intro e e' before waiting after
    rw [before] at after
    cases after
    exact waiting
  | enqueue e packet knobs called =>
    refine .silent (by simp [lose]) ?_
    rintro _ _ ⟨⟩ waiting ⟨⟩
    exact waiting
  | fail e knobs touched now called waiting spent =>
    refine .silent (by simp [lose]) ?_
    rintro _ _ ⟨⟩ _ ⟨⟩
    exact .inr rfl
  | touch e now | solicit e mac knobs touched used now called waiting =>
    refine .silent (by simp) ?_
    rintro _ _ ⟨⟩ waiting ⟨⟩
    exact waiting
  | restart e now failed =>
    refine .silent (by simp) ?_
    rintro _ _ ⟨⟩ _ ⟨⟩
    exact .inl rfl
  | delay e now settled | age e now settled | probe e used now settled =>
    refine .silent (by simp) ?_
    rintro _ _ ⟨⟩ waiting ⟨⟩
    simp [Unresolved,settled] at waiting
  | confirm e now confirmable =>
    refine .silent (by simp) ?_
    rintro _ _ ⟨⟩ waiting ⟨⟩
    rcases confirmable with settled | settled | settled <;> simp [Unresolved,settled] at waiting

theorem Move.replied {packet : P} (move : Move call a o notes o') (sent : .sent a packet mac ∈ notes) :
    ∃ now, call = .addEntry a mac now := by
  cases move with
  | resolve e other now called dynamic =>
    simp only [List.mem_cons,List.mem_map,reduceCtorEq,false_or] at sent
    obtain ⟨_,_,same⟩ := sent
    cases same
    exact ⟨now,called⟩
  | _ => simp [lose] at sent

theorem Turn.delivers (turn : Turn call a o notes o')
    (clear : ∀ mac now, call = .addPermanentEntry a mac now → queueOf o = []) : Delivers a o notes o' := by
  cases turn with
  | move move => exact move.delivers clear
  | collect e knobs touched now called move eligible =>
    refine .silent ?_ ?_
    · intro packet mac member
      rcases List.mem_append.mp member with here | lost
      · obtain ⟨_,replied⟩ := move.replied here
        rw [called] at replied
        cases replied
      · simp [lose] at lost
    · intro e e' _ _ after
      cases after

variable [DecidableEq A]

def arrivals (a : A) (log : List (Note A M P)) : List P := (about a log).filterMap arrival
def departures (a : A) (log : List (Note A M P)) : List P := (about a log).filterMap departure
def configuredBound (a : A) (log : List (Note A M P)) : Nat := (about a log).foldl lastBound 0

-- Every packet queued for a neighbor left once, in its turn, or still waits;
-- no more wait than the last enqueue allowed, and none was given up but for an
-- accepted cause.
structure Accounted (w : World A M P) : Prop where
  conserved : ∀ a, arrivals a w.log = departures a w.log ++ queueOf (w.cache.entries.get a)
  bounded : ∀ a, (queueOf (w.cache.entries.get a)).length ≤ configuredBound a w.log
  lawful : ∀ a packet cause, .dropped a packet cause ∈ w.log → cause.Accepted

def Flushes (call : Call A M P) (w : World A M P) : Prop :=
  ∀ a, Delivers a (w.cache.entries.get a) (about a (perform call w.cache).2) ((w.next call).cache.entries.get a)

-- A static addition finds nothing queued for its neighbor.
def Clear (call : Call A M P) (w : World A M P) : Prop :=
  match call with
  | .addPermanentEntry a _ _ => queueOf (w.cache.entries.get a) = []
  | _ => True

theorem Clear.at {w : World A M P} (clear : Clear call w) (a : A) :
    ∀ mac now, call = .addPermanentEntry a mac now → queueOf (w.cache.entries.get a) = [] := by
  rintro mac now rfl
  exact clear

theorem clear_flushes (call : Call A M P) (w : World A M P) (clear : Clear call w) : Flushes call w :=
  fun a => (perform_turn call w.cache a).delivers (clear.at a)

theorem start_accounted : Accounted (World.start : World A M P) where
  conserved := fun _ => rfl
  bounded := fun _ => Nat.le_refl 0
  lawful := fun _ _ _ member => nomatch member

theorem next_accounted {w : World A M P} (before : Accounted w) (clear : Clear call w) : Accounted (w.next call) where
  conserved := by
    intro a
    show (about a (w.log ++ (perform call w.cache).2)).filterMap arrival =
      (about a (w.log ++ (perform call w.cache).2)).filterMap departure ++ _
    rw [about_append]
    exact (perform_turn call w.cache a).conserved (before.conserved a)
  bounded := by
    intro a
    show _ ≤ (about a (w.log ++ (perform call w.cache).2)).foldl lastBound 0
    rw [about_append,List.foldl_append]
    exact (perform_turn call w.cache a).bounded (before.bounded a)
  lawful := by
    intro a packet cause lost
    rcases List.mem_append.mp lost with earlier | here
    · exact before.lawful a packet cause earlier
    · have turn := perform_turn call w.cache a
      rcases turn.lawful (mem_about.mpr ⟨here,rfl⟩) with accepted | ⟨_,mac,now,called,held⟩
      · exact accepted
      · rw [clear.at a mac now called] at held
        cases held

theorem run_accounted (calls : List (Call A M P)) {w : World A M P} (before : Accounted w)
    (clear : Runs.Met World.next Clear calls w) : Accounted (Runs.run World.next w calls) := by
  induction calls generalizing w with
  | nil => exact before
  | cons call rest ih => exact ih (next_accounted before clear.1) clear.2

theorem run_log (calls : List (Call A M P)) (w : World A M P) {note : Note A M P} (member : note ∈ w.log) :
    note ∈ (Runs.run World.next w calls).log := by
  induction calls generalizing w with
  | nil => exact member
  | cons call rest ih => exact ih (w.next call) (List.mem_append_left _ member)

theorem lawful_clear (calls : List (Call A M P)) (w : World A M P)
    (lawful : ∀ a packet cause, .dropped a packet cause ∈ (Runs.run World.next w calls).log → cause.Accepted) :
    Runs.Met World.next Clear calls w := by
  induction calls generalizing w with
  | nil => trivial
  | cons call rest ih =>
    refine ⟨?_,ih (w.next call) lawful⟩
    cases call with
    | addPermanentEntry a mac now =>
      show queueOf (w.cache.entries.get a) = []
      refine List.eq_nil_iff_forall_not_mem.mpr ?_
      intro packet held
      refine lawful a packet .replaced (run_log rest _ ?_)
      refine List.mem_append_right _ (List.mem_cons_of_mem _ ?_)
      exact List.mem_map.mpr ⟨packet,held,rfl⟩
    | _ => trivial

theorem queued_packets_accounted_iff (calls : List (Call A M P)) :
    Accounted (Runs.run World.next .start calls) ∧ Runs.Met World.next Flushes calls .start ↔
      Runs.Met World.next Clear calls .start := by
  constructor
  · intro both
    exact lawful_clear calls .start both.1.lawful
  · intro clear
    exact ⟨run_accounted calls start_accounted clear,clear.imp clear_flushes⟩

-- A packet waits for a neighbor that is then configured by hand.
def pinned : List (Call Nat Nat Nat) := [.findEntry 7 0,.enqueuePending 7 42 .standard,.addPermanentEntry 7 9 (1/2)]

theorem pinned_loses :
    .dropped 7 42 .replaced ∈ (Runs.run World.next .start pinned).log ∧
      (∀ mac, .sent 7 42 mac ∉ (Runs.run World.next .start pinned).log) ∧
      ¬Accounted (Runs.run World.next .start pinned) := by
  have log : (Runs.run World.next .start pinned).log =
      [.moved 7 .incomplete 0,.solicited 7 none 0,.queued 7 42 64,.moved 7 .permanent (1/2),.dropped 7 42 .replaced] := by
    decide +kernel
  have lost : .dropped 7 42 .replaced ∈ (Runs.run World.next .start pinned).log := by
    rw [log]
    simp
  refine ⟨lost,?_,?_⟩
  · intro mac
    rw [log]
    simp
  · intro accounted
    exact accounted.lawful 7 42 .replaced lost

end PmdPytcp.Neighbor
