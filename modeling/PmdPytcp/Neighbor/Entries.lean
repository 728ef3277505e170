import PmdPytcp.Neighbor.Moves

namespace PmdPytcp.Neighbor
open NeighborCache

variable {A M P : Type}

def NudState.resolved : NudState → Bool
  | .reachable | .stale | .delay | .probe | .permanent => true
  | .incomplete | .failed => false

-- Counters are held against the limits of the last maintenance pass; before the
-- first one every counter is at its start.
structure EntrySound (last : Option Knobs) (e : NeighborEntry M P) : Prop where
  known : e.state.resolved = true → ∃ mac, e.macAddress = some mac
  unknown : e.state = .incomplete → e.macAddress = none
  emptied : e.state = .failed → e.queuedPackets = []
  counted : e.state = .incomplete ∨ e.state = .probe → 1 ≤ e.probeCount
  limited : e.state = .incomplete ∨ e.state = .probe → ∀ knobs ∈ last, e.probeCount ≤ solicitLimit knobs e.state
  first : e.state = .incomplete ∨ e.state = .probe → last = none → e.probeCount = 1

def Sound (last : Option Knobs) (o : Option (NeighborEntry M P)) : Prop := ∀ e, o = some e → EntrySound last e

theorem solicitLimit_positive (knobs : Knobs) (state : NudState) : 1 ≤ solicitLimit knobs state := by
  cases state with
  | probe => exact knobs.maxUnicastSolicitPositive
  | _ => exact knobs.maxMulticastSolicitPositive

variable {last : Option Knobs} {e : NeighborEntry M P}

-- Three shapes cover what calls leave behind: a neighbor with a MAC that waits
-- for nothing, one that was solicited once, and one that was given up.
theorem EntrySound.settled (resolved : e.state.resolved = true) (quiet : e.state ≠ .probe)
    (known : ∃ mac, e.macAddress = some mac) : EntrySound last e := by
  have complete : e.state ≠ .incomplete := by
    intro incomplete
    rw [incomplete] at resolved
    cases resolved
  have waits : ¬(e.state = .incomplete ∨ e.state = .probe) := by
    rintro (incomplete | probing)
    · exact complete incomplete
    · exact quiet probing
  refine ⟨fun _ => known,fun incomplete => absurd incomplete complete,?_,fun waiting => absurd waiting waits,
    fun waiting => absurd waiting waits,fun waiting => absurd waiting waits⟩
  intro failed
  rw [failed] at resolved
  cases resolved

theorem EntrySound.solicitedOnce (one : e.probeCount = 1)
    (mac : (e.state = .incomplete ∧ e.macAddress = none) ∨ (e.state = .probe ∧ ∃ mac, e.macAddress = some mac)) :
    EntrySound last e := by
  refine ⟨?_,?_,?_,fun _ => one.ge,fun _ knobs _ => one.le.trans (solicitLimit_positive knobs e.state),fun _ _ => one⟩
  · intro resolved
    rcases mac with ⟨incomplete,_⟩ | ⟨_,known⟩
    · rw [incomplete] at resolved
      cases resolved
    · exact known
  · intro incomplete
    rcases mac with ⟨_,unknown⟩ | ⟨probing,_⟩
    · exact unknown
    · rw [incomplete] at probing
      cases probing
  · intro failed
    rcases mac with ⟨other,_⟩ | ⟨other,_⟩
    · rw [failed] at other
      cases other
    · rw [failed] at other
      cases other

theorem EntrySound.givenUp (failed : e.state = .failed) (emptied : e.queuedPackets = []) : EntrySound last e := by
  have waits : ¬(e.state = .incomplete ∨ e.state = .probe) := by simp [failed]
  refine ⟨?_,by simp [failed],fun _ => emptied,fun waiting => absurd waiting waits,
    fun waiting => absurd waiting waits,fun waiting => absurd waiting waits⟩
  intro resolved
  rw [failed] at resolved
  cases resolved

variable {call : Call A M P} {a : A} {o o' : Option (NeighborEntry M P)} {notes : List (Note A M P)}

def Call.passes : Call A M P → Option Knobs
  | .runMaintenanceOnce knobs _ _ => some knobs
  | _ => none

def Call.enqueues : Call A M P → Bool
  | .enqueuePending _ _ _ => true
  | _ => false

theorem sound_some (sound : EntrySound last e) : Sound last (some e) := by
  intro found same
  cases same
  exact sound

theorem Move.sound (move : Move call a o notes o') (before : Sound last o) (other : call.passes = none)
    (alive : ∀ packet knobs, call = .enqueuePending a packet knobs → ∀ e, o = some e → e.state ≠ .failed) : Sound last o' := by
  cases move with
  | stay => exact before
  | create now => exact sound_some (.solicitedOnce rfl (.inl ⟨rfl,rfl⟩))
  | touch e now =>
    have sound := before e rfl
    exact sound_some ⟨sound.known,sound.unknown,sound.emptied,sound.counted,sound.limited,sound.first⟩
  | delay e now stale =>
    have known := (before e rfl).known (by rw [stale]; rfl)
    exact sound_some (.settled rfl (by simp [transition]) known)
  | restart e now failed => exact sound_some (.solicitedOnce rfl (.inl ⟨rfl,rfl⟩))
  | learn mac now => exact sound_some (.settled rfl (by simp) ⟨mac,rfl⟩)
  | resolve e mac now called dynamic => exact sound_some (.settled rfl (by simp [transition]) ⟨mac,rfl⟩)
  | pin o mac now called => exact sound_some (.settled rfl (by simp) ⟨mac,rfl⟩)
  | remove o called | clear o called => exact nofun
  | confirm e now confirmable =>
    have known := (before e rfl).known (by rcases confirmable with state | state | state <;> rw [state] <;> rfl)
    exact sound_some (.settled rfl (by simp [transition]) known)
  | enqueue e packet knobs called =>
    have sound := before e rfl
    exact sound_some ⟨sound.known,sound.unknown,fun failed => absurd failed (alive packet knobs called e rfl),sound.counted,
      sound.limited,sound.first⟩
  | age e now reachable =>
    have known := (before e rfl).known (by rw [reachable]; rfl)
    exact sound_some (.settled rfl (by simp [transition]) known)
  | probe e used now delayed =>
    have known := (before e rfl).known (by rw [delayed]; rfl)
    exact sound_some (.solicitedOnce rfl (.inr ⟨rfl,known⟩))
  | solicit e mac knobs touched used now called waiting =>
    rw [called] at other
    cases other
  | fail e knobs touched now called waiting spent =>
    rw [called] at other
    cases other

theorem Turn.sound (turn : Turn call a o notes o') (before : Sound last o) (other : call.passes = none)
    (alive : ∀ packet knobs, call = .enqueuePending a packet knobs → ∀ e, o = some e → e.state ≠ .failed) :
    Sound last o' := by
  cases turn with
  | move move => exact move.sound before other alive
  | collect e knobs touched now called move eligible => exact nofun

theorem retransmit_sound {limit : Nat} {mac : Option M} {timer : Nat} {touched : Option ℚ} {now : ℚ} (knobs : Knobs)
    (sound : EntrySound last e) (waiting : e.state = .incomplete ∨ e.state = .probe)
    (bound : limit = solicitLimit knobs e.state) :
    EntrySound (some knobs) (retransmit a e limit mac timer touched now).1 := by
  have alive : e.state ≠ .failed := by
    rcases waiting with state | state <;> rw [state] <;> simp
  unfold retransmit
  split
  · exact .givenUp rfl rfl
  next unspent =>
  split
  · refine ⟨sound.known,sound.unknown,fun failed => absurd failed alive,fun _ => Nat.le_add_left 1 _,?_,nofun⟩
    intro _ used same
    cases same
    show e.probeCount + 1 ≤ solicitLimit knobs e.state
    omega
  · refine ⟨sound.known,sound.unknown,sound.emptied,sound.counted,?_,nofun⟩
    intro _ used same
    cases same
    show e.probeCount ≤ solicitLimit knobs e.state
    omega

theorem EntrySound.quiet (knobs : Knobs) (sound : EntrySound last e) (incomplete : e.state ≠ .incomplete)
    (probing : e.state ≠ .probe) : EntrySound (some knobs) e := by
  have waits : ¬(e.state = .incomplete ∨ e.state = .probe) := by simp [incomplete,probing]
  exact ⟨sound.known,sound.unknown,sound.emptied,fun waiting => absurd waiting waits,
    fun waiting => absurd waiting waits,fun waiting => absurd waiting waits⟩

theorem maintain_sound {override touched : Option ℚ} {now : ℚ} (knobs : Knobs) (sound : EntrySound last e) :
    EntrySound (some knobs) (maintain knobs override touched now a e).1 := by
  unfold maintain
  cases state : e.state with
  | reachable =>
    have known := sound.known (by rw [state]; rfl)
    dsimp only
    split
    · exact .settled rfl (by simp [transition]) known
    · exact sound.quiet knobs (by simp [state]) (by simp [state])
  | delay =>
    have known := sound.known (by rw [state]; rfl)
    dsimp only
    split
    · exact .solicitedOnce rfl (.inr ⟨rfl,known⟩)
    · exact sound.quiet knobs (by simp [state]) (by simp [state])
  | incomplete => exact retransmit_sound knobs sound (.inl state) (by rw [state]; rfl)
  | probe => exact retransmit_sound knobs sound (.inr state) (by rw [state]; rfl)
  | stale | failed | permanent => exact sound.quiet knobs (by simp [state]) (by simp [state])

variable [DecidableEq A]

-- What the stack does with a cache: a transmission looks its next hop up and
-- queues the packet right there when no MAC comes back; nothing else queues.
inductive Use (A M P : Type) where
  | transmit (address : A) (packet : P) (now : ℚ) (knobs : Knobs)
  | call (call : Call A M P) (bare : call.enqueues = false)

-- The cache with the settings of its last maintenance pass.
structure Watch (A M P : Type) where
  cache : NeighborCache A M P
  last : Option Knobs

def transmit (c : NeighborCache A M P) (address : A) (packet : P) (now : ℚ) (knobs : Knobs) : NeighborCache A M P :=
  match c.findEntry address now with
  | (some _,after,_) => after
  | (none,after,_) => (after.enqueuePending address packet knobs).1

namespace Watch

def start : Watch A M P := {cache := .empty,last := none}

def next (use : Use A M P) (w : Watch A M P) : Watch A M P :=
  match use with
  | .transmit address packet now knobs => {w with cache := transmit w.cache address packet now knobs}
  | .call call _ => {cache := (perform call w.cache).1,last := call.passes <|> w.last}

end Watch

variable {c : NeighborCache A M P} {w : Watch A M P}

theorem findEntry_none (now : ℚ) (sound : Sound last (c.entries.get a)) (missed : (c.findEntry a now).1 = none)
    (found : (c.findEntry a now).2.1.entries.get a = some e) : e.state = .incomplete := by
  unfold findEntry at missed found
  cases held : c.entries.get a with
  | none =>
    simp only [held,Store.get_set_self,Option.some.injEq] at found
    rw [← found]
  | some old =>
    simp only [held] at missed found
    have known := (sound old held).known
    split at found
    case h_6 failed =>
      rw [Store.get_set_self] at found
      cases found
      rfl
    case h_7 incomplete =>
      rw [Store.get_set_self] at found
      cases found
      exact incomplete
    case h_5 stale =>
      rw [stale] at missed
      obtain ⟨mac,there⟩ := known (by rw [stale]; rfl)
      rw [there] at missed
      cases missed
    all_goals
      rename_i state
      rw [state] at missed
      obtain ⟨mac,there⟩ := known (by rw [state]; rfl)
      rw [there] at missed
      cases missed

theorem transmit_sound {now : ℚ} {knobs : Knobs} {packet : P} (b : A) (sound : ∀ a, Sound last (c.entries.get a)) (a : A) :
    Sound last ((transmit c b packet now knobs).entries.get a) := by
  have looked (a : A) : Sound last ((c.findEntry b now).2.1.entries.get a) := by
    have move : Move (.findEntry b now) a (c.entries.get a) _ _ := findEntry_move b now a
    exact move.sound (sound a) rfl (by intro _ _ called; cases called)
  unfold transmit
  cases result : c.findEntry b now with
  | mk answer rest =>
    rw [result] at looked
    cases answer with
    | some mac => exact looked a
    | none =>
      refine (enqueuePending_move b packet knobs a).sound (looked a) rfl ?_
      intro _ _ called e found failed
      cases called
      have incomplete := findEntry_none now (sound b) (by rw [result]) (by rw [result]; exact found)
      rw [failed] at incomplete
      cases incomplete

theorem maintenance_sound {knobs : Knobs} {touched : A → Option ℚ} {now : ℚ}
    (sound : ∀ a, Sound last (c.entries.get a)) (a : A) :
    Sound (some knobs) ((c.runMaintenanceOnce knobs touched now).1.entries.get a) := by
  intro e found
  have collected := gcPass_collects knobs now (c.entries.map fun address entry =>
    (maintain knobs c.reachableTimeOverride (touched address) now address entry).1) a
  rcases collected with ⟨same,_⟩ | ⟨_,_,_,_,gone⟩
  · change (gcPass knobs now _).1.get a = some e at found
    rw [same,Store.get_map] at found
    obtain ⟨old,held,rfl⟩ := Option.map_eq_some_iff.mp found
    exact maintain_sound knobs (sound a old held)
  · change (gcPass knobs now _).1.get a = some e at found
    rw [gone] at found
    cases found

theorem perform_sound (bare : call.enqueues = false) (sound : ∀ a, Sound last (c.entries.get a)) (a : A) :
    Sound (call.passes <|> last) ((perform call c).1.entries.get a) := by
  cases passes : call.passes with
  | none =>
    refine (perform_turn call c a).sound (sound a) passes ?_
    rintro packet knobs rfl
    cases bare
  | some knobs =>
    cases call with
    | runMaintenanceOnce used touched now =>
      cases passes
      exact maintenance_sound sound a
    | _ => cases passes

theorem next_sound (w : Watch A M P) (use : Use A M P) (sound : ∀ a, Sound w.last (w.cache.entries.get a)) (a : A) :
    Sound (w.next use).last ((w.next use).cache.entries.get a) := by
  cases use with
  | transmit b packet now knobs => exact transmit_sound b sound a
  | call call bare => exact perform_sound bare sound a

theorem findEntry_answers (c : NeighborCache A M P) (a : A) (now : ℚ) (mac : M) :
    (c.findEntry a now).1 = some mac ↔
      ∃ e, c.entries.get a = some e ∧ e.state.resolved = true ∧ e.macAddress = some mac := by
  unfold findEntry
  cases held : c.entries.get a with
  | none => simp
  | some old =>
    dsimp only
    cases state : old.state with
    | incomplete | failed => simp [state,NudState.resolved]
    | _ => simp [state,NudState.resolved]

def Use.static (a : A) : Use A M P → Prop
  | .call (.addPermanentEntry b _ _) _ => a = b
  | .call (.removeEntry b) _ => a = b
  | .call .flush _ => True
  | _ => False

omit [DecidableEq A] in
theorem Move.static (move : Move call a o notes o') (held : o = some e) (permanent : e.state = .permanent)
    (pinned : ∀ mac now, call ≠ .addPermanentEntry a mac now) (removed : call ≠ .removeEntry a) (flushed : call ≠ .flush) :
    ∃ after, o' = some after ∧ after.state = .permanent ∧ after.macAddress = e.macAddress := by
  cases move with
  | stay => exact ⟨e,held,permanent,rfl⟩
  | create now | learn mac now => cases held
  | touch e' now =>
    cases held
    exact ⟨_,rfl,permanent,rfl⟩
  | enqueue e' packet knobs called =>
    cases held
    exact ⟨_,rfl,permanent,rfl⟩
  | pin o mac now called => exact absurd called (pinned mac now)
  | remove o called => exact absurd called removed
  | clear o called => exact absurd called flushed
  | resolve e' mac now called dynamic =>
    cases held
    exact absurd permanent dynamic
  | delay e' now state | restart e' now state | age e' now state | probe e' used now state =>
    cases held
    rw [permanent] at state
    cases state
  | confirm e' now confirmable =>
    cases held
    simp [permanent] at confirmable
  | solicit e' mac knobs touched used now called waiting =>
    cases held
    simp [permanent] at waiting
  | fail e' knobs touched now called waiting spent =>
    cases held
    simp [permanent] at waiting

omit [DecidableEq A] in
theorem Turn.static (turn : Turn call a o notes o') (held : o = some e) (permanent : e.state = .permanent)
    (pinned : ∀ mac now, call ≠ .addPermanentEntry a mac now) (removed : call ≠ .removeEntry a) (flushed : call ≠ .flush) :
    ∃ after, o' = some after ∧ after.state = .permanent ∧ after.macAddress = e.macAddress := by
  cases turn with
  | move move => exact move.static held permanent pinned removed flushed
  | collect aged knobs touched now called move eligible =>
    obtain ⟨after,same,still,_⟩ := move.static held permanent pinned removed flushed
    cases same
    unfold evictable at eligible
    simp [still] at eligible

theorem transmit_static {now : ℚ} {knobs : Knobs} {packet : P} (b : A) (held : c.entries.get a = some e)
    (permanent : e.state = .permanent) :
    ∃ after, (transmit c b packet now knobs).entries.get a = some after ∧ after.state = .permanent ∧
      after.macAddress = e.macAddress := by
  have move : Move (.findEntry b now) a (c.entries.get a) _ _ := findEntry_move b now a
  obtain ⟨looked,there,still,same⟩ := move.static held permanent nofun nofun nofun
  unfold transmit
  cases result : c.findEntry b now with
  | mk answer rest =>
    rw [result] at there
    cases answer with
    | some mac => exact ⟨looked,there,still,same⟩
    | none =>
      have queued := enqueuePending_move (c := rest.1) b packet knobs a
      obtain ⟨after,here,again,mac⟩ := queued.static there still nofun nofun nofun
      exact ⟨after,here,again,mac.trans same⟩

theorem next_static (w : Watch A M P) (use : Use A M P) (held : w.cache.entries.get a = some e)
    (permanent : e.state = .permanent) (dynamic : ¬use.static a) :
    ∃ after, (w.next use).cache.entries.get a = some after ∧ after.state = .permanent ∧
      after.macAddress = e.macAddress := by
  cases use with
  | transmit b packet now knobs => exact transmit_static b held permanent
  | call call bare =>
    refine (perform_turn call w.cache a).static held permanent ?_ ?_ ?_
    · rintro mac now rfl
      exact dynamic rfl
    · rintro rfl
      exact dynamic rfl
    · rintro rfl
      exact dynamic trivial

structure Consistent (w : Watch A M P) : Prop where
  entries : ∀ a e, w.cache.entries.get a = some e → EntrySound w.last e
  lookups : ∀ a now mac, (w.cache.findEntry a now).1 = some mac ↔
    ∃ e, w.cache.entries.get a = some e ∧ e.state.resolved = true ∧ e.macAddress = some mac
  answered : ∀ a now e, w.cache.entries.get a = some e → e.state.resolved = true →
    ∃ mac, (w.cache.findEntry a now).1 = some mac
  static : ∀ use a e, w.cache.entries.get a = some e → e.state = .permanent → ¬use.static a →
    ∃ after, (w.next use).cache.entries.get a = some after ∧ after.state = .permanent ∧
      after.macAddress = e.macAddress

theorem neighbor_entries_consistent (uses : List (Use A M P)) : Consistent (Runs.run Watch.next .start uses) := by
  have sound : ∀ a, Sound (Runs.run Watch.next .start uses).last
      ((Runs.run Watch.next .start uses).cache.entries.get a) := by
    have first : Runs.Reached (· = .start) Watch.next (fun _ _ => True) (Watch.start : Watch A M P) := .start _ rfl
    have reached := first.run uses (Runs.met_true uses)
    refine reached.invariant (fun w => ∀ a, Sound w.last (w.cache.entries.get a)) ?_ ?_
    · rintro w rfl a e found
      cases found
    · intro w use before _
      exact next_sound w use before
  refine ⟨sound,?_,?_,?_⟩
  · intro a now mac
    exact findEntry_answers _ a now mac
  · intro a now e held resolved
    obtain ⟨mac,known⟩ := (sound a e held).known resolved
    exact ⟨mac,(findEntry_answers _ a now mac).mpr ⟨e,held,resolved,known⟩⟩
  · intro use a e held permanent dynamic
    exact next_static _ use held permanent dynamic

end PmdPytcp.Neighbor
