import PmdPytcp.Neighbor.Moves

namespace PmdPytcp.Neighbor
open NeighborCache

variable {A M P : Type}

-- A change of state begins a new count.
def count (times : List ℚ) : Note A M P → List ℚ
  | .moved _ _ _ => []
  | .solicited _ _ now => times ++ [now]
  | .queued _ _ _ => times
  | .sent _ _ _ => times
  | .dropped _ _ _ => times

theorem count_lose (times : List ℚ) (a : A) (packets : List P) (cause : Cause) :
    (lose a packets cause : List (Note A M P)).foldl count times = times := by
  unfold lose
  induction packets with
  | nil => rfl
  | cons packet rest ih => exact ih

def Waiting (e : NeighborEntry M P) : Prop := e.state = .incomplete ∨ e.state = .probe

-- While an entry waits, its counter and its timestamp describe the
-- solicitations sent since it began to wait.
def Tracked (o : Option (NeighborEntry M P)) (times : List ℚ) : Prop :=
  ∀ e, o = some e → Waiting e → times.length = e.probeCount ∧ times.getLast? = some e.stateChangedAt

theorem Tracked.settled {e : NeighborEntry M P} {times : List ℚ} (settled : ¬Waiting e) : Tracked (some e) times := by
  intro found same waiting
  cases same
  exact absurd waiting settled

theorem Tracked.first {e : NeighborEntry M P} {now : ℚ} (one : e.probeCount = 1) (changed : e.stateChangedAt = now) :
    Tracked (some e) [now] := by
  intro found same _
  cases same
  exact ⟨one.symm,by rw [changed]; rfl⟩

variable {call : Call A M P} {a : A} {o o' : Option (NeighborEntry M P)} {notes : List (Note A M P)} {times : List ℚ}

theorem Move.tracked (move : Move call a o notes o') (before : Tracked o times) :
    Tracked o' (notes.foldl count times) := by
  cases move with
  | stay => exact before
  | create now => exact .first rfl rfl
  | touch e now =>
    intro found same waiting
    cases same
    exact before e rfl waiting
  | delay e now stale => exact .settled (by simp [Waiting,transition])
  | restart e now failed => exact .first rfl rfl
  | learn mac now => exact .settled (by simp [Waiting])
  | resolve e mac now called dynamic => exact .settled (by simp [Waiting,transition])
  | pin o mac now called => exact .settled (by simp [Waiting])
  | remove o called | clear o called => exact nofun
  | confirm e now confirmable => exact .settled (by simp [Waiting,transition])
  | enqueue e packet knobs called =>
    rw [List.foldl_append,count_lose]
    intro found same waiting
    cases same
    exact before e rfl waiting
  | age e now reachable => exact .settled (by simp [Waiting,transition])
  | probe e used now delayed => exact .first rfl rfl
  | solicit e mac knobs touched used now called waiting =>
    intro found same _
    cases same
    obtain ⟨length,_⟩ := before e rfl waiting
    refine ⟨?_,?_⟩
    · simp [count,length]
    · simp [count]
  | fail e knobs touched now called waiting spent => exact .settled (by simp [Waiting,transition])

theorem Turn.tracked (turn : Turn call a o notes o') (before : Tracked o times) :
    Tracked o' (notes.foldl count times) := by
  cases turn with
  | move move => exact move.tracked before
  | collect e knobs touched now called move eligible => exact nofun

theorem Move.failed {now : ℚ} (move : Move call a o notes o') (given : .moved a .failed now ∈ notes) :
    ∃ knobs touched e, call = .runMaintenanceOnce knobs touched now ∧ o = some e ∧ Waiting e ∧
      solicitLimit knobs e.state ≤ e.probeCount := by
  cases move with
  | fail e knobs touched time called waiting spent =>
    rcases List.mem_cons.mp given with same | lost
    · cases same
      exact ⟨knobs,touched,e,called,rfl,waiting,spent⟩
    · simp [lose] at lost
  | _ => simp [lose] at given

theorem Turn.failed {now : ℚ} (turn : Turn call a o notes o') (given : .moved a .failed now ∈ notes) :
    ∃ knobs touched e, call = .runMaintenanceOnce knobs touched now ∧ o = some e ∧ Waiting e ∧
      solicitLimit knobs e.state ≤ e.probeCount := by
  cases turn with
  | move move => exact move.failed given
  | collect e knobs touched now called move eligible =>
    rcases List.mem_append.mp given with here | lost
    · exact move.failed here
    · simp [lose] at lost

variable [DecidableEq A]

-- Times of the solicitations for a neighbor since it last changed state.
def solicitations (a : A) (log : List (Note A M P)) : List ℚ := (about a log).foldl count []

def World.Tracked (w : World A M P) : Prop :=
  ∀ a, Neighbor.Tracked (w.cache.entries.get a) (solicitations a w.log)

theorem start_tracked : (World.start : World A M P).Tracked := fun _ _ found => nomatch found

theorem next_tracked (w : World A M P) (call : Call A M P) (before : w.Tracked) : (w.next call).Tracked := by
  intro a
  show Neighbor.Tracked ((perform call w.cache).1.entries.get a) (solicitations a (w.log ++ (perform call w.cache).2))
  unfold solicitations
  rw [about_append,List.foldl_append]
  exact (perform_turn call w.cache a).tracked (before a)

-- A neighbor is given up by a maintenance pass alone, after every solicitation
-- was sent and a whole retransmit interval after the last.
def OnTime (call : Call A M P) (w : World A M P) : Prop :=
  ∀ a now, .moved a .failed now ∈ (perform call w.cache).2 →
    ∃ knobs touched e, call = .runMaintenanceOnce knobs touched now ∧ w.cache.entries.get a = some e ∧ Waiting e ∧
      solicitLimit knobs e.state ≤ (solicitations a w.log).length ∧
      ∃ last ∈ (solicitations a w.log).getLast?, knobs.retransTimer ≤ now - last

-- No pass runs while an entry that has spent its solicitations still has an
-- answer to wait for.
def Spaced (call : Call A M P) (w : World A M P) : Prop :=
  match call with
  | .runMaintenanceOnce knobs _ now =>
    ∀ a e, w.cache.entries.get a = some e → Waiting e → solicitLimit knobs e.state ≤ e.probeCount →
      knobs.retransTimer ≤ now - e.stateChangedAt
  | _ => True

theorem spent_fails {c : NeighborCache A M P} {knobs : Knobs} {touched : A → Option ℚ} {now : ℚ} {a : A}
    {e : NeighborEntry M P} (held : c.entries.get a = some e) (waiting : Waiting e)
    (spent : solicitLimit knobs e.state ≤ e.probeCount) :
    .moved a .failed now ∈ (c.runMaintenanceOnce knobs touched now).2 := by
  refine (mem_about (a := a)).mp ?_ |>.1
  rw [runMaintenanceOnce_about,held]
  refine List.mem_append_left _ ?_
  show _ ∈ (maintain knobs _ _ now a e).2
  unfold maintain
  rcases waiting with incomplete | probed
  · rw [incomplete] at spent ⊢
    change knobs.maxMulticastSolicit ≤ e.probeCount at spent
    simp only [retransmit]
    rw [if_pos spent]
    exact List.mem_cons_self
  · rw [probed] at spent ⊢
    change knobs.maxUnicastSolicit ≤ e.probeCount at spent
    simp only [retransmit]
    rw [if_pos spent]
    exact List.mem_cons_self

theorem onTime_iff (w : World A M P) (call : Call A M P) (tracked : w.Tracked) : OnTime call w ↔ Spaced call w := by
  constructor
  · intro onTime
    cases call with
    | runMaintenanceOnce knobs touched now =>
      intro a e held waiting spent
      obtain ⟨_,_,found,called,got,_,_,last,atEnd,elapsed⟩ := onTime a now (spent_fails held waiting spent)
      cases called
      rw [held] at got
      cases got
      rw [(tracked a e held waiting).2] at atEnd
      cases atEnd
      exact elapsed
    | _ => trivial
  · intro spaced a now given
    have here : .moved a .failed now ∈ about a (perform call w.cache).2 := mem_about.mpr ⟨given,rfl⟩
    obtain ⟨knobs,touched,e,called,held,waiting,spent⟩ := (perform_turn call w.cache a).failed here
    obtain ⟨length,atEnd⟩ := tracked a e held waiting
    subst called
    exact ⟨knobs,touched,e,rfl,held,waiting,length ▸ spent,e.stateChangedAt,atEnd,spaced a e held waiting spent⟩

theorem failures_on_time_iff (calls : List (Call A M P)) :
    Runs.Met World.next OnTime calls .start ↔ Runs.Met World.next Spaced calls .start :=
  Runs.met_congr World.Tracked next_tracked onTime_iff calls start_tracked

-- Three solicitations a second apart, and a pass a tenth of a second after the
-- last.
def hurried : List (Call Nat Nat Nat) :=
  [.findEntry 7 0,.runMaintenanceOnce .standard (fun _ => none) 1,.runMaintenanceOnce .standard (fun _ => none) 2,
    .runMaintenanceOnce .standard (fun _ => none) (21/10)]

theorem hurried_failure : ¬Runs.Met World.next OnTime hurried .start := by
  rintro ⟨_,_,_,early,_⟩
  obtain ⟨_,_,_,called,_,_,_,last,atEnd,elapsed⟩ := early 7 (21/10) (by decide +kernel)
  have sent : solicitations 7 (Runs.run World.next .start (hurried.take 3)).log = [0,1,2] := by decide +kernel
  have two : last = 2 := by
    change last ∈ (solicitations 7 (Runs.run World.next .start (hurried.take 3)).log).getLast? at atEnd
    rw [sent] at atEnd
    exact (Option.some.inj atEnd).symm
  cases called
  subst two
  norm_num [Knobs.standard] at elapsed

end PmdPytcp.Neighbor
