import PmdPytcp.Lib.Runs
import PmdPytcp.Tcp.Congestion

namespace PmdPytcp.Tcp

-- Everything the session does to the estimator: samples, timeouts, the reset
-- after an idle spell and the floor of RFC 6298 section 5.7 after a lost SYN.
inductive RtoEvent where
  | sample (sampleMs : Nat)
  | timeout
  | idleReset
  | synRetransmitted

def RtoState.raise (r : RtoState) : RtoState := if r.rtoMs < 3000 then {r with rtoMs := 3000} else r

def RtoEvent.apply (minMs : Nat) (event : RtoEvent) (r : RtoState) : RtoState :=
  match event with
  | .sample sampleMs => r.update minMs sampleMs
  | .timeout => r.backOff
  | .idleReset => RtoState.initialState
  | .synRetransmitted => r.raise

abbrev RtoReached (minMs : Nat) : RtoState → Prop :=
  Runs.Reached (fun r => r = RtoState.initialState) (RtoEvent.apply minMs) fun _ _ => True

def RtoState.Bounded (minMs : Nat) (r : RtoState) : Prop := minMs ≤ r.rtoMs ∧ r.rtoMs ≤ maxRtoMs

theorem clampRto_floor (minMs rtoMs : Nat) : minMs ≤ clampRto minMs rtoMs := Nat.le_max_left _ _

theorem clampRto_ceiling (rtoMs : Nat) (low : minMs ≤ maxRtoMs) : clampRto minMs rtoMs ≤ maxRtoMs :=
  Nat.max_le.mpr ⟨low,Nat.min_le_right _ _⟩

theorem RtoState.backOff_grows {r : RtoState} (bound : r.rtoMs ≤ maxRtoMs) : r.rtoMs ≤ r.backOff.rtoMs := by
  show r.rtoMs ≤ min (r.rtoMs * 2) maxRtoMs
  exact Nat.le_min.mpr ⟨by omega,bound⟩

theorem RtoState.Bounded.step {r : RtoState} (bounded : r.Bounded minMs) (low : minMs ≤ 1000) (event : RtoEvent) :
    (event.apply minMs r).Bounded minMs := by
  have ceiling : minMs ≤ maxRtoMs := low.trans (by decide)
  cases event with
  | sample sampleMs => exact ⟨clampRto_floor minMs _,clampRto_ceiling _ ceiling⟩
  | timeout => exact ⟨bounded.1.trans (RtoState.backOff_grows bounded.2),Nat.min_le_right _ _⟩
  | idleReset => exact ⟨low,(by decide : 1000 ≤ 60_000)⟩
  | synRetransmitted =>
    show (r.raise).Bounded minMs
    unfold RtoState.raise
    split
    · exact ⟨low.trans (by decide : 1000 ≤ 3000),(by decide : 3000 ≤ 60_000)⟩
    · exact bounded

theorem rto_bounded (low : minMs ≤ 1000) (reached : RtoReached minMs r) : r.Bounded minMs := by
  refine reached.invariant (RtoState.Bounded minMs) ?_ ?_
  · rintro r rfl
    exact ⟨low,by decide⟩
  · intro r event bounded _
    exact bounded.step low event

-- `tcp.rto.min_ms` admits every positive integer.
theorem rto_bounds_iff (minMs : Nat) :
    (∀ r, RtoReached minMs r → r.Bounded minMs ∧ r.rtoMs ≤ r.backOff.rtoMs) ↔ minMs ≤ 1000 := by
  constructor
  · intro always
    exact (always RtoState.initialState (.start _ rfl)).1.1
  · intro low r reached
    have bounded := rto_bounded low reached
    exact ⟨bounded,RtoState.backOff_grows bounded.2⟩

-- A floor above the ceiling: the first sample passes it, the next timeout falls back.
theorem rto_floor_beyond : RtoReached 70_000 (RtoState.initialState.update 70_000 5) ∧
    (RtoState.initialState.update 70_000 5).rtoMs = 70_000 ∧ maxRtoMs = 60_000 ∧
    (RtoState.initialState.update 70_000 5).backOff.rtoMs = 60_000 ∧
    RtoReached 2000 RtoState.initialState ∧ RtoState.initialState.rtoMs = 1000 := by
  refine ⟨?_,by decide,by decide,by decide,.start _ rfl,by decide⟩
  exact Runs.Reached.step RtoState.initialState (RtoEvent.sample 5) (.start _ rfl) trivial

end PmdPytcp.Tcp
