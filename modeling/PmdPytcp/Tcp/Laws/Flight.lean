import PmdPytcp.Tcp.Refine.Run

namespace PmdPytcp.Tcp
open Arc TcpSession

-- Every block kept is a piece of the flight, and so is what `pipe` counts.
theorem scoreboard_in_flight {s : TcpSession} (reached : Reached (Keeps []) s) :
    (∀ block ∈ s.sackScoreboard, arc s.sndSeq.una block.1 < arc s.sndSeq.una block.2 ∧
      arc s.sndSeq.una block.2 ≤ arc s.sndSeq.una s.sndSeq.max) ∧
    0 ≤ pipe s.sackScoreboard s.sndSeq.una s.sndSeq.max ∧
    pipe s.sackScoreboard s.sndSeq.una s.sndSeq.max ≤ arc s.sndSeq.una s.sndSeq.max := by
  obtain ⟨inv,_⟩ := reached_law (fun _ => True) (fun _ => id) (fun _ _ => trivial) (fun _ _ _ _ _ => trivial) reached
  have board : Board s.sndSeq.una s.sndSeq.max s.sackScoreboard := inv.board
  refine ⟨board.inside,?_⟩
  exact pipe_bounds inv.short board (le_of_eq_of_le (arc_self _) (Nat.zero_le _))

def hundredOut : List (Env × Event) :=
  [({nowMs := 20},.packet (peerSyn true)),
   ({nowMs := 21},.tick),
   ({nowMs := 30},.packet (peerAck 501 1001 [])),
   ({nowMs := 40},.send (List.replicate 100 7)),
   ({nowMs := 41},.tick)]

def sackedRun : List (Env × Event) := hundredOut ++ [({nowMs := 50},.packet (peerAck 501 1001 [(1051,1101)]))]

theorem scoreboard_in_flight_sacked :
    Inside 1001 1101 (1051,1101) ∧ pipe (listening.run sackedRun).sackScoreboard 1001 1101 ≤ arc (1001 : Seq32) 1101 := by
  have reached : Reached (Keeps []) (listening.run sackedRun) :=
    Runs.Reached.run (.start listening listening_opened) sackedRun (by decide +kernel)
  obtain ⟨inside,_,bound⟩ := scoreboard_in_flight reached
  have una : (listening.run sackedRun).sndSeq.una = 1001 := by decide +kernel
  have top : (listening.run sackedRun).sndSeq.max = 1101 := by decide +kernel
  have board : (listening.run sackedRun).sackScoreboard = [(1051,1101)] := by decide +kernel
  rw [una,top] at inside bound
  rw [board] at inside
  exact ⟨inside (1051,1101) (List.mem_cons_self ..),bound⟩

-- Both edges half the space away pass the three comparisons of the gate.
def wideRun : List (Env × Event) :=
  hundredOut ++ [({nowMs := 50},.packet (peerAck 501 1001 [(1001,1002),(0x8000_03E8,0x8000_044E)]))]

theorem scoreboard_leaves_flight : Opened listening ∧
    (0x8000_03E8,0x8000_044E) ∈ (listening.run wideRun).sackScoreboard ∧
    (listening.run wideRun).sndSeq.una = 1001 ∧ (listening.run wideRun).sndSeq.max = 1101 ∧
    ¬arc (1001 : Seq32) 0x8000_044E ≤ arc (1001 : Seq32) 1101 ∧
    pipe (listening.run wideRun).sackScoreboard 1001 1101 < 0 := by
  refine ⟨listening_opened,?_,?_,?_,?_,?_⟩ <;> decide +kernel

-- SND.NXT stays between the edges, and the edges within half the space.
theorem send_edges_ordered {s : TcpSession} (reached : Reached (Keeps []) s) :
    arc s.sndSeq.una s.sndSeq.nxt ≤ arc s.sndSeq.una s.sndSeq.max ∧ arc s.sndSeq.una s.sndSeq.max < 0x8000_0000 := by
  obtain ⟨inv,_⟩ := reached_law (fun _ => True) (fun _ => id) (fun _ _ => trivial) (fun _ _ _ _ _ => trivial) reached
  exact ⟨inv.nxt,inv.short⟩

theorem send_edges_ordered_sacked :
    arc (1001 : Seq32) (listening.run sackedRun).sndSeq.nxt ≤ arc (1001 : Seq32) 1101 ∧ arc (1001 : Seq32) 1101 < 0x8000_0000 := by
  have reached : Reached (Keeps []) (listening.run sackedRun) :=
    Runs.Reached.run (.start listening listening_opened) sackedRun (by decide +kernel)
  have ordered := send_edges_ordered reached
  have una : (listening.run sackedRun).sndSeq.una = 1001 := by decide +kernel
  have top : (listening.run sackedRun).sndSeq.max = 1101 := by decide +kernel
  rw [una,top] at ordered
  exact ordered

-- A block from beyond SND.MAX, half the space long: once a retransmission has
-- come up to it, SND.NXT is taken to its end.
def beyondRun : List (Env × Event) :=
  [({nowMs := 20,listenNodelay := true},.packet (peerSyn true)),
   ({nowMs := 21},.tick),
   ({nowMs := 30},.packet (peerAck 501 1001 [])),
   ({nowMs := 40},.send (List.replicate 100 7)),
   ({nowMs := 41},.tick),
   ({nowMs := 42},.send (List.replicate 10 7)),
   ({nowMs := 42},.packet (peerAck 501 1001 [(1051,1101),(1102,0x8000_044E)])),
   ({nowMs := 43},.tick),
   ({nowMs := 44},.tick)]

theorem next_beyond_max : Opened listening ∧ (listening.run beyondRun).sndSeq.una = 1001 ∧
    (listening.run beyondRun).sndSeq.max = 1111 ∧ (listening.run beyondRun).sndSeq.nxt = 0x8000_044E ∧
    ¬arc (1001 : Seq32) 0x8000_044E ≤ arc (1001 : Seq32) 1111 := by
  refine ⟨listening_opened,?_,?_,?_,?_⟩ <;> decide +kernel

-- No event fails, and the control variables stay where the helpers want them.
theorem congestion_control_safe {s : TcpSession} (reached : Reached (Keeps []) s) :
    0 < s.cc.cwnd ∧ 0 < s.cc.ssthresh ∧ (s.cc.recoveryPoint ≠ 0 → s.cc.recoverFs ≠ 0) ∧
    ∀ e event, s.TameEvent (e,event) → ∃ s', s.handle e event = .ok s' := by
  obtain ⟨inv,_⟩ := reached_law (fun _ => True) (fun _ => id) (fun _ _ => trivial) (fun _ _ _ _ _ => trivial) reached
  refine ⟨inv.cc.cwnd,inv.cc.ssthresh,?_,?_⟩
  · intro under
    have positive : 0 < s.cc.recoverFs := (inv.cc.recovering under).1
    omega
  · intro e event tame
    obtain ⟨s',result,_⟩ := @handle_path _ _ (fun _ => True) event inv tame (fun _ _ => trivial)
    exact ⟨s',result⟩

theorem congestion_control_safe_sacked : 0 < (listening.run sackedRun).cc.cwnd ∧
    ∃ s', (listening.run sackedRun).handle {nowMs := 60} (.packet (peerAck 501 1101 [])) = .ok s' := by
  have reached : Reached (Keeps []) (listening.run sackedRun) :=
    Runs.Reached.run (.start listening listening_opened) sackedRun (by decide +kernel)
  obtain ⟨cwnd,_,_,fine⟩ := congestion_control_safe reached
  exact ⟨cwnd,fine {nowMs := 60} (.packet (peerAck 501 1101 [])) (by decide +kernel)⟩

-- CLOSE_WAIT with nothing in flight: the third duplicate starts a recovery.
def idleDuplicates : List (Env × Event) :=
  [({nowMs := 20},.packet (peerSyn false)),
   ({nowMs := 21},.tick),
   ({nowMs := 30},.packet (peerAck 501 1001 [])),
   ({nowMs := 40},.packet {tcpFlagAck := true,tcpFlagFin := true,tcpSeq := 501,tcpAck := 1001,tcpWin := 65535}),
   ({nowMs := 50},.packet (peerAck 502 1001 [])),
   ({nowMs := 51},.packet (peerAck 502 1001 [])),
   ({nowMs := 52},.packet (peerAck 502 1001 []))]

theorem congestion_window_collapses : Opened listening ∧ (listening.run idleDuplicates).state = .closeWait ∧
    (listening.run idleDuplicates).cc.cwnd = 0 ∧ (listening.run idleDuplicates).cc.recoveryPoint ≠ 0 ∧
    (listening.run idleDuplicates).cc.recoverFs = 0 := by
  refine ⟨listening_opened,?_,?_,?_,?_⟩ <;> decide +kernel

end PmdPytcp.Tcp
