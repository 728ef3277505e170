import PmdPytcp.Tcp.Receive.Run
import PmdPytcp.Tcp.Refine.Run

namespace PmdPytcp.Tcp

structure OptionsLaw (r : Receiver) : Prop where
  cookie : (r.cookie.getD []).length ≤ 8
  told : ∀ seg ∈ r.told, seg.optionBytes ≤ 40 ↔ seg.moment.crowded = false

namespace OptionsLaw

variable {o : Occasion} {r r' : Receiver}

theorem sends (law : OptionsLaw r) {seg : Segment} (told : r'.told = r.told ++ [seg]) (cookie : r'.cookie = r.cookie)
    (fits : seg.optionBytes ≤ 40 ↔ seg.moment.crowded = false) : OptionsLaw r' := by
  refine ⟨cookie ▸ law.cookie,?_⟩
  intro other member
  rw [told] at member
  rcases List.mem_append.mp member with before | last
  · exact law.told other before
  · rw [List.mem_singleton.mp last]
    exact fits

theorem learns (law : OptionsLaw r) {cookie : Option (List UInt8)}
    (issued : cookie = r.cookie ∨ ∃ bytes, cookie = some bytes ∧ bytes.length ≤ 8) : (cookie.getD []).length ≤ 8 := by
  rcases issued with rfl | ⟨bytes,rfl,small⟩
  · exact law.cookie
  · exact small

end OptionsLaw

theorem options_law_kept {o : Occasion} {r r' : Receiver} (intake : Intake o r r') (law : OptionsLaw r) :
    OptionsLaw r' := by
  cases intake with
  | emit seg composed => exact law.sends rfl rfl (composed.options law.cookie)
  | plain seg bare =>
    have free : seg.moment.crowded = false := by
      rw [bare.moment]
      rfl
    refine law.sends rfl rfl ?_
    simp [bare.options,free]
  | note | consume | purge | pop | store | discard | read | close | begin => exact ⟨law.cookie,law.told⟩
  | move new =>
    refine ⟨?_,law.told⟩
    show (Option.getD (if _ then none else r.cookie) []).length ≤ 8
    split
    · exact Nat.zero_le 8
    · exact law.cookie
  | learn p wsc scales sendSack sendTs cookie _ _ _ _ _ issued => exact ⟨law.learns issued,law.told⟩
  | reuse =>
    refine ⟨law.cookie,?_⟩
    intro seg member
    cases member

theorem options_fit {s : TcpSession} (reached : Reached (fun _ _ => True) s) :
    ∀ seg ∈ s.log.filterMap Obs.segment, seg.optionBytes ≤ 40 ↔ seg.moment.crowded = false := by
  have law := reached_receiver OptionsLaw ?_ (fun _ _ _ law => ⟨law.cookie,law.told⟩)
    (fun _ _ _ _ _ intake law => options_law_kept intake law) reached
  · exact law.told
  · intro s opened
    obtain ⟨o,data,new,_,same⟩ := opened_receiver opened
    refine ⟨opened_untouched opened,?_⟩
    rw [same]
    refine ⟨Nat.zero_le 8,?_⟩
    intro seg member
    cases member

-- An AccECN peer opens with SACK and timestamps, leaves a hole after its
-- handshake, and marks the third segment behind the hole.
def markedSyn : TcpMetadata :=
  {tcpFlagSyn := true,tcpFlagNs := true,tcpFlagCwr := true,tcpFlagEce := true,tcpSeq := 500,tcpAck := 0,tcpWin := 65535
   tcpMss := 1460,tcpSackperm := true,tcpTsval := some 7,tcpTsecr := some 0}

def markedData (seq : Seq32) (ecn : Nat) (data : List UInt8)
    (small : wireBounds 65535 0 536 data false = true := by exact Eq.refl true) : TcpMetadata :=
  {ipEcn := ecn,tcpFlagAck := true,tcpFlagNs := true,tcpFlagEce := true,tcpSeq := seq,tcpAck := 1001,tcpWin := 65535
   tcpTsval := some 8,tcpTsecr := some 20,tcpData := data,onWire := small}

def crowdedRun : List (Env × Event) :=
  [({nowMs := 20},.packet markedSyn),
   ({nowMs := 21},.tick),
   ({nowMs := 30},.packet (markedData 501 0 [])),
   ({nowMs := 40},.packet (markedData 511 0 [1])),
   ({nowMs := 50},.packet (markedData 521 0 [2])),
   ({nowMs := 60},.packet (markedData 531 2 [3]))]

theorem options_fit_crowded : ∃ seg ∈ (listening.run crowdedRun).log.filterMap Obs.segment,
    seg.moment.crowded = true ∧ (seg.optionBytes ≤ 40 ↔ seg.moment.crowded = false) := by
  have last : ∃ seg ∈ (listening.run crowdedRun).log.filterMap Obs.segment, seg.moment.crowded = true := by
    decide +kernel
  obtain ⟨seg,member,crowded⟩ := last
  refine ⟨seg,member,crowded,?_⟩
  exact options_fit (Runs.Reached.run (.start listening listening_opened) crowdedRun (by decide +kernel)) seg member

theorem options_overrun : Opened listening ∧
    ∃ seg ∈ (listening.run crowdedRun).log.filterMap Obs.segment, seg.optionBytes = 44 ∧ ¬seg.optionBytes ≤ 40 := by
  refine ⟨listening_opened,?_⟩
  decide +kernel

end PmdPytcp.Tcp
