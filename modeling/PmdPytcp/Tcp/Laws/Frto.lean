import PmdPytcp.Tcp.Laws.Detection

namespace PmdPytcp.Tcp
open Arc

-- What a sender had when its retransmission timer went off.
structure Found where
  cwnd : Int
  ssthresh : Int
  cubic : CubicVars

-- What there is to see of a detection: the timeouts, each with what the sender
-- had and the highest sequence number it had sent, and the moves of SND.UNA. A
-- move is broken when the handler raised behind it, and a restart when a SYN in
-- TIME_WAIT began a new connection.
inductive Mark where
  | timeout (found : Found) (sent : Seq32)
  | advance (ack : Seq32)
  | broken (ack : Seq32)
  | restart (iss : Seq32)

namespace Mark

def Quiet (marks : List Mark) : Prop := ∀ ack, advance ack ∉ marks

-- The highest sequence number sent before the last timeout.
def marker (sent : Seq32) (marks : List Mark) : Seq32 :=
  marks.foldl (fun sent mark => match mark with
    | .timeout _ later => later
    | _ => sent) sent

-- The first acknowledgement since the timeout stopped short of what had been sent.
def Halfway (sent : Seq32) (marks : List Mark) : Prop :=
  ∃ first ack second, marks = first ++ advance ack :: second ∧ Quiet first ∧ Quiet second ∧
    lt32 ack (marker sent first) = true

-- The last mark is an acknowledgement that shows the timeout to be spurious: the
-- second one, or a first one that covers everything sent before.
def Justifies (marks : List Mark) (found : Found) : Prop :=
  ∃ earlier sent later ack, marks = earlier ++ timeout found sent :: (later ++ [advance ack]) ∧
    (Quiet later ∧ lt32 ack (marker sent later) = false ∨ Halfway sent later)

theorem Quiet.append {one two : List Mark} (first : Quiet one) (second : Quiet two) : Quiet (one ++ two) := by
  intro ack member
  rcases List.mem_append.mp member with here | there
  · exact first ack here
  · exact second ack there

theorem quiet_nil : Quiet [] := fun _ => List.not_mem_nil

theorem quiet_single {mark : Mark} (other : ∀ ack, mark ≠ advance ack) : Quiet [mark] := by
  intro ack member
  exact other ack (List.mem_singleton.mp member).symm

theorem Halfway.append {sent : Seq32} {marks more : List Mark} (halfway : Halfway sent marks) (quiet : Quiet more) :
    Halfway sent (marks ++ more) := by
  obtain ⟨first,ack,second,rfl,begun,rest,short⟩ := halfway
  exact ⟨first,ack,second ++ more,by simp,begun,rest.append quiet,short⟩

theorem marker_append (sent : Seq32) (marks : List Mark) (mark : Mark) : marker sent (marks ++ [mark]) =
    match mark with
    | .timeout _ later => later
    | _ => marker sent marks := by
  unfold marker
  rw [List.foldl_append]
  cases mark <;> rfl

end Mark

open Mark (Quiet marker Halfway Justifies)

def Detection.found (d : Detection) : Found := ⟨d.cwnd,d.ssthresh,d.cubic⟩

-- An open detection goes back to a timeout, with what has been seen since.
def Explained (marks : List Mark) (d : Detection) : Prop :=
  d.active = false ∧ d.step = 0 ∨
    d.active = true ∧ ∃ earlier sent later, marks = earlier ++ .timeout d.found sent :: later ∧
      d.sent = marker sent later ∧ (d.step = 1 ∧ Quiet later ∨ d.step = 2 ∧ Halfway sent later)

section Steps
variable {marks : List Mark} {d : Detection}

theorem Explained.quiet (explained : Explained marks d) {mark : Mark} (other : ∀ ack, mark ≠ .advance ack)
    (untimed : ∀ found sent, mark ≠ .timeout found sent) {d' : Detection} (active : d'.active = d.active)
    (step : d'.step = d.step) (sent : d'.sent = d.sent) (found : d'.found = d.found) :
    Explained (marks ++ [mark]) d' := by
  rcases explained with ⟨closed,zero⟩ | ⟨opened,earlier,begun,later,rfl,place,stage⟩
  · exact .inl ⟨active.trans closed,step.trans zero⟩
  · have kept : marker begun (later ++ [mark]) = marker begun later := by
      rw [Mark.marker_append]
      cases mark with
      | timeout found sent => exact absurd rfl (untimed found sent)
      | _ => rfl
    refine .inr ⟨active.trans opened,earlier,begun,later ++ [mark],by rw [found]; simp,?_,?_⟩
    · exact sent.trans (place.trans kept.symm)
    rw [step]
    rcases stage with ⟨one,quiet⟩ | ⟨two,halfway⟩
    · exact .inl ⟨one,quiet.append (Mark.quiet_single other)⟩
    · exact .inr ⟨two,halfway.append (Mark.quiet_single other)⟩

theorem Explained.advance (explained : Explained marks d) (ack : Seq32) :
    Explained (marks ++ [.advance ack]) (d.advance ack) ∧
      (d.active = true → (d.advance ack).active = false → Justifies (marks ++ [.advance ack]) d.found) := by
  unfold Detection.advance
  rcases explained with ⟨closed,zero⟩ | ⟨opened,earlier,sent,later,rfl,place,stage⟩
  · rw [closed]
    exact ⟨.inl ⟨rfl,zero⟩,fun opened => by cases opened⟩
  · rw [opened]
    rcases stage with ⟨one,quiet⟩ | ⟨two,halfway⟩
    · cases short : lt32 ack d.sent with
      | true =>
        rw [if_neg (by simp),if_pos ⟨one,rfl⟩]
        refine ⟨.inr ⟨rfl,earlier,sent,later ++ [.advance ack],by simp [Detection.found],?_,.inr ⟨rfl,?_⟩⟩,?_⟩
        · rw [Mark.marker_append]
          exact place
        · exact ⟨later,ack,[],rfl,quiet,Mark.quiet_nil,by rw [← place]; exact short⟩
        · intro _ closed
          cases closed
      | false =>
        rw [if_neg (by simp),if_neg (by simp),if_pos (.inl one)]
        exact ⟨.inl ⟨rfl,rfl⟩,fun _ _ => ⟨earlier,sent,later,ack,by simp,.inl ⟨quiet,by rw [← place]; exact short⟩⟩⟩
    · rw [if_neg (by simp),if_neg (by simp [two]),if_pos (.inr two)]
      exact ⟨.inl ⟨rfl,rfl⟩,fun _ _ => ⟨earlier,sent,later,ack,by simp,.inr halfway⟩⟩

end Steps

theorem advance_rest (ack : Seq32) (d : Detection) :
    (d.advance ack).una = ack ∧ (d.advance ack).found = d.found ∧ (d.advance ack).waiting = d.waiting := by
  unfold Detection.advance
  split
  · exact ⟨rfl,rfl,rfl⟩
  · split
    · exact ⟨rfl,rfl,rfl⟩
    · split
      · exact ⟨rfl,rfl,rfl⟩
      · exact ⟨rfl,rfl,rfl⟩

namespace TcpSession

def found (s : TcpSession) : Found := ⟨s.cc.cwnd,s.cc.ssthresh,s.cc.cubic⟩

-- SND.UNA moves by acknowledgements of segments that meet `src`.
inductive Acknowledged (e : Env) (src : TcpMetadata → Prop) (una : Seq32) : List Mark → Seq32 → Prop
  | still : Acknowledged e src una [] una
  | advance {marks : List Mark} {u : Seq32} (q : TcpMetadata) (before : Acknowledged e src una marks u)
      (source : src q) (ack : q.tcpFlagAck = true) (beyond : lt32 u q.tcpAck = true) :
      Acknowledged e src una (marks ++ [.advance q.tcpAck]) q.tcpAck
  | restart {marks : List Mark} {u : Seq32} (q : TcpMetadata) (before : Acknowledged e src una marks u)
      (source : src q) (syn : q.tcpFlagSyn = true) :
      Acknowledged e src una (marks ++ [.restart e.newIss]) e.newIss

-- The same up to the place where a handler raised.
inductive Cut (e : Env) (src : TcpMetadata → Prop) (una : Seq32) : List Mark → Seq32 → Prop
  | whole {marks : List Mark} {u : Seq32} (told : Acknowledged e src una marks u) : Cut e src una marks u
  | broken {marks : List Mark} {u : Seq32} (q : TcpMetadata) (before : Acknowledged e src una marks u)
      (source : src q) (ack : q.tcpFlagAck = true) (beyond : lt32 u q.tcpAck = true) :
      Cut e src una (marks ++ [.broken q.tcpAck]) q.tcpAck

-- What a step adds to the record. The acknowledgements are those of the segment
-- that arrives and of the ones stored out of order, which it may release.
def Observed (input : Env × Event) (s : TcpSession) (marks : List Mark) : Prop :=
  match input with
  | (e,.packet p) =>
    match s.tcpFsmPacket e p with
    | .ok t => Acknowledged e (fun q => q ∈ s.awaiting p) s.sndSeq.una marks t.sndSeq.una
    | .error (_,t) => Cut e (fun q => q ∈ s.awaiting p) s.sndSeq.una marks t.sndSeq.una
  | (e,.tick) => marks = if s.TimesOut e then [.timeout s.found s.sndSeq.max] else []
  | _ => marks = []

inductive Recorded : TcpSession → List Mark → Prop
  | opened {s : TcpSession} (first : Opened s) : Recorded s []
  | step {s : TcpSession} {marks new : List Mark} (input : Env × Event) (before : Recorded s marks)
      (seen : s.Observed input new) :
      Recorded (s.next input) (marks ++ new)

section Packets
variable {e : Env} {s : TcpSession} {p : TcpMetadata} {marks : List Mark} {src : TcpMetadata → Prop}

-- What holds of the detection after some of the segments: the record explains it,
-- and if it was closed on the way, the record up to there justifies that.
def Trails (s : TcpSession) (marks : List Mark) (src : TcpMetadata → Prop) (way : List Mark → Seq32 → Prop)
    (d : Detection) : Prop :=
  ∃ new, way new d.una ∧ Explained (marks ++ new) d ∧ d.found = s.detection.found ∧ (∀ q ∈ d.waiting, src q.1) ∧
    (s.cc.frtoActive = true → d.active = false →
      ∃ now after, new = now ++ after ∧ Justifies (marks ++ now) s.detection.found)

theorem trails_tolerated : Tolerates e src (Trails s marks src (Acknowledged e src s.sndSeq.una))
    (Trails s marks src (Cut e src s.sndSeq.una)) where
  advances := by
    rintro q d source ack ⟨new,told,explained,found,waits,closed⟩ beyond
    obtain ⟨una,same,waiting⟩ := advance_rest q.tcpAck d
    obtain ⟨explains,justifies⟩ := explained.advance q.tcpAck
    rw [List.append_assoc] at explains justifies
    refine ⟨new ++ [.advance q.tcpAck],?_,explains,same.trans found,?_,?_⟩
    · rw [una]
      exact .advance q told source ack beyond
    · rw [waiting]
      exact waits
    · intro opened ended
      cases active : d.active with
      | true =>
        refine ⟨new ++ [.advance q.tcpAck],[],by simp,?_⟩
        rw [← found]
        exact justifies active ended
      | false =>
        obtain ⟨now,after,rfl,justified⟩ := closed opened active
        exact ⟨now,after ++ [.advance q.tcpAck],by simp,justified⟩
  breaks := by
    rintro q d source ack ⟨new,told,explained,found,waits,closed⟩ beyond
    refine ⟨new ++ [.broken q.tcpAck],.broken q told source ack beyond,?_,found,waits,?_⟩
    · rw [← List.append_assoc]
      exact explained.quiet (by simp) (by simp) rfl rfl rfl rfl
    · intro opened ended
      obtain ⟨now,after,rfl,justified⟩ := closed opened ended
      exact ⟨now,after ++ [.broken q.tcpAck],by simp,justified⟩
  fails := by
    rintro d ⟨new,told,rest⟩
    exact ⟨new,.whole told,rest⟩
  stores := by
    rintro d w ⟨new,told,explained,found,waits,closed⟩ among
    exact ⟨new,told,explained,found,among,closed⟩
  stored := by
    rintro d ⟨new,told,explained,found,waits,closed⟩
    exact waits
  restarts := by
    rintro q d source syn ⟨new,told,explained,found,waits,closed⟩
    refine ⟨new ++ [.restart e.newIss],.restart q told source syn,?_,found,by simp,?_⟩
    · rw [← List.append_assoc]
      exact explained.quiet (by simp) (by simp) rfl rfl rfl rfl
    · intro opened ended
      obtain ⟨now,after,rfl,justified⟩ := closed opened ended
      exact ⟨now,after ++ [.restart e.newIss],by simp,justified⟩

end Packets

section Runs
variable {s : TcpSession} {marks : List Mark}

-- What one step leaves of the record.
structure Continues (marks new : List Mark) (s t : TcpSession) : Prop where
  explained : Explained (marks ++ new) t.detection
  justified : s.cc.frtoActive = true → t.cc.frtoActive = false →
    ∃ now after, new = now ++ after ∧ Justifies (marks ++ now) s.detection.found

theorem packet_continues (explained : Explained marks s.detection) (e : Env) (p : TcpMetadata) :
    ∃ new, s.Observed (e,.packet p) new ∧ Continues marks new s (s.next (e,.packet p)) := by
  have before : Trails s marks (fun q => q ∈ s.awaiting p) (Acknowledged e (fun q => q ∈ s.awaiting p) s.sndSeq.una)
      s.detection := by
    refine ⟨[],.still,by rw [List.append_nil]; exact explained,rfl,?_,?_⟩
    · intro q member
      exact List.mem_cons_of_mem _ (List.mem_map_of_mem member)
    · intro opened closed
      cases opened.symm.trans closed
  have left := tcpFsmPacket_leaves (trails_tolerated (e := e)) List.mem_cons_self before
  unfold Observed
  show ∃ new, (match s.tcpFsmPacket e p with
    | .ok t => Acknowledged e (fun q => q ∈ s.awaiting p) s.sndSeq.una new t.sndSeq.una
    | .error (_,t) => Cut e (fun q => q ∈ s.awaiting p) s.sndSeq.una new t.sndSeq.una) ∧
      Continues marks new s (s.tcpFsmPacket e p).session
  cases done : s.tcpFsmPacket e p with
  | error failure =>
    rw [done] at left
    obtain ⟨new,cut,explains,_,_,closed⟩ := left
    exact ⟨new,cut,explains,closed⟩
  | ok t =>
    rw [done] at left
    obtain ⟨new,told,explains,_,_,closed⟩ := left
    exact ⟨new,told,explains,closed⟩

theorem enterFrto_explained (explained : Explained marks s.detection) :
    Explained (marks ++ [.timeout s.found s.sndSeq.max]) s.enterFrto.detection ∧
      (s.cc.frtoActive = true → s.enterFrto.cc.frtoActive = true) := by
  unfold enterFrto
  split
  · rename_i again
    refine ⟨?_,id⟩
    rcases explained with ⟨_,zero⟩ | ⟨opened,earlier,sent,later,rfl,place,stage⟩
    · exact absurd zero again.1
    · refine .inr ⟨opened,earlier,sent,later ++ [.timeout s.found s.sndSeq.max],?_,?_,?_⟩
      · simp [detection,Detection.found]
      · rw [Mark.marker_append]
        rfl
      · have other : Quiet [Mark.timeout s.found s.sndSeq.max] := Mark.quiet_single (by simp)
        rcases stage with ⟨one,quiet⟩ | ⟨two,halfway⟩
        · exact .inl ⟨one,quiet.append other⟩
        · exact .inr ⟨two,halfway.append other⟩
  · exact ⟨.inr ⟨rfl,marks,s.sndSeq.max,[],rfl,rfl,.inl ⟨rfl,Mark.quiet_nil⟩⟩,fun _ => rfl⟩

theorem unchanged_continues (explained : Explained marks s.detection) {t : TcpSession} (same : t.detection = s.detection) :
    Continues marks [] s t := by
  refine ⟨by rw [List.append_nil,same]; exact explained,fun before after => ?_⟩
  have active : t.cc.frtoActive = s.cc.frtoActive := congrArg Detection.active same
  rw [active,before] at after
  cases after

theorem tick_continues (explained : Explained marks s.detection) (e : Env) :
    ∃ new, s.Observed (e,.tick) new ∧ Continues marks new s (s.next (e,.tick)) := by
  refine ⟨_,rfl,?_⟩
  have fired := fireTimer_detection (e := e) (s := s)
  show Continues marks _ s (s.fireTimer e)
  split at fired
  · rename_i out
    rw [if_pos out]
    obtain ⟨explains,opened⟩ := enterFrto_explained explained
    refine ⟨by rw [fired]; exact explains,fun before after => ?_⟩
    have active : (s.fireTimer e).cc.frtoActive = s.enterFrto.cc.frtoActive := congrArg Detection.active fired
    rw [active,opened before] at after
    cases after
  · rename_i quiet
    rw [if_neg quiet]
    exact unchanged_continues explained fired

theorem next_continues (explained : Explained marks s.detection) (input : Env × Event) :
    ∃ new, s.Observed input new ∧ Continues marks new s (s.next input) := by
  obtain ⟨e,event⟩ := input
  cases event with
  | packet p => exact packet_continues explained e p
  | tick => exact tick_continues explained e
  | icmp m => exact ⟨[],rfl,unchanged_continues explained (tcpFsmIcmp_detection m)⟩
  | close => exact ⟨[],rfl,unchanged_continues explained (tcpFsmSyscall_detection _)⟩
  | abort => exact ⟨[],rfl,unchanged_continues explained (tcpFsmSyscall_detection _)⟩
  | shutdownRead =>
    refine ⟨[],rfl,unchanged_continues explained ?_⟩
    show s.shutdownRead.detection = _
    unfold shutdownRead
    split <;> rfl
  | shutdownWrite => exact ⟨[],rfl,unchanged_continues explained shutdownWrite_detection⟩
  | send data => exact ⟨[],rfl,unchanged_continues explained (send_detection data)⟩
  | receive byteCount => exact ⟨[],rfl,unchanged_continues explained (receive_detection byteCount)⟩
  | option o =>
    refine ⟨[],rfl,unchanged_continues explained ?_⟩
    cases o <;> rfl

theorem opened_explained (first : Opened s) : Explained [] s.detection := by
  cases first with
  | listening o e =>
    rw [tcpFsmSyscall_detection]
    exact .inl ⟨rfl,rfl⟩
  | connecting o e data =>
    rw [tcpFsmSyscall_detection]
    exact .inl ⟨rfl,rfl⟩

theorem reached_recorded (reached : Reached (fun _ _ => True) s) :
    ∃ marks, Recorded s marks ∧ Explained marks s.detection := by
  refine reached.invariant (fun s => ∃ marks, Recorded s marks ∧ Explained marks s.detection) ?_ ?_
  · intro s first
    exact ⟨[],.opened first,opened_explained first⟩
  · rintro s input ⟨marks,recorded,explained⟩ -
    obtain ⟨new,seen,continues⟩ := next_continues explained input
    exact ⟨marks ++ new,.step input recorded seen,continues.explained⟩

theorem phase2_restores (s : TcpSession) :
    s.phase2FrtoSpuriousDetect.cc.frtoActive = s.cc.frtoActive ∧ s.phase2FrtoSpuriousDetect.found = s.found ∨
      s.cc.frtoActive = true ∧ s.phase2FrtoSpuriousDetect.cc.frtoActive = false ∧
        s.phase2FrtoSpuriousDetect.found = s.detection.found := by
  unfold phase2FrtoSpuriousDetect
  split
  · exact .inl ⟨rfl,rfl⟩
  · rename_i opened
    dsimp only
    split
    · exact .inl ⟨rfl,rfl⟩
    · split
      · exact .inr ⟨by simpa using opened,rfl,rfl⟩
      · exact .inl ⟨rfl,rfl⟩

-- What the sender had is put back where the detection is closed and nowhere
-- else, and the record up to there justifies it.
theorem spurious_timeouts_justified (reached : Reached (fun _ _ => True) s) :
    (∃ marks, Recorded s marks ∧ ∀ input, s.cc.frtoActive = true → (s.next input).cc.frtoActive = false →
      ∃ now after, s.Observed input (now ++ after) ∧
        Justifies (marks ++ now) ⟨s.cc.frtoPreCwnd,s.cc.frtoPreSsthresh,s.cc.frtoPreCubic⟩) ∧
    ∀ t : TcpSession,
      t.phase2FrtoSpuriousDetect.cc.frtoActive = t.cc.frtoActive ∧ t.phase2FrtoSpuriousDetect.found = t.found ∨
      t.cc.frtoActive = true ∧ t.phase2FrtoSpuriousDetect.cc.frtoActive = false ∧
        t.phase2FrtoSpuriousDetect.found = ⟨t.cc.frtoPreCwnd,t.cc.frtoPreSsthresh,t.cc.frtoPreCubic⟩ := by
  obtain ⟨marks,recorded,explained⟩ := reached_recorded reached
  refine ⟨⟨marks,recorded,?_⟩,phase2_restores⟩
  intro input opened closed
  obtain ⟨new,seen,continues⟩ := next_continues explained input
  obtain ⟨now,after,rfl,justified⟩ := continues.justified opened closed
  exact ⟨now,after,seen,justified⟩

end Runs
end TcpSession

-- A hundred octets go out and are not acknowledged in time.
def hundredSent : List (Env × Event) :=
  [({nowMs := 20},.packet (peerSyn false)),
   ({nowMs := 21},.tick),
   ({nowMs := 30},.packet (peerAck 501 1001 [])),
   ({nowMs := 40},.send (List.replicate 100 7)),
   ({nowMs := 41},.tick)]

def timedOutRun : List (Env × Event) := hundredSent ++ [({nowMs := 2000},.tick)]

def halfAckedRun : List (Env × Event) := timedOutRun ++ [({nowMs := 2010},.packet (peerAck 501 1051 []))]

def allAcked : Env × Event := ({nowMs := 2020},.packet (peerAck 501 1101 []))

theorem spurious_timeouts_justified_twice :
    (listening.run halfAckedRun).cc.frtoActive = true ∧ ((listening.run halfAckedRun).next allAcked).cc.frtoActive = false ∧
      ((listening.run halfAckedRun).next allAcked).cc.cwnd = 14600 ∧
      ∃ marks now after, (listening.run halfAckedRun).Recorded marks ∧
        (listening.run halfAckedRun).Observed allAcked (now ++ after) ∧
        Justifies (marks ++ now) ⟨14600,0x7FFF_FFFF,(listening.run halfAckedRun).cc.frtoPreCubic⟩ := by
  have reached : Reached (fun _ _ => True) (listening.run halfAckedRun) :=
    Runs.Reached.run (.start listening listening_opened) halfAckedRun (Runs.met_true halfAckedRun)
  obtain ⟨⟨marks,recorded,justified⟩,_⟩ := TcpSession.spurious_timeouts_justified reached
  have opened : (listening.run halfAckedRun).cc.frtoActive = true := by decide +kernel
  have closed : ((listening.run halfAckedRun).next allAcked).cc.frtoActive = false := by decide +kernel
  have kept : (listening.run halfAckedRun).cc.frtoPreCwnd = 14600 ∧
      (listening.run halfAckedRun).cc.frtoPreSsthresh = 0x7FFF_FFFF := by decide +kernel
  have shown := justified allAcked opened closed
  rw [kept.1,kept.2] at shown
  obtain ⟨now,after,both⟩ := shown
  exact ⟨opened,closed,by decide +kernel,marks,now,after,recorded,both⟩

-- The first acknowledgement after the timeout covers everything, and what the
-- sender had comes back.
theorem first_acknowledgement_restores : Opened listening ∧ (listening.run hundredSent).TimesOut {nowMs := 2000} ∧
    (listening.run timedOutRun).cc.frtoActive = true ∧ (listening.run timedOutRun).cc.cwnd = 1460 ∧
      (listening.run timedOutRun).sndSeq.max = 1101 ∧ ((listening.run timedOutRun).next allAcked).sndSeq.una = 1101 ∧
      ((listening.run timedOutRun).next allAcked).cc.frtoActive = false ∧
      ((listening.run timedOutRun).next allAcked).cc.cwnd = (listening.run hundredSent).cc.cwnd ∧
      ((listening.run timedOutRun).next allAcked).cc.ssthresh = (listening.run hundredSent).cc.ssthresh := by
  refine ⟨listening_opened,?_,?_,?_,?_,?_,?_,?_,?_⟩ <;> decide +kernel

end PmdPytcp.Tcp
