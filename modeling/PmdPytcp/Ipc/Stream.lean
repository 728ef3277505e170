import PmdPytcp.Lib.Split
import PmdPytcp.Ipc.Frames

namespace PmdPytcp.Ipc
open InetCksum TcpAssembler

def lengthPrefixLen : Nat := 4

def maxPayloadLen : Nat := 16*1024*1024

def frameOf (payload : List UInt8) : List UInt8 := beBytes lengthPrefixLen payload.length ++ payload

def packFrame (payload : List UInt8) : Codec (List UInt8) :=
  if maxPayloadLen < payload.length then
    .error (.ipcFrame ("Frame payload length " ++ toString payload.length ++ " exceeds the maximum of " ++
      toString maxPayloadLen ++ " bytes."))
  else .ok (frameOf payload)

def unpackFrameLength (octets : List UInt8) : Codec Nat :=
  let length := beNat octets
  if maxPayloadLen < length then
    .error (.ipcFrame ("Frame length prefix " ++ toString length ++ " exceeds the maximum of " ++
      toString maxPayloadLen ++ " bytes."))
  else .ok length

def closedInPrefix : CodecError := .ipcFrame "Stream closed mid-frame while reading the 4-byte length prefix."

def closedInPayload (expected got : Nat) : CodecError :=
  .ipcFrame ("Stream closed mid-frame: expected " ++ toString expected ++ " payload bytes, got " ++ toString got ++ ".")

-- `readexactly` over all that the peer sends before it closes the stream.
def recvFrame (stream : List UInt8) : Codec (Option (List UInt8)) × List UInt8 :=
  let octets := stream.take lengthPrefixLen
  let stream := stream.drop lengthPrefixLen
  if octets.length < lengthPrefixLen then
    if octets = [] then (.ok none,stream) else (.error closedInPrefix,stream)
  else
    match unpackFrameLength octets with
    | .error e => (.error e,stream)
    | .ok length =>
      let payload := stream.take length
      if payload.length < length then (.error (closedInPayload length payload.length),stream.drop length)
      else (.ok (some payload),stream.drop length)

-- What the socket will hand out, in the pieces it arrives in.
abbrev Wire := List (List UInt8)

-- At most `count` octets of the next piece; nothing once the peer has closed.
def sockRecv (count : Nat) : Wire → List UInt8 × Wire
  | [] => ([],[])
  | [] :: rest => sockRecv count rest
  | (octet :: piece) :: rest => ((octet :: piece).take count,(octet :: piece).drop count :: rest)

-- The loop of `recv_exactly`; each turn takes at least one octet.
def recvLoop : Nat → Nat → Wire → List UInt8 × Wire
  | 0,_,wire => ([],wire)
  | fuel+1,remaining,wire =>
    if remaining = 0 then ([],wire)
    else
      let got := sockRecv remaining wire
      if got.1 = [] then ([],got.2)
      else
        let more := recvLoop fuel (remaining - got.1.length) got.2
        (got.1 ++ more.1,more.2)

def recvExactly (count : Nat) (wire : Wire) : List UInt8 × Wire := recvLoop count count wire

def recvFrameFromSocket (wire : Wire) : Codec (Option (List UInt8)) × Wire :=
  let read := recvExactly lengthPrefixLen wire
  if read.1.length = 0 then (.ok none,read.2)
  else if read.1.length < lengthPrefixLen then (.error closedInPrefix,read.2)
  else
    match unpackFrameLength read.1 with
    | .error e => (.error e,read.2)
    | .ok length =>
      let body := recvExactly length read.2
      if body.1.length < length then (.error (closedInPayload length body.1.length),body.2)
      else (.ok (some body.1),body.2)

-- Reading on until the stream ends or a frame is broken; no end while the loop
-- is still running.
def recvFrames (recv : σ → Codec (Option (List UInt8)) × σ) : Nat → σ → List (List UInt8) × Option (Codec Unit)
  | 0,_ => ([],none)
  | fuel+1,s =>
    match recv s with
    | (.error e,_) => ([],some (.error e))
    | (.ok none,_) => ([],some (.ok ()))
    | (.ok (some payload),s) =>
      let more := recvFrames recv fuel s
      (payload :: more.1,more.2)

theorem sockRecv_spec (count : Nat) (wire : Wire) :
    (sockRecv count wire).1 ++ (sockRecv count wire).2.flatten = wire.flatten ∧ (sockRecv count wire).1.length ≤ count ∧
      (0 < count → (sockRecv count wire).1 = [] → wire.flatten = []) := by
  induction wire with
  | nil => exact ⟨rfl,Nat.zero_le _,fun _ _ => rfl⟩
  | cons piece rest ih =>
    cases piece with
    | nil => exact ih
    | cons octet piece =>
      refine ⟨?_,?_,?_⟩
      · simp only [sockRecv,List.flatten_cons]
        rw [← List.append_assoc,List.take_append_drop]
      · simp only [sockRecv,List.length_take]
        omega
      · intro some' empty
        simp only [sockRecv] at empty
        have := congrArg List.length empty
        simp only [List.length_take,List.length_cons,List.length_nil] at this
        omega

theorem recvLoop_spec (fuel count : Nat) (wire : Wire) (enough : count ≤ fuel) :
    (recvLoop fuel count wire).1 = wire.flatten.take count ∧
      (recvLoop fuel count wire).2.flatten = wire.flatten.drop count := by
  induction fuel generalizing count wire with
  | zero =>
    obtain rfl : count = 0 := by omega
    exact ⟨rfl,rfl⟩
  | succ fuel ih =>
    rw [recvLoop]
    by_cases done : count = 0
    · rw [if_pos done,done]
      exact ⟨rfl,rfl⟩
    · rw [if_neg done]
      dsimp only
      obtain ⟨split,short,last⟩ := sockRecv_spec count wire
      generalize sockRecv count wire = got at split short last
      by_cases empty : got.1 = []
      · have nothing := last (by omega) empty
        rw [if_pos empty]
        rw [empty,List.nil_append,nothing] at split
        simp [nothing,split]
      · have some' : 0 < got.1.length := List.length_pos_iff.mpr empty
        obtain ⟨taken,left⟩ := ih (count - got.1.length) got.2 (by omega)
        rw [if_neg empty,← split]
        dsimp only
        rw [taken,left,List.take_append,List.drop_append,List.take_of_length_le short,List.drop_of_length_le short]
        exact ⟨rfl,rfl⟩

theorem recvExactly_spec (count : Nat) (wire : Wire) :
    (recvExactly count wire).1 = wire.flatten.take count ∧ (recvExactly count wire).2.flatten = wire.flatten.drop count :=
  recvLoop_spec count count wire (Nat.le_refl _)

theorem recvFrame_socket (wire : Wire) :
    (recvFrameFromSocket wire).1 = (recvFrame wire.flatten).1 ∧
      (recvFrameFromSocket wire).2.flatten = (recvFrame wire.flatten).2 := by
  obtain ⟨octets,rest⟩ := recvExactly_spec lengthPrefixLen wire
  unfold recvFrameFromSocket recvFrame
  dsimp only
  rw [← octets]
  generalize recvExactly lengthPrefixLen wire = read at rest ⊢
  rw [← rest]
  by_cases none' : read.1.length = 0
  · have empty : read.1 = [] := List.length_eq_zero_iff.mp none'
    rw [if_pos none',if_pos (by rw [none']; decide),if_pos empty]
    exact ⟨rfl,rfl⟩
  · have some' : read.1 ≠ [] := fun empty => none' (by rw [empty]; rfl)
    rw [if_neg none']
    by_cases short : read.1.length < lengthPrefixLen
    · rw [if_pos short,if_pos short,if_neg some']
      exact ⟨rfl,rfl⟩
    · rw [if_neg short,if_neg short]
      cases unpackFrameLength read.1 with
      | error e => exact ⟨rfl,rfl⟩
      | ok length =>
        dsimp only
        obtain ⟨payload,behind⟩ := recvExactly_spec length read.2
        rw [← payload,← behind]
        split
        · exact ⟨rfl,rfl⟩
        · exact ⟨rfl,rfl⟩

theorem recvFrames_socket (fuel : Nat) (wire : Wire) :
    recvFrames recvFrameFromSocket fuel wire = recvFrames recvFrame fuel wire.flatten := by
  induction fuel generalizing wire with
  | zero => rfl
  | succ fuel ih =>
    obtain ⟨same,rest⟩ := recvFrame_socket wire
    rw [recvFrames,recvFrames]
    generalize recvFrameFromSocket wire = one at same rest
    generalize recvFrame wire.flatten = two at same rest
    obtain ⟨result,wire'⟩ := one
    obtain ⟨result',stream'⟩ := two
    obtain rfl : result = result' := same
    obtain rfl : wire'.flatten = stream' := rest
    cases result with
    | error e => rfl
    | ok payload =>
      cases payload with
      | none => rfl
      | some payload =>
        dsimp only
        rw [ih]

def Fits (payload : List UInt8) : Prop := payload.length ≤ maxPayloadLen

theorem frameOf_length (payload : List UInt8) : (frameOf payload).length = lengthPrefixLen + payload.length := by
  rw [frameOf,List.length_append,beBytes_length]

theorem prefix_value (fits : Fits payload) :
    unpackFrameLength (beBytes lengthPrefixLen payload.length) = .ok payload.length := by
  have small : payload.length < 256^lengthPrefixLen := Nat.lt_of_le_of_lt fits (by decide)
  unfold unpackFrameLength
  dsimp only
  rw [beNat_beBytes _ _ small,if_neg (Nat.not_lt.mpr fits)]

theorem recvFrame_whole (fits : Fits payload) (rest : List UInt8) :
    recvFrame (frameOf payload ++ rest) = (.ok (some payload),rest) := by
  have size : (beBytes lengthPrefixLen payload.length).length = lengthPrefixLen := beBytes_length _ _
  unfold recvFrame
  dsimp only
  rw [frameOf,List.append_assoc,List.take_left' size,List.drop_left' size,if_neg (by rw [size]; exact Nat.lt_irrefl _),
    prefix_value fits]
  dsimp only
  rw [List.take_left,List.drop_left,if_neg (Nat.lt_irrefl _)]

theorem recvFrame_cut (fits : Fits payload) (cut : data ++ missing = frameOf payload) (some' : data ≠ [])
    (lost : missing ≠ []) : ∃ message, (recvFrame data).1 = .error (.ipcFrame message) := by
  have size : (beBytes lengthPrefixLen payload.length).length = lengthPrefixLen := beBytes_length _ _
  have whole := congrArg List.length cut
  rw [List.length_append,frameOf_length] at whole
  have short := List.length_pos_iff.mpr lost
  unfold recvFrame
  dsimp only
  by_cases early : data.length < lengthPrefixLen
  · have taken : data.take lengthPrefixLen = data := List.take_of_length_le (Nat.le_of_lt early)
    rw [taken,if_pos early,if_neg some']
    exact ⟨_,rfl⟩
  · have front : data.take lengthPrefixLen = beBytes lengthPrefixLen payload.length := by
      have fronts := congrArg (List.take lengthPrefixLen) cut
      rw [List.take_append_of_le_length (by omega),frameOf,List.take_left' size] at fronts
      exact fronts
    rw [front,if_neg (by rw [size]; exact Nat.lt_irrefl _),prefix_value fits]
    dsimp only
    rw [if_pos (by rw [List.length_take,List.length_drop]; omega)]
    exact ⟨_,rfl⟩

-- The payloads whose frames have come in whole, and what is left of the next.
structure Arrived (sent whole : List (List UInt8)) (data tail : List UInt8) : Prop where
  front : ∃ later, sent = whole ++ later ∧ (later = [] → tail = []) ∧
    ∀ next others, later = next :: others → tail.length < (frameOf next).length
  content : data = whole.flatMap frameOf ++ tail

theorem recvFrames_flat (fits : ∀ payload ∈ sent, Fits payload) (cut : data ++ missing = sent.flatMap frameOf)
    (enough : sent.length < fuel) :
    ∃ whole tail, Arrived sent whole data tail ∧ (recvFrames recvFrame fuel data).1 = whole ∧
      (tail = [] → (recvFrames recvFrame fuel data).2 = some (.ok ())) ∧
      (tail ≠ [] → ∃ message, (recvFrames recvFrame fuel data).2 = some (.error (.ipcFrame message))) := by
  obtain ⟨fuel,rfl⟩ : ∃ k, fuel = k + 1 := ⟨fuel - 1,by omega⟩
  induction sent generalizing data fuel with
  | nil =>
    obtain rfl : data = [] := (List.append_eq_nil_iff.mp cut).1
    refine ⟨[],[],⟨⟨[],rfl,fun _ => rfl,?_⟩,rfl⟩,rfl,fun _ => rfl,fun other => absurd rfl other⟩
    intro next others same
    cases same
  | cons payload rest ih =>
    have own := fits payload List.mem_cons_self
    rw [List.flatMap_cons] at cut
    obtain ⟨left,front,lost⟩ | ⟨later,rfl,remaining⟩ := Split.cut_cases cut
    · -- nothing whole is left
      have size := congrArg List.length front
      rw [List.length_append] at size
      have some' := List.length_pos_iff.mpr lost
      refine ⟨[],data,⟨⟨payload :: rest,rfl,?_,?_⟩,rfl⟩,?_⟩
      · intro same
        cases same
      · intro next others same
        obtain ⟨rfl,rfl⟩ := List.cons.inj same
        omega
      · rw [recvFrames]
        by_cases empty : data = []
        · subst empty
          exact ⟨rfl,fun _ => rfl,fun other => absurd rfl other⟩
        · obtain ⟨message,broken⟩ := recvFrame_cut own front empty lost
          generalize recvFrame data = read at broken
          obtain ⟨result,stream⟩ := read
          obtain rfl : result = _ := broken
          exact ⟨rfl,fun none' => absurd none' empty,fun _ => ⟨message,rfl⟩⟩
    · obtain ⟨fuel,rfl⟩ : ∃ k, fuel = k + 1 := ⟨fuel - 1,by simp only [List.length_cons] at enough; omega⟩
      obtain ⟨whole,tail,⟨⟨behind,split,last,next⟩,content⟩,got,ended,broke⟩ :=
        ih (fun p member => fits p (List.mem_cons_of_mem _ member)) remaining fuel
          (by simp only [List.length_cons] at enough; omega)
      have turn : recvFrames recvFrame (fuel + 1 + 1) (frameOf payload ++ later) =
          (payload :: (recvFrames recvFrame (fuel + 1) later).1,(recvFrames recvFrame (fuel + 1) later).2) := by
        rw [recvFrames,recvFrame_whole own]
      rw [turn]
      refine ⟨payload :: whole,tail,⟨⟨behind,by rw [split,List.cons_append],last,next⟩,?_⟩,by rw [got],ended,broke⟩
      rw [List.flatMap_cons,content,List.append_assoc]

theorem packed_frames {sent frames : List (List UInt8)} (packed : sent.mapM packFrame = .ok frames) :
    (∀ payload ∈ sent, Fits payload) ∧ frames.flatten = sent.flatMap frameOf := by
  induction sent generalizing frames with
  | nil =>
    obtain rfl := Except.ok.inj packed
    refine ⟨?_,rfl⟩
    intro payload member
    cases member
  | cons payload rest ih =>
    rw [List.mapM_cons,codec_bind_ok] at packed
    obtain ⟨frame,first,packed⟩ := packed
    rw [codec_bind_ok] at packed
    obtain ⟨others,later,same⟩ := packed
    obtain rfl := Except.ok.inj same
    obtain ⟨fits,joined⟩ := ih later
    unfold packFrame at first
    split at first
    · cases first
    · rename_i short
      obtain rfl := Except.ok.inj first
      refine ⟨?_,by rw [List.flatten_cons,joined,List.flatMap_cons]⟩
      intro other member
      rcases List.mem_cons.mp member with rfl | member
      · exact Nat.not_lt.mp short
      · exact fits other member

-- However the stream is cut into pieces and wherever it ends, both sides receive
-- the payloads whose frames are whole, and tell an end between two frames from
-- an end inside one.
theorem frames_received (sent frames : List (List UInt8)) (packed : sent.mapM packFrame = .ok frames) (wire : Wire)
    (missing : List UInt8) (cut : wire.flatten ++ missing = frames.flatten) (fuel : Nat) (enough : sent.length < fuel) :
    recvFrames recvFrameFromSocket fuel wire = recvFrames recvFrame fuel wire.flatten ∧
    ∃ whole tail, Arrived sent whole wire.flatten tail ∧ (recvFrames recvFrameFromSocket fuel wire).1 = whole ∧
      (tail = [] → (recvFrames recvFrameFromSocket fuel wire).2 = some (.ok ())) ∧
      (tail ≠ [] → ∃ message, (recvFrames recvFrameFromSocket fuel wire).2 = some (.error (.ipcFrame message))) := by
  obtain ⟨fits,joined⟩ := packed_frames packed
  rw [joined] at cut
  refine ⟨recvFrames_socket fuel wire,?_⟩
  rw [recvFrames_socket]
  exact recvFrames_flat fits cut enough

-- Two frames, the second without its last octet, in pieces of odd sizes.
theorem frames_received_two :
    ∃ whole tail, Arrived [[1,2],[3]] whole [0,0,0,2,1,2,0,0,0,1] tail ∧
      (recvFrames recvFrameFromSocket 3 [[0],[0,0,2,1],[],[2,0,0],[0,1]]).1 = whole := by
  obtain ⟨-,whole,tail,arrived,got,-⟩ := frames_received [[1,2],[3]] [[0,0,0,2,1,2],[0,0,0,1,3]] rfl
    [[0],[0,0,2,1],[],[2,0,0],[0,1]] [3] rfl 3 (by decide)
  exact ⟨whole,tail,arrived,got⟩

end PmdPytcp.Ipc
