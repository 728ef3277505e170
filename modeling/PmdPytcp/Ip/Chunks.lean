import PmdPytcp.Ip.Cut

namespace PmdPytcp.Ip
open Buffer Tiles Runs

def fragOffsetAlignmentBytes : Nat := 8

-- `~(8 - 1) & 0xFFFF`: sixteen bits, whatever the budget.
def fragOffsetAlignmentMask : Nat := 0xFFF8

structure Chunk where
  offset : Nat
  chunk : List UInt8
  isLast : Bool
deriving Repr,DecidableEq

-- The `while` loop; `none` while it has not come to its end.
def chunksFrom (payload : List UInt8) (alignedChunkBytes : Nat) : Nat → Nat → Option (List Chunk)
  | 0,_ => none
  | fuel + 1,offset =>
    if offset < payload.length then
      let chunk := (payload.drop offset).take alignedChunkBytes
      let isLast := decide (payload.length ≤ offset + chunk.length)
      (chunksFrom payload alignedChunkBytes fuel (offset + alignedChunkBytes)).map
        fun rest => ⟨offset,chunk,isLast⟩ :: rest
    else some []

def iterFragmentChunks (fuel : Nat) (payload : List UInt8) (maxChunkBytes : Nat) : Py (Option (List Chunk)) :=
  if maxChunkBytes < fragOffsetAlignmentBytes then .error .valueError
  else .ok (chunksFrom payload (maxChunkBytes &&& fragOffsetAlignmentMask) fuel 0)

def Chunk.piece (c : Chunk) : Piece UInt8 := (c.offset,c.chunk)

-- A fragment as the transmit path makes it of a chunk.
def Chunk.fragment (flowId : IpFragFlowId) (header : Chunk → List UInt8) (ecn : Nat) (c : Chunk) : Fragment :=
  ⟨flowId,c.offset,c.chunk,!c.isLast,header c,ecn⟩

-- Fed to the table in any order, among other events, the chunks come back as
-- the payload.
def Returns (payload : List UInt8) (chunks : List Chunk) : Prop :=
  ∀ flowId header ecn (table : IpFragTable) (events : List Event), table.flows.get flowId = none →
    (arrivals flowId events).Perm (chunks.map (Chunk.fragment flowId header ecn)) →
    Met Event.apply (Undisturbed flowId) events table →
    ∃ first total, answers flowId events table = List.replicate (chunks.length - 1) (.ok {outcome := .pending}) ++
      [.ok {outcome := .complete,header := first,payload := payload,ecn := total}]

structure Split (payload : List UInt8) (maxChunkBytes : Nat) (chunks : List Chunk) : Prop where
  consecutive : Tiled 0 (chunks.map Chunk.piece)
  whole : joined (chunks.map Chunk.piece) = payload
  sizes : ∀ c ∈ chunks.dropLast, 0 < c.chunk.length ∧ c.chunk.length % 8 = 0 ∧ c.chunk.length ≤ maxChunkBytes
  more : ∀ c ∈ chunks.dropLast, c.isLast = false
  final : ∀ present : chunks ≠ [], (chunks.getLast present).isLast = true
  returns : chunks ≠ [] → Returns payload chunks

structure Laid (payload : List UInt8) (step offset : Nat) (chunks : List Chunk) : Prop where
  empty : chunks = [] ↔ payload.length ≤ offset
  tiled : Tiled offset (chunks.map Chunk.piece)
  whole : joined (chunks.map Chunk.piece) = payload.drop offset
  sizes : ∀ c ∈ chunks.dropLast, c.chunk.length = step
  aligned : ∀ c ∈ chunks, c.offset % 8 = 0
  more : ∀ c ∈ chunks.dropLast, c.isLast = false
  final : ∀ present : chunks ≠ [], (chunks.getLast present).isLast = true

def nextChunk (payload : List UInt8) (step offset : Nat) : Chunk :=
  let chunk := (payload.drop offset).take step
  ⟨offset,chunk,decide (payload.length ≤ offset + chunk.length)⟩

theorem laid_nil (done : payload.length ≤ offset) : Laid payload step offset [] where
  empty := iff_of_true rfl done
  tiled := trivial
  whole := (List.drop_eq_nil_of_le done).symm
  sizes := nofun
  aligned := nofun
  more := nofun
  final present := absurd rfl present

theorem laid_last (within : offset < payload.length) (placed : offset % 8 = 0) (short : payload.length ≤ offset + step) :
    Laid payload step offset [nextChunk payload step offset] := by
  have all : (payload.drop offset).take step = payload.drop offset := by
    apply List.take_of_length_le
    rw [List.length_drop]
    omega
  refine ⟨?_,⟨rfl,trivial⟩,?_,nofun,?_,nofun,?_⟩
  · exact iff_of_false (by simp) (by omega)
  · show (payload.drop offset).take step ++ [] = _
    rw [all,List.append_nil]
  · intro c member
    rw [List.mem_singleton.mp member]
    exact placed
  · intro _
    show decide (payload.length ≤ offset + ((payload.drop offset).take step).length) = true
    rw [all,List.length_drop,decide_eq_true_iff]
    omega

theorem Laid.cons (laid : Laid payload step (offset + step) chunks) (placed : offset % 8 = 0)
    (long : offset + step < payload.length) : Laid payload step offset (nextChunk payload step offset :: chunks) := by
  have present : chunks ≠ [] := fun none => absurd (laid.empty.mp none) (by omega)
  have size : ((payload.drop offset).take step).length = step := by
    rw [List.length_take,List.length_drop]
    omega
  have kept : (nextChunk payload step offset :: chunks).dropLast = nextChunk payload step offset :: chunks.dropLast :=
    List.dropLast_cons_of_ne_nil present
  refine ⟨?_,?_,?_,?_,?_,?_,?_⟩
  · exact iff_of_false (by simp) (by omega)
  · refine ⟨rfl,?_⟩
    have tiled := laid.tiled
    have stops : stop (nextChunk payload step offset).piece = offset + step := by
      show offset + ((payload.drop offset).take step).length = _
      rw [size]
    rw [stops]
    exact tiled
  · show (payload.drop offset).take step ++ joined (chunks.map Chunk.piece) = _
    rw [laid.whole,← List.drop_drop,List.take_append_drop]
  · rw [kept]
    intro c member
    rcases List.mem_cons.mp member with rfl | later
    · exact size
    · exact laid.sizes c later
  · intro c member
    rcases List.mem_cons.mp member with rfl | later
    · exact placed
    · exact laid.aligned c later
  · rw [kept]
    intro c member
    rcases List.mem_cons.mp member with rfl | later
    · show decide (payload.length ≤ offset + ((payload.drop offset).take step).length) = false
      rw [size,decide_eq_false_iff_not]
      omega
    · exact laid.more c later
  · intro _
    rw [List.getLast_cons present]
    exact laid.final present

theorem chunksFrom_laid (payload : List UInt8) (positive : 0 < step) (eighth : step % 8 = 0) (fuel offset : Nat)
    (enough : payload.length ≤ offset + fuel) (placed : offset % 8 = 0) :
    ∃ chunks, chunksFrom payload step (fuel + 1) offset = some chunks ∧ Laid payload step offset chunks := by
  induction fuel generalizing offset with
  | zero => exact ⟨[],if_neg (by omega),laid_nil enough⟩
  | succ fuel ih =>
    by_cases within : offset < payload.length
    · obtain ⟨rest,found,laid⟩ := ih (offset + step) (by omega) (by omega)
      refine ⟨nextChunk payload step offset :: rest,?_,?_⟩
      · rw [chunksFrom,if_pos within,found]
        rfl
      · by_cases long : offset + step < payload.length
        · exact laid.cons placed long
        · have none : rest = [] := laid.empty.mpr (by omega)
          subst none
          exact laid_last within placed (by omega)
    · exact ⟨[],if_neg within,laid_nil (by omega)⟩

theorem chunksFrom_stuck (payload : List UInt8) (within : offset < payload.length) (fuel : Nat) :
    chunksFrom payload 0 fuel offset = none := by
  induction fuel with
  | zero => rfl
  | succ fuel ih =>
    rw [chunksFrom,if_pos within,Nat.add_zero,ih]
    rfl

def Laid.cut (laid : Laid payload step 0 chunks) (present : chunks ≠ []) (positive : 0 < step)
    (flowId : IpFragFlowId) (header : Chunk → List UInt8) (ecn : Nat) : Cut flowId payload where
  fragments := chunks.map (Chunk.fragment flowId header ecn)
  present := by simpa using present
  flow := by
    intro f member
    obtain ⟨c,_,rfl⟩ := List.mem_map.mp member
    rfl
  tiled := by
    rw [List.map_map]
    exact laid.tiled
  whole := by
    rw [List.map_map]
    exact laid.whole
  solid := by
    intro p member
    rw [List.map_map,← List.map_dropLast] at member
    obtain ⟨c,inside,rfl⟩ := List.mem_map.mp member
    have size := laid.sizes c inside
    rintro empty
    rw [show c.chunk = [] from empty,List.length_nil] at size
    omega
  aligned := by
    intro f member
    obtain ⟨c,inside,rfl⟩ := List.mem_map.mp member
    exact laid.aligned c inside
  more := by
    intro f member
    rw [← List.map_dropLast] at member
    obtain ⟨c,inside,rfl⟩ := List.mem_map.mp member
    show (!c.isLast) = true
    rw [laid.more c inside]
    rfl
  final := by
    rw [List.getLast_map]
    show (!(chunks.getLast present).isLast) = false
    rw [laid.final present]
    rfl

theorem Laid.returns (laid : Laid payload step 0 chunks) (present : chunks ≠ []) (positive : 0 < step) :
    Returns payload chunks := by
  intro flowId header ecn table events fresh order undisturbed
  obtain ⟨all,_⟩ := @Midway.runs _ _ (laid.cut present positive flowId header ecn) [] _ _ fresh order
    (List.length_pos_of_ne_nil (laid.cut present positive flowId header ecn).present) undisturbed
  have compatible : EcnCompatible (laid.cut present positive flowId header ecn).fragments := by
    by_cases plain : ecn = 0
    · refine .inl ?_
      intro f member
      obtain ⟨c,_,rfl⟩ := List.mem_map.mp member
      exact plain
    · refine .inr ?_
      intro f member
      obtain ⟨c,_,rfl⟩ := List.mem_map.mp member
      exact plain
  obtain ⟨total,agreed⟩ := aggregateEcn_compatible (laid.cut present positive flowId header ecn).present compatible
  rw [Cut.verdict,agreed] at all
  have count : (laid.cut present positive flowId header ecn).fragments.length = chunks.length := List.length_map _
  rw [count] at all
  exact ⟨_,total,all⟩

theorem Laid.split (laid : Laid payload step 0 chunks) (positive : 0 < step) (eighth : step % 8 = 0)
    (fits : step ≤ maxChunkBytes) : Split payload maxChunkBytes chunks where
  consecutive := laid.tiled
  whole := laid.whole
  sizes := by
    intro c member
    rw [laid.sizes c member]
    exact ⟨positive,eighth,fits⟩
  more := laid.more
  final := laid.final
  returns present := laid.returns present positive

theorem masked_eighth (budget : Nat) : (budget &&& fragOffsetAlignmentMask) % 8 = 0 := by
  have low : (budget &&& fragOffsetAlignmentMask) % 2^3 = (budget % 2^3) &&& (fragOffsetAlignmentMask % 2^3) :=
    Nat.and_mod_two_pow
  have zero : fragOffsetAlignmentMask % 2^3 = 0 := by decide
  rw [zero,Nat.and_zero] at low
  exact low

theorem masked_le (budget : Nat) : budget &&& fragOffsetAlignmentMask ≤ budget := Nat.and_le_left

theorem fragment_chunks_split_iff (payload : List UInt8) (maxChunkBytes : Nat) (large : 8 ≤ maxChunkBytes) :
    (∃ fuel chunks, iterFragmentChunks fuel payload maxChunkBytes = .ok (some chunks) ∧
      Split payload maxChunkBytes chunks) ↔ payload = [] ∨ maxChunkBytes &&& 0xFFF8 ≠ 0 := by
  have accepted : ∀ fuel, iterFragmentChunks fuel payload maxChunkBytes =
      .ok (chunksFrom payload (maxChunkBytes &&& fragOffsetAlignmentMask) fuel 0) := by
    intro fuel
    exact if_neg (not_lt.mpr large)
  constructor
  · rintro ⟨fuel,chunks,found,_⟩
    by_contra neither
    rw [not_or,not_not] at neither
    obtain ⟨nonempty,zero⟩ := neither
    have masked : maxChunkBytes &&& fragOffsetAlignmentMask = 0 := zero
    rw [accepted,masked,chunksFrom_stuck payload (List.length_pos_of_ne_nil nonempty)] at found
    cases found
  · intro possible
    by_cases zero : maxChunkBytes &&& fragOffsetAlignmentMask = 0
    · have none : payload = [] := possible.resolve_right fun nonzero => nonzero zero
      subst none
      refine ⟨1,[],by rw [accepted]; rfl,?_⟩
      exact ⟨trivial,rfl,nofun,nofun,fun present => absurd rfl present,fun present => absurd rfl present⟩
    · have positive : 0 < maxChunkBytes &&& fragOffsetAlignmentMask := Nat.pos_of_ne_zero zero
      obtain ⟨chunks,found,laid⟩ := chunksFrom_laid payload positive (masked_eighth maxChunkBytes) payload.length 0
        (by omega) (by decide)
      refine ⟨payload.length + 1,chunks,by rw [accepted,found],?_⟩
      exact laid.split positive (masked_eighth maxChunkBytes) (masked_le maxChunkBytes)

theorem fragment_chunks_split_ethernet : ∃ fuel chunks,
    iterFragmentChunks fuel (List.replicate 20 7) 13 = .ok (some chunks) ∧ Split (List.replicate 20 7) 13 chunks :=
  (fragment_chunks_split_iff (List.replicate 20 7) 13 (by decide)).mpr (.inr (by decide))

-- A budget of 2^16, as an interface MTU of 65556 leaves: the step is 0.
theorem fragment_chunks_never_end : 8 ≤ 65536 ∧ ∀ fuel, iterFragmentChunks fuel [1] 65536 = .ok none := by
  refine ⟨by decide,?_⟩
  intro fuel
  have masked : 65536 &&& fragOffsetAlignmentMask = 0 := by decide
  show (if 65536 < fragOffsetAlignmentBytes then _ else _) = _
  rw [if_neg (by decide),masked,chunksFrom_stuck [1] (by decide)]

end PmdPytcp.Ip
