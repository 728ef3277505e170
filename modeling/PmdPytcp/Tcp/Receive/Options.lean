import PmdPytcp.Tcp.Tx

namespace PmdPytcp.Tcp

namespace AccEcnState

variable {a : AccEcnState}

theorem nextAceField_enabled (a : AccEcnState) : a.nextAceField.2.enabled = a.enabled := by
  unfold nextAceField
  split <;> rfl

theorem nextAceField_counters (a : AccEcnState) : a.nextAceField.2.nextEmitCounters.1 = a.nextEmitCounters.1 := by
  unfold nextAceField
  split <;> rfl

theorem nextEmitCounters_single (a : AccEcnState) : ∃ counters,
    a.nextEmitCounters.1 = (some counters,none) ∨ a.nextEmitCounters.1 = (none,some counters) := by
  unfold nextEmitCounters
  dsimp only
  split
  · split
    · exact ⟨_,.inr rfl⟩
    · split <;> exact ⟨_,.inr rfl⟩
  · split
    · exact ⟨_,.inl rfl⟩
    · split
      · exact ⟨_,.inl rfl⟩
      · split <;> exact ⟨_,.inl rfl⟩

end AccEcnState

namespace TcpSession

variable {e : Env} {s : TcpSession}

theorem ecnBits_accecn (m : Emit) : (s.ecnBits m).2.accecn.enabled = s.accecn.enabled ∧
    (s.ecnBits m).2.accecn.nextEmitCounters.1 = s.accecn.nextEmitCounters.1 := by
  unfold ecnBits
  split
  · exact ⟨rfl,rfl⟩
  · split
    · exact ⟨rfl,rfl⟩
    · split
      · exact ⟨rfl,rfl⟩
      · split
        · exact ⟨rfl,rfl⟩
        · split
          · exact ⟨s.accecn.nextAceField_enabled,s.accecn.nextAceField_counters⟩
          · split <;> exact ⟨rfl,rfl⟩

theorem phase1ComposeEcnFlags_accecn (m : Emit) : (s.phase1ComposeEcnFlags m).2.accecn.enabled = s.accecn.enabled ∧
    (s.phase1ComposeEcnFlags m).2.accecn.nextEmitCounters.1 = s.accecn.nextEmitCounters.1 := by
  have bits := ecnBits_accecn (s := s) m
  unfold phase1ComposeEcnFlags
  rcases same : s.ecnBits m with ⟨⟨ece,cwr,ns⟩,s'⟩
  rw [same] at bits
  dsimp only at bits ⊢
  split <;> exact bits

theorem sackBlocksField_accecn (m : Emit) : (s.sackBlocksField m).2.accecn = s.accecn := by
  unfold sackBlocksField
  split <;> rfl

def accecnBytes (m : Emit) (s : TcpSession) : Nat :=
  if !s.accecn.enabled || m.flagRst || (m.flagSyn && !m.flagAck) then 0 else 2 + 3 * s.accecnDue m

theorem accecnBytes_eq (seq : Seq32) (m : Emit) :
    (s.composeSegment e seq m).1.accecn0Counters.elim 0 accecnOptionLen +
      (s.composeSegment e seq m).1.accecn1Counters.elim 0 accecnOptionLen = s.accecnBytes m := by
  obtain ⟨enabled,counters⟩ := phase1ComposeEcnFlags_accecn (s := (s.sackBlocksField m).2) m
  rw [sackBlocksField_accecn] at enabled counters
  show (((s.sackBlocksField m).2.phase1ComposeEcnFlags m).2.phase2BuildAccecnCounters m).1.1.elim 0 accecnOptionLen +
    (((s.sackBlocksField m).2.phase1ComposeEcnFlags m).2.phase2BuildAccecnCounters m).1.2.elim 0 accecnOptionLen = _
  generalize ((s.sackBlocksField m).2.phase1ComposeEcnFlags m).2 = t at enabled counters
  unfold phase2BuildAccecnCounters accecnBytes accecnDue
  rw [enabled]
  split
  · rfl
  · dsimp only
    rw [counters]
    obtain ⟨values,first | second⟩ := s.accecn.nextEmitCounters_single
    · rw [first]
      rfl
    · rw [second]
      exact Nat.zero_add _

theorem accecnDue_small (m : Emit) : s.accecnDue m ≤ 3 := by
  have one : ∀ x : Option Nat, x.toList.length ≤ 1 := by
    intro x
    cases x with
    | none => exact Nat.zero_le 1
    | some value => exact Nat.le_refl 1
  unfold accecnDue
  split
  · decide
  · dsimp only
    generalize (s.accecn.nextEmitCounters.1.1.or s.accecn.nextEmitCounters.1.2).getD (none,none,none) = values
    have first := one values.1
    have second := one values.2.1
    have third := one values.2.2
    omega

def stampBytes (m : Emit) (s : TcpSession) : Nat :=
  if (if m.flagSyn && !m.flagAck then s.advertise.ts else s.ts.sendTs) then 10 else 0

theorem stampBytes_eq (m : Emit) :
    (if (s.tsFields e m).1.isSome && (s.tsFields e m).2.isSome then 10 else 0) = s.stampBytes m := by
  unfold tsFields stampBytes
  cases m.flagSyn && !m.flagAck with
  | true => cases s.advertise.ts <;> rfl
  | false => cases s.ts.sendTs <;> rfl

-- Plain segments: SACK blocks, a timestamp and an AccECN option.
def sackBytes (s : TcpSession) : Nat :=
  if s.advertise.sendSack = true ∧ 0 < s.blocksDue then 2 + 8 * min (if s.ts.sendTs then 3 else 4) s.blocksDue else 0

theorem buildSackBlocks_length :
    s.buildSackBlocks.1.length = min (if s.ts.sendTs then 3 else 4) s.blocksDue := by
  have one : s.pendingDsack.toList.length ≤ 1 := by
    cases s.pendingDsack with
    | none => exact Nat.zero_le 1
    | some block => exact Nat.le_refl 1
  unfold buildSackBlocks blocksDue
  dsimp only
  rw [List.length_append,List.length_take,List.length_map,List.length_reverse]
  split <;> omega

theorem sackBytes_eq (m : Emit) (later : m.flagSyn = false) :
    (if (s.sackBlocksField m).1.any fun blocks => !blocks.isEmpty then
      2 + 8 * ((s.sackBlocksField m).1.getD []).length else 0) = s.sackBytes := by
  have some : (!s.oooPacketQueue.isEmpty || s.pendingDsack.isSome) = decide (0 < s.blocksDue) := by
    unfold blocksDue
    cases s.pendingDsack with
    | none => cases s.oooPacketQueue <;> simp
    | some block =>
      have positive : 0 < 1 + s.oooPacketQueue.length := by omega
      simp [positive]
  have length := buildSackBlocks_length (s := s)
  unfold sackBlocksField sackBytes
  rw [later,some]
  cases s.advertise.sendSack with
  | false => rfl
  | true =>
    by_cases due : 0 < s.blocksDue
    · have filled : s.buildSackBlocks.1.isEmpty = false := by
        rw [List.isEmpty_eq_false_iff_exists_mem,← List.length_pos_iff_exists_mem,length]
        split <;> omega
      simp only [due,decide_true,Bool.not_false,Bool.and_true,if_true,Option.any_some,filled,Option.getD_some,length,
        and_self]
    · simp only [due,decide_false,Bool.and_false,Bool.false_eq_true,if_false,Option.any_none,and_false]

theorem optionBytes_eq (seq : Seq32) (m : Emit) : (s.composeSegment e seq m).1.optionBytes =
    ((if (s.mssField m).any fun mss => mss != 0 then 4 else 0) + (if s.sackpermField m then 2 else 0) +
      (if (s.wscaleField m).any fun wscale => wscale != 0 then 4 else 0) +
      (if (s.sackBlocksField m).1.any fun blocks => !blocks.isEmpty then
        2 + 8 * ((s.sackBlocksField m).1.getD []).length else 0) + s.stampBytes m +
      ((s.phase3BuildFastopenCookie e m).elim 0 fun cookie => 2 + cookie.length) + s.accecnBytes m + 3) / 4 * 4 := by
  rw [← stampBytes_eq (e := e),← accecnBytes_eq (e := e) seq,← Nat.add_assoc]
  rfl

theorem plain_optionBytes (seq : Seq32) (m : Emit) (later : m.flagSyn = false) :
    (s.composeSegment e seq m).1.optionBytes = (s.sackBytes + s.stampBytes m + s.accecnBytes m + 3) / 4 * 4 := by
  have mss : s.mssField m = none := by
    unfold mssField
    rw [later]
    rfl
  have sackperm : s.sackpermField m = false := by
    unfold sackpermField
    rw [later]
    rfl
  have wscale : s.wscaleField m = none := by
    unfold wscaleField
    rw [later]
    rfl
  have cookie : s.phase3BuildFastopenCookie e m = none := by
    unfold phase3BuildFastopenCookie
    rw [later]
    rfl
  rw [optionBytes_eq,sackBytes_eq m later,mss,sackperm,wscale,cookie]
  simp only [Option.any_none,Bool.false_eq_true,if_false,Option.elim_none,Nat.zero_add,Nat.add_zero]

theorem plain_fits (seq : Seq32) (m : Emit) (later : m.flagSyn = false) :
    (s.composeSegment e seq m).1.optionBytes ≤ 40 ↔ ¬s.Crowded m := by
  have small := accecnDue_small (s := s) m
  have none : s.accecnBytes m = 0 → s.accecnDue m = 0 := by
    unfold accecnBytes accecnDue
    split
    · exact fun _ => rfl
    · omega
  have some : s.accecnBytes m = 0 ∨ s.accecnBytes m = 2 + 3 * s.accecnDue m := by
    unfold accecnBytes
    split
    · exact .inl rfl
    · exact .inr rfl
  have stamp : s.stampBytes m = if s.ts.sendTs then 10 else 0 := by
    unfold stampBytes
    rw [later]
    rfl
  rw [plain_optionBytes seq m later,stamp]
  unfold Crowded sackBytes
  rw [later]
  simp only [Bool.false_eq_true,if_false]
  cases s.advertise.sendSack with
  | false =>
    simp only [Bool.false_eq_true,false_and,if_false,not_false_eq_true,iff_true]
    split <;> omega
  | true =>
    simp only [true_and]
    cases s.ts.sendTs with
    | true =>
      simp only [if_true]
      split <;> omega
    | false =>
      simp only [Bool.false_eq_true,if_false]
      split <;> omega

theorem syn_optionBytes (seq : Seq32) (m : Emit) (first : m.flagSyn = true) (asks : m.flagAck = false) :
    (s.composeSegment e seq m).1.optionBytes ≤ 40 := by
  have sack : (s.sackBlocksField m).1 = none := by
    unfold sackBlocksField
    rw [first]
    rfl
  have stamp : s.stampBytes m ≤ 10 := by
    unfold stampBytes
    generalize (if m.flagSyn && !m.flagAck then s.advertise.ts else s.ts.sendTs) = on
    cases on <;> decide
  have cookie : ((s.phase3BuildFastopenCookie e m).elim 0 fun cookie => 2 + cookie.length) ≤ 18 := by
    have small := e.cookieSmall
    unfold phase3BuildFastopenCookie
    rw [first,asks]
    simp only [Bool.and_false,Bool.false_and,Bool.false_eq_true,if_false,Bool.not_false,Bool.true_and]
    split
    · split
      · exact Nat.zero_le _
      · show 2 + (e.fastopenCookie.getD []).length ≤ 18
        omega
    · exact Nat.zero_le _
  have accecn : s.accecnBytes m = 0 := by
    unfold accecnBytes
    rw [first,asks]
    simp only [Bool.not_false,Bool.and_true,Bool.or_true,if_true]
  rw [optionBytes_eq,sack,accecn]
  simp only [Option.any_none,Bool.false_eq_true,if_false,Nat.add_zero]
  split <;> split <;> split <;> omega

theorem synAck_fits (seq : Seq32) (m : Emit) (first : m.flagSyn = true) (answers : m.flagAck = true)
    (issued : (s.fastopen.cookieToEmit.getD []).length ≤ 8) :
    (s.composeSegment e seq m).1.optionBytes ≤ 40 ↔ ¬s.Crowded m := by
  have small := accecnDue_small (s := s) m
  have sack : (s.sackBlocksField m).1 = none := by
    unfold sackBlocksField
    rw [first]
    rfl
  have mss : ((if (s.mssField m).any fun mss => mss != 0 then 4 else 0) = 4 ↔ s.mssField m ≠ some 0) ∧
      (if (s.mssField m).any fun mss => mss != 0 then 4 else 0) ≤ 4 := by
    unfold mssField
    rw [first]
    simp only [if_true,Option.any_some]
    generalize min (min s.win.rcvMss 0xFFFF) (if 0 < s.maxsegOverride then (s.maxsegOverride : Int) else 0xFFFF) = value
    by_cases zero : value = 0
    · simp [zero]
    · simp [zero]
  have perm : s.sackpermField m = s.advertise.sendSack := by
    unfold sackpermField
    rw [first,answers]
    rfl
  have scale : ((if (s.wscaleField m).any fun wscale => wscale != 0 then 4 else 0) = 4 ↔
      s.advertise.wscale = true ∧ s.win.rcvWsc ≠ 0) ∧
      (if (s.wscaleField m).any fun wscale => wscale != 0 then 4 else 0) ≤ 4 := by
    unfold wscaleField
    rw [first]
    cases s.advertise.wscale with
    | false => simp
    | true =>
      by_cases zero : s.win.rcvWsc = 0
      · simp [zero]
      · simp [zero]
  have stamp : s.stampBytes m = if s.ts.sendTs then 10 else 0 := by
    unfold stampBytes
    rw [first,answers]
    rfl
  have cookie : (((s.phase3BuildFastopenCookie e m).elim 0 fun cookie => 2 + cookie.length) = 10 ↔
      (s.fastopen.cookieToEmit.getD []).length = 8) ∧
      ((s.phase3BuildFastopenCookie e m).elim 0 fun cookie => 2 + cookie.length) ≤ 10 := by
    unfold phase3BuildFastopenCookie
    rw [first,answers]
    cases given : s.fastopen.cookieToEmit with
    | none => simp
    | some bytes =>
      rw [given,Option.getD_some] at issued
      show (2 + bytes.length = 10 ↔ bytes.length = 8) ∧ 2 + bytes.length ≤ 10
      omega
  have accecn : (s.accecnBytes m = 11 ↔ s.accecnDue m = 3) ∧ s.accecnBytes m ≤ 11 := by
    unfold accecnBytes
    split
    · rename_i off
      have zero : s.accecnDue m = 0 := if_pos off
      omega
    · omega
  rw [optionBytes_eq,sack,perm,stamp]
  unfold Crowded
  rw [first]
  simp only [Option.any_none,Bool.false_eq_true,if_false,if_true,Nat.add_zero,answers,true_and]
  generalize (if (s.mssField m).any fun mss => mss != 0 then 4 else 0) = mssLen at mss ⊢
  generalize (if (s.wscaleField m).any fun wscale => wscale != 0 then 4 else 0) = scaleLen at scale ⊢
  generalize ((s.phase3BuildFastopenCookie e m).elim 0 fun cookie => 2 + cookie.length) = cookieLen at cookie ⊢
  rw [← mss.1,← cookie.1,← accecn.1]
  have regroup : ∀ P : Prop, (s.advertise.wscale = true ∧ s.win.rcvWsc ≠ 0 ∧ P) ↔ (scaleLen = 4 ∧ P) := by
    intro P
    rw [scale.1,and_assoc]
  rw [regroup]
  cases s.advertise.sendSack <;> cases s.ts.sendTs <;>
    simp only [Bool.false_eq_true,if_false,if_true,false_and,and_false,true_and,not_false_eq_true,iff_true] <;> omega

theorem composeSegment_fits (seq : Seq32) (m : Emit) (issued : (s.fastopen.cookieToEmit.getD []).length ≤ 8) :
    (s.composeSegment e seq m).1.optionBytes ≤ 40 ↔ ¬s.Crowded m := by
  cases first : m.flagSyn with
  | false => exact plain_fits seq m first
  | true =>
    cases answers : m.flagAck with
    | true => exact synAck_fits seq m first answers issued
    | false =>
      have empty : ¬s.Crowded m := by
        unfold Crowded
        rw [first,answers]
        simp
      simp only [empty,not_false_eq_true,iff_true]
      exact syn_optionBytes seq m first answers

end TcpSession

end PmdPytcp.Tcp
