import PmdPytcp.Ip4.Address

namespace PmdPytcp.Igmp

inductive Ip4MulticastFilterMode where
  | incl | excl
deriving DecidableEq,Repr

structure Ip4MulticastFilter where
  mode : Ip4MulticastFilterMode
  sources : Finset Ip4Address
deriving DecidableEq

namespace Ip4MulticastFilter

def hasReception (f : Ip4MulticastFilter) : Bool := f.mode = .excl ∨ f.sources ≠ ∅

def allows (f : Ip4MulticastFilter) (source : Ip4Address) : Bool :=
  match f.mode with
  | .incl => source ∈ f.sources
  | .excl => source ∉ f.sources

-- The two collections the merge fills on its way through the filters.
structure Collected where
  includeSources : Finset Ip4Address
  excludeLists : List (Finset Ip4Address)

def collect (c : Collected) (f : Ip4MulticastFilter) : Collected :=
  match f.mode with
  | .incl => { c with includeSources := c.includeSources ∪ f.sources }
  | .excl => { c with excludeLists := c.excludeLists ++ [f.sources] }

def merge (filters : List Ip4MulticastFilter) : Ip4MulticastFilter :=
  let c := filters.foldl collect ⟨∅,[]⟩
  match c.excludeLists with
  | first :: others => ⟨.excl,others.foldl (· ∩ ·) first \ c.includeSources⟩
  | [] => ⟨.incl,c.includeSources⟩

end Ip4MulticastFilter

def nonmember : Ip4MulticastFilter := ⟨.incl,∅⟩

def anySource : Ip4MulticastFilter := ⟨.excl,∅⟩

inductive IgmpV3RecordType where
  | modeIsInclude | modeIsExclude | changeToIncludeMode | changeToExcludeMode | allowNewSources | blockOldSources
deriving DecidableEq,Repr

structure IgmpV3GroupRecord where
  type : IgmpV3RecordType
  multicastAddress : Ip4Address
  sourceAddresses : List Ip4Address
deriving DecidableEq,Repr

def ByInt (a b : Ip4Address) : Prop := a.toNat ≤ b.toNat

instance : DecidableRel ByInt := fun a b => inferInstanceAs (Decidable (a.toNat ≤ b.toNat))

instance : IsTrans Ip4Address ByInt := ⟨fun _ _ _ ab bc => Nat.le_trans ab bc⟩

instance : Std.Antisymm ByInt := ⟨fun _ _ ab ba => BitVec.eq_of_toNat_eq (Nat.le_antisymm ab ba)⟩

instance : Std.Total ByInt := ⟨fun a b => Nat.le_total a.toNat b.toNat⟩

-- `sorted(sources, key=int)`
def sorted (sources : Finset Ip4Address) : List Ip4Address := sources.sort ByInt

theorem mem_sorted : source ∈ sorted sources ↔ source ∈ sources := Finset.mem_sort ByInt

-- A record that is left out when it would name no source.
def sourceRecord (type : IgmpV3RecordType) (group : Ip4Address) (sources : Finset Ip4Address) :
    List IgmpV3GroupRecord :=
  if sources = ∅ then [] else [⟨type,group,sorted sources⟩]

def differenceRecords (group : Ip4Address) (old new : Ip4MulticastFilter) : List IgmpV3GroupRecord :=
  if old.mode = new.mode then
    match old.mode with
    | .incl =>
      sourceRecord .allowNewSources group (new.sources \ old.sources) ++
        sourceRecord .blockOldSources group (old.sources \ new.sources)
    | .excl =>
      sourceRecord .allowNewSources group (old.sources \ new.sources) ++
        sourceRecord .blockOldSources group (new.sources \ old.sources)
  else
    match new.mode with
    | .incl => [⟨.changeToIncludeMode,group,sorted new.sources⟩]
    | .excl => [⟨.changeToExcludeMode,group,sorted new.sources⟩]

def IgmpV3GroupRecord.wellFormed (r : IgmpV3GroupRecord) : Bool :=
  r.multicastAddress.isMulticast && r.sourceAddresses.all Ip4Address.isUnicast

-- `none` where a record fails its own assertions.
def stateChangeRecords (group : Ip4Address) (old new : Ip4MulticastFilter) : Option (List IgmpV3GroupRecord) :=
  if (differenceRecords group old new).all (·.wellFormed) then some (differenceRecords group old new) else none

-- What a router makes of a state-change record for a group it holds a filter of.
def applyRecord (f : Ip4MulticastFilter) (r : IgmpV3GroupRecord) : Ip4MulticastFilter :=
  let listed := r.sourceAddresses.toFinset
  match r.type with
  | .changeToIncludeMode => ⟨.incl,listed⟩
  | .changeToExcludeMode => ⟨.excl,listed⟩
  | .allowNewSources =>
    match f.mode with
    | .incl => ⟨.incl,f.sources ∪ listed⟩
    | .excl => ⟨.excl,f.sources \ listed⟩
  | .blockOldSources =>
    match f.mode with
    | .incl => ⟨.incl,f.sources \ listed⟩
    | .excl => ⟨.excl,f.sources ∪ listed⟩
  | .modeIsInclude => f
  | .modeIsExclude => f

def replay (records : List IgmpV3GroupRecord) (f : Ip4MulticastFilter) : Ip4MulticastFilter :=
  records.foldl applyRecord f

-- The records for one group, applied in the order they were sent.
def observed (records : List IgmpV3GroupRecord) (group : Ip4Address) (f : Ip4MulticastFilter) : Ip4MulticastFilter :=
  replay (records.filter (·.multicastAddress = group)) f

namespace Ip4MulticastFilter

theorem eq_of_allows {f g : Ip4MulticastFilter} (mode : f.mode = g.mode)
    (same : ∀ source, f.allows source = g.allows source) : f = g := by
  obtain ⟨fm,fs⟩ := f
  obtain ⟨gm,gs⟩ := g
  obtain rfl : fm = gm := mode
  congr 1
  ext source
  have here := same source
  cases fm with
  | incl => simpa [allows] using here
  | excl => simpa [allows,not_iff_not] using here

theorem collect_spec (filters : List Ip4MulticastFilter) (c : Collected) :
    (∀ source, source ∈ (filters.foldl collect c).includeSources ↔
      source ∈ c.includeSources ∨ ∃ f ∈ filters, f.mode = .incl ∧ source ∈ f.sources) ∧
    (filters.foldl collect c).excludeLists = c.excludeLists ++ (filters.filter (·.mode = .excl)).map sources := by
  induction filters generalizing c with
  | nil => simp
  | cons f rest ih =>
    rw [List.foldl_cons]
    obtain ⟨included,excluded⟩ := ih (collect c f)
    cases mode : f.mode with
    | incl =>
      refine ⟨?_,?_⟩
      · intro source
        rw [included]
        simp [collect,mode,or_assoc]
      · rw [excluded]
        simp [collect,mode]
    | excl =>
      refine ⟨?_,?_⟩
      · intro source
        rw [included]
        simp [collect,mode]
      · rw [excluded]
        simp [collect,mode]

theorem mem_foldl_inter (lists : List (Finset Ip4Address)) (first : Finset Ip4Address) (source : Ip4Address) :
    source ∈ lists.foldl (· ∩ ·) first ↔ ∀ l ∈ first :: lists, source ∈ l := by
  induction lists generalizing first with
  | nil => simp
  | cons head rest ih =>
    rw [List.foldl_cons,ih]
    simp [and_assoc]

theorem merge_mode (filters : List Ip4MulticastFilter) :
    (merge filters).mode = .excl ↔ ∃ f ∈ filters, f.mode = .excl := by
  have excluded := (collect_spec filters ⟨∅,[]⟩).2
  unfold merge
  dsimp only
  cases lists : (filters.foldl collect ⟨∅,[]⟩).excludeLists with
  | nil =>
    rw [lists,List.nil_append,eq_comm,List.map_eq_nil_iff,List.filter_eq_nil_iff] at excluded
    simpa using excluded
  | cons first others =>
    rw [lists,List.nil_append] at excluded
    have member : first ∈ (filters.filter (·.mode = .excl)).map sources := by simp [← excluded]
    obtain ⟨f,inside,_⟩ := List.mem_map.mp member
    simpa using ⟨f,by simpa using inside⟩

theorem merge_allows (filters : List Ip4MulticastFilter) (source : Ip4Address) :
    (merge filters).allows source = true ↔ ∃ f ∈ filters, f.allows source = true := by
  obtain ⟨included,excluded⟩ := collect_spec filters ⟨∅,[]⟩
  have some' := included source
  unfold merge
  dsimp only
  cases lists : (filters.foldl collect ⟨∅,[]⟩).excludeLists with
  | nil =>
    rw [lists,List.nil_append,eq_comm,List.map_eq_nil_iff,List.filter_eq_nil_iff] at excluded
    have inclusive : ∀ f ∈ filters, f.mode = .incl := by
      intro f member
      have := excluded f member
      cases mode : f.mode with
      | incl => rfl
      | excl => simp [mode] at this
    simp only [allows,some',decide_eq_true_eq]
    constructor
    · rintro (empty | ⟨f,member,mode,inside⟩)
      · simp at empty
      · exact ⟨f,member,by simpa [mode] using inside⟩
    · rintro ⟨f,member,passes⟩
      have mode := inclusive f member
      exact .inr ⟨f,member,mode,by simpa [mode] using passes⟩
  | cons first others =>
    rw [lists,List.nil_append] at excluded
    simp only [allows,decide_eq_true_eq,Finset.mem_sdiff,mem_foldl_inter,excluded,some']
    constructor
    · intro out
      by_contra none'
      push Not at none'
      refine out ⟨?_,?_⟩
      · intro l member
        obtain ⟨f,inside,rfl⟩ := List.mem_map.mp member
        obtain ⟨inside,mode⟩ := List.mem_filter.mp inside
        have := none' f inside
        simpa [show f.mode = .excl by simpa using mode] using this
      · rintro (empty | ⟨f,member,mode,inside⟩)
        · simp at empty
        · exact none' f member (by simpa [mode] using inside)
    · rintro ⟨f,member,passes⟩ ⟨all,missing⟩
      cases mode : f.mode with
      | incl => exact missing (.inr ⟨f,member,mode,by simpa [mode] using passes⟩)
      | excl =>
        have listed := all f.sources (List.mem_map.mpr ⟨f,List.mem_filter.mpr ⟨member,by simp [mode]⟩,rfl⟩)
        simp [mode,listed] at passes

theorem merge_congr {one two : List Ip4MulticastFilter} (same : ∀ f, f ∈ one ↔ f ∈ two) : merge one = merge two := by
  refine eq_of_allows ?_ ?_
  · have mode : (merge one).mode = .excl ↔ (merge two).mode = .excl := by
      rw [merge_mode,merge_mode]
      simp [same]
    cases left : (merge one).mode <;> cases right : (merge two).mode <;> simp_all
  · intro source
    rw [Bool.eq_iff_iff,merge_allows,merge_allows]
    simp [same]

theorem merge_nil : merge [] = nonmember := rfl

theorem eq_nonmember {f : Ip4MulticastFilter} (deaf : f.hasReception = false) : f = nonmember := by
  obtain ⟨mode,sources⟩ := f
  cases mode with
  | incl =>
    simp [hasReception] at deaf
    rw [deaf]
    rfl
  | excl => simp [hasReception] at deaf

end Ip4MulticastFilter

theorem sourceRecord_group (member : r ∈ sourceRecord type group sources) : r.multicastAddress = group := by
  unfold sourceRecord at member
  split at member
  · cases member
  · rw [List.mem_singleton.mp member]

theorem differenceRecords_group (member : r ∈ differenceRecords group old new) : r.multicastAddress = group := by
  unfold differenceRecords at member
  split at member
  · split at member
    · rcases List.mem_append.mp member with member | member
      · exact sourceRecord_group member
      · exact sourceRecord_group member
    · rcases List.mem_append.mp member with member | member
      · exact sourceRecord_group member
      · exact sourceRecord_group member
  · split at member
    · rw [List.mem_singleton.mp member]
    · rw [List.mem_singleton.mp member]

theorem toFinset_sorted (sources : Finset Ip4Address) : (sorted sources).toFinset = sources := by
  ext source
  rw [List.mem_toFinset,mem_sorted]

theorem replay_allow (f : Ip4MulticastFilter) :
    replay (sourceRecord .allowNewSources group sources) f =
      match f.mode with
      | .incl => ⟨.incl,f.sources ∪ sources⟩
      | .excl => ⟨.excl,f.sources \ sources⟩ := by
  unfold sourceRecord
  split
  · next empty =>
    subst empty
    obtain ⟨mode,held⟩ := f
    cases mode <;> simp [replay]
  · simp [replay,applyRecord,toFinset_sorted]

theorem replay_block (f : Ip4MulticastFilter) :
    replay (sourceRecord .blockOldSources group sources) f =
      match f.mode with
      | .incl => ⟨.incl,f.sources \ sources⟩
      | .excl => ⟨.excl,f.sources ∪ sources⟩ := by
  unfold sourceRecord
  split
  · next empty =>
    subst empty
    obtain ⟨mode,held⟩ := f
    cases mode <;> simp [replay]
  · simp [replay,applyRecord,toFinset_sorted]

theorem replay_append (one two : List IgmpV3GroupRecord) (f : Ip4MulticastFilter) :
    replay (one ++ two) f = replay two (replay one f) := List.foldl_append

-- The difference records lead from the old filter to the new one, and change
-- nothing when they are heard again.
theorem replay_difference (group : Ip4Address) (old new f : Ip4MulticastFilter) (near : f = old ∨ f = new) :
    replay (differenceRecords group old new) f = new := by
  obtain ⟨om,os⟩ := old
  obtain ⟨nm,ns⟩ := new
  unfold differenceRecords
  by_cases same : om = nm
  · subst same
    simp only [if_true]
    cases om with
    | incl =>
      simp only [replay_append,replay_allow,replay_block]
      rcases near with rfl | rfl
      · simp only [Ip4MulticastFilter.mk.injEq,true_and]
        grind
      · simp only [Ip4MulticastFilter.mk.injEq,true_and]
        grind
    | excl =>
      simp only [replay_append,replay_allow,replay_block]
      rcases near with rfl | rfl
      · simp only [Ip4MulticastFilter.mk.injEq,true_and]
        grind
      · simp only [Ip4MulticastFilter.mk.injEq,true_and]
        grind
  · rw [if_neg same]
    cases nm with
    | incl => simp [replay,applyRecord,toFinset_sorted]
    | excl => simp [replay,applyRecord,toFinset_sorted]

theorem observed_append (one two : List IgmpV3GroupRecord) (group : Ip4Address) (f : Ip4MulticastFilter) :
    observed (one ++ two) group f = observed two group (observed one group f) := by
  rw [observed,List.filter_append,replay_append]
  rfl

theorem observed_own (records : List IgmpV3GroupRecord) (own : ∀ r ∈ records, r.multicastAddress = group)
    (f : Ip4MulticastFilter) : observed records group f = replay records f := by
  rw [observed,List.filter_eq_self.mpr]
  intro r member
  simpa using own r member

theorem observed_other (records : List IgmpV3GroupRecord) (own : ∀ r ∈ records, r.multicastAddress = group)
    (other : group' ≠ group) (f : Ip4MulticastFilter) : observed records group' f = f := by
  rw [observed,List.filter_eq_nil_iff.mpr]
  · rfl
  · intro r member
    have := own r member
    simp only [decide_eq_true_eq]
    intro same
    exact other (same.symm.trans this)

end PmdPytcp.Igmp
