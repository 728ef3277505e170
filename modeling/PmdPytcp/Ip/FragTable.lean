import PmdPytcp.Buffer
import PmdPytcp.Lib.Store
import PmdPytcp.Lib.Tiles

namespace PmdPytcp.Ip
open Buffer Tiles

-- Addresses by their value. The IPv6 key leaves `proto` empty.
structure IpFragFlowId where
  src : Nat
  dst : Nat
  id : Nat
  proto : Option Nat
deriving Repr,DecidableEq

structure IpFragData where
  timestamp : Int
  header : List UInt8
  last : Bool
  payload : Store Nat (List UInt8)
  ecn : Store Nat Nat
  discarded : Bool
deriving Repr,DecidableEq

def IpFragData.receivedLastFrag (data : IpFragData) : IpFragData := {data with last := true}

def IpFragData.markDiscarded (data : IpFragData) : IpFragData :=
  {data with discarded := true,payload := .empty}

-- Codepoints 0 Not-ECT, 1 ECT(1), 2 ECT(0), 3 CE.
def aggregateEcn (ecns : List Nat) : Option Nat :=
  match ecns.dedup with
  | [ecn] => some ecn
  | seen => if 0 ∈ seen then none else if 3 ∈ seen then some 3 else some 2

inductive IpFragAddOutcome where
  | pending
  | complete
  | overlap
  | discarded
  | ecnMixedDrop
deriving Repr,DecidableEq

structure IpFragAddResult where
  outcome : IpFragAddOutcome
  header : List UInt8 := []
  payload : List UInt8 := []
  ecn : Nat := 0
deriving Repr,DecidableEq

-- The keyword arguments of one `add_fragment` call.
structure Fragment where
  flowId : IpFragFlowId
  offset : Nat
  payload : List UInt8
  flagMf : Bool
  header : List UInt8
  ecn : Nat
deriving Repr,DecidableEq

def Fragment.stop (f : Fragment) : Nat := f.offset + f.payload.length

-- The whole datagram in one fragment: it never touches the flow store.
def Fragment.Atomic (f : Fragment) : Prop := f.offset = 0 ∧ f.flagMf = false

instance (f : Fragment) : Decidable f.Atomic := inferInstanceAs (Decidable (_ ∧ _))

structure IpFragTable where
  flows : Store IpFragFlowId IpFragData
  timeout : Int
deriving Repr,DecidableEq

def ipFragMaxFlows : Nat := 64

def emptyTable : IpFragTable := ⟨.empty,60⟩

def IpFragTable.sweepExpired (now : Int) (table : IpFragTable) : IpFragTable :=
  {table with flows := table.flows.filter fun _ data => now - data.timestamp < table.timeout}

def IpFragData.overlaps (data : IpFragData) (f : Fragment) : Bool :=
  data.payload.entries.any fun stored =>
    f.offset < stored.1 + stored.2.length && stored.1 < f.offset + f.payload.length

-- Insert / update the per-offset entry, or open the flow with this fragment.
def IpFragData.insert (data : IpFragData) (f : Fragment) : IpFragData :=
  {data with payload := data.payload.set f.offset f.payload,ecn := data.ecn.set f.offset f.ecn}

def IpFragData.opened (now : Int) (f : Fragment) : IpFragData where
  timestamp := now
  header := f.header
  last := false
  payload := Store.empty.set f.offset f.payload
  ecn := Store.empty.set f.offset f.ecn
  discarded := false

-- `sorted(payload)` with the chunk each offset stands for.
def IpFragData.sorted (data : IpFragData) : List (Piece UInt8) :=
  (data.payload.keys.insertionSort (· ≤ ·)).map fun offset => (offset,(data.payload.get offset).getD [])

-- The completeness loop: `none` at the first gap, else the joined length.
def payloadLen : Nat → List (Piece UInt8) → Option Nat
  | len,[] => some len
  | len,entry :: rest => if entry.1 > len then none else payloadLen (entry.1 + entry.2.length) rest

-- `struct.pack_into(f"{len(chunk)}s", joined, offset, chunk)`.
def packInto (buffer : List UInt8) (offset : Nat) (chunk : List UInt8) : Py (List UInt8) :=
  if offset + chunk.length ≤ buffer.length then .ok (overwrite buffer offset chunk)
  else .error .structError

def packAll (buffer : List UInt8) (entries : List (Piece UInt8)) : Py (List UInt8) :=
  entries.foldlM (fun buffer entry => packInto buffer entry.1 entry.2) buffer

-- `add_fragment`, from the insertion on: `data` is the flow's record with the
-- fragment in it.
def IpFragTable.assemble (table : IpFragTable) (flowId : IpFragFlowId) (data : IpFragData) :
    Py IpFragAddResult × IpFragTable :=
  let stored := {table with flows := table.flows.set flowId data}
  if data.last = false then (.ok {outcome := .pending},stored)
  else match payloadLen 0 data.sorted with
    | none => (.ok {outcome := .pending},stored)
    | some len =>
      let freed := {stored with flows := stored.flows.erase flowId}
      match aggregateEcn data.ecn.values with
      | none => (.ok {outcome := .ecnMixedDrop},freed)
      | some ecn =>
        match packAll (List.replicate len 0) data.sorted with
        | .error e => (.error e,stored)
        | .ok payload => (.ok {outcome := .complete,header := data.header,payload := payload,ecn := ecn},freed)

def IpFragTable.addFragment (now : Int) (f : Fragment) (table : IpFragTable) :
    Py IpFragAddResult × IpFragTable :=
  if f.Atomic then
    (.ok {outcome := .complete,header := f.header,payload := f.payload,ecn := f.ecn},table)
  else
    let table := table.sweepExpired now
    let marked (data : IpFragData) := if f.flagMf then data else data.receivedLastFrag
    match table.flows.get f.flowId with
    | some data =>
      if data.discarded then (.ok {outcome := .discarded},table)
      else if data.overlaps f then
        (.ok {outcome := .overlap},{table with flows := table.flows.set f.flowId data.markDiscarded})
      else table.assemble f.flowId (marked (data.insert f))
    | none =>
      if table.flows.size ≥ ipFragMaxFlows then (.ok {outcome := .discarded},table)
      else table.assemble f.flowId (marked (.opened now f))

end PmdPytcp.Ip
