import PmdPytcp.InetCksum

namespace PmdPytcp.Buffer
open InetCksum

-- The integrity and sanity errors of every protocol are the two kinds of
-- `PacketValidationError`; some carry the offset of the offending octet. The
-- rest are the interpreter's own exceptions.
inductive PyError where
  | packetIntegrity (message : String) (pointer : Option Nat)
  | packetSanity (message : String) (pointer : Option Nat)
  | indexError
  | structError
  | assertionError
  | valueError
  | netAddrError
deriving Repr,DecidableEq

def PyError.PacketValidation : PyError → Prop
  | .packetIntegrity _ _ => True
  | .packetSanity _ _ => True
  | _ => False

abbrev Py := Except PyError

def byteAt (buffer : List UInt8) (offset : Nat) : Py Nat :=
  match buffer[offset]? with
  | some b => .ok b.toNat
  | none => .error .indexError

def pyAssert (condition : Bool) : Py Unit := if condition then .ok () else .error .assertionError

def raiseIf (condition : Prop) [Decidable condition] (error : PyError) : Py Unit :=
  if condition then .error error else .ok ()

def slice (buffer : List UInt8) (start stop : Nat) : List UInt8 := (buffer.take stop).drop start

def isUint (width n : Nat) : Bool := n < 2^width

-- Either a value or one of the two validation errors: nothing else escapes.
def Settled (result : Py α) : Prop :=
  (∃ value, result = .ok value) ∨ ∃ e, result = .error e ∧ e.PacketValidation

@[simp] theorem ok_bind (a : α) (f : α → Py β) : (Except.ok a >>= f) = f a := rfl
@[simp] theorem error_bind (e : PyError) (f : α → Py β) : (Except.error e >>= f) = .error e := rfl
@[simp] theorem pure_eq (a : α) : (pure a : Py α) = .ok a := rfl
@[simp] theorem throw_eq (e : PyError) : (throw e : Py α) = .error e := rfl
@[simp] theorem pyAssert_true : pyAssert true = .ok () := rfl
@[simp] theorem pyAssert_false : pyAssert false = .error .assertionError := rfl

theorem raiseIf_pos [Decidable condition] (holds : condition) : raiseIf condition e = .error e := if_pos holds
theorem raiseIf_neg [Decidable condition] (fails : ¬condition) : raiseIf condition e = .ok () := if_neg fails

theorem bind_ok {x : Py α} {f : α → Py β} : (x >>= f) = .ok b ↔ ∃ a, x = .ok a ∧ f a = .ok b := by
  cases x with
  | error e => simp
  | ok a => simp

theorem raiseIf_ok [Decidable condition] {u : Unit} : raiseIf condition e = .ok u ↔ ¬condition := by
  unfold raiseIf
  split <;> simp [*]

theorem pyAssert_ok {condition : Bool} {u : Unit} : pyAssert condition = .ok u ↔ condition = true := by
  cases condition <;> simp

theorem beNat_foldl_lt (bytes : List UInt8) (start bound : Nat) (small : start < bound) :
    bytes.foldl (fun value b => value*256 + b.toNat) start < bound * 256^bytes.length := by
  induction bytes generalizing start bound with
  | nil => simpa using small
  | cons b rest ih =>
    have byte := b.toNat_lt
    have next := ih (start*256 + b.toNat) (bound*256) (by omega)
    rw [List.foldl_cons,List.length_cons,Nat.pow_succ,Nat.mul_comm (256^rest.length),← Nat.mul_assoc]
    exact next

theorem beNat_lt (bytes : List UInt8) : beNat bytes < 256^bytes.length := by
  simpa [beNat] using beNat_foldl_lt bytes 0 1 (by omega)

theorem isUint_slice (width start stop : Nat) (buffer : List UInt8)
    (wide : 8*(stop-start) ≤ width) : isUint width (beNat (slice buffer start stop)) = true := by
  have short : (slice buffer start stop).length ≤ stop-start := by
    simp [slice]
    omega
  have value := beNat_lt (slice buffer start stop)
  have grow : 256^(slice buffer start stop).length ≤ 2^width := by
    rw [show 256 = 2^8 from rfl,← Nat.pow_mul]
    exact Nat.pow_le_pow_right (by omega) (by omega)
  simp only [isUint,decide_eq_true_eq]
  omega

theorem slice_length (buffer : List UInt8) (start stop : Nat) (fits : stop ≤ buffer.length) :
    (slice buffer start stop).length = stop-start := by
  simp [slice,Nat.min_eq_left fits]

theorem mapM_ok (f : α → β) (items : List α) :
    items.mapM (fun x => (Except.ok (f x) : Py β)) = .ok (items.map f) := by
  induction items with
  | nil => rfl
  | cons x rest ih => simp [List.mapM_cons,ih]

theorem mapM_all_ok {f : α → Py β} (g : α → β) {items : List α} (each : ∀ x ∈ items, f x = .ok (g x)) :
    items.mapM f = .ok (items.map g) := by
  induction items with
  | nil => rfl
  | cons x rest ih =>
    have others := ih fun y member => each y (by simp [member])
    simp [List.mapM_cons,each x (by simp),others]

-- `range(start, stop, step)`
def strides (start stop step : Nat) : List Nat :=
  (List.range ((stop - start + step - 1)/step)).map fun i => start + step*i

section Strides
variable {start stop step : Nat}

theorem strides_length (positive : 0 < step) (whole : (stop - start) % step = 0) :
    step * (strides start stop step).length = stop - start := by
  obtain ⟨count,size⟩ := Nat.dvd_of_mod_eq_zero whole
  have steps : (step*count + step - 1)/step = count := by
    rw [show step*count + step - 1 = step*count + (step - 1) by omega,Nat.mul_add_div positive,
      Nat.div_eq_of_lt (by omega),Nat.add_zero]
  simp only [strides,List.length_map,List.length_range,size,steps]

theorem mem_strides (positive : 0 < step) (whole : (stop - start) % step = 0) (ordered : start ≤ stop)
    (member : offset ∈ strides start stop step) : start ≤ offset ∧ offset + step ≤ stop := by
  have size := strides_length positive whole
  simp only [strides,List.length_map,List.length_range] at size
  obtain ⟨i,inside,rfl⟩ := List.mem_map.mp member
  have below := List.mem_range.mp inside
  have room : step*(i+1) ≤ stop - start := by
    rw [← size]
    exact Nat.mul_le_mul_left step below
  rw [Nat.mul_add,Nat.mul_one] at room
  omega

end Strides

def overwrite (buffer : List UInt8) (offset : Nat) (bytes : List UInt8) : List UInt8 :=
  buffer.take offset ++ bytes ++ buffer.drop (offset + bytes.length)

-- `buffer[offset] = value`
def setByte (buffer : List UInt8) (offset value : Nat) : Py (List UInt8) :=
  if offset ≥ buffer.length then .error .indexError
  else if value > 255 then .error .valueError
  else .ok (overwrite buffer offset [UInt8.ofNat value])

-- `struct.pack_into("!H", buffer, offset, value)`
def packH (buffer : List UInt8) (offset value : Nat) : Py (List UInt8) :=
  if offset + 2 ≤ buffer.length ∧ value < 65536 then .ok (overwrite buffer offset (be16 value))
  else .error .structError

theorem slice_getElem? (buffer : List UInt8) (start stop i : Nat) :
    (slice buffer start stop)[i]? = if start + i < stop then buffer[start + i]? else none := by
  simp [slice,List.getElem?_drop,List.getElem?_take]

section Overwrite
variable {buffer bytes : List UInt8} {offset : Nat}

theorem overwrite_length (fits : offset + bytes.length ≤ buffer.length) :
    (overwrite buffer offset bytes).length = buffer.length := by
  simp only [overwrite,List.length_append,List.length_take,List.length_drop]
  omega

theorem overwrite_getElem? (fits : offset + bytes.length ≤ buffer.length) (i : Nat) :
    (overwrite buffer offset bytes)[i]? =
      if offset ≤ i ∧ i < offset + bytes.length then bytes[i - offset]? else buffer[i]? := by
  have front : (buffer.take offset).length = offset := by
    rw [List.length_take]
    omega
  have both : (buffer.take offset ++ bytes).length = offset + bytes.length := by
    rw [List.length_append,front]
  unfold overwrite
  by_cases before : i < offset
  · rw [List.append_assoc,List.getElem?_append_left (by omega),List.getElem?_take_of_lt before,if_neg (by omega)]
  by_cases inside : i < offset + bytes.length
  · rw [List.getElem?_append_left (by omega),List.getElem?_append_right (by omega),front,if_pos ⟨by omega,inside⟩]
  · rw [List.getElem?_append_right (by omega),both,List.getElem?_drop,if_neg (by omega)]
    congr 1
    omega

theorem slice_overwrite_apart (fits : offset + bytes.length ≤ buffer.length)
    (apart : stop ≤ offset ∨ offset + bytes.length ≤ start) :
    slice (overwrite buffer offset bytes) start stop = slice buffer start stop := by
  refine List.ext_getElem? ?_
  intro i
  rw [slice_getElem?,slice_getElem?]
  split
  · rw [overwrite_getElem? fits,if_neg (by omega)]
  · rfl

theorem slice_overwrite_self (fits : offset + bytes.length ≤ buffer.length) :
    slice (overwrite buffer offset bytes) offset (offset + bytes.length) = bytes := by
  refine List.ext_getElem? ?_
  intro i
  rw [slice_getElem?]
  split
  · rw [overwrite_getElem? fits,if_pos (by omega),Nat.add_sub_cancel_left]
  · exact (List.getElem?_eq_none (by omega)).symm

def patched (buffer : List UInt8) (patches : List (Nat × List UInt8)) : List UInt8 :=
  patches.foldl (fun buffer patch => overwrite buffer patch.1 patch.2) buffer

def PatchesFit (buffer : List UInt8) (patches : List (Nat × List UInt8)) : Prop :=
  ∀ patch ∈ patches, patch.1 + patch.2.length ≤ buffer.length

theorem patched_length {patches : List (Nat × List UInt8)} (fit : PatchesFit buffer patches) :
    (patched buffer patches).length = buffer.length := by
  induction patches generalizing buffer with
  | nil => rfl
  | cons patch rest ih =>
    have same := overwrite_length (fit patch (by simp))
    have others : PatchesFit (overwrite buffer patch.1 patch.2) rest := by
      intro other member
      rw [same]
      exact fit other (by simp [member])
    exact (ih others).trans same

theorem slice_patched_apart {patches : List (Nat × List UInt8)} (fit : PatchesFit buffer patches)
    (apart : ∀ patch ∈ patches, stop ≤ patch.1 ∨ patch.1 + patch.2.length ≤ start) :
    slice (patched buffer patches) start stop = slice buffer start stop := by
  induction patches generalizing buffer with
  | nil => rfl
  | cons patch rest ih =>
    have same := overwrite_length (fit patch (by simp))
    have others : PatchesFit (overwrite buffer patch.1 patch.2) rest := by
      intro other member
      rw [same]
      exact fit other (by simp [member])
    have next := ih others fun other member => apart other (by simp [member])
    exact next.trans (slice_overwrite_apart (fit patch (by simp)) (apart patch (by simp)))

theorem patched_append (buffer : List UInt8) (front back : List (Nat × List UInt8)) :
    patched buffer (front ++ back) = patched (patched buffer front) back := by
  simp only [patched,List.foldl_append]

theorem slice_patched_self (front : List (Nat × List UInt8)) {back : List (Nat × List UInt8)} (patch : Nat × List UInt8)
    (fit : PatchesFit buffer (front ++ patch :: back))
    (apart : ∀ later ∈ back, patch.1 + patch.2.length ≤ later.1 ∨ later.1 + later.2.length ≤ patch.1) :
    slice (patched buffer (front ++ patch :: back)) patch.1 (patch.1 + patch.2.length) = patch.2 := by
  have before : (patched buffer front).length = buffer.length :=
    patched_length fun other member => fit other (by simp [member])
  have here : patch.1 + patch.2.length ≤ (patched buffer front).length := by
    rw [before]
    exact fit patch (by simp)
  have after : PatchesFit (overwrite (patched buffer front) patch.1 patch.2) back := by
    intro later member
    rw [overwrite_length here,before]
    exact fit later (by simp [member])
  have rest : slice (patched (patched buffer front) (patch :: back)) patch.1 (patch.1 + patch.2.length) =
      slice (overwrite (patched buffer front) patch.1 patch.2) patch.1 (patch.1 + patch.2.length) :=
    slice_patched_apart after apart
  rw [patched_append,rest,slice_overwrite_self here]

theorem byteAt_ok (inside : offset < buffer.length) : byteAt buffer offset = .ok (buffer[offset]?.getD 0).toNat := by
  simp [byteAt,List.getElem?_eq_getElem inside]

theorem setByte_patched {patches : List (Nat × List UInt8)} (fit : PatchesFit buffer patches)
    (inside : offset < buffer.length) (small : value ≤ 255) :
    setByte (patched buffer patches) offset value = .ok (patched buffer (patches ++ [(offset,[UInt8.ofNat value])])) := by
  rw [setByte,patched_length fit,if_neg (by omega),if_neg (by omega),patched_append]
  rfl

theorem packH_patched {patches : List (Nat × List UInt8)} (fit : PatchesFit buffer patches)
    (inside : offset + 2 ≤ buffer.length) (small : value < 65536) :
    packH (patched buffer patches) offset value = .ok (patched buffer (patches ++ [(offset,be16 value)])) := by
  rw [packH,patched_length fit,if_pos ⟨inside,small⟩,patched_append]
  rfl

theorem PatchesFit.snoc {patches : List (Nat × List UInt8)} (fit : PatchesFit buffer patches)
    (offset : Nat) (bytes : List UInt8) (inside : offset + bytes.length ≤ buffer.length) : PatchesFit buffer (patches ++ [(offset,bytes)]) := by
  intro patch member
  rcases List.mem_append.mp member with earlier | new
  · exact fit patch earlier
  · rw [List.mem_singleton.mp new]
    exact inside

end Overwrite

theorem slice_append_left (front back : List UInt8) (inside : stop ≤ front.length) :
    slice (front ++ back) start stop = slice front start stop := by
  unfold slice
  rw [List.take_append_of_le_length inside]

theorem slice_append_right (front back : List UInt8) :
    slice (front ++ back) front.length (front.length + back.length) = back := by
  unfold slice
  rw [← List.length_append,List.take_length,List.drop_left]

theorem take_slice_append (buffer : List UInt8) (ordered : a ≤ b) : buffer.take a ++ slice buffer a b = buffer.take b := by
  have split := List.take_append_drop a (buffer.take b)
  rwa [List.take_take,Nat.min_eq_left ordered] at split

theorem slice_append_slice (buffer : List UInt8) (first : a ≤ b) (second : b ≤ c) :
    slice buffer a b ++ slice buffer b c = slice buffer a c := by
  refine (List.append_right_inj (buffer.take a)).mp ?_
  rw [← List.append_assoc,take_slice_append buffer first,take_slice_append buffer second,
    take_slice_append buffer (Nat.le_trans first second)]

theorem slice_zero (buffer : List UInt8) (stop : Nat) : slice buffer 0 stop = buffer.take stop := rfl

theorem slice_rest (buffer : List UInt8) (start : Nat) : slice buffer start buffer.length = buffer.drop start := by
  rw [slice,List.take_length]

theorem take_slice (buffer : List UInt8) (start stop size : Nat) (short : stop ≤ size) :
    slice (buffer.take size) start stop = slice buffer start stop := by
  simp [slice,List.take_take,Nat.min_eq_left short]

theorem beNat_be16 (n : Nat) (small : n < 65536) : beNat (be16 n) = n := by
  simp only [be16,beNat,List.foldl_cons,List.foldl_nil,Nat.toUInt8_eq,UInt8.toNat_ofNat']
  omega

end PmdPytcp.Buffer
