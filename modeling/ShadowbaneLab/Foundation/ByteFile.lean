/-
# Files of bytes

A file is its bytes; writes and truncations change it one after the other, and may be interrupted
between any two bytes.  `Agrees` says how far a file still is the original, and `Faithful` that an
operation only puts back what the original has: once every place that differs is put back, the file
is the original again (`Agrees.restored`).
-/
import Mathlib.Data.List.GetD
import ShadowbaneLab.Foundation.Wire

namespace Foundation

open List

/-! ## Slices -/

/-- `size` bytes from an offset on, as far as there are any. -/
def slice (file : Bytes) (offset size : ℕ) : Bytes := (file.drop offset).take size

theorem getElem?_slice (file : Bytes) (offset size j : ℕ) :
    (slice file offset size)[j]? = if j < size then file[offset + j]? else none := by
  rw [slice, List.getElem?_take, List.getElem?_drop]

variable {file : Bytes} {offset size : ℕ}

theorem length_slice (h : offset + size ≤ file.length) :
    (slice file offset size).length = size := by
  rw [slice, length_take, length_drop]
  omega

/-- Slices are equal when they agree at every place. -/
theorem slice_eq_slice {file file' : Bytes} {offset offset' size : ℕ}
    (h : ∀ j < size, file[offset + j]? = file'[offset' + j]?) :
    slice file offset size = slice file' offset' size := by
  refine ext_getElem? fun j => ?_
  rw [getElem?_slice, getElem?_slice]
  exact ite_congr rfl (fun hj => h j hj) fun _ => rfl

variable {offset : ℕ}

theorem slice_eq_iff {file data : Bytes} :
    slice file offset data.length = data ↔ ∀ j < data.length, file[offset + j]? = data[j]? := by
  constructor
  · intro h j hj
    have hget := getElem?_slice file offset data.length j
    rw [h, if_pos hj] at hget
    exact hget.symm
  · intro h
    refine ext_getElem? fun j => ?_
    rw [getElem?_slice]
    split
    case isTrue hj => exact h j hj
    case isFalse hj => exact (List.getElem?_eq_none (not_lt.1 hj)).symm

/-! ## Operations -/

/-- What is done to an open file. -/
inductive FileOp
  | write (offset : ℕ) (data : Bytes)
  | truncate (size : ℕ)

/-- Bytes are written at an offset; a gap before them is filled with zeros. -/
def writeAt (file : Bytes) (offset : ℕ) (data : Bytes) : Bytes :=
  if data = [] then file
  else (file ++ zeros (offset - file.length)).take offset ++ data ++ file.drop (offset + data.length)

/-- The file gets a size; what it lacks is filled with zeros. -/
def resize (file : Bytes) (size : ℕ) : Bytes := (file ++ zeros (size - file.length)).take size

def FileOp.perform (file : Bytes) : FileOp → Bytes
  | write offset data => writeAt file offset data
  | truncate size => resize file size

/-- The file after some operations. -/
def perform (ops : List FileOp) (file : Bytes) : Bytes := ops.foldl FileOp.perform file

variable {data : Bytes}

theorem length_writeAt (file : Bytes) (offset : ℕ) (h : data ≠ []) :
    (writeAt file offset data).length = max file.length (offset + data.length) := by
  rw [writeAt, if_neg h, length_append, length_append, length_take,
    length_append, length_zeros, length_drop]
  omega

theorem length_le_writeAt (file : Bytes) (offset : ℕ) (data : Bytes) :
    file.length ≤ (writeAt file offset data).length := by
  rcases eq_or_ne data [] with rfl | h
  · rw [writeAt, if_pos rfl]
  · rw [length_writeAt file offset h]
    exact le_max_left ..

theorem getElem?_writeAt_inside (file : Bytes) {j : ℕ} (h : j < data.length) :
    (writeAt file offset data)[offset + j]? = data[j]? := by
  have hne : data ≠ [] := ne_nil_of_length_pos (Nat.zero_lt_of_lt h)
  have hbefore : ((file ++ zeros (offset - file.length)).take offset).length = offset := by
    rw [length_take, length_append, length_zeros]
    omega
  rw [writeAt, if_neg hne, append_assoc, List.getElem?_append_right (by omega), hbefore,
    Nat.add_sub_cancel_left, List.getElem?_append_left h]

/-- What was there and is not written over stays. -/
theorem getElem?_writeAt_outside (file : Bytes) {i : ℕ} (hi : i < file.length)
    (h : i < offset ∨ offset + data.length ≤ i) : (writeAt file offset data)[i]? = file[i]? := by
  rcases eq_or_ne data [] with rfl | hne
  · rw [writeAt, if_pos rfl]
  have hbefore : ((file ++ zeros (offset - file.length)).take offset).length = offset := by
    rw [length_take, length_append, length_zeros]
    omega
  rw [writeAt, if_neg hne, append_assoc]
  rcases h with h | h
  · rw [List.getElem?_append_left (by omega), List.getElem?_take, if_pos h,
      List.getElem?_append_left hi]
  · rw [List.getElem?_append_right (by omega), hbefore, List.getElem?_append_right (by omega),
      List.getElem?_drop]
    congr 1
    omega

theorem length_resize (file : Bytes) (size : ℕ) : (resize file size).length = size := by
  rw [resize, length_take, length_append, length_zeros]
  omega

theorem getElem?_resize {size i : ℕ} (hi : i < file.length) (hsize : i < size) :
    (resize file size)[i]? = file[i]? := by
  rw [resize, List.getElem?_take, if_pos hsize, List.getElem?_append_left hi]

theorem perform_append (ops ops' : List FileOp) (file : Bytes) :
    perform (ops ++ ops') file = perform ops' (perform ops file) :=
  foldl_append

theorem perform_cons (op : FileOp) (ops : List FileOp) (file : Bytes) :
    perform (op :: ops) file = perform ops (op.perform file) := rfl

/-! ## Interruptions -/

/-- The single bytes that an operation writes, in their order. -/
def FileOp.bytewise : FileOp → List FileOp
  | write offset data => data.mapIdx fun j b => write (offset + j) [b]
  | truncate size => [truncate size]

/-- Operations stop somewhere, between any two bytes. -/
def Interrupted (ops : List FileOp) (file file' : Bytes) : Prop :=
  ∃ n, file' = perform ((ops.flatMap FileOp.bytewise).take n) file

/-- The first byte is written before the others. -/
theorem writeAt_cons (file : Bytes) (offset : ℕ) (b : UInt8) (data : Bytes) :
    writeAt (writeAt file offset [b]) (offset + 1) data = writeAt file offset (b :: data) := by
  rcases eq_or_ne data [] with rfl | hne
  · rw [writeAt, if_pos rfl]
  have hbefore : ((file ++ zeros (offset - file.length)).take offset).length = offset := by
    rw [length_take, length_append, length_zeros]
    omega
  have hone : writeAt file offset [b] =
      (file ++ zeros (offset - file.length)).take offset ++ [b] ++ file.drop (offset + 1) :=
    if_neg (cons_ne_nil b [])
  have hall : writeAt file offset (b :: data) =
      (file ++ zeros (offset - file.length)).take offset ++ b :: data ++
        file.drop (offset + (data.length + 1)) := if_neg (cons_ne_nil b data)
  rw [hone, hall]
  generalize (file ++ zeros (offset - file.length)).take offset = before at hbefore ⊢
  have hfirst : (before ++ [b]).length = offset + 1 := by
    rw [length_append, hbefore, length_singleton]
  have hgap : offset + 1 - (before ++ [b] ++ file.drop (offset + 1)).length = 0 := by
    rw [length_append]
    omega
  rw [writeAt, if_neg hne, hgap, zeros, replicate_zero, append_nil,
    take_left' hfirst, drop_append, drop_eq_nil_of_le (by omega), hfirst,
    nil_append, drop_drop, append_assoc before, singleton_append]
  congr 2
  omega

/-- Writing bytes one after the other writes them. -/
theorem perform_bytewise (op : FileOp) (file : Bytes) :
    perform op.bytewise file = op.perform file := by
  cases op with
  | truncate size => rfl
  | write offset data =>
    show perform (data.mapIdx fun j b => .write (offset + j) [b]) file = writeAt file offset data
    induction data generalizing offset file with
    | nil =>
      rw [writeAt, if_pos rfl]
      rfl
    | cons b data ih =>
      have hshift : (fun (j : ℕ) (b : UInt8) => FileOp.write (offset + (j + 1)) [b]) =
          fun j b => FileOp.write (offset + 1 + j) [b] := by
        funext j b
        rw [Nat.add_assoc, Nat.add_comm 1 j]
      rw [mapIdx_cons, perform_cons, hshift, ← writeAt_cons]
      exact ih (writeAt file offset [b]) (offset + 1)

theorem perform_flatMap_bytewise (ops : List FileOp) (file : Bytes) :
    perform (ops.flatMap FileOp.bytewise) file = perform ops file := by
  induction ops generalizing file with
  | nil => rfl
  | cons op ops ih => rw [flatMap_cons, perform_append, perform_bytewise, ih, perform_cons]

/-- Operations that are completed. -/
theorem interrupted_perform (ops : List FileOp) (file : Bytes) :
    Interrupted ops file (perform ops file) :=
  ⟨(ops.flatMap FileOp.bytewise).length, by rw [take_length, perform_flatMap_bytewise]⟩

/-! ## Agreement with an original -/

/-- A file has everything of the original, except where it was touched. -/
structure Agrees (original : Bytes) (touched : ℕ → Prop) (file : Bytes) : Prop where
  length : original.length ≤ file.length
  bytes : ∀ i < original.length, ¬ touched i → file[i]? = original[i]?

/-- An operation changes nothing of the original but what may be touched. -/
def FileOp.Harmless (original : Bytes) (touched : ℕ → Prop) : FileOp → Prop
  | write offset data => ∀ j < data.length, offset + j < original.length → touched (offset + j)
  | truncate size => original.length ≤ size

/-- An operation puts back what the original has. -/
def FileOp.Faithful (original : Bytes) : FileOp → Prop
  | write offset data => slice original offset data.length = data
  | truncate size => size = original.length

/-- The places that an operation writes. -/
def FileOp.Writes (i : ℕ) : FileOp → Prop
  | write offset data => offset ≤ i ∧ i < offset + data.length
  | truncate _ => False

variable {original file file' : Bytes} {touched : ℕ → Prop}

theorem Agrees.refl (original : Bytes) (touched : ℕ → Prop) : Agrees original touched original :=
  ⟨le_rfl, fun _ _ _ => rfl⟩

variable {op : FileOp}

theorem Agrees.harmless (h : Agrees original touched file) (hop : op.Harmless original touched) :
    Agrees original touched (op.perform file) := by
  cases op with
  | truncate size =>
    refine ⟨hop.trans_eq (length_resize file size).symm, fun i hi htouched => ?_⟩
    show (resize file size)[i]? = _
    rw [getElem?_resize (hi.trans_le h.length) (hi.trans_le hop)]
    exact h.bytes i hi htouched
  | write offset data =>
    refine ⟨h.length.trans (length_le_writeAt ..), fun i hi htouched => ?_⟩
    show (writeAt file offset data)[i]? = _
    rw [getElem?_writeAt_outside file (hi.trans_le h.length)]
    · exact h.bytes i hi htouched
    · by_contra hinside
      rw [not_or, not_lt, not_le] at hinside
      obtain ⟨j, rfl⟩ := Nat.exists_eq_add_of_le hinside.1
      exact htouched (hop j (by omega) hi)

/-- What is put back is no longer touched. -/
theorem Agrees.faithful (h : Agrees original touched file) (hop : op.Faithful original) :
    Agrees original (fun i => touched i ∧ ¬ op.Writes i) (op.perform file) := by
  cases op with
  | truncate size =>
    cases hop
    refine ⟨(length_resize file _).ge, fun i hi htouched => ?_⟩
    show (resize file original.length)[i]? = _
    rw [getElem?_resize (hi.trans_le h.length) hi]
    exact h.bytes i hi fun htouch => htouched ⟨htouch, id⟩
  | write offset data =>
    refine ⟨h.length.trans (length_le_writeAt ..), fun i hi htouched => ?_⟩
    show (writeAt file offset data)[i]? = _
    by_cases hinside : offset ≤ i ∧ i < offset + data.length
    · obtain ⟨j, rfl⟩ := Nat.exists_eq_add_of_le hinside.1
      have hj : j < data.length := by omega
      rw [getElem?_writeAt_inside file hj]
      exact (slice_eq_iff.1 hop j hj).symm
    · rw [getElem?_writeAt_outside file (hi.trans_le h.length)]
      · exact h.bytes i hi fun htouch => htouched ⟨htouch, hinside⟩
      · omega

theorem Agrees.mono (h : Agrees original touched file) {touched' : ℕ → Prop}
    (hmono : ∀ i, touched i → touched' i) : Agrees original touched' file :=
  ⟨h.length, fun i hi htouched => h.bytes i hi fun htouch => htouched (hmono i htouch)⟩

variable {ops : List FileOp}

theorem Agrees.perform_harmless (h : Agrees original touched file)
    (hops : ∀ op ∈ ops, op.Harmless original touched) :
    Agrees original touched (perform ops file) := by
  induction ops generalizing file with
  | nil => exact h
  | cons op ops ih =>
    exact ih (h.harmless (hops op mem_cons_self)) fun op' hop' =>
      hops op' (mem_cons_of_mem op hop')

theorem Agrees.perform_faithful (h : Agrees original touched file)
    (hops : ∀ op ∈ ops, op.Faithful original) :
    Agrees original (fun i => touched i ∧ ∀ op ∈ ops, ¬ op.Writes i) (perform ops file) := by
  induction ops generalizing file touched with
  | nil => exact h.mono fun i hi => ⟨hi, nofun⟩
  | cons op ops ih =>
    have hrest := ih (h.faithful (hops op mem_cons_self)) fun op' hop' =>
      hops op' (mem_cons_of_mem op hop')
    refine hrest.mono fun i hi => ⟨hi.1.1, fun op' hop' => ?_⟩
    rcases mem_cons.1 hop' with rfl | hop'
    · exact hi.1.2
    · exact hi.2 op' hop'

/-- The parts of a harmless operation are harmless. -/
theorem FileOp.Harmless.bytewise (h : op.Harmless original touched) :
    ∀ part ∈ op.bytewise, part.Harmless original touched := by
  cases op with
  | truncate size =>
    intro part hpart
    rw [FileOp.bytewise, mem_singleton] at hpart
    exact hpart ▸ h
  | write offset data =>
    intro part hpart
    obtain ⟨k, hk, rfl⟩ := mem_mapIdx.1 hpart
    intro j hj hoffset
    rw [length_singleton, Nat.lt_one_iff] at hj
    subst hj
    exact h k hk hoffset

theorem FileOp.Faithful.bytewise (h : op.Faithful original) :
    ∀ part ∈ op.bytewise, part.Faithful original := by
  cases op with
  | truncate size =>
    intro part hpart
    rw [FileOp.bytewise, mem_singleton] at hpart
    exact hpart ▸ h
  | write offset data =>
    intro part hpart
    obtain ⟨k, hk, rfl⟩ := mem_mapIdx.1 hpart
    refine slice_eq_iff.2 fun j hj => ?_
    rw [length_singleton, Nat.lt_one_iff] at hj
    subst hj
    rw [Nat.add_zero, slice_eq_iff.1 h k hk, List.getElem?_eq_getElem hk]
    rfl

theorem Agrees.interrupted_harmless (h : Agrees original touched file)
    (hops : ∀ op ∈ ops, op.Harmless original touched) (hfile : Interrupted ops file file') :
    Agrees original touched file' := by
  obtain ⟨n, rfl⟩ := hfile
  refine h.perform_harmless fun part hpart => ?_
  obtain ⟨op, hop, hpart⟩ := mem_flatMap.1 (mem_of_mem_take hpart)
  exact (hops op hop).bytewise part hpart

theorem Agrees.interrupted_faithful (h : Agrees original touched file)
    (hops : ∀ op ∈ ops, op.Faithful original) (hfile : Interrupted ops file file') :
    Agrees original touched file' := by
  obtain ⟨n, rfl⟩ := hfile
  refine (h.perform_faithful fun part hpart => ?_).mono fun i hi => hi.1
  obtain ⟨op, hop, hpart⟩ := mem_flatMap.1 (mem_of_mem_take hpart)
  exact (hops op hop).bytewise part hpart

/-- Once everything that was touched is put back and the rest is cut off, the file is the
original. -/
theorem Agrees.restored (h : Agrees original touched file) (hops : ∀ op ∈ ops, op.Faithful original)
    (hall : ∀ i < original.length, touched i → ∃ op ∈ ops, op.Writes i) :
    perform (ops ++ [.truncate original.length]) file = original := by
  have hagrees := h.perform_faithful hops
  rw [perform_append]
  show resize (perform ops file) original.length = original
  refine ext_getElem? fun i => ?_
  rcases lt_or_ge i original.length with hi | hi
  · rw [getElem?_resize (hi.trans_le hagrees.length) hi]
    refine hagrees.bytes i hi ?_
    rintro ⟨htouched, hno⟩
    obtain ⟨op, hop, hwrites⟩ := hall i hi htouched
    exact hno op hop hwrites
  · rw [List.getElem?_eq_none hi, List.getElem?_eq_none (by rwa [length_resize])]

/-! ## Places that are left alone -/

/-- An operation writes nothing of a range and does not cut it off. -/
def FileOp.Misses (offset size : ℕ) : FileOp → Prop
  | write other data => ∀ j < data.length, ¬ (offset ≤ other + j ∧ other + j < offset + size)
  | truncate kept => offset + size ≤ kept

theorem FileOp.Misses.perform (hop : op.Misses offset size) (h : offset + size ≤ file.length) :
    offset + size ≤ (op.perform file).length ∧
      slice (op.perform file) offset size = slice file offset size := by
  cases op with
  | truncate kept =>
    have hkept : offset + size ≤ kept := hop
    refine ⟨hkept.trans_eq (length_resize file kept).symm, slice_eq_slice fun j hj => ?_⟩
    exact getElem?_resize (by omega) (by omega)
  | write other data =>
    refine ⟨h.trans (length_le_writeAt ..), slice_eq_slice fun j hj => ?_⟩
    refine getElem?_writeAt_outside file (by omega) ?_
    by_contra hinside
    rw [not_or, not_lt, not_le] at hinside
    obtain ⟨k, hk⟩ := Nat.exists_eq_add_of_le hinside.1
    exact hop k (by omega) (by omega)

/-- A range that every operation misses is left alone. -/
theorem slice_perform_of_misses (hops : ∀ op ∈ ops, op.Misses offset size)
    (h : offset + size ≤ file.length) :
    offset + size ≤ (perform ops file).length ∧
      slice (perform ops file) offset size = slice file offset size := by
  induction ops generalizing file with
  | nil => exact ⟨h, rfl⟩
  | cons op ops ih =>
    have hfirst := (hops op mem_cons_self).perform h
    have hrest := ih (fun op' hop' => hops op' (mem_cons_of_mem op hop')) hfirst.1
    exact ⟨hrest.1, hrest.2.trans hfirst.2⟩

/-- What is written stays if the later operations miss it. -/
theorem slice_perform_write {before after : List FileOp}
    (hafter : ∀ op ∈ after, op.Misses offset data.length) :
    slice (perform (before ++ .write offset data :: after) file) offset data.length = data := by
  rw [perform_append, perform_cons]
  rcases eq_or_ne data [] with rfl | hne
  · exact take_zero
  have hlength := length_writeAt (perform before file) offset hne
  have hkept := slice_perform_of_misses hafter
    (hlength.symm ▸ le_max_right (perform before file).length (offset + data.length))
  refine hkept.2.trans (slice_eq_iff.2 fun j hj => ?_)
  exact getElem?_writeAt_inside _ hj

/-- Of writes that miss each other, each stays. -/
theorem slice_perform_of_pairwise (hops : ops.Pairwise fun op other =>
      ∀ offset data, op = .write offset data → other.Misses offset data.length)
    (hmem : .write offset data ∈ ops) (file : Bytes) :
    slice (perform ops file) offset data.length = data := by
  obtain ⟨before, after, rfl⟩ := append_of_mem hmem
  refine slice_perform_write fun op hop => ?_
  exact (pairwise_cons.1 (pairwise_append.1 hops).2.1).1 op hop offset data rfl

/-- Writes inside of a file keep its length. -/
theorem length_perform {size : ℕ}
    (hops : ∀ op ∈ ops, ∃ offset data, op = .write offset data ∧ offset + data.length ≤ size)
    (h : file.length = size) : (perform ops file).length = size := by
  induction ops generalizing file with
  | nil => exact h
  | cons op ops ih =>
    obtain ⟨hop, hrest⟩ := forall_mem_cons.1 hops
    obtain ⟨offset, data, rfl, hinside⟩ := hop
    rw [perform_cons]
    refine ih hrest ?_
    change (writeAt file offset data).length = size
    rcases eq_or_ne data [] with rfl | hne
    · rw [writeAt, if_pos rfl, h]
    · rw [length_writeAt file offset hne, h]
      exact max_eq_left hinside

theorem slice_slice {offset size offset' size' : ℕ} (h : offset' + size' ≤ size) :
    slice (slice file offset size) offset' size' = slice file (offset + offset') size' := by
  refine ext_getElem? fun j => ?_
  rw [getElem?_slice, getElem?_slice, getElem?_slice]
  refine ite_congr rfl (fun hj => ?_) fun _ => rfl
  rw [if_pos (by omega), Nat.add_assoc]

/-- The words of a record, one after the other. -/
theorem slice_flatMap_littleEndian {width : ℕ} {words : List ℕ} {k : ℕ} (h : k < words.length) :
    slice (words.flatMap (littleEndian width)) (k * width) width = littleEndian width words[k] := by
  induction words generalizing k with
  | nil => cases h
  | cons n words ih =>
    have hlength : (littleEndian width n).length = width := length_littleEndian width n
    rw [flatMap_cons, slice]
    cases k with
    | zero => rw [Nat.zero_mul, drop_zero, take_left' hlength, getElem_cons_zero]
    | succ k =>
      rw [Nat.succ_mul, Nat.add_comm, ← drop_drop, drop_left' hlength,
        getElem_cons_succ]
      exact ih (Nat.lt_of_succ_lt_succ h)

end Foundation
