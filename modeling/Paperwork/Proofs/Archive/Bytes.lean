import Mathlib.Data.List.Infix
import Mathlib.Data.Nat.ModEq
import Paperwork.Archive.Reader
import Paperwork.Archive.Writer
import Paperwork.Proofs.Json.Strings

/-!
# Bytes at places

What was written into a file at a place is read there again: a number of the given width
(`numberAt?_of_hasBytes`), a stretch of bytes (`bytesAt?_of_hasBytes`).
-/

namespace Paperwork.Archive

variable {file : ByteArray} {place : Nat} {bytes more : List UInt8}

theorem toList_eq (bytes : ByteArray) : bytes.toList = bytes.data.toList := by
  rw [ByteArray.toList, Json.toList_loop_eq, List.reverse_nil, List.nil_append, List.drop_zero]

theorem toByteArray_toList (bytes : ByteArray) : bytes.toList.toByteArray = bytes := by
  rw [toList_eq]
  exact ByteArray.ext (Array.toList_inj.mp List.toList_data_toByteArray)

/-- Some bytes stand in a file from a place on. -/
def HasBytes (file : ByteArray) (place : Nat) (bytes : List UInt8) : Prop :=
  bytes <+: file.data.toList.drop place

theorem hasBytes_append :
    HasBytes file place (bytes ++ more) ↔
      HasBytes file place bytes ∧ HasBytes file (place + bytes.length) more := by
  unfold HasBytes
  rw [← List.drop_drop]
  constructor
  · rintro ⟨rest, hrest⟩
    rw [← hrest, List.append_assoc]
    exact ⟨List.prefix_append _ _, by rw [List.drop_left]; exact List.prefix_append _ _⟩
  · rintro ⟨⟨rest, hrest⟩, hmore⟩
    rw [← hrest, List.drop_left] at hmore
    obtain ⟨last, rfl⟩ := hmore
    exact ⟨last, by rw [← hrest, List.append_assoc]⟩

theorem HasBytes.le_size (h : HasBytes file place bytes) (hne : bytes ≠ []) :
    place + bytes.length ≤ file.size := by
  have hlength := List.IsPrefix.length_le h
  have hpos := List.length_pos_iff.mpr hne
  have hsize : file.data.toList.length = file.size := rfl
  rw [List.length_drop, hsize] at hlength
  omega

theorem getElem?_of_hasBytes {b : UInt8} (h : HasBytes file place (b :: bytes)) :
    file[place]? = some b := by
  have hbyte : file[place]? = file.data.toList[place]? := by
    simp [getElem?_def, ByteArray.getElem_eq_getElem_data]
  obtain ⟨rest, hrest⟩ := h
  rw [hbyte, ← List.head?_drop, ← hrest]
  rfl

/-- The bytes of a number are read as that number, as far as the width goes. -/
theorem numberAt?_of_hasBytes {width n : Nat} (h : HasBytes file place (numberBytes width n)) :
    numberAt? file place width = some (n % 256 ^ width) := by
  induction width generalizing place n with
  | zero => rw [numberAt?, Nat.pow_zero, Nat.mod_one]
  | succ width ih =>
    rw [numberBytes] at h
    have hfirst := getElem?_of_hasBytes h
    rw [← List.singleton_append, hasBytes_append] at h
    have hrest := ih h.2
    rw [List.length_singleton] at hrest
    have hbyte : (UInt8.ofNat (n % 256)).toNat = n % 256 := by simp
    rw [numberAt?, hfirst, hrest]
    show some ((UInt8.ofNat (n % 256)).toNat + 256 * (n / 256 % 256 ^ width)) = _
    rw [hbyte, Nat.pow_succ', Nat.mod_mul]

theorem extract_of_hasBytes (h : HasBytes file place bytes) :
    file.extract place (place + bytes.length) = bytes.toByteArray := by
  refine ByteArray.ext (Array.toList_inj.mp ?_)
  rw [ByteArray.data_extract, List.toList_data_toByteArray, Array.toList_extract, List.extract,
    Nat.add_sub_cancel_left]
  exact (List.prefix_iff_eq_take.mp h).symm

theorem bytesAt?_of_hasBytes (h : HasBytes file place bytes) (hplace : place ≤ file.size) :
    bytesAt? file place bytes.length = some bytes.toByteArray := by
  have hfits : place + bytes.length ≤ file.size := by
    by_cases hne : bytes = []
    · rwa [hne, List.length_nil, Nat.add_zero]
    · exact h.le_size hne
  rw [bytesAt?, if_neg (Nat.not_lt.mpr hfits), extract_of_hasBytes h]

theorem bytesAt?_zero (h : place ≤ file.size) : bytesAt? file place 0 = some .empty := by
  have hnil : HasBytes file place [] := List.nil_prefix
  have hread := bytesAt?_of_hasBytes hnil h
  rwa [List.length_nil, List.toByteArray_nil] at hread

/-! ## Lengths -/

theorem length_numberBytes (width n : Nat) : (numberBytes width n).length = width := by
  induction width generalizing n with
  | zero => rfl
  | succ width ih => rw [numberBytes, List.length_cons, ih]

theorem length_fieldBytes (fields : List (Nat × Nat)) :
    (fieldBytes fields).length = (fields.map (·.1)).sum := by
  rw [fieldBytes, List.length_flatMap]
  simp only [length_numberBytes]

end Paperwork.Archive
