import Paperwork.Archive.Basic
import Paperwork.Proofs.Archive.Bytes
import Paperwork.Proofs.Outcome

/-!
# Stored blocks are read back

Deflated data is written as blocks of stored bytes. The low end of a byte comes first, so full bytes
spell the number that they spell anyway (`bits?_of_numberAt?`), and the reader finds the bytes of
each block behind its lengths (`inflate?_storedBlocks`).
-/

namespace Paperwork.Archive

variable {s : BitSource} {place : Nat}

/-! ## Bits from the low end -/

namespace BitSource

theorem bit?_of_low {b : UInt8} {i : Nat} (hs : s.highFirst = false) (hb : s.data[place]? = some b)
    (hi : i < 8) : s.bit? (8 * place + i) = .ok ((b.toNat >>> i) % 2) := by
  have hbyte : (8 * place + i) / 8 = place := by omega
  have hbit : (8 * place + i) % 8 = i := by omega
  simp only [bit?, hbyte, hb, hs, hbit, Bool.false_eq_true, if_false]

theorem bits?_succ_of_low {n first rest : Nat} (hs : s.highFirst = false)
    (hfirst : s.bit? place = .ok first) (hrest : s.bits? (place + 1) n = .ok rest) :
    s.bits? place (n + 1) = .ok (first + 2 * rest) := by
  rw [bits?, hfirst, hrest, hs]
  rfl

/-- Some bits of one byte. -/
theorem bits?_of_byte {b : UInt8} {i n : Nat} (hs : s.highFirst = false)
    (hb : s.data[place]? = some b) (hn : i + n ≤ 8) :
    s.bits? (8 * place + i) n = .ok ((b.toNat >>> i) % 2 ^ n) := by
  induction n generalizing i with
  | zero => rw [bits?, Nat.pow_zero, Nat.mod_one]
  | succ n ih =>
    have hrest := ih (i := i + 1) (by omega)
    rw [bits?_succ_of_low hs (bit?_of_low hs hb (by omega)) hrest, Nat.shiftRight_succ,
      Nat.pow_succ', Nat.mod_mul]

/-- Bits behind others count for more. -/
theorem bits?_add {a b x y : Nat} (hs : s.highFirst = false) (hx : s.bits? place a = .ok x)
    (hy : s.bits? (place + a) b = .ok y) : s.bits? place (a + b) = .ok (x + 2 ^ a * y) := by
  induction a generalizing place x with
  | zero =>
    cases hx
    rw [Nat.zero_add, Nat.pow_zero, Nat.one_mul, Nat.zero_add]
    exact hy
  | succ a ih =>
    rw [bits?, bind_eq_ok_iff] at hx
    obtain ⟨first, hfirst, hx⟩ := hx
    obtain ⟨rest, hrest, hx⟩ := bind_eq_ok_iff.mp hx
    have hlow : x = first + 2 * rest := by
      rw [hs] at hx
      exact (pure_eq_ok_iff.mp hx).symm
    have hplace : place + (a + 1) = place + 1 + a := by omega
    have hmore := ih hrest (hplace ▸ hy)
    have hcount : a + 1 + b = a + b + 1 := by omega
    rw [hcount, bits?_succ_of_low hs hfirst hmore, hlow, Nat.pow_succ', Nat.mul_add,
      Nat.mul_assoc, Nat.add_assoc]

/-- The bits of full bytes spell the number that the bytes spell. -/
theorem bits?_of_numberAt? {width n : Nat} (hs : s.highFirst = false)
    (h : numberAt? s.data place width = some n) : s.bits? (8 * place) (8 * width) = .ok n := by
  induction width generalizing place n with
  | zero =>
    cases h
    rfl
  | succ width ih =>
    rw [numberAt?] at h
    obtain ⟨low, hlow, h⟩ := Option.bind_eq_some_iff.mp h
    obtain ⟨high, hhigh, h⟩ := Option.bind_eq_some_iff.mp h
    cases h
    have hbyte : s.bits? (8 * place) 8 = .ok low.toNat := by
      have hread := bits?_of_byte (i := 0) (n := 8) hs hlow (by omega)
      have hlt : low.toNat < 2 ^ 8 := low.toNat_lt
      rwa [Nat.add_zero, Nat.shiftRight_zero, Nat.mod_eq_of_lt hlt] at hread
    have hnext : 8 * (place + 1) = 8 * place + 8 := by omega
    have hcount : 8 * (width + 1) = 8 + 8 * width := by omega
    rw [hcount]
    exact bits?_add hs hbyte (hnext ▸ ih hhigh)

end BitSource

/-! ## Blocks -/

theorem twoBytes_eq (n : Nat) : twoBytes n = numberBytes 2 n := rfl

/-- The bytes of a stored block are read from behind its lengths. -/
theorem readStored_of_hasBytes {bytes : List UInt8} {start : Nat} (hs : s.highFirst = false)
    (hlength : bytes.length ≤ 65535) (hstart : (place + 7) / 8 = start) (out : ByteArray)
    (h : HasBytes s.data start (twoBytes bytes.length ++ twoBytes (65535 - bytes.length) ++ bytes)) :
    readStored s place out = .upTo (8 * (start + 4 + bytes.length)) (out ++ bytes.toByteArray) := by
  have hmarks := h
  simp only [twoBytes_eq, hasBytes_append, List.length_append, length_numberBytes] at hmarks
  obtain ⟨⟨hcount, hrest⟩, hbytes⟩ := hmarks
  have hlow : s.bits? (8 * start) 16 = .ok bytes.length := by
    have hnumber := numberAt?_of_hasBytes hcount
    rw [Nat.mod_eq_of_lt (by omega)] at hnumber
    exact BitSource.bits?_of_numberAt? hs hnumber
  have hhigh : s.bits? (8 * start + 16) 16 = .ok (65535 - bytes.length) := by
    have hnumber := numberAt?_of_hasBytes hrest
    rw [Nat.mod_eq_of_lt (by omega)] at hnumber
    have hread := BitSource.bits?_of_numberAt? hs hnumber
    rwa [Nat.mul_add] at hread
  have hboth := BitSource.bits?_add hs hlow hhigh
  have hmod : (bytes.length + 2 ^ 16 * (65535 - bytes.length)) % 65536 = bytes.length := by omega
  have hdiv : (bytes.length + 2 ^ 16 * (65535 - bytes.length)) / 65536 = 65535 - bytes.length := by
    omega
  have hend : ¬ s.data.size < start + 4 + bytes.length := by
    have hle := h.le_size (by simp [twoBytes])
    simp only [twoBytes_eq, List.length_append, length_numberBytes] at hle
    omega
  have hsum : bytes.length + (65535 - bytes.length) = 65535 := by omega
  simp only [readStored, hstart, hboth, hmod, hdiv, hsum]
  rw [if_neg (by simp), if_neg hend]
  have hextract := extract_of_hasBytes hbytes
  rw [← hextract]

theorem readBlock_of_hasBytes {reach : Reach} {bytes : List UInt8} {b : UInt8}
    (hs : s.highFirst = false) (hlength : bytes.length ≤ 65535) (hb : (b.toNat >>> 1) % 2 ^ 2 = 0)
    (out : ByteArray)
    (h : HasBytes s.data place
      (b :: (twoBytes bytes.length ++ twoBytes (65535 - bytes.length) ++ bytes))) :
    readBlock reach s (8 * place + 1) out =
      .upTo (8 * (place + 1 + 4 + bytes.length)) (out ++ bytes.toByteArray) := by
  have hbyte := getElem?_of_hasBytes h
  have hkind : s.bits? (8 * place + 1) 2 = .ok 0 := by
    rw [BitSource.bits?_of_byte hs hbyte (by omega), hb]
  rw [← List.singleton_append, hasBytes_append] at h
  have hstart : (8 * place + 1 + 2 + 7) / 8 = place + 1 := by omega
  simp only [readBlock, hkind, readStored_of_hasBytes hs hlength hstart out h.2]

/-- One stored block is read; the reader goes on unless it is the last one. -/
theorem readBlocks_of_hasBytes {reach : Reach} {bytes : List UInt8} {last : Bool}
    (hs : s.highFirst = false) (hlength : bytes.length ≤ 65535) (fuel : Nat) (out : ByteArray)
    (h : HasBytes s.data place (storedBlock last bytes)) :
    readBlocks reach s (fuel + 1) (8 * place) out =
      if last then .upTo (8 * (place + 5 + bytes.length)) (out ++ bytes.toByteArray)
      else readBlocks reach s fuel (8 * (place + 5 + bytes.length)) (out ++ bytes.toByteArray) := by
  have hbyte := getElem?_of_hasBytes h
  have hbit : s.bit? (8 * place) = .ok (if last then 1 else 0) := by
    rw [← Nat.add_zero (8 * place), BitSource.bit?_of_low hs hbyte (by omega)]
    cases last <;> rfl
  have hkind : ((if last then (1 : UInt8) else 0).toNat >>> 1) % 2 ^ 2 = 0 := by
    cases last <;> rfl
  rw [readBlocks, hbit]
  simp only [readBlock_of_hasBytes hs hlength hkind out h]
  cases last <;> rfl

theorem length_storedBlock (last : Bool) (bytes : List UInt8) :
    (storedBlock last bytes).length = 5 + bytes.length := by
  simp [storedBlock, twoBytes]
  omega

/-- The blocks of some bytes are read up to the last one. -/
theorem readBlocks_storedBlocks (reach : Reach) (hs : s.highFirst = false) (bytes : List UInt8)
    {fuel : Nat} (hfuel : (storedBlocks bytes).length ≤ fuel) (out : ByteArray)
    (h : HasBytes s.data place (storedBlocks bytes)) :
    ∃ stop, readBlocks reach s fuel (8 * place) out = .upTo stop (out ++ bytes.toByteArray) := by
  induction bytes using storedBlocks.induct generalizing place fuel out with
  | case1 bytes hlength =>
    rw [storedBlocks, if_pos hlength] at h hfuel
    rw [length_storedBlock] at hfuel
    cases fuel with
    | zero => omega
    | succ fuel =>
      rw [readBlocks_of_hasBytes hs hlength fuel out h]
      exact ⟨_, rfl⟩
  | case2 bytes hlength ih =>
    have htake : (bytes.take 65535).length = 65535 := by
      rw [List.length_take]
      omega
    rw [storedBlocks, if_neg hlength] at h hfuel
    rw [hasBytes_append, length_storedBlock, htake] at h
    rw [List.length_append, length_storedBlock] at hfuel
    cases fuel with
    | zero => omega
    | succ fuel =>
      have hfewer : (storedBlocks (bytes.drop 65535)).length ≤ fuel := by omega
      obtain ⟨stop, hstop⟩ := ih hfewer (out ++ (bytes.take 65535).toByteArray) h.2
      refine ⟨stop, ?_⟩
      rw [readBlocks_of_hasBytes hs htake.le fuel out h.1, htake, if_neg Bool.false_ne_true,
        Nat.add_assoc, hstop, ByteArray.append_assoc, ← List.toByteArray_append, List.take_append_drop]

/-- Stored blocks are read back, in each form of the format. -/
theorem inflate?_storedBlocks (reach : Reach) (bytes : ByteArray) :
    inflate? reach ⟨(storedBlocks bytes.toList).toArray⟩ = some bytes := by
  have hwritten : HasBytes ⟨(storedBlocks bytes.toList).toArray⟩ 0 (storedBlocks bytes.toList) :=
    List.prefix_rfl
  have hfuel : (storedBlocks bytes.toList).length ≤
      8 * (ByteArray.mk (storedBlocks bytes.toList).toArray).size + 1 := by
    show _ ≤ 8 * (storedBlocks bytes.toList).length + 1
    omega
  let s : BitSource := ⟨⟨(storedBlocks bytes.toList).toArray⟩, false⟩
  have hs : s.highFirst = false := rfl
  obtain ⟨stop, hstop⟩ := readBlocks_storedBlocks reach hs bytes.toList hfuel .empty hwritten
  rw [Nat.mul_zero, toByteArray_toList, ByteArray.empty_append] at hstop
  rw [inflate?, hstop]

end Paperwork.Archive
