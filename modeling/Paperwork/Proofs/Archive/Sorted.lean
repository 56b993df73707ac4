import Paperwork.Archive.Basic
import Paperwork.Proofs.Archive.Bytes
import Paperwork.Proofs.Outcome

/-!
# Sorted data is read back

Sorted data is written as blocks of one byte each. The reader finds the bits of a block from its
mark on, whatever stands behind it (`readBlock_of_hasBits`), and so gets the bytes back in turn
(`contents?_storedBytes`).
-/

namespace Paperwork.Archive.Sorted

variable {s : BitSource} {place : Nat} {bits more : List Bool}

/-! ## Bits -/

/-- Some bits stand in the data from a place on. -/
def HasBits (s : BitSource) : Nat → List Bool → Prop
  | _, [] => True
  | place, b :: rest => s.bit? place = .ok b.toNat ∧ HasBits s (place + 1) rest

theorem hasBits_append :
    HasBits s place (bits ++ more) ↔
      HasBits s place bits ∧ HasBits s (place + bits.length) more := by
  induction bits generalizing place with
  | nil => simp [HasBits]
  | cons b rest ih =>
    have hplace : place + (b :: rest).length = place + 1 + rest.length := by
      rw [List.length_cons]
      omega
    rw [List.cons_append, HasBits, HasBits, ih, hplace, and_assoc]

theorem length_bitsOf (width n : Nat) : (bitsOf width n).length = width := by
  simp [bitsOf]

theorem bitsOf_succ (width n : Nat) : bitsOf (width + 1) n = n.testBit width :: bitsOf width n := by
  simp [bitsOf, List.range_succ]

theorem length_markBits (mark : List Nat) : (markBits mark).length = 8 * mark.length := by
  simp [markBits, length_bitsOf, Nat.mul_comm]

/-- The bits of a number are read as that number, as far as the width goes. -/
theorem bits?_of_hasBits {width n : Nat} (hs : s.highFirst = true)
    (h : HasBits s place (bitsOf width n)) : s.bits? place width = .ok (n % 2 ^ width) := by
  induction width generalizing place with
  | zero => rw [BitSource.bits?, Nat.pow_zero, Nat.mod_one]
  | succ width ih =>
    rw [bitsOf_succ, HasBits] at h
    have hbit : (n.testBit width).toNat = n / 2 ^ width % 2 := Nat.toNat_testBit n width
    rw [BitSource.bits?, h.1, ih h.2, hs, hbit, Nat.mod_pow_succ, Nat.add_comm, Nat.mul_comm]
    rfl

theorem bits?_of_lt {width n : Nat} (hs : s.highFirst = true) (hn : n < 2 ^ width)
    (h : HasBits s place (bitsOf width n)) : s.bits? place width = .ok n := by
  rw [bits?_of_hasBits hs h, Nat.mod_eq_of_lt hn]

/-! ## Bits as bytes -/

theorem hasBits_iff :
    HasBits s place bits ↔ ∀ (i : Nat) (b : Bool), bits[i]? = some b → s.bit? (place + i) = .ok b.toNat := by
  induction bits generalizing place with
  | nil => simp [HasBits]
  | cons b rest ih =>
    rw [HasBits, ih]
    constructor
    · rintro ⟨hfirst, hrest⟩ (_ | i) c hc
      · cases hc
        exact hfirst
      · rw [Nat.add_comm i, ← Nat.add_assoc]
        exact hrest i c hc
    · intro h
      refine ⟨h 0 b rfl, fun i c hc => ?_⟩
      rw [Nat.add_assoc, Nat.add_comm 1]
      exact h (i + 1) c hc

/-- The number that bits spell, the high end first. -/
def number (bits : List Bool) : Nat := bits.foldl (fun n b => 2 * n + b.toNat) 0

theorem bit_of_number (b₀ b₁ b₂ b₃ b₄ b₅ b₆ b₇ : Bool) (i : Fin 8) :
    ((UInt8.ofNat (number [b₀, b₁, b₂, b₃, b₄, b₅, b₆, b₇])).toNat >>> (7 - i.val)) % 2 =
      [b₀, b₁, b₂, b₃, b₄, b₅, b₆, b₇][i].toNat := by
  have hle : b₀.toNat ≤ 1 ∧ b₁.toNat ≤ 1 ∧ b₂.toNat ≤ 1 ∧ b₃.toNat ≤ 1 ∧ b₄.toNat ≤ 1 ∧
      b₅.toNat ≤ 1 ∧ b₆.toNat ≤ 1 ∧ b₇.toNat ≤ 1 := by
    simp only [Bool.toNat_le, and_self]
  rw [UInt8.toNat_ofNat', Nat.shiftRight_eq_div_pow]
  match i with
  | ⟨0, _⟩ | ⟨1, _⟩ | ⟨2, _⟩ | ⟨3, _⟩ | ⟨4, _⟩ | ⟨5, _⟩ | ⟨6, _⟩ | ⟨7, _⟩ =>
    simp only [number, List.foldl, Fin.getElem_fin, List.getElem_cons_succ, List.getElem_cons_zero]
    omega

/-- The byte that eight bits spell has these bits. -/
theorem bit_of_eight {b : Bool} {i : Nat} (hlength : bits.length = 8) (hb : bits[i]? = some b) :
    ((UInt8.ofNat (number bits)).toNat >>> (7 - i)) % 2 = b.toNat := by
  obtain ⟨hi, rfl⟩ := List.getElem?_eq_some_iff.mp hb
  match bits, hlength with
  | [b₀, b₁, b₂, b₃, b₄, b₅, b₆, b₇], _ => exact bit_of_number b₀ b₁ b₂ b₃ b₄ b₅ b₆ b₇ ⟨i, hi⟩

theorem bit?_of_byte {b : UInt8} {i : Nat} (hs : s.highFirst = true) (hb : s.data[place]? = some b)
    (hi : i < 8) : s.bit? (8 * place + i) = .ok ((b.toNat >>> (7 - i)) % 2) := by
  have hbyte : (8 * place + i) / 8 = place := by omega
  have hbit : (8 * place + i) % 8 = i := by omega
  simp only [BitSource.bit?, hbyte, hb, hs, hbit, if_true]

/-- Bits that were written as bytes stand where the bytes stand. -/
theorem hasBits_of_bytesOf (hs : s.highFirst = true) (h : HasBytes s.data place (bytesOf bits)) :
    HasBits s (8 * place) bits := by
  induction bits using bytesOf.induct generalizing place with
  | case1 bits hempty =>
    rw [List.isEmpty_iff.mp hempty]
    trivial
  | case2 bits hne ih =>
    rw [bytesOf, if_neg hne] at h
    have hpos : 0 < bits.length := List.length_pos_iff.mpr (mt List.isEmpty_iff.mpr hne)
    have hbyte := getElem?_of_hasBytes h
    rw [← List.singleton_append, hasBytes_append] at h
    have hrest := ih h.2
    rw [← List.take_append_drop 8 bits, hasBits_append]
    constructor
    · refine hasBits_iff.mpr fun i b hb => ?_
      obtain ⟨hi, -⟩ := List.getElem?_eq_some_iff.mp hb
      have hlength : ((bits ++ List.replicate 7 false).take 8).length = 8 := by
        rw [List.length_take, List.length_append, List.length_replicate]
        omega
      have hpadded : ((bits ++ List.replicate 7 false).take 8)[i]? = some b := by
        rw [List.length_take] at hi
        rw [List.getElem?_take_of_lt (by omega)] at hb ⊢
        rw [List.getElem?_append_left (by omega), hb]
      rw [bit?_of_byte hs hbyte (by rw [List.length_take] at hi; omega)]
      exact congrArg Except.ok (bit_of_eight hlength hpadded)
    · by_cases hlong : 8 ≤ bits.length
      · rwa [List.length_take, Nat.min_eq_left hlong]
      · rw [List.drop_eq_nil_of_le (by omega)]
        trivial

/-! ## Marks and rows -/

theorem readMark_of_hasBits (hs : s.highFirst = true) {mark : List Nat} (hmark : ∀ b ∈ mark, b < 256)
    (h : HasBits s place (markBits mark)) : readMark s mark place = .ok (place + 8 * mark.length) := by
  induction mark generalizing place with
  | nil => rfl
  | cons b rest ih =>
    rw [List.forall_mem_cons] at hmark
    have hbits : markBits (b :: rest) = bitsOf 8 b ++ markBits rest := rfl
    rw [hbits, hasBits_append, length_bitsOf] at h
    have hplace : place + 8 * (b :: rest).length = place + 8 + 8 * rest.length := by
      rw [List.length_cons]
      omega
    rw [hplace, ← ih hmark.2 h.2, readMark, bits?_of_lt hs hmark.1 h.1]
    exact if_pos (beq_self_eq_true b)

theorem columns_of_row : ∀ k : Fin 16,
    (List.range 16).filter (fun i => (Nat.pow 2 (15 - k.val)).testBit (15 - i)) = [k.val] := by
  decide

/-- A row in which one bit is set. -/
theorem readRow_of_hasBits (hs : s.highFirst = true) {k : Nat} (hk : k < 16)
    (h : HasBits s place (bitsOf 16 (Nat.pow 2 (15 - k)))) : readRow s place = .ok [k] := by
  have hlt : Nat.pow 2 (15 - k) < 2 ^ 16 := Nat.pow_lt_pow_right (by omega) (by omega)
  rw [readRow, bits?_of_lt hs hlt h]
  exact congrArg Except.ok (columns_of_row ⟨k, hk⟩)

/-- The byte that a block has. -/
theorem readBytes_of_hasBits (hs : s.highFirst = true) {b : UInt8}
    (hrow : HasBits s place (bitsOf 16 (Nat.pow 2 (15 - b.toNat / 16))))
    (hcolumn : HasBits s (place + 16) (bitsOf 16 (Nat.pow 2 (15 - b.toNat % 16)))) :
    readBytes s place = .ok ([b], place + 32) := by
  have hb := b.toNat_lt
  have hbyte : UInt8.ofNat (16 * (b.toNat / 16) + b.toNat % 16) = b := by
    rw [Nat.div_add_mod, UInt8.ofNat_toNat]
  have hrows := readRow_of_hasBits hs (by omega) hrow
  have hcolumns := readRow_of_hasBits hs (by omega) hcolumn
  rw [readBytes, hrows]
  simp only [bind, Except.bind, List.foldlM_cons, List.foldlM_nil, hcolumns, pure, Except.pure,
    List.map_singleton, hbyte, List.nil_append]

/-! ## Codes -/

theorem readTurns_of_hasBits (h : HasBits s place (bitsOf 1 0)) :
    readTurns s 1 (List.range 2) place = .ok ([0], place + 1) := by
  have hbit : s.bit? place = .ok 0 := h.1
  have hunary : readUnary s 2 place = .ok (0, place + 1) := by
    rw [readUnary, hbit]
    rfl
  show (readUnary s 2 place >>= _) = _
  rw [hunary]
  rfl

/-- A word of two bits, like the one before it. -/
theorem readLength_of_bit (hsize : 0 < s.data.size) (h : s.bit? place = .ok 0) :
    readLength s (8 * s.data.size) 2 place = .ok (2, place + 1) := by
  obtain ⟨fuel, hfuel⟩ := Nat.exists_eq_add_of_lt (Nat.mul_pos (by omega : 0 < 8) hsize)
  rw [hfuel, readLength, h]
  rfl

theorem readTable_of_hasBits (hsize : 0 < s.data.size) {n : Nat}
    (h : HasBits s place (bitsOf n 0)) :
    readTable s n 2 place = .ok (List.replicate n 2, place + n) := by
  induction n generalizing place with
  | zero => rfl
  | succ n ih =>
    rw [bitsOf_succ, Nat.zero_testBit] at h
    have hplace : place + (n + 1) = place + 1 + n := by omega
    rw [readTable, readLength_of_bit hsize h.1]
    simp only [bind, Except.bind, ih h.2, pure, Except.pure, hplace, List.replicate_succ]

/-- The code of a block: three words of two bits. -/
def storedCode : PrefixCode := .ofLengths [2, 2, 2]

theorem readCodes_of_hasBits (hs : s.highFirst = true) (hsize : 0 < s.data.size)
    {codes : Nat}
    (h : HasBits s place (List.replicate codes (bitsOf 5 2 ++ bitsOf 3 0)).flatten) :
    readCodes s 3 codes place = .ok (List.replicate codes storedCode, place + 8 * codes) := by
  induction codes generalizing place with
  | zero => rfl
  | succ codes ih =>
    rw [List.replicate_succ, List.flatten_cons, hasBits_append, hasBits_append] at h
    simp only [List.length_append, length_bitsOf, Nat.reduceAdd] at h
    obtain ⟨⟨hfirst, hwords⟩, hrest⟩ := h
    have hplace : place + 8 * (codes + 1) = place + 8 + 8 * codes := by omega
    rw [readCodes, bits?_of_lt hs (by decide) hfirst]
    simp only [bind, Except.bind, readTable_of_hasBits hsize hwords, Nat.add_assoc, Nat.reduceAdd,
      ih hrest, pure, Except.pure, hplace]
    rfl

/-! ## Symbols -/

theorem storedCode_eq : storedCode = ⟨[0, 3], #[0, 1, 2]⟩ := by
  rfl

/-- The words of the code are the numbers of their symbols. -/
theorem read?_of_hasBits {first second : Bool} (hword : (first && second) = false)
    (h : HasBits s place [first, second]) :
    storedCode.read? s place = .ok (2 * first.toNat + second.toNat, place + 2) := by
  obtain ⟨hfirst, hsecond, -⟩ := h
  have hlong : PrefixCode.readWord s #[0, 1, 2] [3] first.toNat 0 0 (place + 1) =
      .ok (2 * first.toNat + second.toNat, place + 2) := by
    rw [PrefixCode.readWord, hsecond]
    revert hword
    cases first <;> cases second <;> intro hword <;> first | rfl | cases hword
  rw [storedCode_eq, PrefixCode.read?, PrefixCode.readWord, hfirst, ← hlong]
  cases first <;> rfl

section Group

variable {code : PrefixCode} {stop symbol left next : Nat} {symbols : Array Nat}

theorem readGroup_symbol (h : code.read? s place = .ok (symbol, next)) (hne : symbol ≠ stop) :
    readGroup s stop code (left + 1) place symbols =
      readGroup s stop code left next (symbols.push symbol) := by
  rw [readGroup, h]
  exact if_neg (by simpa using hne)

theorem readGroup_stop (h : code.read? s place = .ok (stop, next)) :
    readGroup s stop code (left + 1) place symbols = .ok (true, next, symbols) := by
  rw [readGroup, h]
  exact if_pos (beq_self_eq_true stop)

end Group

/-- One symbol comes before the one that ends the block. -/
theorem readGroups_of_hasBits (h : HasBits s place (bitsOf 2 0 ++ bitsOf 2 2)) :
    readGroups s 2 [storedCode] place #[] = .ok (#[0], place + 4) := by
  obtain ⟨hsymbol, hstop⟩ := hasBits_append.mp h
  have hfirst : storedCode.read? s place = .ok (0, place + 2) := read?_of_hasBits rfl hsymbol
  have hsecond : storedCode.read? s (place + 2) = .ok (2, place + 4) := read?_of_hasBits rfl hstop
  have hgroup : readGroup s 2 storedCode groupSize place #[] = .ok (true, place + 4, #[0]) := by
    have hroom : groupSize = 48 + 1 + 1 := rfl
    rw [hroom, readGroup_symbol hfirst (by decide), readGroup_stop hsecond]
    rfl
  rw [readGroups, hgroup]
  rfl

/-! ## One byte -/

theorem lastBytes?_single {bound : Nat} (hbound : 0 < bound) (b : UInt8) :
    lastBytes? bound [b] #[0] = some ⟨#[b]⟩ := by
  have htaken : Told.take? bound ⟨[b], .empty, 0, 1⟩ 0 = some ⟨[b], .empty, 1, 2⟩ := by
    simp [Told.take?]
  have hsettled : Told.settle? bound ⟨[b], .empty, 1, 2⟩ = some ⟨[b], ⟨#[b]⟩, 0, 1⟩ := by
    have hroom : ¬ bound < ByteArray.empty.size + 1 := by
      rw [ByteArray.size_empty]
      omega
    exact if_neg hroom
  have hsymbols : (#[0] : Array Nat).foldlM (Told.take? bound) ⟨[b], .empty, 0, 1⟩ =
      some ⟨[b], .empty, 1, 2⟩ := by
    simp [htaken]
  rw [lastBytes?, hsymbols, Option.bind_eq_bind, Option.bind_some, hsettled]
  rfl

/-- Of many empty rows one gets an item. -/
theorem flatten_modify_replicate {α : Type} (a : α) {n k : Nat} (hk : k < n) :
    (((List.replicate n #[]).modify k (·.push a)).map Array.toList).flatten = [a] := by
  induction n generalizing k with
  | zero => omega
  | succ n ih =>
    rw [List.replicate_succ]
    cases k with
    | zero => simp
    | succ k =>
      rw [List.modify_succ_cons, List.map_cons, List.flatten_cons, ih (Nat.lt_of_succ_lt_succ hk)]
      rfl

theorem sortedPlaces_single (b : UInt8) : sortedPlaces ⟨#[b]⟩ = #[0] := by
  have hbytes : (ByteArray.mk #[b]).toList = [b] := toList_eq _
  simp only [sortedPlaces, hbytes, List.zipIdx_cons, List.zipIdx_nil, List.foldl_cons, List.foldl_nil]
  refine Array.toList_inj.mp ?_
  rw [Array.toList_flatten, Array.toList_modify, Array.toList_replicate]
  exact flatten_modify_replicate 0 b.toNat_lt

theorem unsorted?_single (b : UInt8) : unsorted? 0 ⟨#[b]⟩ = some ⟨#[b]⟩ := by
  rw [unsorted?, sortedPlaces_single]
  rfl

theorem lengthened?_single (b : UInt8) : lengthened? [b] 0 0 .empty = some ⟨#[b]⟩ := rfl

theorem length_byteBlock (b : UInt8) : (byteBlock b).length = 176 := by
  simp only [byteBlock, List.length_append, length_bitsOf, length_markBits, blockMark, List.length_cons,
    List.length_nil]

/-- A block gives its byte. -/
theorem readBlock_of_hasBits (hs : s.highFirst = true) (hsize : 0 < s.data.size) {bound : Nat}
    (hbound : 0 < bound) {b : UInt8} (h : HasBits s place (byteBlock b)) :
    readBlock s bound (place + 48) = .ok (⟨#[b]⟩, highChecksum ⟨#[b]⟩, place + 176) := by
  simp only [byteBlock, hasBits_append, List.length_append, length_bitsOf, length_markBits, blockMark,
    List.length_cons, List.length_nil, Nat.reduceAdd, Nat.reduceMul, Nat.add_assoc] at h
  obtain ⟨⟨⟨⟨⟨⟨⟨⟨⟨⟨⟨-, hsum⟩, horigin⟩, hrow⟩, hcolumn⟩, hcodes⟩, hgroups⟩, hturn⟩, hfirst⟩, hsecond⟩,
    hsymbol⟩, hstop⟩ := h
  have hcode : HasBits s (place + 156) (List.replicate 2 (bitsOf 5 2 ++ bitsOf 3 0)).flatten := by
    simp only [List.replicate_succ, List.replicate_zero, List.flatten_cons, List.flatten_nil,
      List.append_nil, hasBits_append, List.length_append, length_bitsOf, Nat.add_assoc, Nat.reduceAdd]
    exact ⟨hfirst, hsecond⟩
  have hsymbols : HasBits s (place + 172) (bitsOf 2 0 ++ bitsOf 2 2) := by
    rw [hasBits_append, length_bitsOf]
    exact ⟨hsymbol, hstop⟩
  have hchecksum := bits?_of_lt hs (highChecksum ⟨#[b]⟩).toNat_lt hsum
  have hzero := bits?_of_lt hs (by decide) horigin
  have hbytes := readBytes_of_hasBits hs hrow hcolumn
  have htwo := bits?_of_lt hs (by decide) hcodes
  have hone := bits?_of_lt hs (by decide) hgroups
  have hturns := readTurns_of_hasBits hturn
  have hcodesRead := readCodes_of_hasBits hs hsize hcode
  have hsymbolsRead := readGroups_of_hasBits hsymbols
  have hlow : ¬ bound + 10 < 0 := Nat.not_lt_zero _
  simp only [Nat.add_assoc, Nat.reduceAdd, Nat.reduceMul] at hbytes hturns hcodesRead hsymbolsRead
  have husable : ([b].isEmpty || decide (2 < 2) || decide (6 < 2) || 1 == 0) = false := rfl
  have hcodeOfTurn : [0].filterMap (fun turn => (List.replicate 2 storedCode)[turn]?) = [storedCode] :=
    rfl
  have hlist : (ByteArray.mk #[b]).toList = [b] := toList_eq _
  simp only [readBlock, bind, Except.bind, Nat.add_assoc, Nat.reduceAdd, hchecksum, hzero, hlow, hbytes,
    htwo, hone, hturns, husable, Bool.false_eq_true, if_false, List.length_cons, List.length_nil,
    hcodesRead, hcodeOfTurn, hsymbolsRead, lastBytes?_single hbound, unsorted?_single, hlist,
    lengthened?_single, Option.bind_some, UInt32.ofNat_toNat, beq_self_eq_true, if_true]
  rfl

/-! ## Chains of blocks -/

/-- The checksum of the blocks of some bytes. -/
def chained (total : UInt32) (bytes : List UInt8) : UInt32 :=
  bytes.foldl (fun total b => chain total (highChecksum ⟨#[b]⟩)) total

theorem firstByte_of_hasBits (hs : s.highFirst = true) {b : Nat} {rest : List Nat} (hb : b < 256)
    (h : HasBits s place (markBits (b :: rest))) : s.bits? place 8 = .ok b := by
  have hbits : markBits (b :: rest) = bitsOf 8 b ++ markBits rest := rfl
  rw [hbits, hasBits_append] at h
  exact bits?_of_lt hs hb h.1

theorem exists_byteBlock_eq (b : UInt8) : ∃ body, byteBlock b = markBits blockMark ++ body := by
  unfold byteBlock
  simp only [List.append_assoc]
  exact ⟨_, rfl⟩

/-- The blocks of some bytes are read up to the end mark. -/
theorem readBlocks_of_hasBits (hs : s.highFirst = true) (hsize : 0 < s.data.size) {bound : Nat}
    (hbound : 0 < bound) (bytes : List UInt8) {fuel : Nat} (hfuel : bytes.length < fuel)
    (total : UInt32) (out : ByteArray)
    (h : HasBits s place (bytes.flatMap byteBlock ++
      (markBits endMark ++ bitsOf 32 (chained total bytes).toNat))) :
    readBlocks s bound fuel place total out = .ok (out ++ bytes.toByteArray) := by
  obtain ⟨left, rfl⟩ : ∃ left, fuel = left + 1 := Nat.exists_eq_succ_of_ne_zero (by omega)
  induction bytes generalizing place left total out with
  | nil =>
    rw [List.flatMap_nil, List.nil_append, hasBits_append, length_markBits] at h
    have hkind := firstByte_of_hasBits hs (by decide) h.1
    have hmark := readMark_of_hasBits hs (by decide) h.1
    have htotal := bits?_of_lt hs (chained total []).toNat_lt h.2
    have hsame : chained total [] = total := rfl
    rw [hsame] at htotal
    simp only [readBlocks, bind, Except.bind, hkind, hmark, htotal, beq_self_eq_true, if_true,
      List.toByteArray_nil, ByteArray.append_empty]
    rfl
  | cons b rest ih =>
    rw [List.flatMap_cons, List.append_assoc, hasBits_append, length_byteBlock] at h
    obtain ⟨body, hbody⟩ := exists_byteBlock_eq b
    have hmarked := h.1
    rw [hbody, hasBits_append] at hmarked
    have hkind := firstByte_of_hasBits hs (by decide) hmarked.1
    have hmark : readMark s blockMark place = .ok (place + 48) :=
      readMark_of_hasBits hs (by decide) hmarked.1
    have hblock := readBlock_of_hasBits hs hsize hbound h.1
    have hsame : chained total (b :: rest) = chained (chain total (highChecksum ⟨#[b]⟩)) rest := rfl
    rw [hsame] at h
    rw [List.length_cons] at hfuel
    obtain ⟨fewer, rfl⟩ : ∃ fewer, left = fewer + 1 := Nat.exists_eq_succ_of_ne_zero (by omega)
    have hrest := ih (chain total (highChecksum ⟨#[b]⟩)) (out ++ ⟨#[b]⟩) h.2 fewer (by omega)
    have hbytes : out ++ (b :: rest).toByteArray = out ++ ⟨#[b]⟩ ++ rest.toByteArray := by
      rw [ByteArray.append_assoc, ← List.singleton_append, List.toByteArray_append]
      rfl
    have hother : ((0x31 : Nat) == 0x17) = false := rfl
    rw [readBlocks]
    simp only [bind, Except.bind, hkind, hother, Bool.false_eq_true, if_false, hmark, hblock, hbytes]
    exact hrest

theorem length_le_bytesOf (bits : List Bool) : bits.length ≤ 8 * (bytesOf bits).length := by
  induction bits using bytesOf.induct with
  | case1 bits hempty =>
    rw [List.isEmpty_iff.mp hempty]
    exact Nat.zero_le _
  | case2 bits hne ih =>
    rw [bytesOf, if_neg hne]
    rw [List.length_drop] at ih
    rw [List.length_cons]
    omega

theorem readHead_of_hasBits (hs : s.highFirst = true)
    (h : HasBits s 0 (markBits (headMark ++ [0x31]))) : readHead s = .ok 100000 := by
  have hsplit : markBits (headMark ++ [0x31]) = markBits headMark ++ bitsOf 8 0x31 := by
    simp [markBits]
  rw [hsplit, hasBits_append, length_markBits] at h
  have hmark := readMark_of_hasBits hs (by decide) h.1
  have hdigit := bits?_of_lt hs (by decide) h.2
  simp only [readHead, bind, Except.bind, hmark, Except.mapError, hdigit]
  rfl

/-- The bits of sorted data before they are put into bytes. -/
def storedBits (bytes : List UInt8) : List Bool :=
  markBits (headMark ++ [0x31]) ++
    (bytes.flatMap byteBlock ++ (markBits endMark ++ bitsOf 32 (chained 0 bytes).toNat))

theorem storedBytes_eq (bytes : List UInt8) : storedBytes bytes = bytesOf (storedBits bytes) := by
  unfold storedBytes storedBits
  simp only [List.append_assoc]
  rfl

theorem length_le_storedBytes (bytes : List UInt8) : bytes.length < (storedBytes bytes).length := by
  have hblocks : (bytes.flatMap byteBlock).length = 176 * bytes.length := by
    induction bytes with
    | nil => rfl
    | cons b rest ih =>
      rw [List.flatMap_cons, List.length_append, ih, length_byteBlock, List.length_cons]
      omega
  have htotal : 176 * bytes.length + 32 ≤ (storedBits bytes).length := by
    simp only [storedBits, List.length_append, hblocks, length_bitsOf]
    omega
  have hbits := length_le_bytesOf (storedBits bytes)
  rw [storedBytes_eq]
  omega

/-- What is written of some bytes is read back. -/
theorem contents?_storedBytes (bytes : ByteArray) :
    contents? ⟨(storedBytes bytes.toList).toArray⟩ = .ok bytes := by
  let s : BitSource := ⟨⟨(storedBytes bytes.toList).toArray⟩, true⟩
  have hs : s.highFirst = true := rfl
  have hlength := length_le_storedBytes bytes.toList
  have hsize : 0 < s.data.size := Nat.lt_of_le_of_lt (Nat.zero_le _) hlength
  have hbits : HasBits s 0 (storedBits bytes.toList) := by
    have hbytes : HasBytes s.data 0 (bytesOf (storedBits bytes.toList)) := by
      rw [← storedBytes_eq]
      exact List.prefix_rfl
    exact hasBits_of_bytesOf hs hbytes
  rw [storedBits, hasBits_append] at hbits
  obtain ⟨hhead, hblocks⟩ := hbits
  have hbound := readHead_of_hasBits hs hhead
  have hread := readBlocks_of_hasBits hs hsize (by decide : 0 < 100000) bytes.toList
    (Nat.lt_succ_of_lt hlength) 0 .empty hblocks
  rw [toByteArray_toList, ByteArray.empty_append] at hread
  have hplace : 0 + (markBits (headMark ++ [0x31])).length = 32 := by
    rw [length_markBits]
    rfl
  rw [hplace] at hread
  rw [contents?]
  show (readHead s >>= fun bound => readBlocks s bound (s.data.size + 1) 32 0 .empty) = _
  rw [hbound]
  exact hread

end Paperwork.Archive.Sorted
