import Paperwork.Json.Printer
import Paperwork.Json.Reader

/-!
# Quoted texts are read back

Each character of a quoted text is spelled by bytes from which the reader collects the encoding of
that character (`readString_escapeChar`). So reading up to the closing quote gives the text itself
(`readString_quoted`), and nothing inside of a text is taken for its end.
-/

namespace Paperwork.Json

/-- The bytes that spell characters. -/
def spelling (cs : List Char) : List UInt8 := cs.flatMap String.utf8EncodeChar

@[simp] theorem spelling_nil : spelling [] = [] := rfl

@[simp] theorem spelling_append (cs ds : List Char) :
    spelling (cs ++ ds) = spelling cs ++ spelling ds :=
  List.flatMap_append

theorem spelling_cons (c : Char) (cs : List Char) :
    spelling (c :: cs) = String.utf8EncodeChar c ++ spelling cs :=
  List.flatMap_cons

theorem toList_loop_eq (bytes : ByteArray) (i : Nat) (done : List UInt8) :
    ByteArray.toList.loop bytes i done = done.reverse ++ bytes.data.toList.drop i := by
  fun_induction ByteArray.toList.loop bytes i done with
  | case1 i done hi ih =>
    have hget : bytes.get! i = bytes.data.toList.get ⟨i, hi⟩ := getElem!_pos bytes.data i hi
    rw [ih, List.drop_eq_getElem_cons hi, List.reverse_cons, List.append_assoc, hget]
    rfl
  | case2 i done hi =>
    have hdone : bytes.data.toList.length ≤ i := Nat.le_of_not_lt hi
    rw [List.drop_eq_nil_of_le hdone, List.append_nil]

/-- The bytes of a text are those that spell its characters. -/
theorem toList_toUTF8 (s : String) : s.toUTF8.toList = spelling s.toList := by
  rw [ByteArray.toList, toList_loop_eq, List.reverse_nil, List.nil_append, List.drop_zero,
    String.toUTF8_eq_toByteArray, ← String.utf8Encode_toList, List.utf8Encode,
    List.toList_data_toByteArray, spelling]

/-! ## What is collected -/

namespace Partial

/-- What was collected before more bytes, together with these. -/
def append (p : Partial) (bytes : List UInt8) : Partial :=
  { p with bytes := p.bytes ++ bytes.toByteArray }

theorem append_nil (p : Partial) : p.append [] = p := by
  rw [append, List.toByteArray_nil, ByteArray.append_empty]

theorem push_eq_append (p : Partial) (b : UInt8) : p.push b = p.append [b] := by
  rw [push, append, ByteArray.append_toByteArray_singleton]

theorem append_append (p : Partial) (bytes more : List UInt8) :
    (p.append bytes).append more = p.append (bytes ++ more) := by
  rw [append, append, append, ByteArray.append_assoc, List.toByteArray_append]

theorem pushCode_toNat (p : Partial) (c : Char) :
    p.pushCode c.toNat = p.append (String.utf8EncodeChar c) := by
  rw [pushCode, append, Char.ofNat_toNat, String.toUTF8_eq_toByteArray,
    String.toByteArray_singleton, List.utf8Encode_singleton]

/-- Bytes that spell characters are the text of these. -/
theorem leaf_spelling (s : String) :
    ((⟨.empty, false⟩ : Partial).append (spelling s.toList)).leaf = .text s := by
  have hbytes : ByteArray.empty ++ (spelling s.toList).toByteArray = s.toByteArray := by
    rw [ByteArray.empty_append, ← String.utf8Encode_toList]
    rfl
  have hread : String.fromUTF8? s.toByteArray = some s := dif_pos s.isValidUTF8
  rw [append, hbytes, leaf, if_neg Bool.false_ne_true, hread]

end Partial

/-! ## Characters -/

/-- A byte that the reader takes as it stands. -/
def IsPlainByte (b : UInt8) : Prop := 32 ≤ b ∧ b ≠ 34 ∧ b ≠ 92

theorem readString_plainByte {b : UInt8} (hb : IsPlainByte b) (rest : List UInt8) (p : Partial) :
    readString (b :: rest) p = readString rest (p.append [b]) := by
  obtain ⟨hlow, hquote, hescape⟩ := hb
  have hnot : ¬ b < 32 := UInt8.not_lt.mpr hlow
  rw [← Partial.push_eq_append, readString.eq_def]
  split
  case h_4 heq =>
    cases heq
    exact if_neg hnot
  all_goals simp_all

theorem readString_plain {bytes : List UInt8} (h : ∀ b ∈ bytes, IsPlainByte b)
    (rest : List UInt8) (p : Partial) :
    readString (bytes ++ rest) p = readString rest (p.append bytes) := by
  induction bytes generalizing p with
  | nil => rw [List.nil_append, Partial.append_nil]
  | cons b bytes ih =>
    obtain ⟨hb, hbytes⟩ := List.forall_mem_cons.mp h
    rw [List.cons_append, readString_plainByte hb, ih hbytes, Partial.append_append,
      List.singleton_append]

/-- A character from the blank on is spelled by plain bytes, unless it is quote or backslash. -/
theorem isPlainByte_of_mem {c : Char} (hlow : ' '.val ≤ c.val) (hquote : c ≠ '"')
    (hescape : c ≠ '\\') {b : UInt8} (hb : b ∈ String.utf8EncodeChar c) : IsPlainByte b := by
  have hnat : 32 ≤ c.val.toNat := UInt32.le_iff_toNat_le.mp hlow
  have hne34 : c.val.toNat ≠ 34 := fun h => hquote (Char.ext (UInt32.toNat_inj.mp h))
  have hne92 : c.val.toNat ≠ 92 := fun h => hescape (Char.ext (UInt32.toNat_inj.mp h))
  simp only [IsPlainByte, UInt8.le_iff_toNat_le, ne_eq, ← UInt8.toNat_inj, UInt8.toNat_ofNat]
  rw [String.utf8EncodeChar] at hb
  split at hb
  · obtain rfl := List.mem_singleton.mp hb
    rw [UInt8.toNat_ofNat']
    omega
  · -- every byte of a longer spelling is beyond the ASCII characters
    have hbeyond : 128 ≤ b.toNat := by
      revert hb
      split
      · simp only [List.mem_cons, List.not_mem_nil, or_false]
        rintro (rfl | rfl) <;> rw [UInt8.toNat_ofNat'] <;> omega
      · split
        · simp only [List.mem_cons, List.not_mem_nil, or_false]
          rintro (rfl | rfl | rfl) <;> rw [UInt8.toNat_ofNat'] <;> omega
        · simp only [List.mem_cons, List.not_mem_nil, or_false]
          rintro (rfl | rfl | rfl | rfl) <;> rw [UInt8.toNat_ofNat'] <;> omega
    omega

/-- An escape of one letter adds the byte that it stands for. -/
theorem readString_letter {letter b : UInt8} (hletter : letter ≠ 117)
    (h : escapeByte? letter = some b) (rest : List UInt8) (p : Partial) :
    readString (92 :: letter :: rest) p = readString rest (p.append [b]) := by
  rw [← Partial.push_eq_append, readString.eq_def]
  split
  case h_3 heq =>
    cases heq
    rw [h]
  case h_4 hnone heq =>
    cases heq
    exact (hnone letter rest rfl rfl).elim
  all_goals simp_all

/-- An escape by number adds the encoding of its character, if it is no surrogate. -/
theorem readString_number {a b c d : UInt8} {char : Char} (h : hexFour? a b c d = some char.toNat)
    (hlow : char.toNat < 0xD800) (rest : List UInt8) (p : Partial) :
    readString (92 :: 117 :: a :: b :: c :: d :: rest) p =
      readString rest (p.append (String.utf8EncodeChar char)) := by
  rw [readString.eq_def]
  simp [h, hlow, Partial.pushCode_toNat]

theorem hexFour?_control : ∀ n < 32, hexFour? 48 48 (UInt8.ofNat (hexDigit (n / 16)).toNat)
    (UInt8.ofNat (hexDigit n).toNat) = some n := by
  decide

theorem utf8EncodeChar_hexDigit (n : Nat) :
    String.utf8EncodeChar (hexDigit n) = [UInt8.ofNat (hexDigit n).toNat] := by
  have hall : ∀ d < 16, (Nat.digitChar d).val.toNat ≤ 127 := by decide
  rw [String.utf8EncodeChar, hexDigit]
  exact if_pos (hall (n % 16) (Nat.mod_lt n (by decide)))

/-- The reader collects the encoding of a character from the bytes that it is written with. -/
theorem readString_escapeChar (c : Char) (rest : List UInt8) (p : Partial) :
    readString (spelling (escapeChar c) ++ rest) p =
      readString rest (p.append (String.utf8EncodeChar c)) := by
  unfold escapeChar
  split
  · rename_i hquote
    subst hquote
    exact readString_letter (by decide) rfl rest p
  split
  · rename_i hescape
    subst hescape
    exact readString_letter (by decide) rfl rest p
  rename_i hquote hescape
  split
  · rename_i hlow
    rw [spelling_cons, spelling_nil, List.append_nil]
    exact readString_plain (fun b => isPlainByte_of_mem hlow hquote hescape) rest p
  rename_i hlow
  split
  · rename_i heq
    subst heq
    exact readString_letter (by decide) rfl rest p
  split
  · rename_i heq
    subst heq
    exact readString_letter (by decide) rfl rest p
  split
  · rename_i heq
    subst heq
    exact readString_letter (by decide) rfl rest p
  split
  · rename_i heq
    subst heq
    exact readString_letter (by decide) rfl rest p
  split
  · rename_i heq
    subst heq
    exact readString_letter (by decide) rfl rest p
  · have hcontrol : c.toNat < 32 := UInt32.lt_iff_toNat_lt.mp (UInt32.not_le.mp hlow)
    rw [spelling_cons, spelling_cons, spelling_cons, spelling_cons, spelling_cons, spelling_cons,
      utf8EncodeChar_hexDigit, utf8EncodeChar_hexDigit]
    exact readString_number (hexFour?_control c.toNat hcontrol) (by omega) rest p

/-! ## Texts -/

theorem readString_escaped (cs : List Char) (rest : List UInt8) (p : Partial) :
    readString (spelling (cs.flatMap escapeChar) ++ rest) p =
      readString rest (p.append (spelling cs)) := by
  induction cs generalizing p with
  | nil => rw [List.flatMap_nil, spelling_nil, List.nil_append, Partial.append_nil]
  | cons c cs ih =>
    rw [List.flatMap_cons, spelling_append, List.append_assoc, readString_escapeChar, ih,
      Partial.append_append, ← spelling_cons]

/-- A quoted text is read up to its closing quote, as the text that it quotes. -/
theorem readString_quoted (s : String) (rest : List UInt8) :
    readString (spelling (s.toList.flatMap escapeChar) ++ 34 :: rest) ⟨.empty, false⟩ =
      .ok (.text s, rest) := by
  rw [readString_escaped, readString.eq_def]
  simp only [Partial.leaf_spelling]

end Paperwork.Json
