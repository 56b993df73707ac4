import Paperwork.Proofs.Archive.Sorted
import Paperwork.Proofs.Archive.Stored
import Paperwork.Proofs.Sequence

/-!
# Archives are read back

What is written of a member is found again at the place where it was written: its entry in the
central directory (`listingAt?_of_hasBytes`), its local header and its data (`open?_of_isListed`).
So an archive within the limits of its format has the members that it was written with
(`members?_write`).
-/

namespace Paperwork.Archive

variable {file : ByteArray} {place header : Nat} {m : Member}

/-! ## Names -/

/-- A character whose encoding has no byte from 128 on is that byte. -/
theorem utf8EncodeChar_of_ascii {c : Char} (h : ∀ b ∈ String.utf8EncodeChar c, b < 128) :
    String.utf8EncodeChar c = [UInt8.ofNat c.toNat] ∧ c.toNat < 128 := by
  have hlow : c.toNat < 128 := by
    by_contra hhigh
    -- the first byte of a longer encoding is beyond the plain characters
    have hfirst : ∃ b ∈ String.utf8EncodeChar c, 128 ≤ b.toNat := by
      have hcode : ¬ c.val.toNat ≤ 127 := fun hle => hhigh (Nat.lt_succ_of_le hle)
      rw [String.utf8EncodeChar]
      simp only [hcode, if_false]
      split_ifs
      all_goals
        refine ⟨_, List.mem_cons_self, ?_⟩
        rw [UInt8.toNat_ofNat']
        omega
    obtain ⟨b, hb, hbyte⟩ := hfirst
    have hlt := UInt8.lt_iff_toNat_lt.mp (h b hb)
    exact absurd hlt (Nat.not_lt.mpr hbyte)
  refine ⟨?_, hlow⟩
  rw [String.utf8EncodeChar]
  simp only [show c.val.toNat ≤ 127 from Nat.le_of_lt_succ hlow, if_true]
  rfl

theorem map_spelling_of_ascii {cs : List Char} (h : ∀ b ∈ Json.spelling cs, b < 128) :
    (Json.spelling cs).map (fun b => if b < 128 then Char.ofNat b.toNat
      else (Text.upperHalf437[b.toNat - 128]?).getD '\ufffd') = cs := by
  induction cs with
  | nil => rfl
  | cons c cs ih =>
    rw [Json.spelling_cons, List.forall_mem_append] at h
    obtain ⟨hencode, hlow⟩ := utf8EncodeChar_of_ascii h.1
    have hbyte : UInt8.ofNat c.toNat < 128 := h.1 _ (by rw [hencode]; exact List.mem_singleton_self _)
    rw [Json.spelling_cons, List.map_append, ih h.2, hencode, List.map_singleton, if_pos hbyte,
      UInt8.toNat_ofNat', Nat.mod_eq_of_lt (by omega), Char.ofNat_toNat, List.singleton_append]

/-- Plain characters are read in the old way of writing names. -/
theorem ofBytes437_toUTF8 {s : String} (h : ∀ b ∈ s.toUTF8.toList, b < 128) :
    Text.ofBytes437 s.toUTF8 = s := by
  rw [Json.toList_toUTF8] at h
  rw [Text.ofBytes437, Json.toList_toUTF8, map_spelling_of_ascii h, String.ofList_toList]

theorem ofBytes_toUTF8 (s : String) : Text.ofBytes s.toUTF8 = s := by
  have hread : String.fromUTF8? s.toUTF8 = some s := dif_pos s.isValidUTF8
  rw [Text.ofBytes, hread]

/-! ## Entries of the directory -/

theorem hasBytes_fieldBytes_cons {width n : Nat} {fields : List (Nat × Nat)} :
    HasBytes file place (fieldBytes ((width, n) :: fields)) ↔
      HasBytes file place (numberBytes width n) ∧
        HasBytes file (place + width) (fieldBytes fields) := by
  have hbytes : fieldBytes ((width, n) :: fields) = numberBytes width n ++ fieldBytes fields := rfl
  rw [hbytes, hasBytes_append, length_numberBytes]

/-- A number that the width has room for is read as it is. -/
theorem numberAt?_of_lt {width n : Nat} (h : HasBytes file place (numberBytes width n))
    (hn : n < 256 ^ width) : numberAt? file place width = some n := by
  rw [numberAt?_of_hasBytes h, Nat.mod_eq_of_lt hn]

/-- What the format has room for in an entry. -/
structure Member.Fits (m : Member) : Prop where
  name : m.nameBytes.length < 65536
  packed : m.packed.size < largeMark

/-- An entry of the directory tells of a member and of the place of its local header. -/
structure Lists (m : Member) (header : Nat) (l : Listing) : Prop where
  name : l.name = m.name
  methodCode : l.methodCode = m.method.code
  encrypted : l.encrypted = false
  keyed : l.keyed = false
  checksum : l.checksum = m.checksum
  packedSize : l.packedSize = m.packed.size
  header : l.header = header

theorem code_lt (method : Method) : method.code < 65536 := by
  cases method <;> decide

theorem ofCode?_code (method : Method) : Method.ofCode? method.code = some method := by
  cases method <;> rfl

theorem code_ne_keyedCode (method : Method) : method.code ≠ keyedCode := by
  cases method <;> decide

/-- The name of a member is read from its bytes. -/
theorem name_of_flags (m : Member) :
    (if m.flags.testBit 11 then Text.ofBytes m.nameBytes.toByteArray
      else Text.ofBytes437 m.nameBytes.toByteArray) = m.name := by
  have hbytes : m.nameBytes.toByteArray = m.name.toUTF8 := toByteArray_toList _
  rw [hbytes, Member.flags]
  by_cases hascii : m.nameBytes.all (· < 128)
  · rw [if_pos hascii, if_neg (by decide)]
    exact ofBytes437_toUTF8 (by simpa [Member.nameBytes] using hascii)
  · rw [if_neg hascii, if_pos (by decide), ofBytes_toUTF8]

theorem flags_lt (m : Member) : m.flags < 65536 := by
  unfold Member.flags
  split <;> decide

theorem flags_encrypted (m : Member) : m.flags.testBit 0 = false := by
  unfold Member.flags
  split <;> decide

/-- The fields of an entry before the name. -/
def Member.directoryFields (header : Nat) (m : Member) : List (Nat × Nat) :=
  [(4, 0x02014b50), (2, 20)] ++ m.sharedFields ++ [(2, 0), (2, 0), (2, 0), (4, 0), (4, header)]

theorem directoryRecord_eq (header : Nat) (m : Member) :
    m.directoryRecord header = fieldBytes (m.directoryFields header) ++ m.nameBytes := rfl

theorem length_directoryFields (header : Nat) (m : Member) :
    (fieldBytes (m.directoryFields header)).length = listingSize := by
  rw [length_fieldBytes]
  simp [Member.directoryFields, Member.sharedFields, listingSize]

/-- The numbers of an entry are read at their places. -/
theorem numbers_of_directoryFields (hfits : m.Fits) (hheader : header < largeMark)
    (h : HasBytes file place (fieldBytes (m.directoryFields header))) :
    numberAt? file place 4 = some directoryMark ∧
    numberAt? file (place + 8) 2 = some m.flags ∧
    numberAt? file (place + 10) 2 = some m.method.code ∧
    numberAt? file (place + 16) 4 = some m.checksum.toNat ∧
    numberAt? file (place + 20) 4 = some m.packed.size ∧
    numberAt? file (place + 24) 4 = some (m.size % 256 ^ 4) ∧
    numberAt? file (place + 28) 2 = some m.nameBytes.length ∧
    numberAt? file (place + 30) 2 = some 0 ∧
    numberAt? file (place + 32) 2 = some 0 ∧
    numberAt? file (place + 42) 4 = some header := by
  have hlarge : largeMark < 256 ^ 4 := by decide
  simp only [Member.directoryFields, Member.sharedFields, List.cons_append, List.nil_append,
    hasBytes_fieldBytes_cons, Nat.add_assoc, Nat.reduceAdd] at h
  obtain ⟨hmark, -, -, hflags, hmethod, -, -, hsum, hpacked, hsize, hname, hextra, hcomment, -, -, -,
    hplace, -⟩ := h
  exact ⟨numberAt?_of_lt hmark (by decide), numberAt?_of_lt hflags (flags_lt m),
    numberAt?_of_lt hmethod (code_lt m.method), numberAt?_of_lt hsum m.checksum.toNat_lt,
    numberAt?_of_lt hpacked (Nat.lt_trans hfits.packed hlarge), numberAt?_of_hasBytes hsize,
    numberAt?_of_lt hname hfits.name, numberAt?_of_lt hextra (by decide),
    numberAt?_of_lt hcomment (by decide), numberAt?_of_lt hplace (Nat.lt_trans hheader hlarge)⟩

theorem amended?_of_no_extra {l : Listing} (h : l.methodCode ≠ keyedCode) :
    l.amended? .empty = some l := by
  have hkeyed : (l.methodCode == keyedCode) = false := by simpa using h
  have hfields : Listing.amendFrom .empty ByteArray.empty.size 0 l = some l := by
    rw [ByteArray.size_empty, Listing.amendFrom]
  simp only [Listing.amended?, hfields, hkeyed, Option.bind_eq_bind, Option.bind_some, Bool.false_and,
    Bool.false_eq_true, if_false]

/-- The entry that was written for a member is read at its place. -/
theorem listingAt?_of_hasBytes {d : Directory} (hshift : d.shift = 0) (hstart : d.start ≤ largeMark)
    (hfits : m.Fits) (hheader : header < d.start)
    (h : HasBytes file place (m.directoryRecord header)) :
    ∃ l, d.listingAt? file place = some (l, place + (m.directoryRecord header).length) ∧
      Lists m header l := by
  rw [directoryRecord_eq] at h ⊢
  obtain ⟨hfields, hname⟩ := hasBytes_append.mp h
  have hend := hfields.le_size (List.ne_nil_of_length_pos (by rw [length_directoryFields]; decide))
  rw [length_directoryFields] at hname hend
  obtain ⟨hmark, hflags, hmethod, hsum, hpacked, hsize, hlength, hextra, hcomment, hplace⟩ :=
    numbers_of_directoryFields hfits (Nat.lt_of_lt_of_le hheader hstart) hfields
  have hbytes := bytesAt?_of_hasBytes hname hend
  have hafter : place + listingSize + m.nameBytes.length ≤ file.size := by
    by_cases hempty : m.nameBytes = []
    · rwa [hempty, List.length_nil, Nat.add_zero]
    · exact hname.le_size hempty
  have hnothing := bytesAt?_zero hafter
  simp only [Directory.listingAt?, hmark, hflags, hmethod, hsum, hpacked, hsize, hlength, hextra,
    hcomment, hplace, hbytes, hnothing, Option.bind_eq_bind, Option.bind_some, Nat.add_zero,
    bne_self_eq_false, Bool.false_eq_true, if_false]
  rw [amended?_of_no_extra (code_ne_keyedCode m.method), Option.bind_some,
    hshift, Nat.add_zero, if_neg (Nat.not_le.mpr hheader), List.length_append, length_directoryFields,
    Nat.add_assoc]
  simp only [Option.some.injEq, Prod.mk.injEq, and_true, exists_eq_left']
  exact {
    name := name_of_flags m
    methodCode := rfl
    encrypted := flags_encrypted m
    keyed := rfl
    checksum := UInt32.ofNat_toNat
    packedSize := rfl
    header := rfl }

/-! ## Local headers -/

/-- An entry leads to the local header and the data that were written for a member. -/
def IsListed (file : ByteArray) (m : Member) (l : Listing) : Prop :=
  ∃ header, Lists m header l ∧ HasBytes file header m.localRecord

/-- The fields of a local header before the name. -/
def Member.localFields (m : Member) : List (Nat × Nat) := (4, 0x04034b50) :: m.sharedFields

theorem length_localFields (m : Member) : (fieldBytes m.localFields).length = 30 := by
  rw [length_fieldBytes]
  simp [Member.localFields, Member.sharedFields]

theorem localRecord_eq (m : Member) :
    m.localRecord = fieldBytes m.localFields ++ (m.nameBytes ++ m.packed.data.toList) := by
  rw [← toList_eq, ← List.append_assoc]
  rfl

theorem length_localRecord_pos (m : Member) : 0 < m.localRecord.length := by
  rw [localRecord_eq, List.length_append, length_localFields]
  omega

theorem dataStart?_of_hasBytes (hfits : m.Fits) (h : HasBytes file header m.localRecord) :
    dataStart? file header = some (header + 30 + m.nameBytes.length) := by
  rw [localRecord_eq] at h
  have hfields := (hasBytes_append.mp h).1
  simp only [Member.localFields, Member.sharedFields, hasBytes_fieldBytes_cons, Nat.add_assoc,
    Nat.reduceAdd] at hfields
  obtain ⟨hmark, -, -, -, -, -, -, -, -, hname, hextra, -⟩ := hfields
  have hmarkAt : numberAt? file header 4 = some localMark := numberAt?_of_lt hmark (by decide)
  have hnameAt : numberAt? file (header + 26) 2 = some m.nameBytes.length :=
    numberAt?_of_lt hname hfits.name
  have hextraAt : numberAt? file (header + 28) 2 = some 0 := numberAt?_of_lt hextra (by decide)
  simp only [dataStart?, hmarkAt, hnameAt, hextraAt, Option.bind_eq_bind, Option.bind_some,
    bne_self_eq_false, Bool.false_eq_true, if_false, Nat.add_zero]

theorem extract_min_size (file : ByteArray) (start stop : Nat) :
    file.extract start (min file.size stop) = file.extract start stop := by
  refine ByteArray.ext (Array.toList_inj.mp ?_)
  have hsize : file.data.toList.length = file.size := rfl
  simp only [ByteArray.data_extract, Array.toList_extract, List.extract]
  rw [List.take_eq_take_iff, List.length_drop, hsize]
  omega

/-- The data of a member is found by its entry. -/
theorem open?_of_isListed {a : Archive} {l : Listing} (hfits : m.Fits) (h : IsListed a.file m l) :
    a.open? l = .ok { m with size := l.size } := by
  obtain ⟨header, hlists, hlocal⟩ := h
  have hstart := dataStart?_of_hasBytes hfits hlocal
  rw [localRecord_eq, hasBytes_append, hasBytes_append, length_localFields] at hlocal
  obtain ⟨hfields, -, hdata⟩ := hlocal
  have hsize : m.packed.data.toList.length = m.packed.size := rfl
  have hextract := extract_of_hasBytes hdata
  rw [hsize] at hextract
  simp only [open?, hlists.encrypted, hlists.keyed, hlists.header, hlists.methodCode, hstart,
    ofCode?_code, hlists.name, hlists.checksum, hlists.packedSize, Bool.or_self, Bool.false_eq_true,
    if_false]
  rw [extract_min_size, hextract, ← toList_eq, toByteArray_toList]

/-! ## The directory -/

theorem listingsFrom?_of_hasBytes {d : Directory} (hshift : d.shift = 0) (hstart : d.start ≤ largeMark)
    {ms : List Member} (hfits : ∀ m ∈ ms, m.Fits)
    (hfiles : HasBytes file header (ms.flatMap Member.localRecord))
    (hbelow : header + (ms.flatMap Member.localRecord).length ≤ d.start)
    (h : HasBytes file place (directoryRecords header ms)) :
    ∃ ls, d.listingsFrom? file ms.length place = some ls ∧ List.Forall₂ (IsListed file) ms ls := by
  induction ms generalizing header place with
  | nil => exact ⟨[], rfl, .nil⟩
  | cons m rest ih =>
    rw [List.forall_mem_cons] at hfits
    rw [List.flatMap_cons, List.length_append] at hbelow
    rw [List.flatMap_cons, hasBytes_append] at hfiles
    rw [directoryRecords, hasBytes_append] at h
    have hpos := length_localRecord_pos m
    obtain ⟨l, hl, hlists⟩ := listingAt?_of_hasBytes hshift hstart hfits.1 (by omega) h.1
    obtain ⟨ls, hls, hrest⟩ := ih hfits.2 hfiles.2 (by omega) h.2
    refine ⟨l :: ls, ?_, .cons ⟨header, hlists, hfiles.1⟩ hrest⟩
    simp only [List.length_cons, Directory.listingsFrom?, hl, hls, Option.bind_eq_bind,
      Option.bind_some]

theorem foldl_putListing {before ls : List Listing} (h : ((before ++ ls).map (·.name)).Nodup) :
    ls.foldl putListing before = before ++ ls := by
  induction ls generalizing before with
  | nil => rw [List.foldl_nil, List.append_nil]
  | cons l rest ih =>
    have hnew : putListing before l = before ++ [l] := by
      refine if_neg ?_
      rw [List.any_eq_true]
      rintro ⟨k, hk, hname⟩
      rw [List.map_append, List.nodup_append] at h
      exact h.2.2 _ (List.mem_map_of_mem hk) _ List.mem_cons_self (eq_of_beq hname)
    rw [List.foldl_cons, hnew, ih (by simpa using h), List.append_assoc, List.singleton_append]

/-! ## The end record -/

/-- What the format has room for in an archive. -/
structure HaveRoom (ms : List Member) : Prop where
  count : ms.length < 65535
  names : ∀ m ∈ ms, m.nameBytes.length < 65536
  size : (write ms).size ≤ largeMark

section Written

variable {ms : List Member}

/-- The local records of members. -/
def localRecords (ms : List Member) : List UInt8 := ms.flatMap Member.localRecord

/-- The fields of the end record. -/
def endFields (ms : List Member) : List (Nat × Nat) :=
  [(4, 0x06054b50), (2, 0), (2, 0), (2, ms.length), (2, ms.length),
    (4, (directoryRecords 0 ms).length), (4, (localRecords ms).length), (2, 0)]

theorem length_endFields (ms : List Member) : (fieldBytes (endFields ms)).length = 22 := by
  rw [length_fieldBytes]
  simp [endFields]

theorem hasBytes_write (ms : List Member) :
    HasBytes (write ms) 0 (localRecords ms ++ (directoryRecords 0 ms ++ fieldBytes (endFields ms))) := by
  have hbytes : (write ms).data.toList =
      localRecords ms ++ (directoryRecords 0 ms ++ fieldBytes (endFields ms)) := by
    rw [← List.append_assoc]
    rfl
  rw [HasBytes, List.drop_zero, hbytes]

theorem size_write (ms : List Member) :
    (write ms).size = (localRecords ms).length + (directoryRecords 0 ms).length + 22 := by
  rw [← length_endFields ms, ← List.length_append, ← List.length_append]
  rfl

theorem localRecord_length_le {m : Member} (h : m ∈ ms) :
    m.localRecord.length ≤ (localRecords ms).length := by
  obtain ⟨before, after, rfl⟩ := List.append_of_mem h
  simp only [localRecords, List.flatMap_append, List.flatMap_cons, List.length_append]
  omega

theorem HaveRoom.fits (h : HaveRoom ms) : ∀ m ∈ ms, m.Fits := by
  intro m hm
  have hrecord := localRecord_length_le hm
  have hsize := h.size
  have hpacked : m.packed.data.toList.length = m.packed.size := rfl
  rw [localRecord_eq, List.length_append, List.length_append, length_localFields, hpacked] at hrecord
  rw [size_write] at hsize
  exact ⟨h.names m hm, by omega⟩

/-- The end record that is written behind members. -/
def endRecord (ms : List Member) : EndRecord :=
  ⟨(localRecords ms).length + (directoryRecords 0 ms).length, 0, 0, ms.length, ms.length,
    (localRecords ms).length⟩

/-- The end record stands behind the directory, and tells where it starts. -/
theorem endRecordAt?_write (h : HaveRoom ms) :
    endRecordAt? (write ms) ((localRecords ms).length + (directoryRecords 0 ms).length) =
      some (endRecord ms) := by
  have hsize := size_write ms
  have hroom := h.size
  have hcount : ms.length < 256 ^ 2 := Nat.lt_trans h.count (by decide)
  have hlarge : largeMark < 256 ^ 4 := by decide
  have hfields := (hasBytes_append.mp (hasBytes_append.mp (hasBytes_write ms)).2).2
  simp only [Nat.zero_add, endFields, hasBytes_fieldBytes_cons, Nat.add_assoc, Nat.reduceAdd]
    at hfields
  obtain ⟨hmark, hdisk, hother, hhere, htotal, -, hdirectory, hcomment, -⟩ := hfields
  simp only [endRecordAt?, Nat.add_zero, Nat.add_assoc,
    numberAt?_of_lt hmark (by decide), numberAt?_of_lt hdisk (by decide),
    numberAt?_of_lt hother (by decide), numberAt?_of_lt hhere hcount, numberAt?_of_lt htotal hcount,
    numberAt?_of_lt hdirectory (by omega), numberAt?_of_lt hcomment (by decide),
    Option.bind_eq_bind, Option.bind_some]
  have hnone : ¬ (write ms).size < (localRecords ms).length + ((directoryRecords 0 ms).length + 22) := by
    omega
  rw [if_neg (by simpa [endMark] using hnone)]
  rfl

theorem placesOf_of_mark {mark start stop : Nat} (h : numberAt? file start 4 = some mark)
    (hlt : start < stop) : placesOf file mark start stop =
      start :: placesOf file mark (start + 1) stop := by
  obtain ⟨n, rfl⟩ := Nat.exists_eq_add_of_lt hlt
  have hcount : start + n + 1 - start = n + 1 := by omega
  have hfewer : start + n + 1 - (start + 1) = n := by omega
  rw [placesOf, placesOf, hcount, hfewer, List.range'_succ, List.filter_cons_of_pos (by simp [h])]

/-- The directory starts where it was written. -/
theorem directory?_write (ms : List Member) :
    (endRecord ms).directory? (write ms) = some ⟨(localRecords ms).length, 0, ms.length⟩ := by
  cases ms with
  | nil => rfl
  | cons m rest =>
    have hdirectory := (hasBytes_append.mp (hasBytes_append.mp (hasBytes_write (m :: rest))).2).1
    rw [directoryRecords, hasBytes_append, directoryRecord_eq, hasBytes_append] at hdirectory
    have hfields := hdirectory.1.1
    simp only [Member.directoryFields, List.cons_append, hasBytes_fieldBytes_cons] at hfields
    rw [Nat.zero_add] at hfields
    have hmark : numberAt? (write (m :: rest)) (localRecords (m :: rest)).length 4 =
        some directoryMark := numberAt?_of_lt hfields.1 (by decide)
    have hpos : 0 < (directoryRecords 0 (m :: rest)).length := by
      rw [directoryRecords, directoryRecord_eq, List.length_append, List.length_append,
        length_directoryFields, listingSize]
      omega
    have hlt : (localRecords (m :: rest)).length < (endRecord (m :: rest)).place :=
      Nat.lt_add_of_pos_right hpos
    have hfirst := placesOf_of_mark hmark hlt
    have htotal : (endRecord (m :: rest)).total ≠ 0 := Nat.succ_ne_zero _
    have hdirectoryPlace : (endRecord (m :: rest)).directory = (localRecords (m :: rest)).length := rfl
    simp only [EndRecord.directory?, hdirectoryPlace, htotal, Nat.not_le.mpr hlt, hfirst, if_false,
      Nat.sub_self, Nat.add_zero]
    rfl

/-- The numbers of a small archive are not left to another end record. -/
theorem locator?_write (h : HaveRoom ms) : (endRecord ms).locator? (write ms) = none := by
  have hsize := h.size
  rw [size_write] at hsize
  have htotal : ((endRecord ms).total != 0xFFFF) = true := by
    have hcount : ms.length ≠ 65535 := Nat.ne_of_lt h.count
    simpa [endRecord] using hcount
  have hdirectory : ((endRecord ms).directory != 0xFFFFFFFF) = true := by
    have hlength : (localRecords ms).length ≠ largeMark := by omega
    simpa [endRecord, largeMark] using hlength
  simp only [EndRecord.locator?, htotal, hdirectory, Bool.and_self, Bool.true_or, if_true]

/-- What is written of members is read as their entries. -/
theorem listings?_write (h : HaveRoom ms) (hnames : (ms.map (·.name)).Nodup) :
    ∃ ls, listings? (write ms) = some ls ∧ List.Forall₂ (IsListed (write ms)) ms ls := by
  have hsize := size_write ms
  have hroom := h.size
  have hparts := hasBytes_write ms
  rw [hasBytes_append, hasBytes_append, Nat.zero_add] at hparts
  obtain ⟨hfiles, hdirectory, -⟩ := hparts
  let d : Directory := ⟨(localRecords ms).length, 0, ms.length⟩
  have hstart : d.start ≤ largeMark := by
    show (localRecords ms).length ≤ largeMark
    omega
  have hbelow : 0 + (localRecords ms).length ≤ d.start := (Nat.zero_add _).le
  obtain ⟨ls, hls, hlisted⟩ := listingsFrom?_of_hasBytes rfl hstart h.fits hfiles hbelow hdirectory
  have hsame : ls.map (·.name) = ms.map (·.name) := by
    refine map_eq_of_forall₂ ?_ hlisted
    rintro m l ⟨header, hlists, -⟩
    exact hlists.name
  have hfound : d.listings? (write ms) = some ls := by
    have hkept : ls.foldl putListing [] = ls := foldl_putListing (by rwa [List.nil_append, hsame])
    rw [Directory.listings?, hls, Option.bind_eq_bind, Option.bind_some, hkept]
  have hat : listingsAt? (write ms) ((localRecords ms).length + (directoryRecords 0 ms).length) =
      some ls := by
    simp only [listingsAt?, endRecordAt?_write h, locator?_write h, directory?_write,
      Option.bind_eq_bind, Option.bind_some]
    exact hfound
  have hplaces : (write ms).size - 21 =
      (localRecords ms).length + (directoryRecords 0 ms).length + 1 := by omega
  refine ⟨ls, ?_, hlisted⟩
  rw [listings?, hplaces, List.range_succ, List.reverse_append, List.reverse_singleton,
    List.singleton_append, List.findSome?_cons, hat]

theorem ofBytes?_of_listings? {ls : List Listing} (h : listings? file = some ls) :
    ofBytes? file = .ok ⟨file, ls⟩ := by
  unfold ofBytes?
  simp only [h]

theorem mapM_open? {a : Archive} {ls : List Listing} (hfits : ∀ m ∈ ms, m.Fits)
    (h : List.Forall₂ (IsListed a.file) ms ls) :
    ∃ found, ls.mapM a.open? = .ok found ∧
      List.Forall₂ (fun m k => ∃ size, k = { m with size := size }) ms found := by
  induction h with
  | nil => exact ⟨[], rfl, .nil⟩
  | @cons m l rest ls hlisted _ ih =>
    rw [List.forall_mem_cons] at hfits
    obtain ⟨found, hfound, hrest⟩ := ih hfits.2
    refine ⟨{ m with size := l.size } :: found, ?_, .cons ⟨l.size, rfl⟩ hrest⟩
    rw [List.mapM_cons, open?_of_isListed hfits.1 hlisted, hfound]
    rfl

/-- An archive has the members that it was written with, but for what it says of their sizes. -/
theorem members?_write (h : HaveRoom ms) (hnames : (ms.map (·.name)).Nodup) :
    ∃ found, members? (write ms) = .ok found ∧
      List.Forall₂ (fun m k => ∃ size, k = { m with size := size }) ms found := by
  obtain ⟨ls, hls, hlisted⟩ := listings?_write h hnames
  obtain ⟨found, hfound, hsame⟩ := mapM_open? (a := ⟨write ms, ls⟩) h.fits hlisted
  exact ⟨found, bind_eq_ok_iff.mpr ⟨_, ofBytes?_of_listings? hls, hfound⟩, hsame⟩

end Written

/-! ## Files -/

/-- A file that is packed in one of the ways for new members is unpacked again. -/
theorem entry?_pack {e : Entry} (h : e.method.isWritten) : e.pack.entry? = some e := by
  have hunpacked : e.pack.unpacked? = .ok e.contents := by
    obtain ⟨name, method, contents⟩ := e
    cases method with
    | stored => rfl
    | deflated => simp only [Entry.pack, Member.unpacked?, inflate?_storedBlocks]
    | wideDeflated => cases h
    | sorted =>
      simp only [Entry.pack, Member.unpacked?, Sorted.contents?_storedBytes]
      rfl
  have hcontents : e.pack.contents? = .ok e.contents :=
    bind_eq_ok_iff.mpr ⟨_, hunpacked, if_pos rfl⟩
  rw [Member.entry?, hcontents]
  rfl

/-- The files that an archive holds, in order, if all of them can be read. -/
def entries? (file : ByteArray) : Option (List Entry) := do
  let ms ← (members? file).toOption
  ms.mapM Member.entry?

theorem mapM_eq_some_iff {α β : Type} {f : α → Option β} {as : List α} {bs : List β} :
    as.mapM f = some bs ↔ List.Forall₂ (fun a b => f a = some b) as bs := by
  induction as generalizing bs with
  | nil => simp [eq_comm]
  | cons a rest ih =>
    rw [List.mapM_cons, List.forall₂_cons_left_iff]
    simp only [Option.bind_eq_bind, Option.bind_eq_some_iff, ih, Option.pure_def, Option.some.injEq]
    constructor
    · rintro ⟨b, hb, others, hothers, rfl⟩
      exact ⟨b, others, hb, hothers, rfl⟩
    · rintro ⟨b, others, hb, hothers, rfl⟩
      exact ⟨b, hb, others, hothers, rfl⟩

theorem entries?_eq_some_iff {file : ByteArray} {es : List Entry} :
    entries? file = some es ↔
      ∃ ms, members? file = .ok ms ∧ List.Forall₂ (fun m e => m.entry? = some e) ms es := by
  rw [entries?, Option.bind_eq_bind, Option.bind_eq_some_iff]
  simp only [toOption_eq_some_iff, mapM_eq_some_iff]

/-- An archive holds the files of the members that it was written with. -/
theorem entries?_write {ms : List Member} {es : List Entry} (h : HaveRoom ms)
    (hnames : (ms.map (·.name)).Nodup)
    (hentries : List.Forall₂ (fun m e => m.entry? = some e) ms es) :
    entries? (write ms) = some es := by
  obtain ⟨found, hfound, hsame⟩ := members?_write h hnames
  refine entries?_eq_some_iff.mpr ⟨found, hfound, ?_⟩
  clear hfound h hnames
  induction hsame generalizing es with
  | nil =>
    cases hentries
    exact .nil
  | @cons m k rest found hsame _ ih =>
    obtain ⟨e, others, hentry, hothers, rfl⟩ := List.forall₂_cons_left_iff.mp hentries
    obtain ⟨size, rfl⟩ := hsame
    exact .cons hentry (ih hothers)

theorem entries?_ofEntries {es : List Entry} (h : HaveRoom (es.map Entry.pack))
    (hnames : (es.map (·.name)).Nodup) (hwritten : ∀ e ∈ es, e.method.isWritten) :
    entries? (ofEntries es) = some es := by
  refine entries?_write h (by rwa [List.map_map]) ?_
  rw [List.forall₂_map_left_iff, List.forall₂_same]
  exact fun e he => entry?_pack (hwritten e he)

end Paperwork.Archive
