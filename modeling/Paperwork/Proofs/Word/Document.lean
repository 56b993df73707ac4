import Paperwork.Proofs.Archive.Container
import Paperwork.Proofs.Pattern.Size
import Paperwork.Word.Document

/-!
# Filled documents

A document is filled file by file. One that holds text is replaced, all others are kept
(`fillMember_cases`); the first file that cannot be filled ends the filling. What is written has the
files of the document again, in the same order (`render_fills_text_parts`).
-/

namespace Paperwork.Word

open Archive

/-! ## Files -/

/-- What becomes of a file: a part that holds text is filled, all others stay as they are. -/
inductive Fills (d : Delimiters) (fields : Fields) : Entry → Entry → Prop where
  | kept {e : Entry} (hpart : isTextPart e.name = false) : Fills d fields e e
  | filled {e : Entry} {text : String} {filled : List Char} (hpart : isTextPart e.name)
      (htext : String.fromUTF8? e.contents = some text)
      (hfilled : Placeholder.substitute d fields text.toList = .ok filled) :
      Fills d fields e { e with contents := (String.ofList filled).toUTF8 }

/-- What is wrong with a part that holds text. -/
inductive Offends (d : Delimiters) (fields : Fields) : Entry → RenderError → Prop where
  | encoding {e : Entry} (hpart : isTextPart e.name) (htext : String.fromUTF8? e.contents = none) :
      Offends d fields e (.encoding e.name)
  | unresolved {e : Entry} {text name : String} (hpart : isTextPart e.name)
      (htext : String.fromUTF8? e.contents = some text)
      (hname : Placeholder.substitute d fields text.toList = .error name) :
      Offends d fields e (.unresolved name)

section File

variable {d : Delimiters} {fields : Fields} {e : Entry} {m : Member}

theorem Fills.not_offends {other : Entry} {cause : RenderError} (h : Fills d fields e other) :
    ¬ Offends d fields e cause := by
  intro hoffends
  cases h with
  | kept hpart =>
    rcases hoffends with ⟨htrue, -⟩ | ⟨htrue, -, -⟩ <;> exact Bool.false_ne_true (hpart.symm.trans htrue)
  | filled hpart htext hfilled =>
    rcases hoffends with ⟨-, hnone⟩ | ⟨-, hsome, hname⟩
    · cases htext.symm.trans hnone
    · cases htext.symm.trans hsome
      cases hfilled.symm.trans hname

/-- A part that holds text can be filled. -/
def IsFillable (d : Delimiters) (fields : Fields) (e : Entry) : Prop :=
  ∃ text filled, String.fromUTF8? e.contents = some text ∧
    Placeholder.substitute d fields text.toList = .ok filled

theorem isFillable_of_fills {e other : Entry} (h : Fills d fields e other) (hpart : isTextPart e.name) :
    IsFillable d fields e := by
  cases h with
  | kept hother => exact absurd (hother.symm.trans hpart) Bool.false_ne_true
  | filled _ htext hfilled => exact ⟨_, _, htext, hfilled⟩

theorem Offends.not_isFillable {e : Entry} {cause : RenderError} (h : Offends d fields e cause) :
    isTextPart e.name ∧ ¬ IsFillable d fields e := by
  cases h with
  | encoding hpart hnone =>
    refine ⟨hpart, ?_⟩
    rintro ⟨text, filled, htext, -⟩
    cases htext.symm.trans hnone
  | unresolved hpart htext hname =>
    refine ⟨hpart, ?_⟩
    rintro ⟨other, filled, hother, hfilled⟩
    cases htext.symm.trans hother
    cases hfilled.symm.trans hname

theorem Offends.unique {e : Entry} {cause other : RenderError} (h : Offends d fields e cause)
    (hother : Offends d fields e other) : cause = other := by
  cases h with
  | encoding hpart hnone =>
    cases hother with
    | encoding => rfl
    | unresolved _ htext _ => cases htext.symm.trans hnone
  | unresolved hpart htext hname =>
    cases hother with
    | encoding _ hnone => cases htext.symm.trans hnone
    | unresolved _ hsame hagain =>
      cases htext.symm.trans hsame
      cases hname.symm.trans hagain
      rfl

theorem contents?_of_entry?_eq (h : m.entry? = some e) :
    m.contents? = .ok e.contents ∧ m.name = e.name ∧ m.method = e.method := by
  unfold Member.entry? at h
  cases hcontents : m.contents? with
  | error damage =>
    rw [hcontents] at h
    cases h
  | ok bytes =>
    rw [hcontents] at h
    cases h
    exact ⟨rfl, rfl, rfl⟩

/-- A member is filled like its file, or says what is wrong with it. -/
theorem fillMember_cases (h : m.entry? = some e) (hwritten : isTextPart e.name → e.method.isWritten) :
    (∃ k other, fillMember d fields m = .ok k ∧ k.entry? = some other ∧ Fills d fields e other) ∨
      ∃ cause, fillMember d fields m = .error cause ∧ Offends d fields e cause := by
  obtain ⟨hcontents, hname, hmethod⟩ := contents?_of_entry?_eq h
  by_cases hpart : isTextPart e.name
  · have hread : partText? m = String.fromUTF8? e.contents := by
      rw [partText?, hcontents]
    cases htext : String.fromUTF8? e.contents with
    | none =>
      right
      refine ⟨.encoding e.name, ?_, .encoding hpart htext⟩
      simp only [fillMember, hname, hpart, hread, htext, Bool.not_true, Bool.false_eq_true, if_false]
    | some text =>
      cases hfilled : Placeholder.substitute d fields text.toList with
      | error name =>
        right
        refine ⟨.unresolved name, ?_, .unresolved hpart htext hfilled⟩
        simp only [fillMember, hname, hpart, hread, htext, hfilled, Bool.not_true, Bool.false_eq_true,
          if_false]
      | ok filled =>
        left
        have hkept := hwritten hpart
        refine ⟨_, { e with contents := (String.ofList filled).toUTF8 }, ?_,
          entry?_pack hkept, .filled hpart htext hfilled⟩
        simp only [fillMember, hname, hmethod, hpart, hread, htext, hfilled, hkept, Bool.not_true,
          Bool.false_eq_true, if_false, if_true]
  · left
    rw [Bool.not_eq_true] at hpart
    refine ⟨m, e, ?_, h, .kept hpart⟩
    simp only [fillMember, hname, hpart, Bool.not_false, if_true]

end File

/-! ## Documents -/

section Document

variable {d : Delimiters} {fields : Fields} {document : ByteArray} {a : Archive}
  {ls : List Listing} {ms : List Member} {es : List Entry}

/-- The first file that cannot be filled says what is wrong. -/
inductive FailsWith (d : Delimiters) (fields : Fields) : List Entry → RenderError → Prop where
  | here {e : Entry} {es : List Entry} {cause : RenderError} (h : Offends d fields e cause) :
      FailsWith d fields (e :: es) cause
  | later {e other : Entry} {es : List Entry} {cause : RenderError} (h : Fills d fields e other)
      (hrest : FailsWith d fields es cause) : FailsWith d fields (e :: es) cause

theorem FailsWith.unique {cause other : RenderError} (h : FailsWith d fields es cause)
    (hother : FailsWith d fields es other) : cause = other := by
  induction h with
  | here hoffends =>
    cases hother with
    | here hagain => exact hoffends.unique hagain
    | later hfills => exact absurd hoffends hfills.not_offends
  | later hfills _ ih =>
    cases hother with
    | here hoffends => exact absurd hoffends hfills.not_offends
    | later _ hrest => exact ih hrest

theorem not_failsWith {others : List Entry} {cause : RenderError}
    (h : List.Forall₂ (Fills d fields) es others) : ¬ FailsWith d fields es cause := by
  intro hfails
  induction h with
  | nil => cases hfails
  | cons hfills _ ih =>
    cases hfails with
    | here hoffends => exact hfills.not_offends hoffends
    | later _ hrest => exact ih hrest

theorem fillAll_cons {l : Listing} {m : Member} (h : a.open? l = .ok m) :
    fillAll d fields a (l :: ls) = (do
      let filled ← fillMember d fields m
      let others ← fillAll d fields a ls
      pure (filled :: others)) := by
  rw [fillAll, h]
  rfl

/-- Files are filled in turn, up to the first one that cannot be filled. -/
theorem fillAll_cases (hopened : ls.mapM a.open? = .ok ms)
    (hentries : List.Forall₂ (fun m e => m.entry? = some e) ms es)
    (hwritten : ∀ e ∈ es, isTextPart e.name → e.method.isWritten) :
    (∃ ks others, fillAll d fields a ls = .ok ks ∧
        List.Forall₂ (fun k other => k.entry? = some other) ks others ∧
        List.Forall₂ (Fills d fields) es others) ∨
      ∃ cause, fillAll d fields a ls = .error cause ∧ FailsWith d fields es cause := by
  induction ls generalizing ms es with
  | nil =>
    obtain rfl := pure_eq_ok_iff.mp hopened
    cases hentries
    exact .inl ⟨[], [], rfl, .nil, .nil⟩
  | cons l rest ih =>
    rw [List.mapM_cons, bind_eq_ok_iff] at hopened
    obtain ⟨m, hm, hopened⟩ := hopened
    obtain ⟨later, hlater, hopened⟩ := bind_eq_ok_iff.mp hopened
    obtain rfl := pure_eq_ok_iff.mp hopened
    obtain ⟨e, behind, he, hbehind, rfl⟩ := List.forall₂_cons_left_iff.mp hentries
    rw [List.forall_mem_cons] at hwritten
    rcases fillMember_cases he hwritten.1 with
      ⟨k, other, hk, hother, hfills⟩ | ⟨cause, hcause, hoffends⟩
    · rcases ih hlater hbehind hwritten.2 with
        ⟨ks, others, hks, hothers, hrest⟩ | ⟨cause, hcause, hrest⟩
      · refine .inl ⟨k :: ks, other :: others, ?_, .cons hother hothers, .cons hfills hrest⟩
        rw [fillAll_cons hm]
        exact bind_eq_ok_iff.mpr ⟨k, hk, bind_eq_ok_iff.mpr ⟨ks, hks, rfl⟩⟩
      · refine .inr ⟨cause, ?_, .later hfills hrest⟩
        rw [fillAll_cons hm]
        exact bind_eq_error_iff.mpr (.inr ⟨k, hk, bind_eq_error_iff.mpr (.inl hcause)⟩)
    · refine .inr ⟨cause, ?_, .here hoffends⟩
      rw [fillAll_cons hm]
      exact bind_eq_error_iff.mpr (.inl hcause)

theorem Fills.name_eq {e other : Entry} (h : Fills d fields e other) : other.name = e.name := by
  cases h <;> rfl

/-- Members of filled files have the names of the files. -/
theorem map_name_of_fills {others : List Entry} (hfills : List.Forall₂ (Fills d fields) es others)
    (hentries : List.Forall₂ (fun m e => m.entry? = some e) ms others) :
    ms.map (·.name) = es.map (·.name) := by
  have hothers : others.map (·.name) = ms.map (·.name) := by
    refine map_eq_of_forall₂ ?_ hentries
    exact fun _ _ h => (contents?_of_entry?_eq h).2.1.symm
  rw [← hothers]
  exact map_eq_of_forall₂ (fun _ _ h => h.name_eq) hfills

/-- What the format has room for in an archive of files, apart from its size. -/
structure HaveRoomForNames (es : List Entry) : Prop where
  count : es.length < 65535
  names : ∀ e ∈ es, e.name.utf8ByteSize < 65536

theorem haveRoom_of_names (hroom : HaveRoomForNames es) (hnames : ms.map (·.name) = es.map (·.name))
    (hsize : (write ms).size ≤ largeMark) : HaveRoom ms := by
  have hlength : ms.length = es.length := by simpa using congrArg List.length hnames
  refine ⟨hlength ▸ hroom.count, fun m hm => ?_, hsize⟩
  have hname : m.name ∈ es.map (·.name) := hnames ▸ List.mem_map_of_mem hm
  obtain ⟨e, he, hsame⟩ := List.mem_map.mp hname
  have hbytes : m.nameBytes.length = m.name.utf8ByteSize := by
    rw [Member.nameBytes, toList_eq]
    rfl
  rw [hbytes, ← hsame]
  exact hroom.names e he

theorem render_eq (hpattern : d.pattern.isTooLarge = false) :
    render document fields d = match ofBytes? document with
      | .error cause => .error (.archive cause)
      | .ok a => (fillAll d fields a a.listings).map write :=
  if_neg (by rw [hpattern]; exact Bool.false_ne_true)

variable (fields) in
/-- A document whose files can be read is filled, up to the first file that cannot be filled. -/
theorem render_cases (hpattern : d.pattern.isTooLarge = false) (hentries : entries? document = some es)
    (hwritten : ∀ e ∈ es, isTextPart e.name → e.method.isWritten) :
    (∃ ks others, render document fields d = .ok (write ks) ∧
        List.Forall₂ (fun k other => k.entry? = some other) ks others ∧
        List.Forall₂ (Fills d fields) es others) ∨
      ∃ cause, render document fields d = .error cause ∧ FailsWith d fields es cause := by
  obtain ⟨ms, hms, hread⟩ := entries?_eq_some_iff.mp hentries
  obtain ⟨a, ha, hopened⟩ := bind_eq_ok_iff.mp hms
  have hrender : render document fields d = (fillAll d fields a a.listings).map write := by
    simp only [render_eq hpattern, ha]
  rw [hrender]
  rcases fillAll_cases hopened hread hwritten with
    ⟨ks, others, hks, hothers, hfills⟩ | ⟨cause, hcause, hfails⟩
  · exact .inl ⟨ks, others, map_eq_ok_iff.mpr ⟨ks, hks, rfl⟩, hothers, hfills⟩
  · exact .inr ⟨cause, map_eq_error_iff.mpr hcause, hfails⟩

theorem isFillable_of_forall₂ {others : List Entry} (h : List.Forall₂ (Fills d fields) es others) :
    ∀ e ∈ es, isTextPart e.name → IsFillable d fields e := by
  intro e he hpart
  obtain ⟨other, hfills⟩ := exists_forall₂_iff.mp ⟨others, h⟩ e he
  exact isFillable_of_fills hfills hpart

theorem FailsWith.not_isFillable {cause : RenderError} (h : FailsWith d fields es cause) :
    ∃ e ∈ es, isTextPart e.name ∧ ¬ IsFillable d fields e := by
  induction h with
  | @here e rest _ hoffends => exact ⟨e, List.mem_cons_self, hoffends.not_isFillable⟩
  | later _ _ ih =>
    obtain ⟨e, he, hpart⟩ := ih
    exact ⟨e, List.mem_cons_of_mem _ he, hpart⟩

/--
A document is filled if and only if each part that holds text can be. What comes out are the files of
the document in their order: the parts that hold text are filled, all others are kept. Otherwise the
first part that cannot be filled says why.
-/
theorem render_fills_text_parts (hpattern : d.pattern.isTooLarge = false)
    (hentries : entries? document = some es) (hnames : (es.map (·.name)).Nodup)
    (hroom : HaveRoomForNames es) (hwritten : ∀ e ∈ es, isTextPart e.name → e.method.isWritten) :
    ((∃ file, render document fields d = .ok file) ↔
      ∀ e ∈ es, isTextPart e.name → IsFillable d fields e) ∧
    (∀ file, render document fields d = .ok file → file.size ≤ largeMark →
      ∃ others, entries? file = some others ∧ List.Forall₂ (Fills d fields) es others) ∧
    ∀ cause, render document fields d = .error cause ↔ FailsWith d fields es cause := by
  rcases render_cases fields hpattern hentries hwritten with
    ⟨ks, others, hok, hothers, hfills⟩ | ⟨cause, herror, hfails⟩
  · have hsame := map_name_of_fills hfills hothers
    refine ⟨⟨fun _ => isFillable_of_forall₂ hfills, fun _ => ⟨_, hok⟩⟩, fun file hfile hsize => ?_,
      fun cause => ⟨fun herror => ?_, fun hfails => absurd hfails (not_failsWith hfills)⟩⟩
    · cases hok.symm.trans hfile
      exact ⟨others, entries?_write (haveRoom_of_names hroom hsame hsize) (hsame ▸ hnames) hothers, hfills⟩
    · cases hok.symm.trans herror
  · refine ⟨⟨?_, fun hall => ?_⟩, fun file hfile => ?_, fun other => ⟨fun hother => ?_, fun hother => ?_⟩⟩
    · rintro ⟨file, hfile⟩
      cases herror.symm.trans hfile
    · obtain ⟨e, he, hpart, hnot⟩ := hfails.not_isFillable
      exact absurd (hall e he hpart) hnot
    · cases herror.symm.trans hfile
    · cases herror.symm.trans hother
      exact hfails
    · rw [herror, hfails.unique hother]

/-- A letter with a placeholder that tags cut, and an image. -/
def letterFiles : List Entry :=
  [⟨"word/document.xml", .deflated, "<w:t>[[na</w:t><w:t>me]]</w:t>".toUTF8⟩,
    ⟨"word/media/header.png", .stored, ⟨#[137, 255]⟩⟩]

/-- The fields of the letter. -/
def letterFields : Fields := .ofList [("name", .text "A&B")]

/-- The letter is filled, and the image comes with it. -/
theorem letter_is_filled :
    ∃ file others, render (ofEntries letterFiles) letterFields .brackets = .ok file ∧
      entries? file = some others ∧ List.Forall₂ (Fills .brackets letterFields) letterFiles others := by
  have hpattern : Delimiters.brackets.pattern.isTooLarge = false :=
    Delimiters.isTooLarge_pattern (by decide) (by decide) (by decide)
  have hpacked : HaveRoom (letterFiles.map Entry.pack) :=
    ⟨by decide, by decide +kernel, by decide +kernel⟩
  have hentries : entries? (ofEntries letterFiles) = some letterFiles :=
    entries?_ofEntries hpacked (by decide) (by decide)
  have hroom : HaveRoomForNames letterFiles := ⟨by decide, by decide +kernel⟩
  have hfilled : (render (ofEntries letterFiles) letterFields .brackets).toOption.any
      (·.size ≤ largeMark) := by
    rw [render_eq hpattern]
    decide +kernel
  have hread : ∀ file, render (ofEntries letterFiles) letterFields .brackets = .ok file →
      file.size ≤ largeMark → ∃ others, entries? file = some others ∧
        List.Forall₂ (Fills .brackets letterFields) letterFiles others :=
    (render_fills_text_parts hpattern hentries (by decide) hroom (by decide)).2.1
  cases hrun : render (ofEntries letterFiles) letterFields .brackets with
  | error cause =>
    rw [hrun] at hfilled
    cases hfilled
  | ok file =>
    rw [hrun] at hfilled
    obtain ⟨others, hothers, hfills⟩ := hread file hrun (of_decide_eq_true hfilled)
    exact ⟨file, others, rfl, hothers, hfills⟩

end Document

end Paperwork.Word
