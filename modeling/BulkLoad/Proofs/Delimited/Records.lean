import BulkLoad.Proofs.Delimited.Printing
import BulkLoad.Proofs.Delimited.Splitting
import BulkLoad.Proofs.Mapping.Binding

/-!
Records of the default format, byte by byte. A reader takes a field that starts with a quote up to
the next quote that has no backslash before it, and any other field up to the next tab or line end.
It finds the fields that were written exactly if each of them is one by itself. Texts with escapes
are, and so is every value that is printed; a text without escapes and binary data may not be.
-/

namespace BulkLoad

/-- What holds of all items of a list, for a list whose items are related to them. -/
theorem forall_mem_iff_of_forall₂ {α β : Type} {R : α → β → Prop} {P : α → Prop} {Q : β → Prop}
    {as : List α} {bs : List β} (h : List.Forall₂ R as bs) (hPQ : ∀ a b, R a b → (Q b ↔ P a)) :
    (∀ b ∈ bs, Q b) ↔ ∀ a ∈ as, P a := by
  induction h with
  | nil => exact iff_of_true nofun nofun
  | cons hab _ ih => rw [List.forall_mem_cons, List.forall_mem_cons, hPQ _ _ hab, ih]

namespace Bytes

theorem ofText_ofList (cs : List Char) :
    ofText (String.ofList cs) = cs.flatMap String.utf8EncodeChar := by
  simp [ofText, List.utf8Encode]

/-- A character is a byte of its own, or its bytes are all beyond those of such characters. -/
theorem utf8EncodeChar_cases (c : Char) :
    c.toNat < 128 ∧ String.utf8EncodeChar c = [UInt8.ofNat c.toNat] ∨
      ∀ b ∈ String.utf8EncodeChar c, 128 ≤ b.toNat := by
  have hc : c.val.toNat = c.toNat := rfl
  unfold String.utf8EncodeChar
  by_cases hone : c.val.toNat ≤ 127
  · exact .inl ⟨by omega, if_pos hone⟩
  · refine .inr ?_
    simp only [if_neg hone]
    split
    · simp
      omega
    split
    · simp
      omega
    · simp
      omega

/-- A byte that is an ASCII character stands for that character only. -/
theorem eq_of_mem_utf8EncodeChar {c d : Char} (hc : c.toNat < 128)
    (h : UInt8.ofNat c.toNat ∈ String.utf8EncodeChar d) : d = c := by
  have hbyte : ∀ n < 128, (UInt8.ofNat n).toNat = n := by
    intro n hn
    simp
    omega
  rcases utf8EncodeChar_cases d with ⟨hd, hone⟩ | hmany
  · rw [hone, List.mem_singleton] at h
    have hnat := congrArg UInt8.toNat h
    rw [hbyte _ hc, hbyte _ hd] at hnat
    exact Char.toNat_inj.1 hnat.symm
  · have hlarge := hmany _ h
    rw [hbyte _ hc] at hlarge
    omega

theorem mem_of_mem_ofText {s : String} {c : Char} (hc : c.toNat < 128)
    (h : UInt8.ofNat c.toNat ∈ ofText s) : c ∈ s.toList := by
  rw [← s.ofList_toList, ofText_ofList, List.mem_flatMap] at h
  obtain ⟨d, hd, hmem⟩ := h
  rwa [eq_of_mem_utf8EncodeChar hc hmem] at hd

end Bytes

namespace Delimited

def tab : UInt8 := 0x09
def lineEnd : UInt8 := 0x0A
def quote : UInt8 := 0x22
def backslash : UInt8 := 0x5C

/-- None of the bytes is a quote without a backslash before it, and none is a backslash that would
take a quote behind them. -/
def unbroken : Bytes → Bool
  | [] => true
  | [b] => b != backslash && b != quote
  | a :: b :: rest =>
    if a = backslash then unbroken rest else a != quote && unbroken (b :: rest)

/-- Cuts at the first quote that has no backslash before it. -/
def cutQuoted : Bytes → Option (Bytes × Bytes)
  | [] => none
  | [b] => if b = quote then some ([], []) else none
  | a :: b :: rest =>
    if a = quote then some ([], b :: rest)
    else if a = backslash then (cutQuoted rest).map (Prod.map (a :: b :: ·) id)
    else (cutQuoted (b :: rest)).map (Prod.map (a :: ·) id)

/-- Whether the byte is none at which a field without quotes ends. -/
def isInner (b : UInt8) : Bool := b != tab && b != lineEnd

/-- A field as it stands in the record, and what is behind it. -/
def cutField : Bytes → Option (Bytes × Bytes)
  | [] => some ([], [])
  | b :: rest =>
    if b = quote then (cutQuoted rest).map (Prod.map (fun inner => quote :: (inner ++ [quote])) id)
    else some ((b :: rest).takeWhile isInner, (b :: rest).dropWhile isInner)

/-- The bytes are a field by themselves. -/
inductive Whole : Bytes → Prop
  | bare {bs : Bytes} (hstart : bs.head? ≠ some quote) (h : ∀ b ∈ bs, isInner b = true) : Whole bs
  | enclosed {inner : Bytes} (h : unbroken inner = true) : Whole (quote :: (inner ++ [quote]))

variable {bs inner field rest : Bytes} {a b : UInt8}

theorem unbroken_plain (h : a ≠ backslash) (bs : Bytes) :
    unbroken (a :: bs) = (a != quote && unbroken bs) := by
  cases bs with
  | nil => simp [unbroken, h]
  | cons b bs => rw [unbroken, if_neg h]

theorem unbroken_append (h : ∀ b ∈ bs, b ≠ backslash ∧ b ≠ quote) (rest : Bytes) :
    unbroken (bs ++ rest) = unbroken rest := by
  induction bs with
  | nil => rfl
  | cons b bs ih =>
    obtain ⟨⟨hbackslash, hquote⟩, hbs⟩ := List.forall_mem_cons.1 h
    rw [List.cons_append, unbroken_plain hbackslash, ih hbs]
    simp [hquote]

theorem cutQuoted_quote (rest : Bytes) : cutQuoted (quote :: rest) = some ([], rest) := by
  cases rest <;> simp [cutQuoted]

theorem cutQuoted_plain (hquote : a ≠ quote) (hbackslash : a ≠ backslash) (bs : Bytes) :
    cutQuoted (a :: bs) = (cutQuoted bs).map (Prod.map (a :: ·) id) := by
  cases bs with
  | nil => simp [cutQuoted, hquote]
  | cons b bs => rw [cutQuoted, if_neg hquote, if_neg hbackslash]

theorem cutQuoted_append (h : unbroken inner = true) (rest : Bytes) :
    cutQuoted (inner ++ quote :: rest) = some (inner, rest) := by
  fun_induction unbroken inner with
  | case1 => exact cutQuoted_quote rest
  | case2 b =>
    obtain ⟨hbackslash, hquote⟩ : b ≠ backslash ∧ b ≠ quote := by simpa using h
    rw [List.singleton_append, cutQuoted_plain hquote hbackslash, cutQuoted_quote]
    rfl
  | case3 b bs ih =>
    show cutQuoted (backslash :: b :: (bs ++ quote :: rest)) = _
    rw [cutQuoted, if_neg (by decide), if_pos rfl, ih h]
    rfl
  | case4 a b bs hbackslash ih =>
    obtain ⟨hquote, hbs⟩ : a ≠ quote ∧ unbroken (b :: bs) = true := by simpa using h
    rw [List.cons_append, cutQuoted_plain hquote hbackslash, ih hbs]
    rfl

/-- The cut is behind bytes that have no such quote, and takes the quote away. -/
theorem cutQuoted_eq_some_iff :
    cutQuoted bs = some (inner, rest) ↔ unbroken inner = true ∧ bs = inner ++ quote :: rest := by
  constructor
  · intro h
    fun_induction cutQuoted bs generalizing inner with
    | case1 => cases h
    | case2 =>
      cases h
      exact ⟨rfl, rfl⟩
    | case3 => cases h
    | case4 =>
      cases h
      exact ⟨rfl, rfl⟩
    | case5 b bs hne ih =>
      obtain ⟨⟨taken, left⟩, htaken, hcut⟩ := Option.map_eq_some_iff.1 h
      cases hcut
      obtain ⟨hunbroken, rfl⟩ := ih htaken
      exact ⟨by rwa [unbroken, if_pos rfl], rfl⟩
    | case6 a b bs hquote hbackslash ih =>
      obtain ⟨⟨taken, left⟩, htaken, hcut⟩ := Option.map_eq_some_iff.1 h
      cases hcut
      obtain ⟨hunbroken, hbs⟩ := ih htaken
      exact ⟨by simp [unbroken_plain hbackslash, hquote, hunbroken], by rw [hbs]; rfl⟩
  · rintro ⟨hunbroken, rfl⟩
    exact cutQuoted_append hunbroken rest

theorem cutField_bare (h : bs.head? ≠ some quote) :
    cutField bs = some (bs.takeWhile isInner, bs.dropWhile isInner) := by
  cases bs with
  | nil => rfl
  | cons b bs =>
    have hb : b ≠ quote := fun hb => h (congrArg some hb)
    rw [cutField, if_neg hb]

theorem cutField_quote (bs : Bytes) : cutField (quote :: bs) =
    (cutQuoted bs).map (Prod.map (fun inner => quote :: (inner ++ [quote])) id) := by
  rw [cutField, if_pos rfl]

theorem head?_append_ne (hfield : field.head? ≠ some quote) (hb : b ≠ quote) (rest : Bytes) :
    (field ++ b :: rest).head? ≠ some quote := by
  cases field with
  | nil => simpa using hb
  | cons d field => exact hfield

/-- A field before a byte that ends it is cut off there exactly if it is one by itself. -/
theorem cutField_eq_some_iff (hb : isInner b = false) :
    cutField bs = some (field, b :: rest) ↔ Whole field ∧ bs = field ++ b :: rest := by
  have hquote : b ≠ quote := by
    rintro rfl
    cases hb
  constructor
  · intro h
    by_cases hstart : bs.head? = some quote
    · obtain ⟨bs, rfl⟩ := List.head?_eq_some_iff.1 hstart
      rw [cutField_quote] at h
      obtain ⟨⟨inner, left⟩, hinner, hcut⟩ := Option.map_eq_some_iff.1 h
      cases hcut
      obtain ⟨hunbroken, rfl⟩ := cutQuoted_eq_some_iff.1 hinner
      exact ⟨.enclosed hunbroken, by simp⟩
    · rw [cutField_bare hstart] at h
      obtain ⟨htaken, hleft⟩ := Prod.mk.inj (Option.some.inj h)
      have hsplit : bs = field ++ b :: rest := by
        rw [← htaken, ← hleft, List.takeWhile_append_dropWhile]
      refine ⟨.bare ?_ ?_, hsplit⟩
      · intro hhead
        rw [hsplit, List.head?_append, hhead] at hstart
        exact hstart rfl
      · rw [← htaken]
        exact fun d hd => List.mem_takeWhile_imp hd
  · rintro ⟨hwhole, rfl⟩
    cases hwhole with
    | bare hstart hinner =>
      rw [cutField_bare (head?_append_ne hstart hquote rest), List.takeWhile_append_of_pos hinner,
        List.takeWhile_cons_of_neg (by simp [hb]), List.dropWhile_append_of_pos hinner,
        List.dropWhile_cons_of_neg (by simp [hb]), List.append_nil]
    | @enclosed inner hunbroken =>
      rw [List.cons_append, cutField_quote, List.append_assoc, List.singleton_append,
        cutQuoted_append hunbroken]
      rfl

theorem length_of_cutField {after : Bytes} (h : cutField bs = some (field, after)) :
    after.length ≤ bs.length := by
  by_cases hstart : bs.head? = some quote
  · obtain ⟨bs, rfl⟩ := List.head?_eq_some_iff.1 hstart
    rw [cutField_quote] at h
    obtain ⟨⟨inner, left⟩, hinner, hcut⟩ := Option.map_eq_some_iff.1 h
    cases hcut
    obtain ⟨-, rfl⟩ := cutQuoted_eq_some_iff.1 hinner
    simp
    omega
  · rw [cutField_bare hstart] at h
    cases h
    exact (List.dropWhile_suffix _).length_le

/-- The fields of the first record, and what is behind it. -/
def readRecord (bs : Bytes) : Option (List Bytes × Bytes) :=
  match _h : cutField bs with
  | some (field, b :: rest) =>
    if b = lineEnd then some ([field], rest)
    else if b = tab then (readRecord rest).map (Prod.map (field :: ·) id)
    else none
  | _ => none
termination_by bs.length
decreasing_by
  have hlength := length_of_cutField _h
  rw [List.length_cons] at hlength
  omega

theorem readRecord_of_cut (h : cutField bs = some (field, b :: rest)) :
    readRecord bs = if b = lineEnd then some ([field], rest)
      else if b = tab then (readRecord rest).map (Prod.map (field :: ·) id) else none := by
  rw [readRecord]
  split
  · rename_i hcut
    rw [h] at hcut
    cases hcut
    rfl
  · rename_i hnone
    exact absurd h (hnone _ _ _)

theorem readRecord_line (h : Whole field) (rest : Bytes) :
    readRecord (field ++ lineEnd :: rest) = some ([field], rest) :=
  readRecord_of_cut ((cutField_eq_some_iff rfl).2 ⟨h, rfl⟩)

theorem readRecord_tab (h : Whole field) (rest : Bytes) :
    readRecord (field ++ tab :: rest) = (readRecord rest).map (Prod.map (field :: ·) id) :=
  readRecord_of_cut ((cutField_eq_some_iff rfl).2 ⟨h, rfl⟩)

/-- A record is read exactly if it is fields that are each one by itself, with tabs between them and
a line end. -/
theorem readRecord_eq_some_iff {fields : List Bytes} : readRecord bs = some (fields, rest) ↔
    fields ≠ [] ∧ (∀ field ∈ fields, Whole field) ∧
      bs = [tab].intercalate fields ++ lineEnd :: rest := by
  constructor
  · intro h
    fun_induction readRecord bs generalizing fields with
    | case1 bs field after hcut =>
      cases h
      obtain ⟨hwhole, rfl⟩ := (cutField_eq_some_iff rfl).1 hcut
      exact ⟨List.cons_ne_nil _ _, by simpa using hwhole, by simp [List.intercalate]⟩
    | case2 bs field after hcut _ ih =>
      obtain ⟨⟨more, left⟩, hmore, hread⟩ := Option.map_eq_some_iff.1 h
      cases hread
      obtain ⟨hwhole, rfl⟩ := (cutField_eq_some_iff rfl).1 hcut
      obtain ⟨hsome, hall, rfl⟩ := ih hmore
      refine ⟨List.cons_ne_nil _ _, List.forall_mem_cons.2 ⟨hwhole, hall⟩, ?_⟩
      rw [intercalate_cons, if_neg (by simpa using hsome)]
      simp
    | case3 => cases h
    | case4 => cases h
  · rintro ⟨hsome, hall, rfl⟩
    induction fields with
    | nil => exact absurd rfl hsome
    | cons field more ih =>
      obtain ⟨hwhole, hmore⟩ := List.forall_mem_cons.1 hall
      rw [intercalate_cons]
      cases more with
      | nil =>
        rw [show [tab].intercalate [] = [] from rfl]
        simp [readRecord_line hwhole]
      | cons next more =>
        rw [if_neg (by simp), List.append_assoc, List.append_assoc, List.singleton_append,
          readRecord_tab hwhole, ih (List.cons_ne_nil _ _) hmore]
        rfl

theorem default_uses : ({} : Format).Uses markedMarks := ⟨rfl, rfl, rfl, rfl⟩

theorem ofText_quote : Bytes.ofText "\"" = [quote] := by decide +kernel

/-- What a field without escapes of its own needs to be one by itself: backslashes before the quotes
of a text, and no byte in binary data that ends it early. -/
def Stands (hint : Hint) : Cell → Prop
  | .text s => hint = .escaped ∨ unbroken (Bytes.ofText s) = true
  | .binary b => Whole b
  | _ => True

theorem whole_quoted_iff : Whole (quote :: (inner ++ [quote])) ↔ unbroken inner = true := by
  constructor
  · intro h
    generalize hbs : quote :: (inner ++ [quote]) = bs at h
    cases h with
    | bare hstart =>
      subst hbs
      exact absurd rfl hstart
    | @enclosed inner' h =>
      have hinner := List.append_cancel_right (List.cons.inj hbs).2
      rwa [hinner]
  · exact .enclosed

theorem unbroken_utf8EncodeChar {c : Char} (h : markedMarks.special c = false) (rest : Bytes) :
    unbroken (String.utf8EncodeChar c ++ rest) = unbroken rest := by
  obtain ⟨hbackslash, hquote⟩ : c ≠ '\\' ∧ c ≠ '"' := by simpa [Marks.special, markedMarks] using h
  refine unbroken_append (fun b hb => ⟨?_, ?_⟩) rest
  · rintro rfl
    exact hbackslash (Bytes.eq_of_mem_utf8EncodeChar (c := '\\') (by decide) hb)
  · rintro rfl
    exact hquote (Bytes.eq_of_mem_utf8EncodeChar (c := '"') (by decide) hb)

/-- Escapes keep a text unbroken. -/
theorem unbroken_escaped (s : String) :
    unbroken (Bytes.ofText (({} : Format).escaped s)) = true := by
  rw [← String.ofList_toList (s := Format.escaped {} s), default_uses.toList_escaped,
    Bytes.ofText_ofList, List.flatMap_assoc]
  induction s.toList with
  | nil => rfl
  | cons c cs ih =>
    rw [List.flatMap_cons]
    cases hc : markedMarks.special c with
    | true =>
      have hmark : c = '\\' ∨ c = '"' := by simpa [Marks.special, markedMarks] using hc
      rw [escapedChar_special hc]
      rcases hmark with rfl | rfl <;> exact ih
    | false =>
      rw [escapedChar_plain hc, List.flatMap_singleton, unbroken_utf8EncodeChar hc, ih]

theorem whole_of_printed {s : String} (h : Printed s) : Whole (Bytes.ofText s) := by
  have hnot : ∀ c : Char, c.toNat < 128 → isPrinted c = false →
      UInt8.ofNat c.toNat ∉ Bytes.ofText s := by
    intro c hascii hc hmem
    have hprinted := h c (Bytes.mem_of_mem_ofText hascii hmem)
    rw [hc] at hprinted
    cases hprinted
  refine .bare (fun hhead => ?_) fun b hb => ?_
  · exact hnot '"' (by decide) (by decide) (List.mem_of_head? hhead)
  · have htab : b ≠ tab := by
      rintro rfl
      exact hnot '\t' (by decide) (by decide) hb
    have hline : b ≠ lineEnd := by
      rintro rfl
      exact hnot '\n' (by decide) (by decide) hb
    simp [isInner, htab, hline]

theorem ofText_enclosed (s : String) :
    Bytes.ofText (({} : Format).enclosed s) = quote :: (Bytes.ofText s ++ [quote]) := by
  show Bytes.ofText ("\"" ++ s ++ "\"") = _
  rw [Bytes.ofText_append, Bytes.ofText_append, ofText_quote]
  rfl

/-- What is written for a value is one field by itself exactly if the value asks for it. -/
theorem whole_field_iff (hint : Hint) (precision : Option UInt32) (cell : Cell) :
    Whole (({} : Format).field hint precision cell) ↔ Stands hint cell := by
  have hprinted : ∀ k, cell.kind? = some k → k ≠ .text → k ≠ .binary →
      Whole (({} : Format).field hint precision cell) := by
    intro k hk htext hbinary
    obtain ⟨s, hs, h⟩ := Format.field_printed {} hint precision hk htext hbinary
    rw [hs]
    exact whole_of_printed h
  cases cell with
  | null => exact iff_of_true (whole_of_printed (by decide : Printed "")) trivial
  | text s =>
    cases hint with
    | escaped =>
      refine iff_of_true ?_ (.inl rfl)
      show Whole (Bytes.ofText (({} : Format).enclosed (({} : Format).escaped s)))
      rw [ofText_enclosed]
      exact .enclosed (unbroken_escaped s)
    | _ =>
      show Whole (Bytes.ofText (({} : Format).enclosed s)) ↔ _
      rw [ofText_enclosed, whole_quoted_iff, Stands, or_iff_right nofun]
  | binary b => rfl
  | _ => exact iff_of_true (hprinted _ rfl nofun nofun) trivial

/-- The columns of a bound mapping, one for each of its entries. -/
theorem length_textColumns {m : Mapping} {input : Schema} {p : Projection}
    (h : m.bind input = .ok p) : (textColumns p).length = m.entries.length := by
  obtain ⟨bs, hbound, hbinds⟩ := Mapping.binds_of_bind h
  simp [textColumns, Projection.columns, hbinds.sources, hbinds.hints, hbinds.fields,
    hbound.entries]

/-- The field of a column is one by itself exactly if the value of the column asks for it. -/
theorem whole_fieldOf_iff {row : Row} {c : TextColumn}
    (h : ({} : Format).fieldOf row c = .ok bs) :
    Whole bs ↔ ∀ cell, c.column.cell row = .ok cell → Stands c.hint cell := by
  obtain ⟨cell, hcell, rfl⟩ := Format.fieldOf_eq_ok h
  rw [whole_field_iff]
  constructor
  · intro hstands cell' hcell'
    rw [hcell] at hcell'
    cases hcell'
    exact hstands
  · exact fun hstands => hstands cell hcell

/-- The record of a row is one record with a field for each entry of the mapping. The fields found
in it are those that were written exactly if each text without escapes and each binary value stands
by itself. -/
theorem record_read_iff {m : Mapping} {input : Schema} {p : Projection}
    (hbind : m.bind input = .ok p) (hsome : m.entries ≠ []) {row : Row} {record : Bytes}
    (hrecord : (Encoder.ofFormat {} p).record row = .ok record) :
    ∃ fields, (textColumns p).mapM (({} : Format).fieldOf row) = .ok fields ∧
      fields.length = m.entries.length ∧
      (readRecord record = some (fields, []) ↔
        ∀ c ∈ textColumns p, ∀ cell, c.column.cell row = .ok cell → Stands c.hint cell) := by
  have hform : (Encoder.ofFormat {} p).record row = _ :=
    (Format.fill_appended {} (textColumns p) row []).record_eq
  rw [hrecord] at hform
  cases hfields : (textColumns p).mapM (({} : Format).fieldOf row) with
  | error e =>
    rw [hfields] at hform
    cases hform
  | ok fields =>
    rw [hfields] at hform
    have hlength : fields.length = m.entries.length := by
      rw [length_of_mapM_ok hfields, length_textColumns hbind]
    have hne : fields ≠ [] := by
      rintro rfl
      exact hsome (List.length_eq_zero_iff.1 hlength.symm)
    have hjoined : record = [tab].intercalate fields ++ [lineEnd] := by
      cases hform
      rfl
    refine ⟨fields, rfl, hlength, ?_⟩
    calc readRecord record = some (fields, [])
      _ ↔ ∀ field ∈ fields, Whole field := by
        rw [readRecord_eq_some_iff]
        exact ⟨fun h => h.2.1, fun h => ⟨hne, h, hjoined⟩⟩
      _ ↔ _ := forall_mem_iff_of_forall₂ (mapM_eq_ok_iff.1 hfields) fun _ _ => whole_fieldOf_iff

/-- Two columns without escapes, a text and bytes. -/
def rawMapping : Mapping := ⟨[⟨"said", "text", .plain⟩, ⟨"data", "bytes", .plain⟩]⟩

def rawSchema : Schema :=
  ⟨[{ name := "said", kind := .text }, { name := "data", kind := .binary }], by decide⟩

def rawProjection : Projection :=
  ⟨[0, 1], [.plain, .plain],
    ⟨[{ name := "text", kind := .text }, { name := "bytes", kind := .binary }], by decide⟩⟩

theorem rawMapping_bind : rawMapping.bind rawSchema = .ok rawProjection := by
  rfl

theorem record_read_raw : ∃ record fields,
    (Encoder.ofFormat {} rawProjection).record [.text "a\\\"\tb", .binary [0xFF, 0x22]] =
      .ok record ∧ fields.length = 2 ∧ readRecord record = some (fields, []) := by
  have hrecord : ∃ record, (Encoder.ofFormat {} rawProjection).record
      [.text "a\\\"\tb", .binary [0xFF, 0x22]] = .ok record := ⟨_, rfl⟩
  obtain ⟨record, hrecord⟩ := hrecord
  obtain ⟨fields, -, hlength, hread⟩ :=
    record_read_iff rawMapping_bind (List.cons_ne_nil _ _) hrecord
  refine ⟨record, fields, hrecord, hlength, hread.2 ?_⟩
  intro c hc cell hcell
  rcases List.mem_cons.1 hc with rfl | hc
  · cases hcell
    exact .inr (by decide +kernel)
  · rcases List.mem_cons.1 hc with rfl | hc
    · cases hcell
      exact .bare (by decide) (by simp [isInner, tab, lineEnd])
    · cases hc

/-- A quote without a backslash ends its field, and the tab behind it starts another one: a record
of one column is read as one of two fields, and so as nothing else. -/
theorem quote_splits_field : ∃ s : Schema, ∃ p record,
    (Mapping.identity s).bind s = .ok p ∧ (Mapping.identity s).entries.length = 1 ∧
    (Encoder.ofFormat {} p).record [.text "a\"\tb"] = .ok record ∧
    ∃ fields, readRecord record = some (fields, []) ∧ fields.length = 2 := by
  let s : Schema := ⟨[{ name := "x", kind := .text }], by decide⟩
  let fields : List Bytes := [[quote, 0x61, quote], [0x62, quote]]
  refine ⟨s, ⟨[0], [.plain], s⟩, [tab].intercalate fields ++ [lineEnd], rfl, rfl, ?_, fields,
    readRecord_eq_some_iff.2 ⟨List.cons_ne_nil _ _, ?_, rfl⟩, rfl⟩
  · decide +kernel
  · intro field hfield
    rcases List.mem_cons.1 hfield with rfl | hfield
    · show Whole (quote :: ([0x61] ++ [quote]))
      exact .enclosed rfl
    · cases List.mem_singleton.1 hfield
      exact .bare (by decide) (by simp [isInner, tab, lineEnd, quote])

end Delimited
end BulkLoad
