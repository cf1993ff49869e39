import BulkLoad.Cube.Header

/-!
The header of a cube stream reads back as the schema it was made of, field by field, with whatever
follows it left over.
-/

namespace BulkLoad.Cube

/-- The counts and texts of a header fit the four bytes that each has for its length. -/
structure Fits (s : Schema) : Prop where
  size : s.size < 2 ^ 32
  names : ∀ f ∈ s.fields, f.name.utf8ByteSize < 2 ^ 32
  origins : ∀ f ∈ s.fields, f.origin.utf8ByteSize < 2 ^ 32

theorem takeOption_putOption (n : Option UInt32) (part : Part) (rest : Bytes) :
    takeOption part (putOption n ++ rest) = .ok (n, rest) := by
  cases n with
  | none =>
    have h : takeNat 1 part (0 :: rest) = .ok (0, rest) :=
      takeNat_bigEndian (show 0 < 256 ^ 1 by decide) part rest
    show takeOption part (0 :: rest) = _
    rw [takeOption, h]
    rfl
  | some n =>
    have hmarker : takeNat 1 part (1 :: (Bytes.bigEndian 4 n.toNat ++ rest)) =
        .ok (1, Bytes.bigEndian 4 n.toNat ++ rest) :=
      takeNat_bigEndian (show 1 < 256 ^ 1 by decide) part _
    have hnumber : takeNat 4 part (Bytes.bigEndian 4 n.toNat ++ rest) = .ok (n.toNat, rest) :=
      takeNat_bigEndian n.toNat_lt part rest
    show takeOption part (1 :: (Bytes.bigEndian 4 n.toNat ++ rest)) = _
    rw [takeOption, hmarker]
    simp [hnumber, bind, Except.bind, pure, Except.pure]

/-- A field reads back. -/
theorem takeField_putField {f : Field} (hn : f.name.utf8ByteSize < 2 ^ 32)
    (ho : f.origin.utf8ByteSize < 2 ^ 32) (rest : Bytes) :
    takeField (putField f ++ rest) = .ok (f, rest) := by
  have hbytes : putField f ++ rest = putText f.name ++ f.kind.tag ::
      (putOption f.length ++ (putOption f.precision ++ (putText f.origin ++ rest))) := by
    simp [putField]
  rw [hbytes, takeField, takeText_putText hn]
  simp [takeByte, Kind.ofTag?_tag, takeOption_putOption, takeText_putText ho, bind, Except.bind,
    pure, Except.pure]

/-- Fields that differ from each other and from those before them are all taken. -/
theorem takeFields_putField (fields : List Field) (s : Schema)
    (hn : ∀ f ∈ fields, f.name.utf8ByteSize < 2 ^ 32)
    (ho : ∀ f ∈ fields, f.origin.utf8ByteSize < 2 ^ 32)
    (hd : (s.fields ++ fields).Pairwise Field.Distinct) (rest : Bytes) :
    takeFields fields.length s (fields.flatMap putField ++ rest) =
      .ok (⟨s.fields ++ fields, hd⟩, rest) := by
  induction fields generalizing s with
  | nil => simp [takeFields]
  | cons f fields ih =>
    obtain ⟨⟨_, d⟩, hadd, rfl⟩ := Schema.add_free (Schema.hasName_eq_false hd)
    have hrest := ih ⟨s.fields ++ [f], d⟩ (fun g hg => hn g (List.mem_cons_of_mem _ hg))
      (fun g hg => ho g (List.mem_cons_of_mem _ hg)) (by simpa using hd)
    rw [List.length_cons, takeFields, List.flatMap_cons, List.append_assoc,
      takeField_putField (hn f List.mem_cons_self) (ho f List.mem_cons_self)]
    simp only [bind, Except.bind, hadd, hrest]
    simp

/-- The header of any fields, also of such as no schema has together. -/
def headerOf (fields : List Field) : Bytes :=
  magic ++ Bytes.bigEndian 2 version ++ Bytes.bigEndian 4 fields.length ++ fields.flatMap putField

/-- Behind the magic bytes, the version and the count it is all about the fields. -/
theorem takeHeader_headerOf {fields : List Field} (h : fields.length < 2 ^ 32) (rest : Bytes) :
    takeHeader (headerOf fields ++ rest) =
      takeFields fields.length .empty (fields.flatMap putField ++ rest) := by
  have hbytes : headerOf fields ++ rest = magic ++ (Bytes.bigEndian 2 version ++
      (Bytes.bigEndian 4 fields.length ++ (fields.flatMap putField ++ rest))) := by
    simp [headerOf]
  have hversion : takeNat 2 .version (Bytes.bigEndian 2 version ++
      (Bytes.bigEndian 4 fields.length ++ (fields.flatMap putField ++ rest))) =
      .ok (version, Bytes.bigEndian 4 fields.length ++ (fields.flatMap putField ++ rest)) :=
    takeNat_bigEndian (by decide) _ _
  have hcount : takeNat 4 .fieldCount (Bytes.bigEndian 4 fields.length ++
      (fields.flatMap putField ++ rest)) = .ok (fields.length, fields.flatMap putField ++ rest) :=
    takeNat_bigEndian h _ _
  rw [hbytes, takeHeader, take_append]
  simp only [bind, Except.bind, hversion, hcount, ne_eq, not_true_eq_false, if_false]

/-- The header of a schema reads back as that schema. -/
theorem takeHeader_putHeader {s : Schema} (h : Fits s) (rest : Bytes) :
    takeHeader (putHeader s ++ rest) = .ok (s, rest) := by
  have hfields := takeFields_putField s.fields .empty h.names h.origins
    (by simpa [Schema.empty] using s.distinct) rest
  show takeHeader (headerOf s.fields ++ rest) = _
  rw [takeHeader_headerOf h.size]
  exact hfields

end BulkLoad.Cube
