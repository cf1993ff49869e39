import BulkLoad.Proofs.Cube.Header
import BulkLoad.Proofs.Cube.Taker

/-!
Headers are canonical. Every schema within the limits has a header, every header that is accepted is
that of the schema it is read as, and fields whose names clash are turned down at the first clash.
-/

namespace BulkLoad

namespace Cube

/-- The texts of a field fit the four bytes that each has for its length. -/
def Short (f : Field) : Prop := f.name.utf8ByteSize < 2 ^ 32 ∧ f.origin.utf8ByteSize < 2 ^ 32

instance (f : Field) : Decidable (Short f) := inferInstanceAs (Decidable (_ ∧ _))

theorem takeOption_eq_ok_iff {part : Part} {b rest : Bytes} {n : Option UInt32} :
    takeOption part b = .ok (n, rest) ↔ b = putOption n ++ rest := by
  constructor
  · intro h
    obtain ⟨⟨marker, behind⟩, hmarker, hnumber⟩ := bind_eq_ok_iff.1 h
    obtain ⟨-, rfl⟩ := takeNat_eq_ok_iff.1 hmarker
    dsimp only at hnumber
    split at hnumber
    · rename_i hzero
      subst hzero
      cases hnumber
      rfl
    · split at hnumber
      case isFalse => cases hnumber
      rename_i hone
      subst hone
      obtain ⟨⟨m, after⟩, hm, hdone⟩ := bind_eq_ok_iff.1 hnumber
      obtain ⟨hlt, rfl⟩ := takeNat_eq_ok_iff.1 hm
      cases hdone
      rw [putOption, UInt32.toNat_ofNat_of_lt' hlt]
      rfl
  · rintro rfl
    exact takeOption_putOption n part rest

theorem takeField_eq_ok_iff {b rest : Bytes} {f : Field} :
    takeField b = .ok (f, rest) ↔ Short f ∧ b = putField f ++ rest := by
  constructor
  · intro h
    obtain ⟨⟨name, b₁⟩, hname, h₁⟩ := bind_eq_ok_iff.1 h
    obtain ⟨⟨tag, b₂⟩, htag, h₂⟩ := bind_eq_ok_iff.1 h₁
    dsimp only at h₂
    split at h₂
    case h_2 => cases h₂
    rename_i kind hkind
    rw [pure_bind] at h₂
    obtain ⟨⟨length, b₃⟩, hlength, h₃⟩ := bind_eq_ok_iff.1 h₂
    obtain ⟨⟨precision, b₄⟩, hprecision, h₄⟩ := bind_eq_ok_iff.1 h₃
    obtain ⟨⟨origin, b₅⟩, horigin, h₅⟩ := bind_eq_ok_iff.1 h₄
    cases h₅
    obtain ⟨hn, rfl⟩ := takeText_eq_ok_iff.1 hname
    obtain rfl := takeByte_eq_ok_iff.1 htag
    obtain rfl := takeOption_eq_ok_iff.1 hlength
    obtain rfl := takeOption_eq_ok_iff.1 hprecision
    obtain ⟨ho, rfl⟩ := takeText_eq_ok_iff.1 horigin
    exact ⟨⟨hn, ho⟩, by simp [putField, Kind.tag_of_ofTag? hkind]⟩
  · rintro ⟨hf, rfl⟩
    exact takeField_putField hf.1 hf.2 rest

theorem fields_of_takeFields {n : Nat} {s s' : Schema} {b rest : Bytes}
    (h : takeFields n s b = .ok (s', rest)) :
    ∃ fields, fields.length = n ∧ (∀ f ∈ fields, Short f) ∧ s'.fields = s.fields ++ fields ∧
      b = fields.flatMap putField ++ rest := by
  induction n generalizing s b with
  | zero =>
    cases h
    exact ⟨[], rfl, by simp, by simp, by simp⟩
  | succ n ih =>
    obtain ⟨⟨f, behind⟩, hf, hadd⟩ := bind_eq_ok_iff.1 h
    obtain ⟨hshort, rfl⟩ := takeField_eq_ok_iff.1 hf
    dsimp only at hadd
    rcases s.add_cases f with ⟨name, ha⟩ | ⟨longer, ha, hlonger⟩
    · simp [ha, throw, throwThe, MonadExceptOf.throw] at hadd
    rw [ha] at hadd
    obtain ⟨fields, hn, hall, hfields, rfl⟩ := ih hadd
    refine ⟨f :: fields, by simp [hn], ?_, ?_, by simp⟩
    · exact List.forall_mem_cons.2 ⟨hshort, hall⟩
    · rw [hfields, hlonger, List.append_assoc, List.singleton_append]

theorem header_of_takeHeader {s : Schema} {b rest : Bytes} (h : takeHeader b = .ok (s, rest)) :
    Fits s ∧ b = putHeader s ++ rest := by
  obtain ⟨⟨m, b₁⟩, hm, h₁⟩ := bind_eq_ok_iff.1 h
  obtain ⟨-, rfl⟩ := take_eq_ok_iff.1 hm
  dsimp only at h₁
  split at h₁
  case isTrue => cases h₁
  rename_i hmagic
  obtain ⟨⟨v, b₂⟩, hv, h₂⟩ := bind_eq_ok_iff.1 h₁
  obtain ⟨-, rfl⟩ := takeNat_eq_ok_iff.1 hv
  dsimp only at h₂
  split at h₂
  case isTrue => cases h₂
  rename_i hversion
  obtain ⟨⟨count, b₃⟩, hcount, h₃⟩ := bind_eq_ok_iff.1 h₂
  obtain ⟨hlt, rfl⟩ := takeNat_eq_ok_iff.1 hcount
  obtain ⟨fields, rfl, hshort, hfields, rfl⟩ := fields_of_takeFields h₃
  replace hfields : s.fields = fields := hfields
  subst hfields
  refine ⟨⟨hlt, fun f hf => (hshort f hf).1, fun f hf => (hshort f hf).2⟩, ?_⟩
  simp [putHeader, Decidable.not_not.1 hmagic, Decidable.not_not.1 hversion, Schema.size]

/-- An accepted header is the one that the schema has. -/
theorem takeHeader_eq_ok_iff {s : Schema} {b rest : Bytes} :
    takeHeader b = .ok (s, rest) ↔ Fits s ∧ b = putHeader s ++ rest := by
  constructor
  · exact header_of_takeHeader
  · rintro ⟨hs, rfl⟩
    exact takeHeader_putHeader hs rest

theorem exists_clash {fields : List Field} (h : ¬fields.Pairwise Field.Distinct) :
    ∃ f ∈ fields, Schema.empty.firstClash [] fields = some f := by
  cases hclash : Schema.empty.firstClash [] fields with
  | none => exact absurd (Schema.distinct_of_firstClash_eq_none .nil hclash) h
  | some f => exact ⟨f, Schema.mem_of_firstClash hclash, rfl⟩

/-- Fields are taken up to the first whose name stands before it. -/
theorem takeFields_clash {fields before : List Field} {s t : Schema} {f : Field}
    (htaken : t.fields = s.fields ++ before) (hshort : ∀ g ∈ fields, Short g)
    (h : s.firstClash before fields = some f) (rest : Bytes) :
    takeFields fields.length t (fields.flatMap putField ++ rest) =
      .error (.schema (.duplicateField f.name)) := by
  induction fields generalizing t before with
  | nil => cases h
  | cons g fields ih =>
    obtain ⟨hg, hfields⟩ := List.forall_mem_cons.1 hshort
    rw [List.length_cons, takeFields, List.flatMap_cons, List.append_assoc,
      takeField_putField hg.1 hg.2]
    cases hname : Schema.hasName t.fields g.name with
    | true =>
      have hfirst := Schema.firstClash_taken (htaken ▸ hname) fields
      rw [hfirst] at h
      cases h
      simp only [bind, Except.bind, Schema.add_taken hname]
      rfl
    | false =>
      obtain ⟨longer, hadd, hlonger⟩ := Schema.add_free hname
      rw [Schema.firstClash_free (htaken ▸ hname)] at h
      rw [htaken, List.append_assoc] at hlonger
      simp only [bind, Except.bind, hadd]
      exact ih hlonger hfields h

/-- Headers and schemas stand for each other. A schema within the limits is read off its header,
with whatever follows left over, and no other bytes are read as that schema; fields of which two
have the same name, case ignored, are refused as such. -/
theorem headers_canonical :
    (∀ (s : Schema) (b rest : Bytes),
      takeHeader b = .ok (s, rest) ↔ Fits s ∧ b = putHeader s ++ rest) ∧
    (∀ fields : List Field, fields.length < 2 ^ 32 → (∀ f ∈ fields, Short f) →
      ¬fields.Pairwise Field.Distinct → ∀ rest, ∃ f ∈ fields,
        takeHeader (headerOf fields ++ rest) = .error (.schema (.duplicateField f.name))) ∧
    (∀ (s : Schema) (h₁ h₂ r₁ r₂ : Bytes), takeHeader (h₁ ++ r₁) = .ok (s, r₁) →
      takeHeader (h₂ ++ r₂) = .ok (s, r₂) → h₁ = h₂) := by
  refine ⟨fun s b rest => takeHeader_eq_ok_iff, ?_, ?_⟩
  · intro fields hlength hshort hclash rest
    obtain ⟨f, hf, hfirst⟩ := exists_clash hclash
    refine ⟨f, hf, ?_⟩
    rw [takeHeader_headerOf hlength]
    exact takeFields_clash (List.append_nil _).symm hshort hfirst rest
  · intro s h₁ h₂ r₁ r₂ hread₁ hread₂
    have hbytes₁ := (header_of_takeHeader hread₁).2
    have hbytes₂ := (header_of_takeHeader hread₂).2
    rw [List.append_cancel_right hbytes₁, List.append_cancel_right hbytes₂]

/-- Two names that differ in case alone are refused, whatever follows them. -/
theorem headers_canonical_clash :
    let fields : List Field :=
      [{ name := "amount", kind := .decimal, precision := some 4294967295 },
        { name := "note", kind := .unresolved }, { name := "AMOUNT", kind := .text }]
    ∃ f ∈ fields,
      takeHeader (headerOf fields ++ [1, 2]) = .error (.schema (.duplicateField f.name)) :=
  headers_canonical.2.1 _ (by decide) (by decide) (by decide +kernel) [1, 2]

end Cube
end BulkLoad
