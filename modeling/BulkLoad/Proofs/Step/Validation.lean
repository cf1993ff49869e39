import BulkLoad.Proofs.Schema.Names
import BulkLoad.Proofs.Step.Positions

/-!
What the validation of a configuration promises to those who use it. Its columns have different
keys, so a negotiation for which every field is there can only fail over names that are the same
and have different keys. Its loader has a command, unless an option is a character of more than one
byte, or more than one character, where the copy statement takes a single byte.
-/

namespace BulkLoad

/-- Two entries are for one column, under names that have different keys. -/
def Mapping.Torn (m : Mapping) : Prop := ∃ e ∈ m.entries, ∃ e' ∈ m.entries,
  sameName e.column e'.column = true ∧ foldedName e.column ≠ foldedName e'.column

namespace Mapping

variable {m : Mapping}

theorem pairwise_apart_iff : m.entries.Pairwise MappingEntry.Apart ↔ ∀ i, ¬ m.RepeatsAt i := by
  constructor
  · exact fun h i hi => not_repeatsAt (List.append_nil _).symm h hi.lt hi
  · intro h
    refine List.pairwise_iff_getElem.2 fun i j hi hj hij => ?_
    by_contra hsame
    rw [MappingEntry.Apart, Bool.not_eq_false] at hsame
    exact h j ⟨i, _, _, hij, List.getElem?_eq_getElem hi, List.getElem?_eq_getElem hj, hsame⟩

/-- Columns with different keys are different columns, except for names that are the same under
different keys. -/
theorem apart_iff_not_torn (h : (m.entries.map fun e => foldedName e.column).Nodup) :
    (∀ i, ¬ m.RepeatsAt i) ↔ ¬ m.Torn := by
  have hkeys := List.pairwise_iff_getElem.1 (List.pairwise_map.1 h)
  rw [← pairwise_apart_iff]
  constructor
  · rintro hapart ⟨e, he, e', he', hsame, hne⟩
    obtain ⟨i, hi, rfl⟩ := List.getElem_of_mem he
    obtain ⟨j, hj, rfl⟩ := List.getElem_of_mem he'
    have hpairs := List.pairwise_iff_getElem.1 hapart
    rcases Nat.lt_trichotomy i j with hlt | rfl | hgt
    · have hdistinct : sameName _ _ = false := hpairs i j hi hj hlt
      rw [hsame] at hdistinct
      cases hdistinct
    · exact hne rfl
    · have hdistinct : sameName _ _ = false := hpairs j i hj hi hgt
      rw [sameName_comm, hsame] at hdistinct
      cases hdistinct
  · intro hwhole
    refine List.pairwise_iff_getElem.2 fun i j hi hj hij => ?_
    by_contra hsame
    rw [MappingEntry.Apart, Bool.not_eq_false] at hsame
    exact hwhole ⟨_, List.getElem_mem hi, _, List.getElem_mem hj, hsame, hkeys i j hi hj hij⟩

/-- Names that are the same under different keys have a capital sigma that ends a word. -/
theorem Torn.finalSigma (h : m.Torn) :
    ∃ e ∈ m.entries, Text.hasFinalSigma e.column = true := by
  obtain ⟨e, he, e', he', hsame, hne⟩ := h
  by_contra hnone
  push Not at hnone
  simp only [Bool.not_eq_true] at hnone
  exact hne ((sameName_iff_foldedName_eq (hnone e he) (hnone e' he')).1 hsame)

end Mapping

namespace Step

variable {c : Config} {plan : Plan} {input : Schema}

theorem problemIf_eq_nil_iff {condition : Bool} {p : Problem} :
    problemIf condition p = [] ↔ condition = false := by
  cases condition <;> simp [problemIf]

/-- Entries have no problem exactly if they have names, and columns whose keys are different and
not among those seen before. -/
theorem entryProblems_eq_nil_iff {seen : List String} {index : Nat} {entries : List MappingEntry} :
    entryProblems seen index entries = [] ↔
      (∀ e ∈ entries, Text.isAllBlank e.stream = false ∧ Text.isAllBlank e.column = false) ∧
      (entries.map fun e => foldedName e.column).Nodup ∧
      ∀ e ∈ entries, foldedName e.column ∉ seen := by
  induction entries generalizing seen index with
  | nil => simp [entryProblems]
  | cons e rest ih =>
    rw [entryProblems, List.append_eq_nil_iff, problemIf_eq_nil_iff]
    by_cases hblank : Text.isAllBlank e.column = true
    · simp [hblank]
    by_cases hseen : foldedName e.column ∈ seen
    · simp [hblank, hseen]
    · simp only [hblank, List.contains_iff_mem, hseen, Bool.false_eq_true, if_false, ih,
        List.map_cons, List.nodup_cons, List.mem_map, List.mem_cons]
      grind

/-- What is known of a configuration that has no problem. -/
structure Config.Sound (c : Config) : Prop where
  keys : (c.mapping.entries.map fun e => foldedName e.column).Nodup
  loader : c.hasLoader = true → loaderProblems c = []

theorem Config.sound_of_validate (h : c.validate = .ok ()) : c.Sound := by
  have hnone := problems_of_validate h
  simp only [problems, List.append_eq_nil_iff] at hnone
  obtain ⟨⟨⟨⟨-, hentries⟩, -⟩, hloader⟩, -⟩ := hnone
  refine ⟨(entryProblems_eq_nil_iff.1 hentries).2.1, fun hhas => ?_⟩
  rwa [if_pos hhas] at hloader

/-- When every field is there, a negotiation of a sound configuration succeeds exactly if no two
entries are for one column under different keys. -/
theorem Plan.negotiate_ok_iff (hc : plan.config.Sound)
    (hinput : plan.config.validateInput input = .ok ()) :
    (∃ a, plan.negotiate input = .ok a) ↔ ¬ plan.config.mapping.Torn := by
  rw [← Mapping.apart_iff_not_torn hc.keys]
  have hended := plan.negotiated input
  generalize plan.negotiate input = ended at hended ⊢
  cases hended with
  | unfed some =>
    rw [Config.validateInput_eq, if_neg some] at hinput
    cases hinput
  | @repeated i e fed entry again first => exact iff_of_false nofun fun h => h i again
  | agreed fed apart bound same binds => exact iff_of_true ⟨_, rfl⟩ apart

/-- A configuration that passes validation, with an input that has its fields, comes to an agreement
unless it has two entries for one column whose names have different keys. It has none where no
capital sigma ends a word in a name, as the two ways to compare names agree on such names. -/
theorem Plan.validated_negotiates (hvalid : plan.config.validate = .ok ())
    (hinput : plan.config.validateInput input = .ok ()) :
    ((∃ a, plan.negotiate input = .ok a) ↔ ¬ plan.config.mapping.Torn) ∧
    ((∀ e ∈ plan.config.mapping.entries, Text.hasFinalSigma e.column = false) →
      ∃ a, plan.negotiate input = .ok a) ∧
    ∀ a b : String, Text.hasFinalSigma a = false → Text.hasFinalSigma b = false →
      (sameName a b = true ↔ foldedName a = foldedName b) := by
  have hok := Plan.negotiate_ok_iff (Config.sound_of_validate hvalid) hinput
  refine ⟨hok, fun hplain => hok.2 fun htorn => ?_, fun a b => sameName_iff_foldedName_eq⟩
  obtain ⟨e, he, hfinal⟩ := htorn.finalSigma
  rw [hplain e he] at hfinal
  cases hfinal

/-- A step that gives its columns these names. -/
def namedPlan (first second : String) : Plan :=
  ⟨{ version := "1.0", name := "named"
     mapping := ⟨[⟨"a", first, .plain⟩, ⟨"b", second, .plain⟩]⟩
     output := some { path := "out.txt" } }⟩

/-- The input of that step. -/
def namedInput : Schema :=
  ⟨[{ name := "a", kind := .integer }, { name := "b", kind := .integer }], by decide⟩

theorem validated_negotiates_sigmas :
    ¬ (namedPlan "ΣΑ" "Σ").config.mapping.Torn ∧
    (∃ a, (namedPlan "ΣΑ" "Σ").negotiate namedInput = .ok a) ∧
    (sameName "ΣΑ" "σα" = true ↔ foldedName "ΣΑ" = foldedName "σα") := by
  have hsigmas : ∀ name ∈ ["ΣΑ", "σα", "Σ"], Text.hasFinalSigma name = false := by decide +kernel
  have hvalid : (namedPlan "ΣΑ" "Σ").config.validate = .ok () := by decide +kernel
  have hinput : (namedPlan "ΣΑ" "Σ").config.validateInput namedInput = .ok () := rfl
  obtain ⟨hiff, hplain, hnames⟩ := Plan.validated_negotiates hvalid hinput
  have hagreed := hplain (by simpa [namedPlan] using ⟨hsigmas _ (by simp), hsigmas _ (by simp)⟩)
  exact ⟨hiff.1 hagreed, hagreed, hnames _ _ (hsigmas _ (by simp)) (hsigmas _ (by simp))⟩

/-- Where a capital sigma ends a name, names of one column can have different keys, and names of
different columns one key. Validation passes the former, and the negotiation refuses them. -/
theorem validated_not_negotiated :
    sameName "ΑΣ" "ασ" = true ∧ foldedName "ΑΣ" ≠ foldedName "ασ" ∧
    sameName "ΑΣ" "ας" = false ∧ foldedName "ΑΣ" = foldedName "ας" ∧
    (namedPlan "ΑΣ" "ασ").config.validate = .ok () ∧
    (namedPlan "ΑΣ" "ασ").config.validateInput namedInput = .ok () ∧
    ∃ f, (namedPlan "ΑΣ" "ασ").negotiate namedInput = .error f ∧ f.code = "DUPLICATE_FIELD" :=
  ⟨by decide +kernel, by decide +kernel, by decide +kernel, by decide +kernel, by decide +kernel,
    rfl, _, rfl, rfl⟩

variable {connection : Connection}

theorem Config.Sound.family (hc : c.Sound) (hconnection : c.connection = some connection)
    (hown : c.loader.command = none) : familyProblems connection.family c.loader = [] := by
  have hloader := hc.loader (by rw [hasLoader, hconnection]; rfl)
  simp only [loaderProblems, hconnection, hown, List.append_eq_nil_iff] at hloader
  exact hloader.2.2

/-- The family's own command of a sound configuration can be made, unless the copy statement does
not take its options. -/
theorem Config.Sound.order_ok_iff (hc : c.Sound) (hv : c.mapping.columns.isEmpty = false)
    (hconnection : c.connection = some connection) (hown : c.loader.command = none)
    (path : String) : (∃ command, (c.loadOrder connection path).command = .ok command) ↔
      (connection.family = .postgres → (c.loadOrder connection path).Copyable) := by
  have hfamily := hc.family hconnection hown
  have horder : (c.loadOrder connection path).connection = connection := rfl
  unfold LoadOrder.command
  rw [horder]
  cases hf : connection.family with
  | hypersonic =>
    rw [hf] at hfamily
    cases hfamily
  | mysql => exact iff_of_true (LoadOrder.mysqlCommand_ok hv) nofun
  | postgres =>
    rw [hf] at hfamily
    have hmode : (c.loader.replace || c.loader.ignoreErrors) = false := by
      by_contra hmode
      rw [Bool.not_eq_false] at hmode
      simp only [familyProblems, if_pos hmode] at hfamily
      cases hfamily
    exact (LoadOrder.postgresCommand_ok_iff hv hmode).trans (by simp)

/-- A configuration that passes validation and has a loader has a command for it, whatever the
path, exactly if it names the command itself, or if the copy statement takes its options where the
family is one that is loaded by copying. -/
theorem Config.validated_loads (hv : c.validate = .ok ()) (hl : c.hasLoader = true)
    (path : String) : (∃ command, c.loadCommand path = .ok command) ↔
      (c.loader.command = none → ∀ connection, c.connection = some connection →
        connection.family = .postgres → (c.loadOrder connection path).Copyable) := by
  cases hown : c.loader.command with
  | some command =>
    refine iff_of_true ⟨command.withChannel path, ?_⟩ nofun
    rw [loadCommand, hown]
  | none =>
    cases hconnection : c.connection with
    | none =>
      rw [hasLoader, hconnection, hown] at hl
      cases hl
    | some connection =>
      rw [loadCommand_of_connection hconnection hown,
        (sound_of_validate hv).order_ok_iff (columns_of_validate hv) hconnection hown]
      simp

/-- A step that copies a column into a table, with these marks. -/
def copyingConfig (delimiter escape : String) : Config :=
  { version := "1.0", name := "copying"
    mapping := ⟨[⟨"a", "a", .plain⟩]⟩
    connection := some { family := .postgres, database := "shop" }
    target := { table := "t" }
    loader := { delimiter, escape } }

theorem validated_loads_copying :
    ∃ command, (copyingConfig ";" "^").loadCommand "/tmp/pipe" = .ok command := by
  have hvalid : (copyingConfig ";" "^").validate = .ok () := rfl
  refine (Config.validated_loads hvalid rfl "/tmp/pipe").2 ?_
  rintro - connection ⟨⟩ -
  exact ⟨rfl, by rintro v ⟨⟩; rfl, by rintro v ⟨⟩; rfl⟩

/-- Validation counts the characters of a delimiter where its bytes count, and does not look at the
escape. So there are configurations that pass and have no command for any path. -/
theorem validated_not_loaded :
    (copyingConfig "§" "^").validate = .ok () ∧ (copyingConfig "§" "^").hasLoader = true ∧
    (∀ path, ∃ f, (copyingConfig "§" "^").loadCommand path = .error f ∧ f.code = "COPY_OPTION") ∧
    (copyingConfig ";" "^^").validate = .ok () ∧ (copyingConfig ";" "^^").hasLoader = true ∧
    ∀ path, ∃ f, (copyingConfig ";" "^^").loadCommand path = .error f ∧
      f.code = "COPY_OPTION" :=
  ⟨rfl, rfl, fun _ => ⟨_, rfl, rfl⟩, rfl, rfl, fun _ => ⟨_, rfl, rfl⟩⟩

end Step
end BulkLoad
