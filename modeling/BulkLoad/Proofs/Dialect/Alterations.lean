import BulkLoad.Dialect.ColumnType
import BulkLoad.Proofs.Text
import Mathlib.Data.List.Basic
import Mathlib.Data.List.TakeWhile

/-!
Statements that alter a table, as a server reads them. A name in quotes is what the quotes hold; one
without is a word, whose letters the server may fold. Tables are named in quotes, so they are read
as they are called. Columns are not: of a name that is no such word the server reads a part, or
nothing, and takes the rest of it for the definition.
-/

namespace BulkLoad

/-- A statement that alters a table, as it is read. -/
structure Alteration where
  /-- The table, behind its schema where there is one. -/
  table : List (List Char)
  column : List Char
  /-- What follows the name of the column. -/
  definition : List Char
  deriving DecidableEq

namespace Family

/-- The character is part of a word. Which ones beyond ASCII are letters is up to the server. -/
def inWord (foreign : Char → Bool) (c : Char) : Bool :=
  c.isAlphanum || c == '_' || 0x7F < c.toNat && foreign c

/-- What stands around a name: grave accents, or else double quotes. -/
def nameQuote : Family → Char
  | mysql => Char.ofNat 0x60
  | hypersonic | postgres => '"'

/-- A character of a word, as it is kept. -/
def folded : Family → Char → Char
  | hypersonic => Char.toUpper
  | mysql => id
  | postgres => Char.toLower

variable (f : Family) (foreign : Char → Bool)

/-- The name at the front of a text, and what follows it. -/
def readName : List Char → Option (List Char × List Char)
  | [] => none
  | c :: cs =>
    if c = f.nameQuote then Text.readQuoted f.nameQuote cs
    else if inWord foreign c then
      some (((c :: cs).takeWhile (inWord foreign)).map f.folded,
        (c :: cs).dropWhile (inWord foreign))
    else none

/-- The name of a table at the front of a text, with its schema or without, and what follows it. -/
def readTable (cs : List Char) : Option (List (List Char) × List Char) := do
  let (first, cs) ← f.readName foreign cs
  match cs with
  | '.' :: cs => do
    let (second, cs) ← f.readName foreign cs
    pure ([first, second], cs)
  | cs => pure ([first], cs)

/-- A statement that does this to a column. -/
def readAlteration (verb statement : String) : Option Alteration := do
  let cs ← "ALTER TABLE ".toList.isPrefixOf? statement.toList
  let (table, cs) ← f.readTable foreign cs
  let (column, definition) ← f.readName foreign (← verb.toList.isPrefixOf? cs)
  pure ⟨table, column, definition⟩

/-- What stands before the name of a column that is changed. -/
def changeVerb : Family → String
  | postgres => " ALTER COLUMN "
  | _ => " MODIFY "

/-- What stands between that name and the type. -/
def changeLink : Family → String
  | postgres => " TYPE "
  | _ => " "

/-- The names of a table. -/
def tableNames (schema : Option String) (table : String) : List (List Char) :=
  match schemaName schema with
  | some s => [s.toList, table.toList]
  | none => [table.toList]

/-- The name is a word that is kept as it is. -/
structure IsPlain (name : String) : Prop where
  nonempty : name ≠ ""
  word : ∀ c ∈ name.toList, inWord foreign c = true
  kept : name.toList.map f.folded = name.toList

variable {f foreign}

theorem nameQuote_eq (f : Family) : f.nameQuote = f.quote := by cases f <;> rfl

theorem inWord_nameQuote : inWord foreign f.nameQuote = false := by cases f <;> rfl

/-- A name in quotes is read as it is. -/
theorem readName_quoted (foreign : Char → Bool) {rest : List Char}
    (hrest : rest.head? ≠ some f.nameQuote) (name : String) :
    f.readName foreign ((f.quoted name).toList ++ rest) = some (name.toList, rest) := by
  have hfront : (f.quoted name).toList ++ rest =
      f.nameQuote :: (Text.doubledChars f.nameQuote name.toList ++ f.nameQuote :: rest) := by
    simp [quoted, Text.doubled, nameQuote_eq]
  rw [hfront, readName, if_pos rfl, Text.readQuoted_doubledChars hrest]

theorem readName_quoted_end (f : Family) (foreign : Char → Bool) (name : String) :
    f.readName foreign (f.quoted name).toList = some (name.toList, []) := by
  have hend : ([] : List Char).head? ≠ some f.nameQuote := nofun
  have hread := readName_quoted foreign hend name
  rwa [List.append_nil] at hread

/-- A name without quotes is read as it is exactly if it is a word that is kept as it is. -/
theorem readName_eq_some_iff {name : String} (rest : List Char) :
    f.readName foreign (name.toList ++ ' ' :: rest) = some (name.toList, ' ' :: rest) ↔
      f.IsPlain foreign name := by
  have hblank : inWord foreign ' ' = false := rfl
  have hnil : name = "" ↔ name.toList = [] := String.toList_eq_nil_iff.symm
  generalize hcs : name.toList = cs at hnil
  constructor
  · intro h
    cases cs with
    | nil =>
      rw [List.nil_append, readName, if_neg (by cases f <;> decide), hblank] at h
      cases h
    | cons c cs =>
      rw [List.cons_append, readName] at h
      by_cases hc : c = f.nameQuote
      · rw [if_pos hc] at h
        have hlength := Text.length_of_readQuoted h
        simp only [List.length_append, List.length_cons] at hlength
        omega
      rw [if_neg hc] at h
      split at h
      · rw [Option.some.injEq, Prod.mk.injEq, ← List.cons_append] at h
        obtain ⟨hname, hrest⟩ := h
        have htaken : ((c :: cs) ++ ' ' :: rest).takeWhile (inWord foreign) = c :: cs := by
          have hsplit := List.takeWhile_append_dropWhile (p := inWord foreign)
            (l := (c :: cs) ++ ' ' :: rest)
          rw [hrest] at hsplit
          exact List.append_cancel_right hsplit
        rw [htaken] at hname
        refine ⟨by simp [hnil], ?_, ?_⟩
        · rw [hcs, ← htaken]
          exact fun d hd => List.mem_takeWhile_imp hd
        · rw [hcs, hname]
      · cases h
  · rintro ⟨hne, hword, hkept⟩
    rw [hcs] at hword hkept
    cases cs with
    | nil => exact absurd (hnil.2 rfl) hne
    | cons c cs =>
      have hc : inWord foreign c = true := hword c List.mem_cons_self
      have hquote : c ≠ f.nameQuote := by
        rintro rfl
        rw [inWord_nameQuote] at hc
        cases hc
      rw [List.cons_append, readName, if_neg hquote, if_pos hc, ← List.cons_append,
        List.takeWhile_append_of_pos hword, List.dropWhile_append_of_pos hword,
        List.takeWhile_cons, List.dropWhile_cons, hblank, if_neg Bool.false_ne_true,
        if_neg Bool.false_ne_true, List.append_nil, hkept]

section Statements

variable {schema : Option String} {table : String} {keys : Keys} {field : Field}

theorem readTable_qualified (rest : List Char) :
    f.readTable foreign ((f.qualified schema table).toList ++ ' ' :: rest) =
      some (tableNames schema table, ' ' :: rest) := by
  have hblank : (' ' :: rest).head? ≠ some f.nameQuote := by cases f <;> simp [nameQuote]
  have htable := readName_quoted foreign hblank table
  unfold readTable qualified tableNames
  cases schemaName schema with
  | none => simp [htable]
  | some s =>
    have hpoint : ('.' :: ((f.quoted table).toList ++ ' ' :: rest)).head? ≠
        some f.nameQuote := by
      cases f <;> simp [nameQuote]
    have hschema := readName_quoted foreign hpoint s
    rw [String.toList_append, String.toList_append, List.append_assoc, List.append_assoc,
      show ".".toList = ['.'] from rfl, List.singleton_append, hschema]
    simp [htable]

/-- The table of a statement is read as it is called, so that the name of the column stands where
it is looked for. -/
theorem readAlteration_eq {verb statement : String} {name rest : List Char}
    (hverb : verb.toList.head? = some ' ')
    (h : statement.toList = "ALTER TABLE ".toList ++ ((f.qualified schema table).toList ++
      (verb.toList ++ (name ++ rest)))) :
    f.readAlteration foreign verb statement = (f.readName foreign (name ++ rest)).map fun read =>
      ⟨tableNames schema table, read.1, read.2⟩ := by
  have hfront : ∀ front back : List Char, front.isPrefixOf? (front ++ back) = some back :=
    fun _ _ => List.isPrefixOf?_eq_some_iff_append_eq.2 rfl
  have htable : f.readTable foreign ((f.qualified schema table).toList ++ (verb.toList ++
      (name ++ rest))) = some (tableNames schema table, verb.toList ++ (name ++ rest)) := by
    obtain ⟨verb', hverb⟩ := List.head?_eq_some_iff.1 hverb
    rw [hverb]
    exact readTable_qualified _
  rw [readAlteration, h, hfront]
  simp only [Option.bind_eq_bind, Option.bind_some, htable, hfront]
  cases f.readName foreign (name ++ rest) <;> rfl

/-- The name of the column is read as it is, and all of it, exactly if it is plain. -/
theorem readAlteration_eq_some_iff {verb statement name rest : String}
    (hverb : verb.toList.head? = some ' ') (hrest : rest.toList.head? = some ' ')
    (h : statement = "ALTER TABLE " ++ (f.qualified schema table ++ (verb ++ (name ++ rest)))) :
    f.readAlteration foreign verb statement =
        some ⟨tableNames schema table, name.toList, rest.toList⟩ ↔ f.IsPlain foreign name := by
  obtain ⟨rest', hrest⟩ := List.head?_eq_some_iff.1 hrest
  rw [readAlteration_eq hverb (by rw [h]; simp only [String.toList_append]; rfl), hrest,
    ← readName_eq_some_iff rest', Option.map_eq_some_iff]
  constructor
  · rintro ⟨read, hread, halteration⟩
    rw [Alteration.mk.injEq] at halteration
    rw [hread, ← halteration.2.1, ← halteration.2.2]
  · exact fun hread => ⟨_, hread, rfl⟩

theorem addColumn_eq (f : Family) (table : String) (keys : Keys) (field : Field) :
    f.addColumn table keys field =
      "ALTER TABLE " ++ (table ++ (" ADD " ++ (field.name ++ (" " ++
        f.typeWithKeys keys field)))) := by
  delta addColumn definition
  simp only [String.append_assoc]

theorem modifyColumn_eq (f : Family) (table : String) (keys : Keys) (field : Field) :
    f.modifyColumn table keys field =
      "ALTER TABLE " ++ (table ++ (f.changeVerb ++ (field.name ++ (f.changeLink ++
        f.typeWithKeys keys field)))) := by
  delta modifyColumn definition changeVerb changeLink
  cases f <;> simp only [String.append_assoc]

theorem readAlteration_addColumn :
    f.readAlteration foreign " ADD " (f.addColumn (f.qualified schema table) keys field) =
        some ⟨tableNames schema table, field.name.toList,
          (" " ++ f.typeWithKeys keys field).toList⟩ ↔ f.IsPlain foreign field.name :=
  readAlteration_eq_some_iff rfl (by simp) (addColumn_eq f _ keys field)

theorem readAlteration_modifyColumn :
    f.readAlteration foreign f.changeVerb
        (f.modifyColumn (f.qualified schema table) keys field) =
      some ⟨tableNames schema table, field.name.toList,
        (f.changeLink ++ f.typeWithKeys keys field).toList⟩ ↔ f.IsPlain foreign field.name := by
  have hverb : f.changeVerb.toList.head? = some ' ' := by cases f <;> rfl
  have hlink : f.changeLink.toList.head? = some ' ' := by cases f <;> rfl
  apply readAlteration_eq_some_iff hverb _ (modifyColumn_eq f _ keys field)
  rw [String.toList_append, List.head?_append, hlink]
  rfl

end Statements

end Family
end BulkLoad
