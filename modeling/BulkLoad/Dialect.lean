import BulkLoad.Document
import BulkLoad.Text

/-!
The supported database families: how a connection is named, and how identifiers are quoted.
-/

namespace BulkLoad

inductive Family where
  | hypersonic
  | mysql
  | postgres
  deriving DecidableEq, Repr, Inhabited

/-- How a database is reached. -/
inductive Access where
  | native
  | odbc
  deriving DecidableEq, Repr, Inhabited

/-- Where a database is and who logs in. -/
structure Connection where
  family : Family
  access : Access := .native
  host : String := ""
  port : Option UInt16 := none
  database : String := ""
  user : Option String := none
  password : Option String := none
  deriving DecidableEq, Inhabited

namespace Access

def word : Access → String
  | native => "native"
  | odbc => "odbc"

/-- The words with their meanings. -/
def words : List (String × Access) := [native, odbc].map fun a => (a.word, a)

end Access

namespace Family

def word : Family → String
  | hypersonic => "hypersonic"
  | mysql => "mysql"
  | postgres => "postgres"

/-- The words that are read for a family. -/
def words : List (String × Family) :=
  [("hypersonic", hypersonic), ("mysql", mysql), ("mariadb", mysql), ("postgres", postgres),
    ("postgresql", postgres)]

/-- The name shown to a reader. -/
def name : Family → String
  | hypersonic => "Hypersonic"
  | mysql => "MySQL"
  | postgres => "PostgreSQL"

def nativePort : Family → Nat
  | hypersonic => 9001
  | mysql => 3306
  | postgres => 5432

/-- The default port, where the way of access has ports. -/
def defaultPort (f : Family) : Access → Option Nat
  | .native => some f.nativePort
  | .odbc => none

/-- The class name of the driver. -/
def driver (f : Family) : Access → String
  | .odbc => "sun.jdbc.odbc.JdbcOdbcDriver"
  | .native => match f with
    | hypersonic => "org.hsqldb.jdbcDriver"
    | mysql => "org.gjt.mm.mysql.Driver"
    | postgres => "org.postgresql.Driver"

/-- The character around quoted identifiers. -/
def quote : Family → Char
  | mysql => Char.ofNat 0x60
  | _ => '"'

/-- An identifier in quotes, quotes inside it doubled. -/
def quoted (f : Family) (name : String) : String :=
  String.singleton f.quote ++ Text.doubled f.quote name ++ String.singleton f.quote

/-- The schema's name without blanks around it, unless nothing is left. -/
def schemaName (schema : Option String) : Option String :=
  (schema.map Text.trim).filter fun s => !s.isEmpty

/-- A table, with its schema where there is one. -/
def qualified (f : Family) (schema : Option String) (table : String) : String :=
  match schemaName schema with
  | some s => f.quoted s ++ "." ++ f.quoted table
  | none => f.quoted table

def columnList (f : Family) (columns : List String) : String :=
  ", ".intercalate (columns.map f.quoted)

/-- The text that the family's loader takes for null. -/
def nullMarker (f : Family) (escape : Option String) : String :=
  match f with
  | mysql => escape.getD "\\" ++ "N"
  | _ => ""

end Family

namespace Connection

/-- The configured port; zero means that none is. -/
def explicitPort (c : Connection) : Option UInt16 := c.port.filter (· != 0)

/-- The configured port or the family's own. -/
def portOrDefault (c : Connection) : Nat :=
  match c.explicitPort with
  | some p => p.toNat
  | none => c.family.nativePort

/-- The connection as a URL. Hypersonic without a port is embedded. -/
def url (c : Connection) : String :=
  match c.access, c.family with
  | .odbc, _ => "jdbc:odbc:" ++ c.database
  | .native, .mysql =>
    "jdbc:mysql://" ++ c.host ++ ":" ++ toString c.portOrDefault ++ "/" ++ c.database
  | .native, .postgres =>
    "jdbc:postgresql://" ++ c.host ++ ":" ++ toString c.portOrDefault ++ "/" ++ c.database
  | .native, .hypersonic =>
    match c.explicitPort with
    | some p => "jdbc:hsqldb:hsql://" ++ c.host ++ ":" ++ toString p.toNat ++ "/" ++ c.database
    | none => "jdbc:hsqldb:" ++ c.database

end Connection
end BulkLoad
