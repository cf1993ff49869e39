import BulkLoad.Bytes
import BulkLoad.Command
import BulkLoad.Dialect
import BulkLoad.Fault
import BulkLoad.Text.Visible

/-!
Command lines that load delimited text from a path into a table, for the families whose client can.
-/

namespace BulkLoad

/-- Everything that a load command states. -/
structure LoadOrder where
  connection : Connection
  schema : Option String
  table : String
  columns : List String
  /-- The path of the channel. The directories of pipes are configured as texts, and their names are
  plain, so that a path is a text and none has to be made one. -/
  path : String
  delimiter : String
  enclosure : Option String
  escape : Option String
  replace : Bool
  ignoreErrors : Bool

namespace LoadOrder

/-- The escape of a character in a string literal, if it has one there. -/
def escapeOf? (c : Char) : Option String :=
  if c == '\\' then some "\\\\"
  else if c == '\'' then some "\\'"
  else if c == '\t' then some "\\t"
  else if c == '\n' then some "\\n"
  else if c == '\r' then some "\\r"
  else none

def mysqlChar (c : Char) : String :=
  if c.toNat == 0 then "\\0" else (escapeOf? c).getD (String.singleton c)

/-- A character in a PostgreSQL escape string. -/
def postgresChar (c : Char) : String := (escapeOf? c).getD (String.singleton c)

/-- A MySQL string literal. -/
def mysqlLiteral (s : String) : String := "'" ++ String.join (s.toList.map mysqlChar) ++ "'"

/-- A PostgreSQL escape string. -/
def postgresLiteral (s : String) : String :=
  "E'" ++ String.join (s.toList.map postgresChar) ++ "'"

def noColumns : Fault :=
  Fault.of .config "NO_COLUMNS" "bulk load needs at least one target column"

/-- Arguments that name host, port, user and database. -/
def connectionArgs (c : Connection) (userOption databaseOption : String) : List String :=
  (if c.host.isEmpty then [] else ["--host=" ++ c.host]) ++
    ["--port=" ++ toString c.portOrDefault] ++
    c.user.toList.map (fun u => userOption ++ u) ++ [databaseOption ++ c.database]

/-- The password in the environment. -/
def passwordEnv (c : Connection) (name : String) : List (String × String) :=
  c.password.toList.map fun p => (name, p)

/-- A clause that is only there with its value. -/
def clause (words : String) (value : Option String) (literal : String → String) : String :=
  match value with
  | some v => words ++ literal v
  | none => ""

/-- The MySQL statement. Replacing wins over ignoring. -/
def mysqlStatement (o : LoadOrder) : String :=
  "LOAD DATA LOCAL INFILE " ++ mysqlLiteral o.path ++ " " ++
    (if o.replace then "REPLACE " else if o.ignoreErrors then "IGNORE " else "") ++
    "INTO TABLE " ++ Family.mysql.qualified o.schema o.table ++
    " FIELDS TERMINATED BY " ++ mysqlLiteral o.delimiter ++
    clause " OPTIONALLY ENCLOSED BY " o.enclosure mysqlLiteral ++
    clause " ESCAPED BY " o.escape mysqlLiteral ++
    " LINES TERMINATED BY '\\n' (" ++ Family.mysql.columnList o.columns ++ ")"

def mysqlCommand (o : LoadOrder) : Except Fault Command :=
  if o.columns.isEmpty then .error noColumns
  else .ok
    { program := "mysql"
      args := ["--local-infile=1", "--batch"] ++
        connectionArgs o.connection "--user=" "--database=" ++ ["--execute=" ++ o.mysqlStatement]
      env := passwordEnv o.connection "MYSQL_PWD" }

/-- An option of the PostgreSQL statement has to be a single byte. -/
def singleByte (option value : String) : Except Fault Unit :=
  if Bytes.lengthOfText value = 1 then .ok ()
  else .error (Fault.of .config "COPY_OPTION"
    ("psql \\copy needs a single-byte " ++ option ++ ", got " ++ Text.visible value))

/-- An option that may be absent has to be a single byte. -/
def singleByteIfAny (option : String) : Option String → Except Fault Unit
  | some v => singleByte option v
  | none => .ok ()

def postgresStatement (o : LoadOrder) : String :=
  "\\copy " ++ Family.postgres.qualified o.schema o.table ++
    " (" ++ Family.postgres.columnList o.columns ++ ") FROM " ++ postgresLiteral o.path ++
    " WITH (FORMAT csv, DELIMITER " ++ postgresLiteral o.delimiter ++
    clause ", QUOTE " o.enclosure postgresLiteral ++
    clause ", ESCAPE " o.escape postgresLiteral ++ ")"

def postgresCommand (o : LoadOrder) : Except Fault Command := do
  if o.replace || o.ignoreErrors then
    throw (Fault.of .config "COPY_OPTION" "psql \\copy supports neither replace nor ignore_errors")
  if o.columns.isEmpty then throw noColumns
  singleByte "delimiter" o.delimiter
  singleByteIfAny "enclosure" o.enclosure
  singleByteIfAny "escape" o.escape
  pure
    { program := "psql"
      args := ["--no-psqlrc", "--set=ON_ERROR_STOP=1"] ++
        connectionArgs o.connection "--username=" "--dbname=" ++
        ["--command=" ++ o.postgresStatement]
      env := passwordEnv o.connection "PGPASSWORD" }

def command (o : LoadOrder) : Except Fault Command :=
  match o.connection.family with
  | .mysql => o.mysqlCommand
  | .postgres => o.postgresCommand
  | .hypersonic => .error (Fault.of .config "NO_BULK_LOADER"
      (o.connection.family.name ++ " has no bulk loader; configure loader.command"))

end LoadOrder
end BulkLoad
