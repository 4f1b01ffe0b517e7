/-
# Connections

The pages of the wiki come from a database whose address is given, or else stands in
the settings. Only drivers that do not block can be used, and only some of those that
are known are there. A database in a file has neither account nor host; connections
to other databases are kept in a pool, the size of which is a setting.
-/

import DekiMigration.Database.Url
import DekiMigration.Settings

namespace DekiMigration.Database

open Text

/-- What can be done with a driver. -/
inductive Support where
  /-- It can be used. -/
  | usable
  /-- It is there, but it blocks. -/
  | blocking
  /-- It is known, but it is not there. -/
  | absent
  deriving DecidableEq, Repr

/-- The driver that stands for a kind of database without one. -/
def plainDriver : Text := "base".toList

/-- The kind of database that is held in a file. -/
def fileDialect : Text := "sqlite".toList

/-- Drivers that are known but not there. -/
def absentDrivers (names : List String) : List (Text × Support) :=
  names.map fun name => (name.toList, .absent)

/-- The drivers of the servers that speak the protocol of the wiki's own. -/
def serverDrivers : List (Text × Support) :=
  [("aiomysql".toList, .usable), ("pymysql".toList, .blocking)] ++
    absentDrivers ["base", "asyncmy", "cymysql", "mariadbconnector", "mysqlconnector", "mysqldb",
      "pyodbc"]

/-- The kinds of databases and their drivers. -/
def dialects : List (Text × List (Text × Support)) :=
  [(fileDialect,
      [("aiosqlite".toList, .usable), (plainDriver, .blocking), ("pysqlite".toList, .blocking)] ++
        absentDrivers ["pysqlcipher"]),
    ("mysql".toList, serverDrivers),
    ("mariadb".toList, serverDrivers),
    ("postgresql".toList,
      absentDrivers ["base", "asyncpg", "pg8000", "psycopg", "psycopg2", "psycopg2cffi"]),
    ("mssql".toList, absentDrivers ["base", "aioodbc", "pymssql", "pyodbc"]),
    ("oracle".toList, absentDrivers ["base", "cx_oracle", "oracledb"])]

/-- Why there is no connection. -/
inductive Problem where
  | url (problem : UrlProblem)
  /-- An extension that is not known. -/
  | unknownExtension
  | unknownDriver
  /-- More than one driver is named. -/
  | severalDrivers
  | absentDriver
  /-- A database in a file with an account or a host. -/
  | hostOfFile
  | blockingDriver
  deriving DecidableEq, Repr

/-- The connections that are kept. -/
structure Pool where
  size : Int
  overflow : Int
  deriving DecidableEq, Repr

/-- A connection to a database. -/
structure Connection where
  url : Url
  dialect : Text
  pool : Option Pool
  deriving DecidableEq, Repr

/-- The kind of database that the driver of an address is for, and what can be done
with the driver. -/
def support (driver : Text) : Except Problem (Text × Support) :=
  let known (dialect name : Text) : Except Problem (Text × Support) :=
    match (dialects.lookup dialect).bind (·.lookup name) with
    | some support => .ok (dialect, support)
    | none => .error .unknownDriver
  match driver.splitOn '+' with
  | [dialect] => known dialect plainDriver
  | [dialect, name] => known dialect name
  | _ => .error .severalDrivers

/-- Whether an address has something that a database in a file cannot have. -/
def hasHost (url : Url) : Bool :=
  url.user.any (!·.isEmpty) || url.password.any (!·.isEmpty) || url.host.isSome ||
    url.socket.any (· != 0)

/-- The name of the parameter that asks for an extension. -/
def extensionName : Text := "plugin".toList

/-- The name of a parameter that has no effect. -/
def extensionsName : Text := "plugins".toList

/-- Connects to the database at an address, or to the one in the settings when no
address or an empty one is given. -/
def connect (settings : Settings) (address : Option Text) : Except Problem Connection := do
  let address := (address.filter (!·.isEmpty)).getD settings.databaseUrl
  let url ← (Url.read address).mapError .url
  if url.query.any (·.1 = extensionName) then .error .unknownExtension
  let url := { url with query := url.query.filter (·.1 != extensionsName) }
  let (dialect, support) ← support url.driver
  if support = .absent then .error .absentDriver
  let isFile := dialect = fileDialect
  if isFile && hasHost url then .error .hostOfFile
  if support = .blocking then .error .blockingDriver
  return {
    url
    dialect
    pool := if isFile then none else some ⟨settings.poolSize, settings.poolOverflow⟩ }

/-- What the log says about a connection. -/
def Connection.message (connection : Connection) : Text :=
  "Source database: ".toList ++ connection.url.display

end DekiMigration.Database
