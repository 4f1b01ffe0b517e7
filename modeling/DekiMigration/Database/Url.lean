/-
# Addresses of databases

The address of a database names a driver, and then an account with a password, a
host with the number of a socket, the database itself and a query, all of which may be missing.
Account and password are percent-encoded; the database is taken as it is written. An
at sign in an account is told from the one behind it, one in a password is not. An
address is shown without its password.
-/

import DekiMigration.Text.Number
import DekiMigration.Text.Percent
import DekiMigration.Text.Word

namespace DekiMigration.Database

open Text

/-- The address of a database. -/
structure Url where
  driver : Text
  user : Option Text := none
  password : Option Text := none
  host : Option Text := none
  /-- The number of the socket at the host. -/
  socket : Option Int := none
  database : Option Text := none
  query : List (Text × Text) := []
  deriving DecidableEq, Repr

/-- Why a text is no address of a database. -/
inductive UrlProblem where
  | malformed
  | badSocket (literal : Text) (reason : NumberError)
  /-- A colon with no socket behind it. -/
  | emptySocket
  deriving DecidableEq, Repr

namespace Url

/-- The text before the last `separator` and the text after it. -/
def cutAtLast? (separator : Char) (text : Text) : Option (Text × Text) :=
  (cutAt? separator text.reverse).map fun (after, before) => (before.reverse, after.reverse)

/-- The driver at the front of an address, and what follows. -/
def splitDriver? (text : Text) : Option (Text × Text) :=
  let (driver, rest) := text.span fun c => isWord c || c = '+'
  if driver.isEmpty then none
  else (dropLead? "://".toList rest).map fun rest => (driver, rest)

/-- The account and the password at the front of what follows the driver, and the
rest. -/
def splitAccount (text : Text) : (Option Text × Option Text) × Text :=
  let (run, rest) := text.span fun c => c != ':' && c != '/'
  let password? := match rest with
    | ':' :: after => cutAt? '@' after
    | _ => none
  match password? with
  | some (password, after) => ((some run, some password), after)
  | none =>
    match cutAtLast? '@' run with
    | some (user, host) => ((some user, none), host ++ rest)
    | none => ((none, none), text)

/-- A host in brackets at the front of a text, and the rest. -/
def bracketedHost? (text : Text) : Option (Text × Text) :=
  match text with
  | '[' :: inner =>
    let (run, rest) := inner.span fun c => c != '/' && c != '?'
    match cutAtLast? ']' run with
    | some (host, after) => if host.isEmpty then none else some (host, after ++ rest)
    | none => none
  | _ => none

/-- The host at the front of what follows the account, and the rest. -/
def splitHost (text : Text) : Option Text × Text :=
  match bracketedHost? text with
  | some (host, rest) => (some host, rest)
  | none =>
    match text.span fun c => c != '/' && c != ':' && c != '?' with
    | ([], rest) => (none, rest)
    | (host, rest) => (some host, rest)

/-- The socket, as it is written, at the front of what follows the host, and the
rest. -/
def splitSocket (text : Text) : Option Text × Text :=
  match text with
  | ':' :: after =>
    let (socket, rest) := after.span fun c => c != '/' && c != '?'
    (some socket, rest)
  | _ => (none, text)

/-- The database at the front of what follows the socket, and the rest. -/
def splitDatabase (text : Text) : Option Text × Text :=
  match text with
  | '/' :: after =>
    let (database, rest) := after.span (· != '?')
    (some database, rest)
  | _ => (none, text)

/-- The query at the front of what follows the database. Empty values are left
out. -/
def queryOf (text : Text) : List (Text × Text) :=
  match text with
  | '?' :: written => (readQuery (written.takeWhile (· != '\n'))).filter (!·.2.isEmpty)
  | _ => []

/-- Reads a socket. -/
def readSocket : Option Text → Except UrlProblem (Option Int)
  | none => .ok none
  | some [] => .error .emptySocket
  | some literal =>
    match readInt literal with
    | .ok socket => .ok (some socket)
    | .error reason => .error (.badSocket literal reason)

/-- Reads the address of a database. -/
def read (text : Text) : Except UrlProblem Url :=
  match splitDriver? text with
  | none => .error .malformed
  | some (driver, text) => do
    let ((user, password), text) := splitAccount text
    let (host, text) := splitHost text
    let (socket, text) := splitSocket text
    let (database, text) := splitDatabase text
    return {
      driver
      user := user.map percentDecode
      password := password.map percentDecode
      host
      socket := ← readSocket socket
      database
      query := queryOf text }

/-- What stands for a password. -/
def mask : Text := "***".toList

/-- An address without its password, the query in the order of its names. -/
def display (url : Url) : Text :=
  let account := match url.user with
    | none => []
    | some user =>
      percentEncode " +".toList user ++ (if url.password.isSome then ':' :: mask else []) ++ ['@']
  let host := match url.host with
    | none => []
    | some host => if host.contains ':' then '[' :: host ++ [']'] else host
  let socket := match url.socket with
    | none => []
    | some socket => ':' :: ofInt socket
  let database := match url.database with
    | none => []
    | some database => '/' :: percentEncode " +/".toList database
  let sorted := url.query.mergeSort fun first second => precedes first.1 second.1
  let query := if sorted.isEmpty then [] else '?' :: writeQuery sorted
  url.driver ++ "://".toList ++ account ++ host ++ socket ++ database ++ query

end Url

end DekiMigration.Database
