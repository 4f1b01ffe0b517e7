/-
# Percent-encoding

Web addresses write octets as a percent sign and two hexadecimal digits.
Decoding turns each such triple into its octet, leaves every other percent sign
alone and reads the octets as UTF-8. Encoding spells every character outside a
given set by its UTF-8 octets, with capital digits. Queries are lists of names and
values in that encoding.
-/

import DekiMigration.Text.Octets

namespace DekiMigration.Text

/-- The value of a hexadecimal digit. -/
def hexValue? (c : Char) : Option Nat :=
  if c.isDigit then some (c.toNat - 0x30)
  else if 'a' ≤ c && c ≤ 'f' then some (c.toNat - 0x61 + 10)
  else if 'A' ≤ c && c ≤ 'F' then some (c.toNat - 0x41 + 10)
  else none

/-- The octets of a percent-encoded text, last first. -/
def percentOctets : Text → List UInt8 → List UInt8
  | '%' :: high :: low :: rest, done =>
    match hexValue? high, hexValue? low with
    | some h, some l => percentOctets rest (UInt8.ofNat (16 * h + l) :: done)
    | _, _ => percentOctets (high :: low :: rest) (0x25 :: done)
  | c :: rest, done => percentOctets rest ((String.utf8EncodeChar c).reverse ++ done)
  | [], done => done

/-- The text a percent-encoded text stands for. -/
def percentDecode (text : Text) : Text :=
  ofOctets (percentOctets text []).reverse

/-- The triple that stands for an octet. -/
def percentTriple (octet : UInt8) : Text :=
  '%' :: upper (hexDigits octet.toNat)
where
  /-- Two hexadecimal digits. -/
  hexDigits (number : Nat) : Text :=
    Nat.toDigits 16 (number / 16) ++ Nat.toDigits 16 (number % 16)

/-- Letters, digits and the four marks that no encoding ever spells out. -/
def isUnreserved (c : Char) : Bool :=
  c.isAlphanum || c = '_' || c = '.' || c = '-' || c = '~'

/-- Spells every character that is neither unreserved nor in `safe` by its
octets. -/
def percentEncode (safe text : Text) : Text :=
  text.flatMap fun c =>
    if isUnreserved c || safe.contains c then [c]
    else (String.utf8EncodeChar c).flatMap percentTriple

/-- The spelling of query names and values, where a space is a plus sign. -/
def queryEncode (text : Text) : Text :=
  (percentEncode [' '] text).map fun c => if c = ' ' then '+' else c

/-- The text a query name or value stands for. -/
def queryDecode (text : Text) : Text :=
  percentDecode (text.map fun c => if c = '+' then ' ' else c)

/-- The names and values of a query; an item without equals sign has an empty
value. -/
def readQuery (written : Text) : List (Text × Text) :=
  ((written.splitOn '&').filter (!·.isEmpty)).map fun item =>
    let (name, value) := (cutAt? '=' item).getD (item, [])
    (queryDecode name, queryDecode value)

/-- The spelling of a query. -/
def writeQuery (query : List (Text × Text)) : Text :=
  List.intercalate ['&'] (query.map fun (name, value) =>
    queryEncode name ++ '=' :: queryEncode value)

end DekiMigration.Text
