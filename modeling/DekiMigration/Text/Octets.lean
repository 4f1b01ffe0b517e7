/-
# Texts as octets

Old revision comments are stored as raw octets. They are read as UTF-8, and
nothing is refused: each maximal run of octets that begins some character but
completes none, and each octet that begins no character, becomes one replacement
character. A decoder keeps the character under way and the range its next octet
has to lie in; overlong forms, surrogates and numbers beyond the last code point
fall outside that range.
-/

import DekiMigration.Text

namespace DekiMigration.Text

/-- The character that stands for octets that are no character. -/
def replacement : Char := '\uFFFD'

/-- A character under way: the bits read so far, how many octets are still owed,
and the least and the greatest value the next one may have. -/
structure Pending where
  bits : Nat
  owed : Nat
  low : Nat
  high : Nat
  deriving DecidableEq, Repr

/-- What an octet between two characters begins. -/
inductive Lead where
  /-- A character of one octet. -/
  | whole (c : Char)
  /-- A character of several octets. -/
  | opens (pending : Pending)
  /-- No character. -/
  | stray
  deriving DecidableEq, Repr

/-- What an octet begins when it stands between two characters. -/
def Lead.ofOctet (octet : UInt8) : Lead :=
  let b := octet.toNat
  if b < 0x80 then .whole (Char.ofNat b)
  else if b < 0xC2 then .stray
  else if b < 0xE0 then .opens ⟨b - 0xC0, 1, 0x80, 0xBF⟩
  else if b < 0xF0 then
    .opens ⟨b - 0xE0, 2, if b = 0xE0 then 0xA0 else 0x80, if b = 0xED then 0x9F else 0xBF⟩
  else if b < 0xF5 then
    .opens ⟨b - 0xF0, 3, if b = 0xF0 then 0x90 else 0x80, if b = 0xF4 then 0x8F else 0xBF⟩
  else .stray

/-- Decodes octets after those of `pending`; `done` holds the characters so far,
last first. -/
def decodeFrom : Option Pending → List UInt8 → Text → Text
  | none, [], done => done.reverse
  | some _, [], done => (replacement :: done).reverse
  | pending, octet :: octets, done =>
    let start (done : Text) : Text :=
      match Lead.ofOctet octet with
      | .whole c => decodeFrom none octets (c :: done)
      | .opens next => decodeFrom (some next) octets done
      | .stray => decodeFrom none octets (replacement :: done)
    match pending with
    | none => start done
    | some p =>
      if p.low ≤ octet.toNat && octet.toNat ≤ p.high then
        let bits := p.bits * 64 + (octet.toNat - 0x80)
        if p.owed ≤ 1 then decodeFrom none octets (Char.ofNat bits :: done)
        else decodeFrom (some ⟨bits, p.owed - 1, 0x80, 0xBF⟩) octets done
      else start (replacement :: done)

/-- Reads octets as UTF-8, with replacement characters for what is none. -/
def ofOctets (octets : List UInt8) : Text :=
  decodeFrom none octets []

/-- Reads octets as ASCII, with a replacement character for every other octet. -/
def ofAscii (octets : List UInt8) : Text :=
  octets.map fun octet => if octet < 0x80 then Char.ofNat octet.toNat else replacement

/-- The UTF-8 octets of a text. -/
def toOctets (text : Text) : List UInt8 :=
  text.flatMap String.utf8EncodeChar

/-- What is written in ASCII is read in ASCII. -/
theorem ofAscii_toOctets {text : Text} (ascii : ∀ c ∈ text, c.toNat < 0x80) :
    ofAscii (toOctets text) = text := by
  induction text with
  | nil => rfl
  | cons c text ih =>
      rw [List.forall_mem_cons] at ascii
      have encoded : String.utf8EncodeChar c = [UInt8.ofNat c.toNat] :=
        if_pos (Nat.le_of_lt_succ ascii.1)
      have value : (UInt8.ofNat c.toNat).toNat = c.toNat :=
        UInt8.toNat_ofNat_of_lt' (Nat.lt_trans ascii.1 (by decide))
      have below : UInt8.ofNat c.toNat < 0x80 := by
        rw [UInt8.lt_iff_toNat_lt, value]
        exact ascii.1
      have read := ih ascii.2
      rw [ofAscii, toOctets] at read ⊢
      rw [List.flatMap_cons, List.map_append, read, encoded, List.map_singleton, if_pos below,
        value, Char.ofNat_toNat, List.singleton_append]

/-- How many octets a text takes in UTF-8. -/
def octetCount (text : Text) : Nat :=
  text.foldl (fun count c => count + c.utf8Size) 0

end DekiMigration.Text
