import IssueTracker.Json.Parser
import IssueTracker.Json.Printer

/-! Codecs between values and JSON. A codec writes every value and reads some
JSON; reading says only whether it worked. The codecs here are the atoms and
lists; `Json.Record` has the ones for structures. -/

namespace IssueTracker

structure Codec (α : Type) where
  encode : α → Json
  decode : Json → Option α

namespace Codec

/-- The text of a value. -/
def write {α : Type} (c : Codec α) (a : α) : String :=
  (c.encode a).text

/-- The value that a text writes. -/
def read? {α : Type} (c : Codec α) (s : String) : Option α :=
  (Json.ofString? s).bind c.decode

/-- The value that bytes write. -/
def readBytes? {α : Type} (c : Codec α) (symbols : List (Option Char)) : Option α :=
  (Json.ofSymbols? symbols).bind c.decode

def text : Codec String where
  encode s := .str (Json.Quoted.ofString s)
  decode
    | .str q => q.text?
    | _ => none

def bool : Codec Bool where
  encode := .bool
  decode
    | .bool b => some b
    | _ => none

def int64 : Codec Int64 where
  encode i := .num (Json.Numeral.ofInt i.toInt)
  decode
    | .num n => n.int64?
    | _ => none

def list {α : Type} (c : Codec α) : Codec (List α) where
  encode as := .arr (as.map c.encode)
  decode
    | .arr items => items.mapM c.decode
    | _ => none

/-- Values that are written as some of the texts. -/
def spelled {α : Type} (spell : α → String) (parse : String → Option α) : Codec α where
  encode a := text.encode (spell a)
  decode j := (text.decode j).bind parse

/-- The value of an enumeration with this name. -/
def named? {α : Type} (all : List α) (name : α → String) (s : String) : Option α :=
  all.find? fun a => name a == s

/-- An enumeration is written by name; an object with the name as its only
member and nothing in it is read as well. -/
def enumeration {α : Type} (all : List α) (name : α → String) : Codec α where
  encode a := text.encode (name a)
  decode
    | .str q => q.text?.bind (named? all name)
    | .obj [(q, .null)] => q.text?.bind (named? all name)
    | _ => none

end Codec
end IssueTracker
