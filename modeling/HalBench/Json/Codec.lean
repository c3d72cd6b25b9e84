import HalBench.Json.Decode
import HalBench.Json.Printer
/-!
# Types with a JSON form

A codec gives the schema of a type and the two directions between the type and what is read for
the schema; packing loses nothing.
-/

namespace HalBench.Json

/-- The JSON form of a type. -/
structure Codec (α : Type) where
  schema : Schema
  pack : α → schema.Carrier
  unpack : schema.Carrier → α
  unpack_pack : ∀ x, unpack (pack x) = x

namespace Codec

variable {α : Type}

def decode (c : Codec α) (text : Bytes) : Except Fault α := (c.schema.decode text).map c.unpack

def decodeText (c : Codec α) (text : String) : Except Fault α := c.decode (Utf8.bytes text)

def toTree (c : Codec α) (x : α) : Tree := c.schema.write (c.pack x)

def render (c : Codec α) (x : α) : List Char := (c.toTree x).render

def toText (c : Codec α) (x : α) : String := String.ofList (c.render x)

def encode (c : Codec α) (x : α) : Bytes := Utf8.encode (c.render x)

def textList : Codec (List String) where
  schema := .list .text
  pack x := x
  unpack x := x
  unpack_pack _ := rfl

end Codec

end HalBench.Json
