import Mathlib.Data.Rat.Defs

/-!
# JSON values

A value as the text states it: an object keeps its members in order, duplicates included,
and a number knows whether its literal is a plain integer, since decoders may treat `1` and
`1.0` differently.
-/

namespace Systems

/-- A number literal. -/
inductive Json.Number where
  /-- Digits with an optional sign. -/
  | int (value : Int)
  /-- A literal with a fraction or an exponent. -/
  | decimal (value : ℚ)
  deriving DecidableEq, Repr

/-- A JSON value. -/
inductive Json where
  /-- `null` -/
  | null
  /-- `true` or `false` -/
  | bool (value : Bool)
  /-- A number. -/
  | num (value : Json.Number)
  /-- A string. -/
  | str (value : String)
  /-- An array. -/
  | arr (items : List Json)
  /-- An object. -/
  | obj (members : List (String × Json))

end Systems
