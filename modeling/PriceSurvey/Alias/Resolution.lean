import PriceSurvey.Decimal.Binary

/-!
# Resolutions

What became of one item name that was looked up in the dictionary: the item, if there is one, and
what the match rests on.
-/
namespace PriceSurvey

/-- What a resolution rests on. A name that is in the dictionary as it stands counts before one
whose key is. -/
inductive Basis where
  | sameName
  | sameKey
  | noMatch
  deriving DecidableEq, Repr

/-- The basis as it is written in records and rows. -/
def Basis.text : Basis → String
  | .sameName => "exact_alias_raw"
  | .sameKey => "exact_normalized_alias"
  | .noMatch => "unresolved"

/-- How far the match is trusted: fully or not at all. -/
def Basis.score : Basis → Binary
  | .noMatch => Binary.ofInt 0
  | _ => Binary.ofInt 1

/-- The outcome of looking up one name. -/
structure Resolution where
  input : String
  key : String
  item : Option String
  basis : Basis
  score : Binary
  note : Option String
  deriving DecidableEq, Repr

namespace Resolution

/-- A name that stands for an item. -/
def found (input key item : String) (basis : Basis) : Resolution :=
  ⟨input, key, some item, basis, basis.score, none⟩

/-- A name that stands for no item. -/
def notFound (input key : String) (note : Option String) : Resolution :=
  ⟨input, key, none, .noMatch, Basis.score .noMatch, note⟩

def isFound (r : Resolution) : Bool := r.item.isSome

end Resolution

/-- An entry of the dictionary: a name, its key, and the item that it stands for. -/
structure AliasEntry where
  name : String
  key : String
  item : String
  deriving DecidableEq, Repr

end PriceSurvey
