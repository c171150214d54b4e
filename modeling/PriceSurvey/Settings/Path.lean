import PriceSurvey.Decimal.Integer
import PriceSurvey.Settings.Value

/-!
# Paths into trees of settings

A key of a layer may spell out a path: keys with points between them, and indexes of list items in
brackets, such as `logging.filter` or `logging[0]`. Laying a layer over a tree goes along the path of
each of its keys and makes the tables and lists that are not there.
-/
namespace PriceSurvey.Settings

/-- A step of a path: to the value under a key, or to an item of a list. -/
inductive Step where
  | key (name : String)
  | item (index : Int)
  deriving DecidableEq, Repr

namespace Step

/-- Characters that keys in a path are made of. -/
def isPathChar (c : Char) : Bool := c.isAlphanum || c = '_' || c = '-' || c = ' '

/-- A key in a path, and what follows it. -/
def readName? (cs : List Char) : Option (String × List Char) :=
  if (cs.takeWhile isPathChar).isEmpty then none
  else some (String.ofList (cs.takeWhile isPathChar), cs.dropWhile isPathChar)

/-- The index of an item up to its closing bracket. -/
def readIndex? (cs : List Char) : Option (Int × List Char) :=
  let skip := List.dropWhile fun c => c = ' ' ∨ c = '\t'
  let cs := skip cs
  let (negative, digits) := match cs with
    | '-' :: rest => (true, rest)
    | cs => (false, cs)
  let isDigit := fun c => (Integer.digit? c).isSome
  if (digits.takeWhile isDigit).isEmpty then none
  else
    let index := Integer.signed negative (Integer.ofDigits (digits.takeWhile isDigit))
    match skip (digits.dropWhile isDigit) with
    | ']' :: rest =>
      if -0x8000000000000000 ≤ index ∧ index < 0x8000000000000000 then some (index, rest) else none
    | _ => none

/-- The steps behind the first key of a path: keys behind points, and indexes in brackets. The fuel
bounds the steps. -/
def readSteps : Nat → List Char → Option (List Step)
  | _, [] => some []
  | 0, _ => none
  | fuel + 1, '.' :: rest => do
    let (name, rest) ← readName? rest
    return key name :: (← readSteps fuel rest)
  | fuel + 1, '[' :: rest => do
    let (index, rest) ← readIndex? rest
    return item index :: (← readSteps fuel rest)
  | _, _ => none

/-- The path that a key spells out. A key that spells out none is its own path. -/
def pathOf (text : String) : List Step :=
  let path : Option (List Step) := do
    let (name, rest) ← readName? text.toList
    return key name :: (← readSteps rest.length rest)
  path.getD [.key text]

end Step

namespace Value

/-- Changes an item of a list. A negative index counts from the end, and an index beyond the end
makes the list longer. What was no list becomes one. -/
def changeItem (root : Value) (index : Int) (f : Value → Value) : Value :=
  let items := match root with
    | .list items => items
    | _ => []
  let place := if 0 ≤ index then index else items.length + index
  let items := items ++ List.replicate (place + 1 - items.length).toNat .missing
  .list (if 0 ≤ place then items.modify place.toNat f else items)

/-- Lays a value over what is at the end of a path. Tables and lists are made where the path needs
them. -/
def overlayAt (root : Value) : List Step → Value → Value
  | [], v => v
  | [.key name], v => overlay root name v
  | .key name :: rest, v => root.set name (overlayAt ((root.get? name).getD .missing) rest v)
  | .item index :: rest, v => root.changeItem index fun item => overlayAt item rest v

/-- Lays the fields of a layer over a tree; their keys may spell out paths. -/
def overlayLayer (root : Value) (layer : List (String × Value)) : Value :=
  layer.foldl (fun root f => root.overlayAt (Step.pathOf f.1) f.2) root

end Value

end PriceSurvey.Settings
