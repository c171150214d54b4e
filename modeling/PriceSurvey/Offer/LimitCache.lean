import PriceSurvey.Index
import PriceSurvey.Request.Action

/-!
# Limits of profiles

A profile has its own limits, or those of the generic profile, or the fixed ones if that has none
either. A cache asks for each profile once. A request that fails leaves the cache as it was.
-/
namespace PriceSurvey

/-- The limits found so far, by profile. -/
structure LimitCache where
  found : Index SourcedLimits

namespace LimitCache

def empty : LimitCache := ⟨.empty⟩

/-- Some profile had to make do with the fixed limits. -/
def usedFixed (c : LimitCache) : Bool := c.found.values.any fun l => l.origin = .fixed

def keep (c : LimitCache) (profile : String) (l : SourcedLimits) : LimitCache :=
  ⟨c.found.insert profile l⟩

/-- Limits that a generic profile answers with, or the fixed ones. -/
def genericLimits : Option Limits → SourcedLimits
  | some l => ⟨l, .generic⟩
  | none => ⟨.fixed, .fixed⟩

/-- The limits of the generic profile. -/
def getGeneric (c : LimitCache) : Action (SourcedLimits × LimitCache) :=
  match c.found.get? genericProfile with
  | some l => .done (l, c)
  | none => do
    let answer : Option Limits ← .request (.limits genericProfile)
    let l := genericLimits answer
    return (l, c.keep genericProfile l)

/-- The limits of a profile. -/
def get (c : LimitCache) (profile : String) : Action (SourcedLimits × LimitCache) :=
  if profile = genericProfile then c.getGeneric
  else
    match c.found.get? profile with
    | some l => .done (l, c)
    | none => do
      let answer : Option Limits ← .request (.limits profile)
      match answer with
      | some l => return (⟨l, .profile⟩, c.keep profile ⟨l, .profile⟩)
      | none =>
        let (l, c) ← c.getGeneric
        return (l, c.keep profile l)

/-- The limits of several profiles, one after the other. -/
def getAll (c : LimitCache) : List String → Action LimitCache
  | [] => .done c
  | profile :: rest => do
    let (_, c) ← c.get profile
    c.getAll rest

end LimitCache

end PriceSurvey
