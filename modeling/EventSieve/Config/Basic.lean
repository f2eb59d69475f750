import EventSieve.Coercion.Basic
import EventSieve.Event.Basic
import EventSieve.Predicate

/-!
# Configurations

## Main definitions

* `Config` — how filters and records are read, and the saved filters
* `Config.savedFilter?` — the saved filter with a name
-/
namespace EventSieve

/-- A filter with a name. -/
structure SavedFilter where
  name : String
  expression : String
  enabled : Bool := true
deriving DecidableEq, Repr

/-- How filters and records are read, and the saved filters. -/
structure Config where
  /-- A label, which says nothing to the program. -/
  profileName : String := "default"
  coercion : Coercion := {}
  matching : MatchRules := {}
  records : HeaderKeys := {}
  savedFilters : List SavedFilter := []
deriving DecidableEq, Repr

/-- The first saved filter with a name. -/
def Config.savedFilter? (config : Config) (name : String) : Option SavedFilter :=
  config.savedFilters.find? (·.name == name)

end EventSieve
