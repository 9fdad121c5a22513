import Backbeat.Data.Table

/-!
# Configuration

A configuration is a table of texts under dotted keys.  It is a value: whoever keeps one keeps it
as it was, whatever is set in another afterwards.
-/

namespace Backbeat

structure Config where
  values : Table String String := .empty

namespace Config

def empty : Config := {}

def get? (config : Config) (key : String) : Option String :=
  config.values.get? key

def has (config : Config) (key : String) : Bool :=
  config.values.contains key

def set (config : Config) (key value : String) : Config :=
  { config with values := config.values.insert key value }

/-- The configuration with a text under a key unless the key is present already. -/
def setDefault (config : Config) (key value : String) : Config :=
  { config with values := config.values.insertNew key value }

theorem get?_set (config : Config) (key other value : String) :
    (config.set key value).get? other = if key = other then some value else config.get? other :=
  Table.get?_insert config.values key other value

theorem get?_setDefault (config : Config) (key other value : String) :
    (config.setDefault key value).get? other =
      if key = other then some ((config.get? key).getD value) else config.get? other := by
  unfold setDefault get? Table.insertNew Table.contains
  cases present : config.values.get? key with
  | none => simp [Table.get?_insert]
  | some old =>
    by_cases same : key = other
    · subst same
      simp [present]
    · simp [same]

theorem set_eq_self {config : Config} {key value : String}
    (present : config.get? key = some value) : config.set key value = config := by
  rw [set, Table.insert_eq_self present]

theorem setDefault_eq_self {config : Config} {key : String} (present : config.has key = true)
    (value : String) : config.setDefault key value = config := by
  have kept : config.values.insertNew key value = config.values := if_pos present
  rw [setDefault, kept]

end Config

end Backbeat
