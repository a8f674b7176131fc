/-!
# Values of a document

What a settings document holds, whatever format it was written in.
-/

namespace Rollout

inductive Value where
  | null
  | boolean (value : Bool)
  | integer (value : Int)
  /-- A number with a fraction or an exponent, or one that is no number. -/
  | real
  | text (value : String)
  /-- A date, a time or both, in its canonical text. -/
  | moment (canonical : String)
  | list (items : List Value)
  | table (entries : List (String × Value))

namespace Value

instance : Inhabited Value := ⟨null⟩

/-- The one name in the table that a date or time reads as. -/
def momentName : String := "$__toml_private_datetime"

/-- The entries of a value that reads as a table. -/
def entries? : Value → Option (List (String × Value))
  | table entries => some entries
  | moment canonical => some [(momentName, .text canonical)]
  | _ => none

def text? : Value → Option String
  | text value => some value
  | _ => none

def integer? : Value → Option Int
  | integer value => some value
  | _ => none

def items? : Value → Option (List Value)
  | list items => some items
  | _ => none

mutual

/-- Whether two values are equal, the entries of tables in their order. -/
def same : Value → Value → Bool
  | null, null | real, real => true
  | boolean a, boolean b => a == b
  | integer a, integer b => a == b
  | text a, text b | moment a, moment b => a == b
  | list items, list others => sameItems items others
  | table entries, table others => sameEntries entries others
  | _, _ => false

def sameItems : List Value → List Value → Bool
  | [], [] => true
  | item :: items, other :: others => same item other && sameItems items others
  | _, _ => false

def sameEntries : List (String × Value) → List (String × Value) → Bool
  | [], [] => true
  | (name, value) :: entries, (key, other) :: others =>
    name == key && same value other && sameEntries entries others
  | _, _ => false

end

mutual

theorem same_iff : ∀ {value other : Value}, same value other = true ↔ value = other
  | list items, other => by cases other <;> simp [same, sameItems_iff]
  | table entries, other => by cases other <;> simp [same, sameEntries_iff]
  | null, other | real, other | boolean _, other | integer _, other | text _, other
  | moment _, other => by cases other <;> simp [same]

theorem sameItems_iff :
    ∀ {items others : List Value}, sameItems items others = true ↔ items = others
  | [], others => by cases others <;> simp [sameItems]
  | item :: items, others => by cases others <;> simp [sameItems, same_iff, sameItems_iff]

theorem sameEntries_iff : ∀ {entries others : List (String × Value)},
    sameEntries entries others = true ↔ entries = others
  | [], others => by cases others <;> simp [sameEntries]
  | (name, value) :: entries, others => by
    cases others <;>
      simp [sameEntries, same_iff, sameEntries_iff, Prod.ext_iff, and_assoc]

end

instance : DecidableEq Value := fun _ _ => decidable_of_iff _ same_iff

end Value

end Rollout
