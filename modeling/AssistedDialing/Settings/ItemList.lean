import AssistedDialing.Text.Separated

/-!
# Configured lists

A list can be configured as a comma-separated text or item by item. `ItemList.items` is the list of
its items as stripped texts, without the blank ones. An item that is given by itself may hold
commas.
-/

namespace AssistedDialing

/-- A list as it is configured. -/
inductive ItemList (α : Type) where
  | csv (text : String)
  | list (items : List α)
  deriving DecidableEq, Repr, Inhabited

namespace ItemList

/-- `list.items display` is the stripped items that are not blank, where `display` is the text of an
item that is given by itself. -/
def items {α : Type} (display : α → String) : ItemList α → List String
  | csv text => Text.items text
  | list items => Text.stripped (items.map display)

end ItemList

end AssistedDialing
