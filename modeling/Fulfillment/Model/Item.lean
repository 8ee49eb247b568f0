import Fulfillment.Decimal.Text
import Fulfillment.Json.Basic
import Fulfillment.Model.Fault
import Fulfillment.Text.Blank
import Fulfillment.Text.Quoted

/-!
# Order items

An item is a product line of an order: a name, an optional description and category, a quantity,
a unit price and a total price. `withTotal` sets the total price to unit price × quantity,
exactly.

`Item.check` applies the rules of an item, first failure wins: the name must not be blank, the
quantity must be at least 1, the unit price must be greater than zero, and the category must be
empty or one of the eight category names.
-/

namespace Fulfillment

/-- The product categories an item may name; an empty category is also allowed. -/
def categoryNames : List String :=
  ["ELECTRONICS", "CLOTHING", "BOOKS", "HOME_GARDEN", "SPORTS", "TOYS", "FOOD", "OTHER"]

/-- Whether a category text is empty or one of the category names. -/
def categoryValid (c : String) : Bool := c.isEmpty || categoryNames.contains c

/-- A product line of an order. -/
structure Item where
  id : Int
  name : String
  description : String
  category : String
  quantity : Int
  unitPrice : Decimal
  totalPrice : Decimal
  deriving DecidableEq, Inhabited, Repr

namespace Item

/-- An item with nothing set. -/
def blank : Item := ⟨0, "", "", "", 0, Decimal.zero, Decimal.zero⟩

/-- The item with its total price set to unit price × quantity. -/
def withTotal (i : Item) : Item :=
  { i with totalPrice := i.unitPrice * Decimal.ofInt i.quantity }

/-- A new item with its total price computed. -/
def make (name : String) (quantity : Int) (unitPrice : Decimal) : Item :=
  withTotal { blank with name := name, quantity := quantity, unitPrice := unitPrice }

/-- The first rule an item breaks. -/
def check (i : Item) : Option Fault :=
  if Text.isBlankText i.name then some (.invalid "product_name is required")
  else if i.quantity < 1 then some (.invalid "quantity must be at least 1")
  else if !i.unitPrice.isPositive then some (.invalid "unit_price must be greater than 0")
  else if !categoryValid i.category then
    some (.invalid ("unknown product_category " ++ Text.quote i.category))
  else none

/-- The item as JSON; a zero id, an empty description and an empty category are left out. -/
def toJson (i : Item) : Json :=
  .obj <|
    (if i.id = 0 then [] else [("id", Json.int i.id)]) ++
    [("product_name", .str i.name)] ++
    (if i.description.isEmpty then [] else [("product_description", .str i.description)]) ++
    (if i.category.isEmpty then [] else [("product_category", .str i.category)]) ++
    [("quantity", Json.int i.quantity),
     ("unit_price", .str i.unitPrice.toText),
     ("total_price", .str i.totalPrice.toText)]

theorem withTotal_totalPrice (i : Item) :
    i.withTotal.totalPrice = i.unitPrice * Decimal.ofInt i.quantity := rfl

end Item

end Fulfillment
