import Fulfillment.Proofs.Orders.Totals

/-!
# Order requests are checked rule by rule

An item has four rules, tried in this order (`ItemRule`): its name is not blank once trimmed of
Unicode white space, its quantity is at least 1, its unit price is above zero, and its category
is empty or one of the eight category names. `Item.check` says nothing of an item that keeps all
four (`Item.check_eq_none_iff`), and otherwise reports the first rule the item breaks, with that
rule's complaint (`Item.check_of_firstBroken`).

An order request is valid when its customer id is positive, it has at least one item and every
item keeps its rules (`OrderRequest.Valid`). `OrderRequest.check` finds nothing exactly in the
valid requests; otherwise it reports, as a validation fault, the first of these that fails: the
customer id, the item count, then the first item that breaks a rule, as `item <i>: ` followed by
that item's own complaint (`order_request_check_reports_first_failure`). The walk over the items
is `firstBroken`, which stops at the first item its check complains of (`firstBroken_append`).
-/

namespace Fulfillment

namespace Text

/-- A text is blank exactly when trimming its blanks leaves nothing. -/
theorem isBlankText_iff_trim_eq (s : String) : isBlankText s = true ↔ trim s = "" := by
  rw [isBlankText, trim, String.ofList_eq_empty_iff, trimChars, List.reverse_eq_nil_iff,
    List.dropWhile_eq_nil_iff, List.all_eq_true]
  constructor
  · intro h c hc
    exact h c ((List.dropWhile_sublist _).subset (List.mem_reverse.mp hc))
  · -- what survives the first drop starts with a non-blank, unless nothing survives
    intro h c hc
    cases hd : s.toList.dropWhile isBlank with
    | nil => exact List.dropWhile_eq_nil_iff.mp hd c hc
    | cons d ds =>
      have hne : s.toList.dropWhile isBlank ≠ [] := by simp [hd]
      have hb : isBlank d = true := h d (by simp [hd])
      have hnb := List.head_dropWhile_not isBlank hne
      simp [hd, hb] at hnb

end Text

theorem categoryValid_iff (c : String) : categoryValid c = true ↔ c = "" ∨ c ∈ categoryNames := by
  simp [categoryValid, String.isEmpty_iff]

/-- The rules of an item, in the order they are tried. -/
inductive ItemRule where
  | name
  | quantity
  | price
  | category
  deriving DecidableEq, Repr

namespace ItemRule

/-- The place of a rule in the order the rules are tried. -/
def rank : ItemRule → Nat
  | name => 0
  | quantity => 1
  | price => 2
  | category => 3

/-- What keeping a rule means for an item. -/
def Holds : ItemRule → Item → Prop
  | name, i => Text.trim i.name ≠ ""
  | quantity, i => 1 ≤ i.quantity
  | price, i => 0 < i.unitPrice.value
  | category, i => i.category = "" ∨ i.category ∈ categoryNames

/-- What an item that breaks a rule is told. -/
def complaint : ItemRule → Item → String
  | name, _ => "product_name is required"
  | quantity, _ => "quantity must be at least 1"
  | price, _ => "unit_price must be greater than 0"
  | category, i => "unknown product_category " ++ Text.quote i.category

/-- `r` is the first rule an item breaks: it breaks `r` and keeps every rule tried before. -/
def FirstBroken (r : ItemRule) (i : Item) : Prop :=
  ¬r.Holds i ∧ ∀ r' : ItemRule, r'.rank < r.rank → r'.Holds i

variable {i : Item}

/-! Each rule is the negation of the test `Item.check` makes for it. -/

theorem holds_name : name.Holds i ↔ Text.isBlankText i.name = false := by
  rw [Holds, Ne, ← Text.isBlankText_iff_trim_eq, Bool.not_eq_true]

theorem holds_quantity : quantity.Holds i ↔ ¬i.quantity < 1 := by
  simp only [Holds]
  omega

theorem holds_price : price.Holds i ↔ i.unitPrice.isPositive = true :=
  (Decimal.isPositive_iff_value _).symm

theorem holds_category : category.Holds i ↔ categoryValid i.category = true :=
  (categoryValid_iff _).symm

/-- An item that breaks some rule has a first rule it breaks. -/
theorem exists_firstBroken (h : ¬∀ r : ItemRule, r.Holds i) : ∃ r : ItemRule, r.FirstBroken i := by
  by_cases hn : name.Holds i
  · by_cases hq : quantity.Holds i
    · by_cases hp : price.Holds i
      · by_cases hc : category.Holds i
        · exact absurd (fun r => by cases r <;> assumption) h
        · exact ⟨category, hc, fun r' _ => by cases r' <;> simp_all [rank]⟩
      · exact ⟨price, hp, fun r' _ => by cases r' <;> simp_all [rank]⟩
    · exact ⟨quantity, hq, fun r' _ => by cases r' <;> simp_all [rank]⟩
  · exact ⟨name, hn, fun r' _ => by cases r' <;> simp_all [rank]⟩

end ItemRule

/-- An item that keeps its rules: a name that is not blank once trimmed, a quantity of at least 1,
a unit price above zero, and an empty or known category. -/
def Item.Valid (i : Item) : Prop :=
  Text.trim i.name ≠ "" ∧ 1 ≤ i.quantity ∧ 0 < i.unitPrice.value ∧
    (i.category = "" ∨ i.category ∈ categoryNames)

/-- An order request that passes its checks: a positive customer id, at least one item, and
every item valid. -/
def OrderRequest.Valid (req : OrderRequest) : Prop :=
  0 < req.customerId ∧ req.items.getD [] ≠ [] ∧ ∀ i ∈ req.items.getD [], i.Valid

namespace Item

open ItemRule

theorem valid_iff_holds (i : Item) : i.Valid ↔ ∀ r : ItemRule, r.Holds i := by
  constructor
  · rintro ⟨hn, hq, hp, hc⟩ r
    cases r
    exacts [hn, hq, hp, hc]
  · intro h
    exact ⟨h .name, h .quantity, h .price, h .category⟩

/-- An item's check reports the first rule the item breaks, with that rule's complaint. -/
theorem check_of_firstBroken {i : Item} {r : ItemRule} (h : r.FirstBroken i) :
    i.check = some (.invalid (r.complaint i)) := by
  obtain ⟨hr, hbefore⟩ := h
  unfold check
  cases r with
  | name =>
    have hn : Text.isBlankText i.name = true := by simpa [holds_name] using hr
    rw [if_pos hn]
    rfl
  | quantity =>
    have hn := holds_name.mp (hbefore .name (by decide))
    have hq : i.quantity < 1 := by simpa [holds_quantity] using hr
    rw [if_neg (by simp [hn]), if_pos hq]
    rfl
  | price =>
    have hn := holds_name.mp (hbefore .name (by decide))
    have hq := holds_quantity.mp (hbefore .quantity (by decide))
    have hp : i.unitPrice.isPositive = false := by simpa [holds_price] using hr
    rw [if_neg (by simp [hn]), if_neg hq, if_pos (by simp [hp])]
    rfl
  | category =>
    have hn := holds_name.mp (hbefore .name (by decide))
    have hq := holds_quantity.mp (hbefore .quantity (by decide))
    have hp := holds_price.mp (hbefore .price (by decide))
    have hc : categoryValid i.category = false := by simpa [holds_category] using hr
    rw [if_neg (by simp [hn]), if_neg hq, if_neg (by simp [hp]), if_pos (by simp [hc])]
    rfl

/-- An item's check finds nothing exactly when the item keeps its rules. -/
theorem check_eq_none_iff (i : Item) : i.check = none ↔ i.Valid := by
  rw [valid_iff_holds]
  constructor
  · intro h
    by_contra hn
    obtain ⟨r, hr⟩ := exists_firstBroken hn
    rw [check_of_firstBroken hr] at h
    cases h
  · intro h
    have hn := holds_name.mp (h .name)
    have hq := holds_quantity.mp (h .quantity)
    have hp := holds_price.mp (h .price)
    have hc := holds_category.mp (h .category)
    simp [check, hn, hq, hp, hc]

end Item

namespace OrderRequest

theorem firstBroken_eq_none_iff {n : Nat} {items : List Item} :
    firstBroken n items = none ↔ ∀ i ∈ items, i.check = none := by
  refine ⟨firstBroken_eq_none, fun h => ?_⟩
  induction items generalizing n with
  | nil => rfl
  | cons x rest ih =>
    have hx : x.check = none := h x (List.mem_cons_self ..)
    rw [firstBroken, hx]
    exact ih fun i hi => h i (List.mem_cons_of_mem _ hi)

/-- The walk over the items stops at the first item whose check complains, and reports its
place. -/
theorem firstBroken_append {n : Nat} {pre post : List Item} {i : Item} {f : Fault}
    (hpre : ∀ x ∈ pre, x.check = none) (hi : i.check = some f) :
    firstBroken n (pre ++ i :: post) = some (n + pre.length, f) := by
  induction pre generalizing n with
  | nil => simp [firstBroken, hi]
  | cons x rest ih =>
    have hx : x.check = none := hpre x (List.mem_cons_self ..)
    rw [List.cons_append, firstBroken, hx, ih fun y hy => hpre y (List.mem_cons_of_mem _ hy)]
    simp only [List.length_cons]
    congr 2
    omega

theorem check_isA {req : OrderRequest} {f : Fault} (h : req.check = some f) :
    f.isA .validation = true := by
  unfold check at h
  split at h
  · cases h; rfl
  · simp only at h
    split at h
    · cases h; rfl
    · obtain ⟨⟨n, f'⟩, -, rfl⟩ := Option.map_eq_some_iff.mp h
      rfl

theorem check_eq_none_iff (req : OrderRequest) : req.check = none ↔ req.Valid := by
  unfold check Valid
  by_cases hc : req.customerId ≤ 0
  · simp only [hc, if_true, reduceCtorEq, false_iff, not_and]
    omega
  · by_cases he : (req.items.getD []).isEmpty
    · have he' : req.items.getD [] = [] := List.isEmpty_iff.mp he
      simp [hc, he']
    · have he' : req.items.getD [] ≠ [] := fun h => by simp [h] at he
      simp only [hc, if_false, he, Bool.false_eq_true, Option.map_eq_none_iff,
        firstBroken_eq_none_iff, Item.check_eq_none_iff]
      exact ⟨fun h => ⟨by omega, he', h⟩, fun h => h.2.2⟩

end OrderRequest

/-- **An order request is checked rule by rule.** Its check finds nothing exactly when the
request is valid, and what it finds is a validation fault. A customer id that is not positive is
reported first, then a request without items, and then the first item that breaks a rule: at
place `i`, after items that keep theirs, it is reported as `item <i>: ` followed by the item's
own complaint for the first rule it breaks, tried in the order name, quantity, price, category. -/
theorem order_request_check_reports_first_failure (req : OrderRequest) :
    (req.check = none ↔ req.Valid) ∧
    (∀ f, req.check = some f → f.isA .validation = true) ∧
    (req.customerId ≤ 0 → req.check = some (.invalid "customer_id must be greater than 0")) ∧
    (0 < req.customerId → req.items.getD [] = [] →
      req.check = some (.invalid "order must contain at least one item")) ∧
    (∀ (pre post : List Item) (i : Item) (r : ItemRule), 0 < req.customerId →
      req.items.getD [] = pre ++ i :: post → (∀ x ∈ pre, x.Valid) → r.FirstBroken i →
      req.check = some (.invalid ("item " ++ toString pre.length ++ ": " ++
        (Fault.invalid (r.complaint i)).message))) := by
  refine ⟨req.check_eq_none_iff, fun f h => OrderRequest.check_isA h, fun hc => ?_,
    fun hc he => ?_, fun pre post i r hc hitems hpre hr => ?_⟩
  · simp [OrderRequest.check, hc]
  · have hc' : ¬req.customerId ≤ 0 := by omega
    simp [OrderRequest.check, hc', he]
  · have hc' : ¬req.customerId ≤ 0 := by omega
    have hwalk : OrderRequest.firstBroken 0 (pre ++ i :: post) =
        some (0 + pre.length, .invalid (r.complaint i)) :=
      OrderRequest.firstBroken_append (fun x hx => (Item.check_eq_none_iff x).mpr (hpre x hx))
        (Item.check_of_firstBroken hr)
    simp [OrderRequest.check, hc', hitems, hwalk]

example :
    (OrderRequest.check ⟨1, some [Item.make "Pen" 1 ⟨5, 0⟩, Item.make "Ink" 0 ⟨5, 0⟩], ""⟩).map
      Fault.message =
    some "validation failed: item 1: validation failed: quantity must be at least 1" := by
  decide

end Fulfillment
