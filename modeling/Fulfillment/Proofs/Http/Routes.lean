import Fulfillment.Http.Network
import Fulfillment.Proofs.Json.Written

/-!
# Walking the route trees

A request's path is looked up in its method's tree by `Node.walk`. A walk that meets a node
whose text starts the path, and a child keyed by the next character, goes down to that child
(`Node.walk_fixed`); at a node whose last child is a parameter and no fixed child fits, the rest
of the path up to the next `/` fills the parameter (`Node.walk_param`). Every tree with a child
gives the walk enough steps for five nodes (`Node.two_le_count`).

A path of ASCII characters without `%` is read as written (`ofEscaped_plain`). With these the
payment service routes the two requests a gateway makes to it: `POST /api/v1/payments` to the
creation of a payment (`Payments.dispatch_create`), and `GET /api/v1/payments/order/<id>` to the
lookup by order, with the id as its parameter (`Payments.dispatch_byOrder`).
-/

namespace Fulfillment.Http

/-! ## Plain paths -/

/-- A character that a path writes as itself: ASCII and not `%`. -/
def PlainChar (c : Char) : Prop := c.toNat < 0x80 ∧ c ≠ '%'

theorem unescapeBytes_plain {cs : List Char} (h : ∀ c ∈ cs, PlainChar c) :
    unescapeBytes cs = cs.map fun c => c.toNat.toUInt8 := by
  induction cs with
  | nil => rfl
  | cons c cs ih =>
    obtain ⟨ha, hp⟩ := h c List.mem_cons_self
    have hu : String.utf8EncodeChar c = [c.toNat.toUInt8] := by
      rw [String.utf8EncodeChar_eq_singleton]
      · rfl
      · apply Char.utf8Size_eq_one_iff.mpr
        rw [UInt32.le_iff_toNat_le]
        exact Nat.lt_succ_iff.mp ha
    rw [unescapeBytes.eq_def]
    split
    · next a b rest he => exact absurd (List.cons.inj he).1 hp
    · next he =>
      obtain ⟨rfl, rfl⟩ := List.cons.inj he
      rw [hu, ih fun x hx => h x (List.mem_cons_of_mem _ hx)]
      rfl
    · next he => cases he

theorem toNat_toUInt8_ascii {c : Char} (h : c.toNat < 0x80) : c.toNat.toUInt8.toNat = c.toNat := by
  simp only [Nat.toUInt8, UInt8.toNat_ofNat']
  omega

theorem readPieces_ascii {bs : List UInt8} (h : ∀ b ∈ bs, b < 0x80) (fuel : Nat)
    (hf : bs.length ≤ fuel) :
    Text.readPieces fuel bs = bs.map fun b => .char (Char.ofNat b.toNat) := by
  induction bs generalizing fuel with
  | nil => cases fuel <;> rfl
  | cons b bs ih =>
    obtain ⟨f, rfl⟩ : ∃ f, fuel = f + 1 := ⟨fuel - 1, by simp at hf; omega⟩
    rw [Text.readPieces, Text.readChar?_ascii (h b List.mem_cons_self)]
    simp only [List.drop_succ_cons, List.drop_zero, List.map_cons]
    rw [ih (fun x hx => h x (List.mem_cons_of_mem _ hx)) f (by simp at hf; omega)]

/-- A path of plain characters is read as written. -/
theorem ofEscaped_plain {s : String} (h : ∀ c ∈ s.toList, PlainChar c) :
    PathText.ofEscaped s = PathText.ofText s := by
  have hb : ∀ b ∈ s.toList.map (fun c => c.toNat.toUInt8), b < 0x80 := by
    simp only [List.mem_map]
    rintro b ⟨c, hc, rfl⟩
    rw [UInt8.lt_iff_toNat_lt, toNat_toUInt8_ascii (h c hc).1]
    exact (h c hc).1
  rw [PathText.ofEscaped, unescapeBytes_plain h, Text.readUtf8, readPieces_ascii hb _ le_rfl]
  simp only [List.map_map, PathText.ofText]
  apply List.map_congr_left
  intro c hc
  simp only [Function.comp_apply, toNat_toUInt8_ascii (h c hc).1, Char.ofNat_toNat]


/-! ## Steps of a walk -/

namespace Node

variable {α : Type}

/-- A node's text starts every longer path that begins with it. -/
theorem text_starts {n : Node α} {r : PathText} (hne : r ≠ []) :
    (n.text.map Text.Piece.char).length < (n.text.map Text.Piece.char ++ r).length ∧
      (n.text.map Text.Piece.char).isPrefixOf (n.text.map Text.Piece.char ++ r) = true := by
  refine ⟨?_, List.isPrefixOf_iff_prefix.mpr (List.prefix_append _ _)⟩
  have := List.length_pos_iff.mpr hne
  simp only [List.length_append]
  omega

theorem walk_fixed {fuel : Nat} {n : Node α} {path r : PathText} {ds : List (Detour α)}
    {ps : Params} {c : Char} {k : Nat} (hp : path = n.text.map .char ++ r)
    (hr : keyOf r = some c) (hk : n.keys.idxOf? c = some k) :
    walk (fuel + 1) n false path ds ps =
      walk fuel (n.children.getD k n) false r
        (if n.wild then ⟨path, n, ps.length⟩ :: ds else ds) ps := by
  subst hp
  have hne : r ≠ [] := by
    rintro rfl
    cases hr
  obtain ⟨hlt, hpre⟩ := text_starts (n := n) hne
  rw [walk]
  simp only [Bool.false_eq_true, ↓reduceIte, hlt, hpre, decide_true, Bool.and_self,
    List.drop_left, hr, Option.bind_some, hk]

theorem walk_param {fuel : Nat} {n p : Node α} {path r : PathText} {ds : List (Detour α)}
    {ps : Params} {t : α} (hp : path = n.text.map .char ++ r) (hne : r ≠ [])
    (hk : (keyOf r).bind n.keys.idxOf? = none) (hw : n.wild = true)
    (hlast : n.children.getLast? = some p) (hs : ∀ x ∈ r, x ≠ .char '/') (ht : p.target = some t) :
    walk (fuel + 1) n false path ds ps =
      ⟨some (t, ps ++ [(String.ofList (p.text.drop 1), r)]), false⟩ := by
  subst hp
  obtain ⟨hlt, hpre⟩ := text_starts (n := n) hne
  have htw : r.takeWhile (· != .char '/') = r :=
    List.takeWhile_eq_self_iff.mpr fun x hx => by simpa using hs x hx
  rw [walk]
  simp only [Bool.false_eq_true, ↓reduceIte, hlt, hpre, decide_true, Bool.and_self,
    List.drop_left, hk, hw, hlast, htw, List.drop_length, ht]

theorem one_le_count (n : Node α) : 1 ≤ n.count := by
  obtain ⟨text, kind, wild, keys, children, target⟩ := n
  rw [count]
  omega

theorem two_le_count {n : Node α} (h : n.children ≠ []) : 2 ≤ n.count := by
  obtain ⟨text, kind, wild, keys, children, target⟩ := n
  obtain ⟨c, cs, rfl⟩ := List.exists_cons_of_ne_nil h
  have hc := one_le_count c
  rw [count]
  simp only [List.attach_cons, List.map_cons, List.foldr_cons]
  omega

end Node

/-! ## The payment service's routes -/

open Node

/-- The payment service's tree of `GET` routes. -/
def Payments.getRoutes : Node Handler :=
  Node.ofPatterns ((Payments.routes.filter (·.method == "GET")).map fun r => (r.pattern, r.target))

theorem Payments.lookup_get : Payments.router.lookup "GET" = some Payments.getRoutes := rfl

/-- The `GET` tree takes `/api/v1/payments/order/` and a segment to the lookup by order, with the
segment as its parameter. -/
theorem Payments.find_byOrder {id : PathText} (hne : id ≠ []) (hs : ∀ x ∈ id, x ≠ .char '/') :
    Payments.getRoutes.find (PathText.ofText "/api/v1/payments/order/" ++ id) =
      ⟨some (Payments.byOrder, [("orderId", id)]), false⟩ := by
  -- the nodes on the way down: `/`, `api/v1/`, `payments`, `/` and `order/`
  set t := Payments.getRoutes
  set n1 := t.children.getD 2 t
  set n2 := n1.children.getD 1 n1
  set n3 := n2.children.getD 0 n2
  set n4 := n3.children.getD 2 n3
  have h0 : t.text = ['/'] ∧ t.keys.idxOf? 'a' = some 2 ∧ t.children ≠ [] := by decide
  have h1 : n1.text = "api/v1/".toList ∧ n1.keys.idxOf? 'p' = some 1 := by decide
  have h2 : n2.text = "payments".toList ∧ n2.keys.idxOf? '/' = some 0 := by decide
  have h3 : n3.text = ['/'] ∧ n3.keys.idxOf? 'o' = some 2 := by decide
  have h4 : n4.text = "order/".toList ∧ n4.keys = [] ∧ n4.wild = true := by decide
  obtain ⟨p, hlast, hpt, hptarget⟩ : ∃ p, n4.children.getLast? = some p ∧
      p.text = ":orderId".toList ∧ p.target = some Payments.byOrder := ⟨_, rfl, by decide, rfl⟩
  obtain ⟨f, hf⟩ : ∃ f, 2 * t.count + 2 = f + 5 :=
    ⟨2 * t.count - 3, by have := two_le_count h0.2.2; omega⟩
  rw [Node.find, hf]
  rw [walk_fixed (r := PathText.ofText "api/v1/payments/order/" ++ id) (by rw [h0.1]; rfl) rfl
    h0.2.1]
  rw [walk_fixed (r := PathText.ofText "payments/order/" ++ id) (by rw [h1.1]; rfl) rfl h1.2]
  rw [walk_fixed (r := PathText.ofText "/order/" ++ id) (by rw [h2.1]; rfl) rfl h2.2]
  rw [walk_fixed (r := PathText.ofText "order/" ++ id) (by rw [h3.1]; rfl) rfl h3.2]
  rw [walk_param (r := id) (by rw [h4.1]; rfl) hne (by rw [h4.2.1]; cases keyOf id <;> rfl)
    h4.2.2 hlast hs hptarget, hpt]
  rfl

/-- A creation request reaches the payment service's creation handler. -/
theorem Payments.dispatch_create (forwarded : String) :
    dispatch Payments.router "POST" (RequestUri.ofPath "/api/v1/payments") forwarded =
      .found Payments.create [] := rfl

/-- A lookup by order reaches the lookup handler, with the order id as written. -/
theorem Payments.dispatch_byOrder {orderId : Int} (h : 0 ≤ orderId) (forwarded : String) :
    dispatch Payments.router "GET" (RequestUri.ofPath ("/api/v1/payments/order/" ++ toString orderId))
      forwarded = .found Payments.byOrder [("orderId", PathText.ofText (toString orderId))] := by
  have hdig : ∀ c ∈ (toString orderId).toList, c.isDigit = true := by
    obtain ⟨m, rfl⟩ := Int.eq_ofNat_of_zero_le h
    exact Json.isDigit_of_mem_toString m
  have hdigit : ∀ c, c.isDigit = true → PlainChar c ∧ c ≠ '/' := by
    intro c hc
    have : 48 ≤ c.toNat ∧ c.toNat ≤ 57 := by simpa [Char.isDigit, UInt32.le_iff_toNat_le] using hc
    refine ⟨⟨by omega, ?_⟩, ?_⟩ <;> rintro rfl <;> simp at this
  have hlit : "/api/v1/payments/order/".toList.all
      (fun c => decide (c.toNat < 0x80) && c != '%') = true := by decide
  have hplain : ∀ c ∈ ("/api/v1/payments/order/" ++ toString orderId).toList, PlainChar c := by
    intro c hc
    rw [String.toList_append] at hc
    rcases List.mem_append.mp hc with hc | hc
    · simpa [PlainChar] using List.all_eq_true.mp hlit c hc
    · exact (hdigit c (hdig c hc)).1
  have hne : PathText.ofText (toString orderId) ≠ [] := by
    obtain ⟨m, rfl⟩ := Int.eq_ofNat_of_zero_le h
    rw [Json.toString_ofNat_int]
    simp [PathText.ofText]
  have hs : ∀ x ∈ PathText.ofText (toString orderId), x ≠ .char '/' := by
    simp only [PathText.ofText, List.mem_map]
    rintro x ⟨c, hc, rfl⟩ he
    exact (hdigit c (hdig c hc)).2 (Text.Piece.char.inj he)
  have hpath : PathText.ofText ("/api/v1/payments/order/" ++ toString orderId) =
      PathText.ofText "/api/v1/payments/order/" ++ PathText.ofText (toString orderId) := by
    simp [PathText.ofText]
  simp only [dispatch, RequestUri.ofPath, ofEscaped_plain hplain, lookup_get, hpath,
    find_byOrder hne hs]

end Fulfillment.Http
