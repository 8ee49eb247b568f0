import Fulfillment.Service.Customers
import Mathlib

/-!
# The customer directory over any run of calls

A run of the directory is a list of calls, each at its own time: creates and updates with any
contact, whose fields are any bytes, UTF-8 or not, deletes and seeds (`DirectoryCall`). A call that fails hands back no directory, so the
run keeps the one it had (`DirectoryCall.apply`).

Every directory a run reaches from the empty one is `CustomerStore.Valid`: its ids are positive,
at most the last id handed out and increasing along the list, and no two of its e-mail addresses
are equal up to case folding. Each operation keeps that (`Valid.create`, `Valid.update`,
`Valid.delete`); seeding is a run of creates of the samples whose refusals are all "already
exists" (`seed_eq_run`), so it keeps it too. A run also `Follows` its calls: each customer holds
the normalised contact of a call that wrote it, and a customer the start did not hold has an id
above the start's last id (`follows_run`). On such a directory a lookup by e-mail finds the one
customer whose address folds like the trimmed one (`getByEmail_eq_ok`).

The main statement, `directory_laws`, gathers these for every directory a run reaches.
-/

namespace Fulfillment

namespace Customer

/-- The details of a customer that a contact sets. -/
def contact (c : Customer) : Contact := ⟨c.firstName, c.lastName, c.email, c.phone, c.address⟩

@[simp] theorem contact_withContact (c : Customer) (k : Contact) :
    (c.withContact k).contact = k := rfl

@[simp] theorem withContact_id (c : Customer) (k : Contact) : (c.withContact k).id = c.id := rfl

@[simp] theorem withContact_email (c : Customer) (k : Contact) :
    (c.withContact k).email = k.email := rfl

end Customer

namespace CustomerStore

variable {s t : CustomerStore} {c c' : Customer} {now : Instant} {f : Fault}

theorem takes_eq_false {e : Bytes} {k : Int} :
    s.takes e k = false ↔ ∀ c ∈ s.customers, c.id ≠ k → c.email.foldEq e = false := by
  simp [takes]

theorem takes_eq_true {e : Bytes} {k : Int} :
    s.takes e k = true ↔ ∃ c ∈ s.customers, c.id ≠ k ∧ c.email.foldEq e = true := by
  simp [takes]

theorem holds_iff {k : Int} : s.holds k = true ↔ ∃ c ∈ s.customers, c.id = k := by
  simp [holds]

theorem create_eq_ok : s.create c now = .ok (c', t) ↔ s.takes c.email 0 = false ∧
    c' = { c with id := s.lastId + 1, createdAt := now, updatedAt := now } ∧
    t = ⟨s.customers ++ [c'], s.lastId + 1⟩ := by
  unfold create
  split
  · simp_all
  · constructor
    · rintro ⟨⟩
      simp_all
    · rintro ⟨-, rfl, rfl⟩
      rfl

theorem create_eq_error : s.create c now = .error f ↔
    s.takes c.email 0 = true ∧ f = emailTaken c.email := by
  unfold create
  split
  · constructor
    · rintro ⟨⟩
      simp_all
    · rintro ⟨-, rfl⟩
      rfl
  · simp_all

theorem holds_eq_false {k : Int} : s.holds k = false ↔ s.customers.find? (·.id == k) = none := by
  simp [holds, List.find?_eq_none]

theorem find_eq_ok {k : Int} : s.find k = .ok c ↔ s.customers.find? (·.id == k) = some c := by
  unfold find
  split
  next c₀ h => simp [h]
  next h => simp [h]

theorem find_eq_error {k : Int} : s.find k = .error f ↔ s.holds k = false ∧ f = notFound := by
  rw [holds_eq_false]
  unfold find
  split
  · simp_all
  · constructor
    · rintro ⟨⟩
      simp_all
    · rintro ⟨-, rfl⟩
      rfl

theorem update_eq_ok : s.update c now = .ok (c', t) ↔
    ∃ cur, s.customers.find? (·.id == c.id) = some cur ∧ s.takes c.email c.id = false ∧
      c' = { c with createdAt := cur.createdAt, updatedAt := now } ∧
      t = { s with customers := s.customers.map fun x => if x.id == c.id then c' else x } := by
  unfold update
  split
  next hnone => simp [hnone]
  next cur hcur =>
    split
    next htake => simp [hcur, htake]
    next htake =>
      constructor
      · rintro ⟨⟩
        exact ⟨cur, hcur, by simpa using htake, rfl, rfl⟩
      · rintro ⟨cur', hcur', -, rfl, rfl⟩
        cases hcur.symm.trans hcur'
        rfl

theorem update_eq_error : s.update c now = .error f ↔
    (s.holds c.id = false ∧ f = notFound) ∨
      (s.holds c.id = true ∧ s.takes c.email c.id = true ∧ f = emailTaken c.email) := by
  rw [← Bool.not_eq_false, holds_eq_false]
  unfold update
  split
  · constructor
    · rintro ⟨⟩
      simp_all
    · rintro (⟨-, rfl⟩ | ⟨h, -⟩)
      · rfl
      · simp_all
  · split
    · constructor
      · rintro ⟨⟩
        simp_all
      · rintro (⟨h, -⟩ | ⟨-, -, rfl⟩)
        · simp_all
        · rfl
    · simp_all

theorem delete_eq_ok {k : Int} : s.delete k = .ok t ↔
    s.holds k = true ∧ t = { s with customers := s.customers.filter (·.id != k) } := by
  unfold delete
  split
  · constructor
    · rintro ⟨⟩
      simp_all [holds]
    · rintro ⟨-, rfl⟩
      rfl
  · simp_all [holds]

theorem findByEmail_eq_ok {e : Bytes} :
    s.findByEmail e = .ok c ↔ s.customers.find? (fun c => c.email.foldEq e) = some c := by
  unfold findByEmail
  split
  next c₀ h => simp [h]
  next h => simp [h]

theorem findByEmail_eq_error {e : Bytes} : s.findByEmail e = .error f ↔
    f = notFound ∧ ∀ c ∈ s.customers, c.email.foldEq e = false := by
  unfold findByEmail
  split
  next c₀ h =>
    constructor
    · rintro ⟨⟩
    · rintro ⟨-, hall⟩
      have hfound := List.find?_some h
      simp [hall c₀ (List.mem_of_find?_eq_some h)] at hfound
  next h =>
    rw [List.find?_eq_none] at h
    constructor
    · rintro ⟨⟩
      exact ⟨rfl, fun c hc => by simpa using h c hc⟩
    · rintro ⟨rfl, -⟩
      rfl

/-- What every directory keeps: positive ids, at most the last id handed out and increasing along
the list, and e-mail addresses no two of which are equal up to case folding. -/
structure Valid (s : CustomerStore) : Prop where
  lastId_nonneg : 0 ≤ s.lastId
  id_pos : ∀ c ∈ s.customers, 0 < c.id
  id_le : ∀ c ∈ s.customers, c.id ≤ s.lastId
  ids_increase : s.customers.Pairwise (·.id < ·.id)
  emails_apart : s.customers.Pairwise fun a b => a.email.foldEq b.email = false

theorem valid_empty : empty.Valid :=
  ⟨le_refl _, by simp [empty], by simp [empty], .nil, .nil⟩

theorem Valid.create (hs : s.Valid) (h : s.create c now = .ok (c', t)) : t.Valid := by
  obtain ⟨htake, rfl, rfl⟩ := create_eq_ok.mp h
  have hfree := takes_eq_false.mp htake
  have h0 := hs.lastId_nonneg
  refine ⟨by dsimp only; omega, ?_, ?_, ?_, ?_⟩
  · intro x hx
    rcases List.mem_append.mp hx with hx | hx
    · exact hs.id_pos x hx
    · rw [List.mem_singleton.mp hx]
      dsimp only
      omega
  · intro x hx
    rcases List.mem_append.mp hx with hx | hx
    · have := hs.id_le x hx
      dsimp only
      omega
    · rw [List.mem_singleton.mp hx]
  · refine List.pairwise_append.mpr ⟨hs.ids_increase, List.pairwise_singleton _ _, ?_⟩
    intro x hx y hy
    rw [List.mem_singleton.mp hy]
    have := hs.id_le x hx
    dsimp only
    omega
  · refine List.pairwise_append.mpr ⟨hs.emails_apart, List.pairwise_singleton _ _, ?_⟩
    intro x hx y hy
    rw [List.mem_singleton.mp hy]
    exact hfree x hx (hs.id_pos x hx).ne'

/-- A store write of a customer already stored keeps every id, and so the order of the ids. -/
theorem Valid.update (hs : s.Valid) (h : s.update c now = .ok (c', t)) : t.Valid := by
  obtain ⟨cur, -, htake, rfl, rfl⟩ := update_eq_ok.mp h
  have hfree := takes_eq_false.mp htake
  set c' : Customer := { c with createdAt := cur.createdAt, updatedAt := now }
  have hid : ∀ x : Customer, (if x.id == c.id then c' else x).id = x.id := by
    intro x
    split <;> simp_all [c']
  refine ⟨hs.lastId_nonneg, ?_, ?_, ?_, ?_⟩
  · simp only [List.mem_map]
    rintro _ ⟨x, hx, rfl⟩
    rw [hid]
    exact hs.id_pos x hx
  · simp only [List.mem_map]
    rintro _ ⟨x, hx, rfl⟩
    rw [hid]
    exact hs.id_le x hx
  · refine List.pairwise_map.mpr (hs.ids_increase.imp ?_)
    intro a b hab
    rwa [hid, hid]
  · refine List.pairwise_map.mpr ((hs.ids_increase.and hs.emails_apart).imp_of_mem ?_)
    intro a b ha hb ⟨hlt, hab⟩
    -- at most one of the two is the written customer, and the other's address is apart from it
    by_cases hac : a.id = c.id <;> by_cases hbc : b.id = c.id
    · omega
    · simpa [hac, hbc, c', Bytes.foldEq_comm] using hfree b hb hbc
    · simpa [hac, hbc, c'] using hfree a ha hac
    · simpa [hac, hbc] using hab

theorem Valid.delete {k : Int} (hs : s.Valid) (h : s.delete k = .ok t) : t.Valid := by
  obtain ⟨-, rfl⟩ := delete_eq_ok.mp h
  refine ⟨hs.lastId_nonneg, fun x hx => ?_, fun x hx => ?_, hs.ids_increase.filter _,
    hs.emails_apart.filter _⟩
  · exact hs.id_pos x (List.mem_filter.mp hx).1
  · exact hs.id_le x (List.mem_filter.mp hx).1

/-- On a valid store a lookup by e-mail finds the one customer whose address folds like it. -/
theorem Valid.findByEmail_eq_ok (hs : s.Valid) {e : Bytes} :
    s.findByEmail e = .ok c ↔ c ∈ s.customers ∧ c.email.foldEq e = true := by
  rw [CustomerStore.findByEmail_eq_ok]
  constructor
  · intro h
    exact ⟨List.mem_of_find?_eq_some h, by simpa using List.find?_some h⟩
  · rintro ⟨hc, hce⟩
    have hsome : (s.customers.find? fun c => c.email.foldEq e).isSome :=
      List.find?_isSome.mpr ⟨c, hc, hce⟩
    obtain ⟨c₀, h₀⟩ := Option.isSome_iff_exists.mp hsome
    have hc₀ := List.mem_of_find?_eq_some h₀
    have hc₀e : c₀.email.foldEq e = true := by simpa using List.find?_some h₀
    rw [h₀]
    by_contra hne
    -- two customers whose addresses fold like `e` fold like each other
    have : Std.Symm fun a b : Customer => a.email.foldEq b.email = false :=
      ⟨fun a b h => by rwa [Bytes.foldEq_comm]⟩
    have hapart := hs.emails_apart.forall hc₀ hc fun h => hne (congrArg some h)
    have hsame : c₀.email.foldEq c.email = true :=
      Bytes.foldEq_trans hc₀e (by rwa [Bytes.foldEq_comm])
    simp [hsame] at hapart

end CustomerStore

/-- A call to the customer directory. -/
inductive DirectoryCall where
  | create (req : Contact)
  | update (id : Int) (req : Contact)
  | delete (id : Int)
  | seed

namespace DirectoryCall

/-- The directory a call at `now` leaves: the one it wrote, or the one it had when it failed. -/
def apply (s : CustomerStore) (now : Instant) : DirectoryCall → CustomerStore
  | create req =>
    match Directory.create s req now with
    | .ok (_, t) => t
    | .error _ => s
  | update id req =>
    match Directory.update s id req now with
    | .ok (_, t) => t
    | .error _ => s
  | delete id =>
    match s.delete id with
    | .ok t => t
    | .error _ => s
  | seed =>
    match Directory.seed s now with
    | .ok t => t
    | .error _ => s

/-- The directory after timed calls, one after the other. -/
def run (s : CustomerStore) (calls : List (Instant × DirectoryCall)) : CustomerStore :=
  calls.foldl (fun s call => call.2.apply s call.1) s

@[simp] theorem run_nil (s : CustomerStore) : run s [] = s := rfl

@[simp] theorem run_cons (s : CustomerStore) (now : Instant) (call : DirectoryCall)
    (calls : List (Instant × DirectoryCall)) :
    run s ((now, call) :: calls) = run (call.apply s now) calls := rfl

/-- Whether the call sends the contact `req` for the customer `id`: a create sends its contact,
an update its contact for its id, a seed each sample. -/
def sends : DirectoryCall → Int → Contact → Prop
  | create r, _, req => r = req
  | update i r, id, req => i = id ∧ r = req
  | delete _, _, _ => False
  | seed, _, req => req ∈ Directory.samples

end DirectoryCall

namespace Directory

open CustomerStore

variable {s t u : CustomerStore} {L L' : List DirectoryCall} {now : Instant} {req : Contact}
  {c' : Customer} {f : Fault} {k : Int}

/-! ## The operations, on any directory -/

theorem create_eq_error (hs : s.Valid) : Directory.create s req now = .error f ↔
    f = emailTaken req.normalize.email ∧
      ∃ c ∈ s.customers, c.email.foldEq req.normalize.email = true := by
  rw [Directory.create, CustomerStore.create_eq_error, takes_eq_true]
  constructor
  · rintro ⟨⟨c, hc, -, hfold⟩, rfl⟩
    exact ⟨rfl, c, hc, hfold⟩
  · rintro ⟨rfl, c, hc, hfold⟩
    -- every stored id is positive, so the check that spares id 0 spares no one
    exact ⟨⟨c, hc, (hs.id_pos c hc).ne', hfold⟩, rfl⟩

theorem update_eq_ok : Directory.update s k req now = .ok (c', t) ↔
    ∃ c, s.customers.find? (·.id == k) = some c ∧
      s.update (c.withContact req.normalize) now = .ok (c', t) := by
  unfold Directory.update
  cases h : s.find k with
  | error e =>
    have hnone := holds_eq_false.mp (find_eq_error.mp h).1
    simp [bind, Except.bind, hnone]
  | ok _ =>
    have hfound := find_eq_ok.mp h
    simp [bind, Except.bind, hfound]

theorem update_eq_error : Directory.update s k req now = .error f ↔
    (s.holds k = false ∧ f = notFound) ∨
      (s.holds k = true ∧ f = emailTaken req.normalize.email ∧
        ∃ c ∈ s.customers, c.id ≠ k ∧ c.email.foldEq req.normalize.email = true) := by
  unfold Directory.update
  cases h : s.find k with
  | error e =>
    obtain ⟨hk, rfl⟩ := find_eq_error.mp h
    simp only [bind, Except.bind, hk, Except.error.injEq]
    simpa using eq_comm
  | ok c =>
    have hfound := find_eq_ok.mp h
    have hck : c.id = k := by simpa using List.find?_some hfound
    have hk : s.holds k = true :=
      holds_iff.mpr ⟨c, List.mem_of_find?_eq_some hfound, hck⟩
    simp only [bind, Except.bind, CustomerStore.update_eq_error, Customer.withContact_id,
      Customer.withContact_email, hck, hk, takes_eq_true]
    simp [and_comm]

/-- A lookup by e-mail trims the address and finds the one customer whose address folds like it. -/
theorem getByEmail_eq_ok (hs : s.Valid) {x : Bytes} {c : Customer} :
    getByEmail s x = .ok c ↔ c ∈ s.customers ∧ c.email.foldEq x.trim = true :=
  hs.findByEmail_eq_ok

theorem getByEmail_eq_error {x : Bytes} : getByEmail s x = .error f ↔
    f = notFound ∧ ∀ c ∈ s.customers, c.email.foldEq x.trim = false :=
  findByEmail_eq_error

/-! ## What a run keeps -/

/-- One of the calls sends the contact `req` for the customer `id`. -/
def Sends (calls : List DirectoryCall) (id : Int) (req : Contact) : Prop :=
  ∃ call ∈ calls, call.sends id req

theorem Sends.mono {id : Int} (h : Sends L id req) (hL : L ⊆ L') : Sends L' id req := by
  obtain ⟨call, hcall, hsend⟩ := h
  exact ⟨call, hL hcall, hsend⟩

/-- What a run from `s` to `t` over `calls` keeps: each customer of `t` is one of `s` or holds the
normalised contact a call sent for its id; the last id only grows; and a customer whose id `s`
does not hold has an id above the last one `s` handed out. -/
structure Follows (s : CustomerStore) (calls : List DirectoryCall) (t : CustomerStore) : Prop where
  sent : ∀ c ∈ t.customers,
    c ∈ s.customers ∨ ∃ req, c.contact = req.normalize ∧ Sends calls c.id req
  lastId_le : s.lastId ≤ t.lastId
  fresh : ∀ c ∈ t.customers, s.holds c.id = true ∨ s.lastId < c.id

theorem follows_self : Follows s L s :=
  ⟨fun _ hc => .inl hc, le_refl _, fun c hc => .inl (holds_iff.mpr ⟨c, hc, rfl⟩)⟩

theorem Follows.trans (h₁ : Follows s L u) (h₂ : Follows u L' t) : Follows s (L ++ L') t := by
  refine ⟨fun c hc => ?_, h₁.lastId_le.trans h₂.lastId_le, fun c hc => ?_⟩
  · rcases h₂.sent c hc with hu | ⟨req, hreq, hsend⟩
    · rcases h₁.sent c hu with hs | ⟨req, hreq, hsend⟩
      · exact .inl hs
      · exact .inr ⟨req, hreq, hsend.mono (List.subset_append_left _ _)⟩
    · exact .inr ⟨req, hreq, hsend.mono (List.subset_append_right _ _)⟩
  · rcases h₂.fresh c hc with hu | hlt
    · -- a customer `u` held: `s` held it, or `u` handed out its id, above the last id of `s`
      obtain ⟨c₀, hc₀, hid⟩ := holds_iff.mp hu
      rw [← hid]
      exact h₁.fresh c₀ hc₀
    · exact .inr (lt_of_le_of_lt h₁.lastId_le hlt)

theorem Follows.mono (h : Follows s L t) (hL : ∀ id req, Sends L id req → Sends L' id req) :
    Follows s L' t := by
  refine ⟨fun c hc => ?_, h.lastId_le, h.fresh⟩
  rcases h.sent c hc with hs | ⟨req, hreq, hsend⟩
  · exact .inl hs
  · exact .inr ⟨req, hreq, hL _ _ hsend⟩

theorem follows_create (s : CustomerStore) (req : Contact) (now : Instant) :
    Follows s [.create req] ((DirectoryCall.create req).apply s now) := by
  rw [DirectoryCall.apply]
  cases h : Directory.create s req now with
  | error e => exact follows_self
  | ok r =>
    obtain ⟨c, t⟩ := r
    obtain ⟨-, rfl, rfl⟩ := CustomerStore.create_eq_ok.mp h
    refine ⟨fun x hx => ?_, by dsimp only; omega, fun x hx => ?_⟩
    · rcases List.mem_append.mp hx with hx | hx
      · exact .inl hx
      · rw [List.mem_singleton.mp hx]
        exact .inr ⟨req, rfl, .create req, List.mem_singleton_self _, rfl⟩
    · rcases List.mem_append.mp hx with hx | hx
      · exact .inl (holds_iff.mpr ⟨x, hx, rfl⟩)
      · rw [List.mem_singleton.mp hx]
        exact .inr (by dsimp only; omega)

theorem follows_update (s : CustomerStore) (k : Int) (req : Contact) (now : Instant) :
    Follows s [.update k req] ((DirectoryCall.update k req).apply s now) := by
  rw [DirectoryCall.apply]
  cases h : Directory.update s k req now with
  | error e => exact follows_self
  | ok r =>
    obtain ⟨c', t⟩ := r
    obtain ⟨c, hc, hup⟩ := update_eq_ok.mp h
    obtain ⟨cur, -, -, rfl, rfl⟩ := CustomerStore.update_eq_ok.mp hup
    have hck : c.id = k := by simpa using List.find?_some hc
    refine ⟨fun x hx => ?_, le_refl _, fun x hx => ?_⟩
    · obtain ⟨y, hy, rfl⟩ := List.mem_map.mp hx
      by_cases hyc : y.id = c.id
      · -- the written customer: the contact of the update, under its id
        refine .inr ⟨req, ?_, .update k req, List.mem_singleton_self _, ?_⟩
        · simp [hyc, Customer.contact, Customer.withContact]
        · simp [DirectoryCall.sends, hyc, hck]
      · simpa [hyc] using .inl hy
    · obtain ⟨y, hy, rfl⟩ := List.mem_map.mp hx
      refine .inl (holds_iff.mpr ⟨y, hy, ?_⟩)
      by_cases hyc : y.id = c.id <;> simp [hyc]

theorem follows_delete (s : CustomerStore) (k : Int) (now : Instant) :
    Follows s [.delete k] ((DirectoryCall.delete k).apply s now) := by
  rw [DirectoryCall.apply]
  cases h : s.delete k with
  | error e => exact follows_self
  | ok t =>
    obtain ⟨-, rfl⟩ := delete_eq_ok.mp h
    refine ⟨fun x hx => .inl (List.mem_filter.mp hx).1, le_refl _, fun x hx => ?_⟩
    exact .inl (holds_iff.mpr ⟨x, (List.mem_filter.mp hx).1, rfl⟩)

/-- What each call keeps, lifted to a run of such calls. -/
theorem follows_run_of {calls : List (Instant × DirectoryCall)}
    (hstep : ∀ s, ∀ p ∈ calls, Follows s [p.2] (p.2.apply s p.1)) (s : CustomerStore) :
    Follows s (calls.map Prod.snd) (DirectoryCall.run s calls) := by
  induction calls generalizing s with
  | nil => exact follows_self
  | cons p calls ih =>
    have hrest := ih (fun s q hq => hstep s q (List.mem_cons_of_mem p hq)) (p.2.apply s p.1)
    exact (hstep s p List.mem_cons_self).trans hrest

theorem valid_run_of {calls : List (Instant × DirectoryCall)}
    (hstep : ∀ s, ∀ p ∈ calls, s.Valid → (p.2.apply s p.1).Valid) (hs : s.Valid) :
    (DirectoryCall.run s calls).Valid := by
  induction calls generalizing s with
  | nil => exact hs
  | cons p calls ih =>
    exact ih (fun s q hq => hstep s q (List.mem_cons_of_mem p hq)) (hstep s p List.mem_cons_self hs)

/-! ## Seeding -/

/-- One step of seeding: the sample is created, and skipped when the store refuses it as already
there. -/
def seedStep (now : Instant) (acc : CustomerStore) (req : Contact) : Except Fault CustomerStore :=
  match Directory.create acc req now with
  | .ok (_, acc') => .ok acc'
  | .error f => if f.isA .alreadyExists then .ok acc else .error f

theorem seed_eq (s : CustomerStore) (now : Instant) :
    seed s now = if !s.customers.isEmpty then .ok s else samples.foldlM (seedStep now) s := rfl

/-- The store refuses a create only because the address is taken, so a step of seeding is the
create call itself. -/
theorem seedStep_eq (now : Instant) (acc : CustomerStore) (req : Contact) :
    seedStep now acc req = .ok ((DirectoryCall.create req).apply acc now) := by
  rw [seedStep, DirectoryCall.apply]
  cases h : Directory.create acc req now with
  | ok r => rfl
  | error e =>
    obtain ⟨-, rfl⟩ := CustomerStore.create_eq_error.mp h
    rfl

theorem foldlM_seedStep (now : Instant) :
    ∀ (reqs : List Contact) (acc : CustomerStore),
      reqs.foldlM (seedStep now) acc =
        .ok (DirectoryCall.run acc (reqs.map fun req => (now, .create req)))
  | [], _ => rfl
  | req :: reqs, acc => by
    rw [List.foldlM_cons, seedStep_eq, List.map_cons, DirectoryCall.run_cons]
    exact foldlM_seedStep now reqs _

/-- Seeding an empty directory runs a create of each sample; any other directory is left as it
is. -/
theorem seed_eq_run (s : CustomerStore) (now : Instant) :
    seed s now = .ok (if s.customers.isEmpty then
      DirectoryCall.run s (samples.map fun req => (now, .create req)) else s) := by
  rw [seed_eq]
  cases s.customers.isEmpty
  · rfl
  · exact foldlM_seedStep now samples s

theorem apply_seed (s : CustomerStore) (now : Instant) :
    DirectoryCall.seed.apply s now = if s.customers.isEmpty then
      DirectoryCall.run s (samples.map fun req => (now, .create req)) else s := by
  simp only [DirectoryCall.apply, seed_eq_run]

theorem follows_seed (s : CustomerStore) (now : Instant) :
    Follows s [.seed] (DirectoryCall.seed.apply s now) := by
  rw [apply_seed]
  split
  · refine (follows_run_of (fun s p hp => ?_) s).mono ?_
    · obtain ⟨r, -, rfl⟩ := List.mem_map.mp hp
      exact follows_create s r now
    -- each create of the run sends a sample, which the seed sends
    rintro id req ⟨call, hcall, hsend⟩
    simp only [List.map_map, List.mem_map, Function.comp_apply] at hcall
    obtain ⟨r, hr, rfl⟩ := hcall
    exact ⟨.seed, List.mem_singleton_self _, hsend ▸ hr⟩
  · exact follows_self

theorem valid_apply_create (hs : s.Valid) (req : Contact) (now : Instant) :
    ((DirectoryCall.create req).apply s now).Valid := by
  rw [DirectoryCall.apply]
  cases h : Directory.create s req now with
  | error e => exact hs
  | ok r => exact hs.create h

theorem valid_apply_seed (hs : s.Valid) (now : Instant) : (DirectoryCall.seed.apply s now).Valid := by
  rw [Directory.apply_seed]
  split
  · refine valid_run_of (fun s p hp hs => ?_) hs
    obtain ⟨r, -, rfl⟩ := List.mem_map.mp hp
    exact valid_apply_create hs r now
  · exact hs

theorem seed_of_ne_nil (h : s.customers ≠ []) : seed s now = .ok s := by
  rw [seed_eq_run, if_neg (by simpa [List.isEmpty_iff] using h)]

theorem prefix_apply_create (s : CustomerStore) (req : Contact) (now : Instant) :
    s.customers <+: ((DirectoryCall.create req).apply s now).customers := by
  rw [DirectoryCall.apply]
  cases h : Directory.create s req now with
  | error e => exact List.prefix_refl _
  | ok r =>
    obtain ⟨c, t⟩ := r
    obtain ⟨-, -, rfl⟩ := CustomerStore.create_eq_ok.mp h
    exact List.prefix_append _ _

theorem prefix_run_creates (now : Instant) :
    ∀ (reqs : List Contact) (s : CustomerStore),
      s.customers <+: (DirectoryCall.run s (reqs.map fun req => (now, .create req))).customers
  | [], _ => List.prefix_refl _
  | req :: reqs, s => (prefix_apply_create s req now).trans (prefix_run_creates now reqs _)

/-- A create on a directory with no customers goes through: no address clashes with it. -/
theorem apply_create_ne_nil (h : s.customers = []) (req : Contact) (now : Instant) :
    ((DirectoryCall.create req).apply s now).customers ≠ [] := by
  rw [DirectoryCall.apply]
  cases hc : Directory.create s req now with
  | error e =>
    obtain ⟨htaken, -⟩ := CustomerStore.create_eq_error.mp hc
    simp [takes, h] at htaken
  | ok r =>
    obtain ⟨c, t⟩ := r
    obtain ⟨-, -, rfl⟩ := CustomerStore.create_eq_ok.mp hc
    simp

/-- Seeding leaves a customer: an empty directory takes the first sample, and the other samples
only add customers. -/
theorem seed_ne_nil (h : seed s now = .ok t) : t.customers ≠ [] := by
  rw [seed_eq_run] at h
  cases h
  split
  next hempty =>
    obtain ⟨r, rs, hrs⟩ : ∃ r rs, samples = r :: rs := ⟨_, _, rfl⟩
    rw [hrs, List.map_cons, DirectoryCall.run_cons]
    obtain ⟨rest, hrest⟩ := prefix_run_creates now rs ((DirectoryCall.create r).apply s now)
    rw [← hrest]
    intro hnil
    exact apply_create_ne_nil (List.isEmpty_iff.mp hempty) r now (List.append_eq_nil_iff.mp hnil).1
  next hne => simpa [List.isEmpty_iff] using hne

/-- Seeding twice does what seeding once does. -/
theorem seed_seed (s : CustomerStore) (now now' : Instant) :
    (seed s now >>= fun t => seed t now') = seed s now := by
  obtain ⟨t, ht⟩ : ∃ t, seed s now = .ok t := ⟨_, seed_eq_run s now⟩
  rw [ht]
  exact seed_of_ne_nil (seed_ne_nil ht)

/-! ## Every call, every run -/

theorem valid_apply_update (hs : s.Valid) (k : Int) (req : Contact) (now : Instant) :
    ((DirectoryCall.update k req).apply s now).Valid := by
  rw [DirectoryCall.apply]
  cases h : Directory.update s k req now with
  | error e => exact hs
  | ok r =>
    obtain ⟨c', t⟩ := r
    obtain ⟨c, -, hup⟩ := update_eq_ok.mp h
    exact hs.update hup

theorem valid_apply_delete (hs : s.Valid) (k : Int) (now : Instant) :
    ((DirectoryCall.delete k).apply s now).Valid := by
  rw [DirectoryCall.apply]
  cases h : s.delete k with
  | error e => exact hs
  | ok t => exact hs.delete h

theorem valid_apply (hs : s.Valid) (now : Instant) (call : DirectoryCall) :
    (call.apply s now).Valid := by
  cases call with
  | create req => exact valid_apply_create hs req now
  | update k req => exact valid_apply_update hs k req now
  | delete k => exact valid_apply_delete hs k now
  | seed => exact valid_apply_seed hs now

theorem follows_apply (s : CustomerStore) (now : Instant) (call : DirectoryCall) :
    Follows s [call] (call.apply s now) := by
  cases call with
  | create req => exact follows_create s req now
  | update k req => exact follows_update s k req now
  | delete k => exact follows_delete s k now
  | seed => exact follows_seed s now

theorem follows_run (s : CustomerStore) (calls : List (Instant × DirectoryCall)) :
    Follows s (calls.map Prod.snd) (DirectoryCall.run s calls) :=
  follows_run_of (fun s p _ => follows_apply s p.1 p.2) s

theorem valid_run (hs : s.Valid) (calls : List (Instant × DirectoryCall)) :
    (DirectoryCall.run s calls).Valid :=
  valid_run_of (fun _ p _ hs => valid_apply hs p.1 p.2) hs

/-- An id a delete removed never comes back: an update needs its id stored, and a create hands out
an id above the last one, which the removed id was not. -/
theorem deleted_id_not_reused (hs : s.Valid) (hk : s.holds k = true) (now : Instant)
    (more : List (Instant × DirectoryCall)) :
    ∀ c ∈ (DirectoryCall.run s ((now, .delete k) :: more)).customers, c.id ≠ k := by
  intro c hc hck
  rw [DirectoryCall.run_cons] at hc
  have hdel : (DirectoryCall.delete k).apply s now =
      { s with customers := s.customers.filter (·.id != k) } := by
    rw [DirectoryCall.apply, delete_eq_ok.mpr ⟨hk, rfl⟩]
  have hgone : ((DirectoryCall.delete k).apply s now).holds k = false := by
    rw [hdel]
    simp [holds]
  obtain ⟨c₀, hc₀, hc₀k⟩ := holds_iff.mp hk
  have hle : k ≤ ((DirectoryCall.delete k).apply s now).lastId := by
    rw [hdel, ← hc₀k]
    exact hs.id_le c₀ hc₀
  rcases (follows_run _ more).fresh c hc with hheld | hlt
  · rw [hck, hgone] at hheld
    cases hheld
  · omega

/-- **The laws of the customer directory.** Whatever calls run on an empty directory, at whatever
times, the directory `t` they leave:
* holds no two e-mail addresses equal up to case folding;
* holds for each customer the contact a call sent for it, every field trimmed and the address
  lowered;
* refuses a create exactly when the normalised address folds like a stored one, and an update
  exactly when the id is not stored or the address folds like another customer's, with a fault
  that names the address; a refused call hands back no directory, so the run keeps `t`;
* finds by e-mail the one customer whose address folds like the trimmed one, and otherwise answers
  that no customer was found;
* lists its customers by increasing id, none above the last id handed out; a next call never
  lowers the last id and gives every customer it adds an id above it; an id a delete removed never
  comes back;
* is left as it is by a seed when it has customers, and seeding it twice does what seeding it once
  does. -/
theorem directory_laws (calls : List (Instant × DirectoryCall)) :
    let t := DirectoryCall.run CustomerStore.empty calls
    t.customers.Pairwise (fun a b => a.email.foldEq b.email = false) ∧
    (∀ c ∈ t.customers, ∃ req, c.contact = req.normalize ∧ Sends (calls.map Prod.snd) c.id req) ∧
    (∀ req now f, create t req now = .error f ↔
      f = emailTaken req.normalize.email ∧
        ∃ c ∈ t.customers, c.email.foldEq req.normalize.email = true) ∧
    (∀ k req now f, update t k req now = .error f ↔
      (t.holds k = false ∧ f = notFound) ∨
        (t.holds k = true ∧ f = emailTaken req.normalize.email ∧
          ∃ c ∈ t.customers, c.id ≠ k ∧ c.email.foldEq req.normalize.email = true)) ∧
    (∀ x c, getByEmail t x = .ok c ↔ c ∈ t.customers ∧ c.email.foldEq x.trim = true) ∧
    (∀ x f, getByEmail t x = .error f ↔
      f = notFound ∧ ∀ c ∈ t.customers, c.email.foldEq x.trim = false) ∧
    t.customers.Pairwise (fun a b => a.id < b.id) ∧ (∀ c ∈ t.customers, c.id ≤ t.lastId) ∧
    (∀ now (call : DirectoryCall), t.lastId ≤ (call.apply t now).lastId ∧
      ∀ c ∈ (call.apply t now).customers, t.holds c.id = true ∨ t.lastId < c.id) ∧
    (∀ now k more, t.holds k = true →
      ∀ c ∈ (DirectoryCall.run t ((now, .delete k) :: more)).customers, c.id ≠ k) ∧
    (∀ now, t.customers ≠ [] → seed t now = .ok t) ∧
    (∀ now now', (seed t now >>= fun u => seed u now') = seed t now) := by
  intro t
  have ht : t.Valid := valid_run valid_empty calls
  refine ⟨ht.emails_apart, fun c hc => ?_, fun req now f => create_eq_error ht,
    fun k req now f => update_eq_error, fun x c => getByEmail_eq_ok ht,
    fun x f => getByEmail_eq_error, ht.ids_increase, ht.id_le,
    fun now call => ⟨(follows_apply t now call).lastId_le, (follows_apply t now call).fresh⟩,
    fun now k more hk => deleted_id_not_reused ht hk now more,
    fun now => seed_of_ne_nil, fun now now' => seed_seed t now now'⟩
  -- the empty directory holds no customer, so a call sent each one
  rcases (follows_run empty calls).sent c hc with hc₀ | hsent
  · simp [empty] at hc₀
  · exact hsent

end Directory

end Fulfillment
