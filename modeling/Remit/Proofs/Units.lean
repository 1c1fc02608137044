import Remit.Proofs.Commits

/-!
# What each unit of the store writes

One lemma for each unit says what the unit checked and what it wrote when it succeeded,
in the ledger's two kinds of write: appending an account or a transfer, and changing one
balance or one status. The later proofs split on these lemmas and never unfold a unit; a
property kept by moving money, storing a transfer and marking one is kept by every write
(`Writes.preserves`).

Ids are numbered: the accounts, and the transfers, carry the ids `1, 2, …` in the order
they were added (`Numbered`), and every unit keeps it (`Numbered.commits`). So an id names
one account or one transfer at most, and a unit that changes "the" account with an id
changes exactly the one that the lookup found (`findAccount?_of_mem`).

The cents a unit moves or stores come from `Decimal.toCents`: they fit in 64 bits, and
those of a transfer are at least one cent (`Decimal.transferCents_pos`).
-/

set_option autoImplicit false

namespace Remit

namespace Decimal

/-- The power of ten of a sum of exponents is the product of the powers. -/
theorem pow10_add (m n : Nat) : pow10 (m + n) = pow10 m * pow10 n := by
  induction n with
  | zero => simp [pow10]
  | succ n ih => rw [← Nat.add_assoc, pow10, pow10, ih, Nat.mul_assoc]

/-- A power of ten is a smaller power of ten times the power of the difference. -/
theorem pow10_split {m n : Nat} (h : m ≤ n) : pow10 n = pow10 m * pow10 (n - m) := by
  rw [← pow10_add]
  congr 1
  omega

/-- A power of ten divides every larger one. -/
theorem pow10_dvd_pow10 {m n : Nat} (h : m ≤ n) : pow10 m ∣ pow10 n :=
  ⟨pow10 (n - m), pow10_split h⟩

/-- The coefficient is its normal form's coefficient followed by the zeros that were dropped. -/
theorem normalize_coefficient_mul (d : Decimal) :
    d.normalize.coefficient * pow10 (d.scale - d.normalize.scale) = d.coefficient := by
  have hv := normalize_coefficient d
  rw [pow10_split (normalize_scale_le d), Nat.mul_comm (pow10 _), ← Nat.mul_assoc] at hv
  exact Nat.eq_of_mul_eq_mul_right (pow10_pos _) hv

/-- A coefficient whose normal form keeps at most two places ends in at least as many zeros
as it has places past the cents. -/
theorem pow10_dvd_coefficient {d : Decimal} (hn : d.normalize.scale ≤ 2) :
    pow10 (d.scale - 2) ∣ d.coefficient := by
  rw [← normalize_coefficient_mul d]
  exact Nat.dvd_trans (pow10_dvd_pow10 (by omega)) (Nat.dvd_mul_left _ _)

/-- A positive coefficient whose normal form keeps at most two places is a whole number of
cents: past two places, it is a multiple of `10 ^ (scale - 2)`, so at least that. -/
theorem pow10_le_coefficient {d : Decimal} (hc : 0 < d.coefficient) (hn : d.normalize.scale ≤ 2) :
    pow10 (d.scale - 2) ≤ d.coefficient :=
  Nat.le_of_dvd hc (pow10_dvd_coefficient hn)

/-- A guard that passes held, and answers the value it guards. -/
theorem ok_of_ite {b : Prop} [Decidable b] {x c : Int} {e : Fault}
    (h : (if b then .ok x else .error e : Except Fault Int) = .ok c) : b ∧ x = c := by
  by_cases hb : b
  · simp only [hb, if_true, Except.ok.injEq] at h
    exact ⟨hb, h⟩
  · simp [hb] at h

/-- An integer fits in 64 signed bits exactly when it lies between the bounds of that width. -/
theorem holds_i64 {c : Int} :
    Width.i64.holds c = true ↔ -9223372036854775808 ≤ c ∧ c ≤ 9223372036854775807 := by
  unfold Width.holds Width.i64
  simp only [Bool.and_eq_true, decide_eq_true_eq]

/-- The cents of an amount fit in 64 bits. -/
theorem toCents_holds {d : Decimal} {c : Int} (h : d.toCents = .ok c) : Width.i64.holds c = true := by
  unfold toCents at h
  split at h
  · cases h
  · obtain ⟨hh, rfl⟩ := ok_of_ite h
    exact hh

/-- A positive amount has a positive number of cents. -/
theorem toCents_pos {d : Decimal} {c : Int} (hp : d.isPositive = true) (h : d.toCents = .ok c) :
    0 < c := by
  simp only [isPositive, Bool.and_eq_true, Bool.not_eq_eq_eq_not, Bool.not_true,
    decide_eq_true_eq] at hp
  obtain ⟨hneg, hcoef⟩ := hp
  unfold toCents at h
  split at h
  · cases h
  · next hscale =>
    obtain ⟨-, rfl⟩ := ok_of_ite h
    simp only [hneg, Bool.false_eq_true, if_false]
    -- the cents are the coefficient brought to two places; past two places, the normal
    -- form having at most two keeps the quotient above zero
    split
    · exact Int.natCast_pos.mpr (Nat.mul_pos hcoef (pow10_pos _))
    · next hs =>
      exact Int.natCast_pos.mpr (Nat.div_pos
        (pow10_le_coefficient hcoef (by omega)) (pow10_pos _))

/-- An amount that a transfer may carry is at least one cent. -/
theorem transferCents_pos {d : Decimal} {c : Int} (h : d.transferCents = .ok c) : 0 < c := by
  unfold transferCents at h
  split at h
  · next hp => exact toCents_pos hp h
  · cases h

/-- A positive number of cents is a positive amount. -/
theorem isPositive_ofCents {c : Int} (h : 0 < c) : (ofCents c).isPositive = true := by
  simp only [ofCents, ofInt, isPositive, Bool.and_eq_true, Bool.not_eq_eq_eq_not, Bool.not_true,
    decide_eq_false_iff_not]
  exact ⟨by omega, decide_eq_true (by omega)⟩

/-- A stored amount of cents, at least one and within 64 bits, is what a transfer may carry. -/
theorem transferCents_ofCents {c : Int} (hpos : 0 < c) (hc : Width.i64.holds c = true) :
    (ofCents c).transferCents = .ok c := by
  unfold transferCents
  rw [if_pos (isPositive_ofCents hpos)]
  exact toCents_ofCents c hc

end Decimal

/-- The cents of a valid draft are the cents its amount carries as a transfer. -/
theorem Draft.transferCents_of_validate {d : Draft} {c : Int} (h : d.validate = .ok c) :
    d.amount.transferCents = .ok c := by
  obtain ⟨hpos, -, -, hc⟩ := (Draft.validate_eq_ok_iff d c).mp h
  unfold Decimal.transferCents
  rw [if_pos hpos]
  exact hc

namespace Ledger

/-! ### One lemma per unit -/

theorem openAccount_eq_ok {l l' : Ledger} {u : UserId} {b : Decimal} {a : Account}
    (h : l.openAccount u b = .ok (a, l')) :
    ∃ c, b.toCents = .ok c ∧ 0 ≤ c ∧ l.findUser? u = none ∧ a = ⟨l.nextAccountId, u, c⟩ ∧
      l'.accounts = l.accounts ++ [a] ∧ l'.transfers = l.transfers := by
  cases hc : b.toCents with
  | error f => simp [openAccount, hc, bind, Except.bind] at h
  | ok c =>
    by_cases hneg : c < 0
    · simp [openAccount, hc, hneg, bind, Except.bind, throw, throwThe, MonadExceptOf.throw] at h
    · cases hu : l.findUser? u with
      | some x =>
        simp [openAccount, hc, hneg, hu, bind, Except.bind, throw, throwThe,
          MonadExceptOf.throw] at h
      | none =>
        simp only [openAccount, hc, hneg, hu, bind, Except.bind, pure, Except.pure, if_false,
          Option.isSome_none, Bool.false_eq_true, Except.ok.injEq, Prod.mk.injEq] at h
        obtain ⟨rfl, rfl⟩ := h
        exact ⟨c, rfl, by omega, rfl, rfl, rfl, rfl⟩

/-- A debit that goes through found the account with at least the sum, and lowered its balance by
it. -/
theorem debit_eq_ok {l l' : Ledger} {p : AccountId} {c : Int} (h : l.debit p c = .ok l') :
    ∃ x, l.findAccount? p = some x ∧ c ≤ x.balance ∧ l' = l.adjust p (· - c) := by
  unfold debit at h
  split at h
  · cases h
  · next x hx =>
    split at h
    · next hc =>
      cases h
      exact ⟨x, hx, hc, rfl⟩
    · cases h

/-- A credit that goes through found the account with room for the sum, and raised its balance by
it. -/
theorem credit_eq_ok {l l' : Ledger} {q : AccountId} {c : Int} {m : Decimal}
    (h : l.credit q c m = .ok l') :
    ∃ y, l.findAccount? q = some y ∧ y.balance ≤ maxBalance - c ∧ l' = l.adjust q (· + c) := by
  unfold credit at h
  split at h
  · cases h
  · next y hy =>
    split at h
    · next hc =>
      cases h
      exact ⟨y, hy, hc, rfl⟩
    · cases h

/-- Moving money takes a positive number of cents that fits in 64 bits from a payer who
holds them, then gives them to a payee whose balance stays within 64 bits. -/
theorem moveFunds_eq_ok {l l' : Ledger} {p q : AccountId} {m : Decimal}
    (h : l.moveFunds p q m = .ok l') :
    ∃ c, m.transferCents = .ok c ∧ ∃ l₁, l.debit p c = .ok l₁ ∧ l₁.credit q c m = .ok l' := by
  simp only [moveFunds, bind, Except.bind] at h
  split at h
  · cases h
  · next c hc =>
    split at h
    · cases h
    · next l₁ h₁ => exact ⟨c, hc, l₁, h₁, h⟩

/-- A move that goes through is between two different accounts and moved the funds. -/
theorem move_eq_ok {l l' : Ledger} {p q : AccountId} {m : Decimal} (h : l.move p q m = .ok l') :
    p ≠ q ∧ l.moveFunds p q m = .ok l' := by
  unfold move at h
  split at h
  · cases h
  · next hpq => exact ⟨hpq, h⟩

/-- Storing a draft checks it and that both of its accounts exist, and appends its
record under the next transfer id. -/
theorem insert_eq_ok {l l' : Ledger} {d : Draft} {r : TransferRecord}
    (h : l.insert d = .ok (r, l')) :
    ∃ c, d.validate = .ok c ∧ (l.findAccount? d.payer).isSome ∧ (l.findAccount? d.payee).isSome ∧
      r = d.toRecord l.nextTransferId c ∧ l'.transfers = l.transfers ++ [r] ∧
      l'.accounts = l.accounts := by
  cases hv : d.validate with
  | error f => simp [insert, hv, bind, Except.bind] at h
  | ok c =>
    cases hp : l.findAccount? d.payer with
    | none => simp [insert, hv, hp, bind, Except.bind, throw, throwThe, MonadExceptOf.throw] at h
    | some x =>
      cases hq : l.findAccount? d.payee with
      | none =>
        simp [insert, hv, hp, hq, bind, Except.bind, throw, throwThe, MonadExceptOf.throw] at h
      | some y =>
        simp only [insert, hv, hp, hq, bind, Except.bind, pure, Except.pure, Except.ok.injEq,
          Prod.mk.injEq] at h
        obtain ⟨rfl, rfl⟩ := h
        exact ⟨c, rfl, rfl, rfl, rfl, rfl, rfl⟩

/-- Recording a send that goes through moved its funds and then stored it. -/
theorem recordSend_eq_ok {l l' : Ledger} {d : Draft} {r : TransferRecord}
    (h : l.recordSend d = .ok (r, l')) :
    d.kind = .send ∧ ∃ l₁, l.moveFunds d.payer d.payee d.amount = .ok l₁ ∧ l₁.insert d = .ok (r, l') := by
  cases hv : d.validate with
  | error f => simp [recordSend, hv, bind, Except.bind] at h
  | ok c =>
    by_cases hk : d.kind = .send
    · cases hm : l.moveFunds d.payer d.payee d.amount with
      | error f => simp [recordSend, hv, hk, hm, bind, Except.bind] at h
      | ok l₁ =>
        simp only [recordSend, hv, hk, hm, bind, Except.bind, ne_eq, not_true_eq_false,
          if_false] at h
        exact ⟨hk, l₁, rfl, h⟩
    · simp [recordSend, hv, hk, bind, Except.bind, throw, throwThe, MonadExceptOf.throw] at h

/-- Changing a transfer's status changes the one with that id and leaves every other lookup as it
was. -/
theorem findTransfer?_restatus (l : Ledger) (t t' : TransferId) (s : Status) :
    (l.restatus t s).findTransfer? t' =
      (l.findTransfer? t').map fun r => if r.id = t then { r with status := s } else r := by
  simp only [findTransfer?, restatus, List.find?_map]
  have hp : ((fun r : TransferRecord => r.id == t') ∘
      fun r => if r.id = t then { r with status := s } else r) = (fun r => r.id == t') := by
    funext r
    by_cases h : r.id = t <;> simp [h]
  rw [hp]

/-- Marking the transfer with an id changes what looking that id up finds to its marked form. -/
theorem findTransfer?_restatus_self {l : Ledger} {t : TransferId} {r : TransferRecord}
    (h : l.findTransfer? t = some r) (s : Status) :
    (l.restatus t s).findTransfer? t = some { r with status := s } := by
  have hid : r.id = t := by simpa using List.find?_some h
  rw [findTransfer?_restatus, h]
  simp [hid]

/-- Approving claims a pending transfer, marks it approved, and moves its money. -/
theorem approve_eq_ok {l l' : Ledger} {t : TransferId} {r : TransferRecord}
    (h : l.approve t = .ok (r, l')) :
    ∃ r₀, l.findTransfer? t = some r₀ ∧ r₀.status = .pending ∧ r = { r₀ with status := .approved } ∧
      (l.restatus t .approved).moveFunds r.payer r.payee r.decimal = .ok l' := by
  simp only [approve, bind, Except.bind] at h
  split at h
  · cases h
  · next l₁ hs =>
    obtain ⟨-, r₀, hr₀, hpend, rfl⟩ := settle_pending l l₁ t .approved hs
    simp only [findTransfer, findTransfer?_restatus_self hr₀ .approved] at h
    split at h
    · cases h
    · next l₂ hm =>
      simp only [pure, Except.pure, Except.ok.injEq, Prod.mk.injEq] at h
      obtain ⟨rfl, rfl⟩ := h
      exact ⟨r₀, hr₀, hpend, rfl, hm⟩

end Ledger

/-! ### What every write is made of

A write of the store moves money, stores a transfer or marks one, or does two of these in
one unit. A property kept by each of these steps is kept by every write, and with openings
by every unit. -/

section Steps

variable {P : Ledger → Prop}
  (hmove : ∀ {l l' : Ledger} {p q : AccountId} {m : Decimal},
    P l → l.moveFunds p q m = .ok l' → P l')
  (hinsert : ∀ {l l' : Ledger} {d : Draft} {r : TransferRecord},
    P l → l.insert d = .ok (r, l') → P l')
  (hrestatus : ∀ {l : Ledger} (t : TransferId) (s : Status), P l → P (l.restatus t s))
include hmove hinsert hrestatus

/-- A property kept by moving money, storing a transfer and changing a status is kept by every
write. -/
theorem Writes.preserves {l l' : Ledger} (hw : Writes l l') (h : P l) : P l' := by
  cases hw with
  | move hm => exact hmove h (Ledger.move_eq_ok hm).2
  | create hc =>
    obtain ⟨r, hi, -⟩ := Ledger.create_eq_ok hc
    exact hinsert h hi
  | recordSend hr =>
    obtain ⟨-, l₁, hm, hi⟩ := Ledger.recordSend_eq_ok hr
    exact hinsert (hmove h hm) hi
  | settle hs =>
    obtain ⟨-, -, -, -, rfl⟩ := Ledger.settle_pending _ _ _ _ hs
    exact hrestatus _ _ h
  | approve ha =>
    obtain ⟨-, -, -, -, hm⟩ := Ledger.approve_eq_ok ha
    exact hmove (hrestatus _ _ h) hm

/-- A property kept by every write and by opening an account is kept by every unit of the store. -/
theorem Commits.preserves
    (hopen : ∀ {l l' : Ledger} {u : UserId} {b : Decimal} {a : Account},
      P l → l.openAccount u b = .ok (a, l') → P l')
    {l l' : Ledger} (hc : Commits l l') (h : P l) : P l' := by
  cases hc with
  | openAccount ho => exact hopen h ho
  | write hw => exact hw.preserves hmove hinsert hrestatus h

end Steps

namespace Ledger

/-! ### Ids -/

theorem accountIds_adjust (l : Ledger) (a : AccountId) (f : Int → Int) :
    (l.adjust a f).accounts.map (·.id) = l.accounts.map (·.id) := by
  simp only [Ledger.adjust, List.map_map]
  congr 1
  funext x
  by_cases hx : x.id = a <;> simp [hx]

/-- Changing a transfer's status keeps the transfers' ids in order. -/
theorem transferIds_restatus (l : Ledger) (t : TransferId) (s : Status) :
    (l.restatus t s).transfers.map (·.id) = l.transfers.map (·.id) := by
  simp only [Ledger.restatus, List.map_map]
  congr 1
  funext r
  by_cases hr : r.id = t <;> simp [hr]

/-- Moving money keeps the accounts, with their ids, and the transfers. -/
theorem accountIds_moveFunds {l l' : Ledger} {p q : AccountId} {m : Decimal}
    (hm : l.moveFunds p q m = .ok l') : l'.accounts.map (·.id) = l.accounts.map (·.id) := by
  obtain ⟨c, -, l₁, hd, hc⟩ := moveFunds_eq_ok hm
  obtain ⟨-, -, -, rfl⟩ := debit_eq_ok hd
  obtain ⟨-, -, -, rfl⟩ := credit_eq_ok hc
  rw [accountIds_adjust, accountIds_adjust]

/-- Moving money takes its cents from the payer's balance and gives them to the payee's. -/
theorem accounts_moveFunds {l l' : Ledger} {p q : AccountId} {m : Decimal}
    (hm : l.moveFunds p q m = .ok l') :
    ∃ c, m.transferCents = .ok c ∧ l'.accounts = l.accounts.map fun x =>
      { x with balance := x.balance + ((if x.id = q then c else 0) - (if x.id = p then c else 0)) } := by
  obtain ⟨c, hc, l₁, hd, hcr⟩ := moveFunds_eq_ok hm
  obtain ⟨-, -, -, rfl⟩ := debit_eq_ok hd
  obtain ⟨-, -, -, rfl⟩ := credit_eq_ok hcr
  refine ⟨c, hc, ?_⟩
  simp only [adjust, List.map_map]
  congr 1
  funext x
  obtain ⟨i, u, b⟩ := x
  by_cases hp : i = p <;> by_cases hq : i = q
  · subst hp hq
    simp
  · subst hp
    simp [hq]
    omega
  · subst hq
    simp [hp]
  · simp [hp, hq]

/-- An account that looking an id up finds carries that id. -/
theorem mem_accountIds_of_findAccount? {l : Ledger} {a : AccountId}
    (h : (l.findAccount? a).isSome = true) : a ∈ l.accounts.map (·.id) := by
  obtain ⟨x, hx⟩ := Option.isSome_iff_exists.mp h
  have hid : x.id = a := by simpa using List.find?_some hx
  rw [← hid]
  exact List.mem_map_of_mem (List.mem_of_find?_eq_some hx)

/-! ### Numbered ids -/

/-- The ids `1, 2, …, n` in order, made by `mk`. -/
def serial {ι : Type} (mk : Int → ι) (n : Nat) : List ι :=
  (List.range n).map fun (i : Nat) => mk ((i : Int) + 1)

/-- Accounts and transfers carry the ids `1, 2, …` in the order they were added: the ids
the ledger hands out. -/
structure Numbered (l : Ledger) : Prop where
  accounts : l.accounts.map (·.id) = serial AccountId.mk l.accounts.length
  transfers : l.transfers.map (·.id) = serial TransferId.mk l.transfers.length

/-- The serial numbers up to one more are those up to it, followed by the next. -/
theorem serial_succ {ι : Type} (mk : Int → ι) (n : Nat) :
    serial mk (n + 1) = serial mk n ++ [mk ((n : Int) + 1)] := by
  simp [serial, List.range_succ]

/-- Serial numbers made with an injective constructor are all different. -/
theorem serial_nodup {ι : Type} {mk : Int → ι} (hmk : ∀ i j, mk i = mk j → i = j) (n : Nat) :
    (serial mk n).Nodup :=
  List.Pairwise.map _ (fun (i j : Nat) (hij : i ≠ j) h => hij (by have := hmk _ _ h; omega))
    List.nodup_range

/-- The next serial number is not among those before it. -/
theorem not_mem_serial {ι : Type} {mk : Int → ι} (hmk : ∀ i j, mk i = mk j → i = j) (n : Nat) :
    mk ((n : Int) + 1) ∉ serial mk n := by
  simp only [serial, List.mem_map, List.mem_range, not_exists, not_and]
  intro i hi h
  have := hmk _ _ h
  omega

/-- In a list whose keys are all different, looking up the key of a member finds it. -/
theorem find?_key_of_mem {α κ : Type} [DecidableEq κ] {key : α → κ} {xs : List α}
    (hn : (xs.map key).Nodup) {z : α} (hz : z ∈ xs) : xs.find? (fun y => key y == key z) = some z := by
  induction xs with
  | nil => cases hz
  | cons y ys ih =>
    rw [List.map_cons, List.nodup_cons] at hn
    rcases List.mem_cons.mp hz with rfl | hz'
    · simp
    · have hne : key y ≠ key z := fun h => hn.1 (h ▸ List.mem_map_of_mem hz')
      rw [List.find?_cons_of_neg (by simpa using hne)]
      exact ih hn.2 hz'

/-- In a list whose keys are all different, one member at most has a given key. -/
theorem filter_key_length {α κ : Type} [DecidableEq κ] {key : α → κ} {xs : List α}
    (hn : (xs.map key).Nodup) {k : κ} {x : α} (hx : xs.find? (fun y => key y == k) = some x) :
    (xs.filter fun y => key y == k).length = 1 := by
  induction xs with
  | nil => cases hx
  | cons y ys ih =>
    rw [List.map_cons, List.nodup_cons] at hn
    by_cases hy : key y = k
    · -- `y` holds the key, so no later member does
      have hrest : ys.filter (fun z => key z == k) = [] := by
        rw [List.filter_eq_nil_iff]
        intro z hz hzk
        apply hn.1
        have hzk' : key z = k := by simpa using hzk
        rw [hy, ← hzk']
        exact List.mem_map_of_mem hz
      simp [hy, hrest]
    · rw [List.find?_cons_of_neg (by simpa using hy)] at hx
      simp [hy, ih hn.2 hx]

namespace Numbered

variable {l : Ledger}

/-- The accounts of a numbered ledger have different ids. -/
theorem accountIds_nodup (h : l.Numbered) : (l.accounts.map (·.id)).Nodup := by
  rw [h.accounts]
  exact serial_nodup (fun i j hij => by cases hij; rfl) _

/-- The transfers of a numbered ledger have different ids. -/
theorem transferIds_nodup (h : l.Numbered) : (l.transfers.map (·.id)).Nodup := by
  rw [h.transfers]
  exact serial_nodup (fun i j hij => by cases hij; rfl) _

/-- An account of a numbered ledger is what looking its id up finds. -/
theorem findAccount?_of_mem (h : l.Numbered) {z : Account} (hz : z ∈ l.accounts) :
    l.findAccount? z.id = some z :=
  find?_key_of_mem h.accountIds_nodup hz

/-- A transfer of a numbered ledger is what looking its id up finds. -/
theorem findTransfer?_of_mem (h : l.Numbered) {r : TransferRecord} (hr : r ∈ l.transfers) :
    l.findTransfer? r.id = some r :=
  find?_key_of_mem h.transferIds_nodup hr

/-- In a numbered ledger, the transfer with an id is the one looking the id up finds. -/
theorem eq_of_findTransfer? (h : l.Numbered) {t : TransferId} {r r₀ : TransferRecord}
    (hr : r ∈ l.transfers) (hid : r.id = t) (hr₀ : l.findTransfer? t = some r₀) : r = r₀ := by
  rw [← hid, h.findTransfer?_of_mem hr] at hr₀
  exact Option.some.inj hr₀

/-- The next account id of a numbered ledger names no account of it. -/
theorem nextAccountId_not_mem (h : l.Numbered) : l.nextAccountId ∉ l.accounts.map (·.id) := by
  rw [h.accounts]
  exact not_mem_serial (fun i j hij => by cases hij; rfl) _

/-- Changing one balance keeps the ledger numbered. -/
theorem adjust (h : l.Numbered) (a : AccountId) (f : Int → Int) : (l.adjust a f).Numbered := by
  constructor
  · rw [accountIds_adjust, h.accounts, accounts_adjust_length]
  · exact h.transfers

/-- Changing one status keeps the ledger numbered. -/
theorem restatus (h : l.Numbered) (t : TransferId) (s : Status) : (l.restatus t s).Numbered := by
  constructor
  · exact h.accounts
  · rw [transferIds_restatus, h.transfers]
    simp [Ledger.restatus]

/-- The empty ledger is numbered. -/
theorem empty : Ledger.empty.Numbered :=
  ⟨rfl, rfl⟩

variable {l' : Ledger}

/-- Opening an account keeps the ledger numbered. -/
theorem openAccount (h : l.Numbered) {u : UserId} {b : Decimal} {a : Account}
    (ho : l.openAccount u b = .ok (a, l')) : l'.Numbered := by
  obtain ⟨c, -, -, -, rfl, hacc, htr⟩ := openAccount_eq_ok ho
  constructor
  · rw [hacc, List.map_append, h.accounts, List.length_append, List.length_singleton,
      serial_succ]
    rfl
  · rw [htr]
    exact h.transfers

/-- Moving money keeps the ledger numbered. -/
theorem moveFunds (h : l.Numbered) {p q : AccountId} {m : Decimal}
    (hm : l.moveFunds p q m = .ok l') : l'.Numbered := by
  obtain ⟨c, -, l₁, hd, hc⟩ := moveFunds_eq_ok hm
  obtain ⟨-, -, -, rfl⟩ := debit_eq_ok hd
  obtain ⟨-, -, -, rfl⟩ := credit_eq_ok hc
  exact (h.adjust p _).adjust q _

/-- Storing a transfer keeps the ledger numbered. -/
theorem insert (h : l.Numbered) {d : Draft} {r : TransferRecord}
    (hi : l.insert d = .ok (r, l')) : l'.Numbered := by
  obtain ⟨c, -, -, -, rfl, htr, hacc⟩ := insert_eq_ok hi
  constructor
  · rw [hacc]
    exact h.accounts
  · rw [htr, List.map_append, h.transfers, List.length_append, List.length_singleton,
      serial_succ]
    rfl

/-- Every unit of the store keeps the ids numbered. -/
theorem commits (h : l.Numbered) (hc : Commits l l') : l'.Numbered :=
  hc.preserves (fun h hm => h.moveFunds hm) (fun h hi => h.insert hi) (fun t s h => h.restatus t s)
    (fun h ho => h.openAccount ho) h

end Numbered

end Ledger

end Remit
