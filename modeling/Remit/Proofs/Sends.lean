import Remit.Proofs.Moves
import Remit.Proofs.Sessions

/-!
# Sending and requesting money

The engine's send and request each go through three functions. The transfer's life checks the
new transfer: an amount above zero, then an amount of whole cents within 64 bits, then two
different accounts. The engine then looks up the other party: the payee of a send, the payer
of a request. Last, one unit of the store commits the transfer. A send's unit checks the draft
again, moves the money (the payer must exist and cover the amount, and the payee's balance must
stay within `2 ^ 63 - 1` cents) and stores the send, settled, under the next transfer id. A
request's unit stores the request, pending, once both of its accounts exist; a missing caller is
reported as the store reports a broken reference to an account.

`Ledger.sendRule` and `Ledger.requestRule` state both outcomes in that precedence, read off the
amount and the balances of the two accounts; the engine follows them on every ledger whose ids
are numbered (`send_and_request_follow_rules`). A stored transfer carries its amount in cents,
and shows it with two places (`TransferRecord.decimal`).

The money half of a send is the guarded debit and credit of `Ledger.transferRule`; with the
amount and the two accounts already checked, only the payer's existence, the payer's balance
and the payee's room are left to decide.
-/

set_option autoImplicit false

namespace Remit

namespace Lifecycle

/-- The checks of a new transfer on a transfer about which nothing is known: the amount is
above zero, then whole cents within 64 bits, then the two accounts differ. -/
theorem checkNew_fresh (p q : AccountId) (a : Decimal) :
    fresh.checkNew p q a =
      if a.isPositive = false then .error (.notPositive a)
      else
        match a.toCents with
        | .error f => .error f
        | .ok _ => if p = q then .error (.selfTransfer p) else .ok () := by
  simp only [checkNew, requireNew, fresh, requireAmount, Decimal.transferCents, requireDistinct,
    bind, Except.bind]
  cases a.isPositive with
  | false => simp
  | true =>
    cases a.toCents with
    | error f => simp
    | ok u => by_cases hpq : p = q <;> simp [hpq]

/-- A send is accepted with its sent event exactly when the checks of a new transfer pass. -/
theorem handle_send (t : Lifecycle) (p q : AccountId) (a : Decimal) :
    t.handle (.send p q a) =
      match t.checkNew p q a with
      | .error f => .error f
      | .ok () => .ok (.sent p q a) := by
  simp only [handle, bind, Except.bind]
  cases t.checkNew p q a <;> rfl

/-- A request is accepted with its requested event exactly when the checks of a new transfer pass.
-/
theorem handle_request (t : Lifecycle) (p q : AccountId) (a : Decimal) :
    t.handle (.request p q a) =
      match t.checkNew p q a with
      | .error f => .error f
      | .ok () => .ok (.requested p q a) := by
  simp only [handle, bind, Except.bind]
  cases t.checkNew p q a <;> rfl

end Lifecycle

namespace Ledger

/-- How the caller's send of an amount to the payee comes out, read off the amount and the
balances of the two accounts: what the caller gets, and the ledger after it. -/
def sendRule (l : Ledger) (c x : AccountId) (m : Decimal) :
    EStateM.Result Fault Ledger TransferRecord :=
  if m.isPositive = false then .error (.notPositive m) l
  else
    match m.toCents with
    | .error f => .error f l
    | .ok u =>
      if c = x then .error (.selfTransfer c) l
      else
        match l.findAccount? x, l.findAccount? c with
        | none, _ => .error (.noAccount x) l
        | some _, none => .error (.noAccount c) l
        | some y, some z =>
          if z.balance < u then .error .insufficientFunds l
          else if maxBalance < y.balance + u then .error (.creditOverflow m x) l
          else
            let r : TransferRecord := ⟨l.nextTransferId, .send, .approved, c, x, u⟩
            .ok r ⟨paid l.accounts c x u, l.transfers ++ [r]⟩

/-- How the caller's request of an amount from the payer comes out: what the caller gets, and
the ledger after it. No money moves. -/
def requestRule (l : Ledger) (c x : AccountId) (m : Decimal) :
    EStateM.Result Fault Ledger TransferRecord :=
  if m.isPositive = false then .error (.notPositive m) l
  else
    match m.toCents with
    | .error f => .error f l
    | .ok u =>
      if c = x then .error (.selfTransfer c) l
      else if (l.findAccount? x).isNone then .error (.noAccount x) l
      else if (l.findAccount? c).isNone then .error .missingParty l
      else
        let r : TransferRecord := ⟨l.nextTransferId, .request, .pending, x, c, u⟩
        .ok r { l with transfers := l.transfers ++ [r] }

/-- Moving money between two different accounts, as a value: what the rule's ledger is when
the rule goes through, and its fault when it does not. -/
theorem moveFunds_eq (l : Ledger) {p q : AccountId} (hpq : p ≠ q) (m : Decimal) :
    l.moveFunds p q m =
      match l.transferRule p q m with
      | .ok _ l' => .ok l'
      | .error f _ => .error f := by
  have h := run_write_moveFunds l hpq m
  rw [Call.run_write] at h
  cases hm : l.moveFunds p q m with
  | error f => rw [hm] at h; rw [← h]
  | ok l' => rw [hm] at h; rw [← h]

/-- A valid draft between two accounts that exist is stored under the next transfer id. -/
theorem insert_of_valid {l : Ledger} {d : Draft} {u : Int} (hv : d.validate = .ok u)
    (hp : (l.findAccount? d.payer).isSome) (hq : (l.findAccount? d.payee).isSome) :
    l.insert d = .ok (d.toRecord l.nextTransferId u,
      { l with transfers := l.transfers ++ [d.toRecord l.nextTransferId u] }) := by
  obtain ⟨x, hx⟩ := Option.isSome_iff_exists.mp hp
  obtain ⟨y, hy⟩ := Option.isSome_iff_exists.mp hq
  simp [insert, hv, hx, hy, bind, Except.bind, pure, Except.pure]

end Ledger

namespace Engine

/-- A send runs in three steps: the transfer's life decides, the payee is read, and the
event is committed. -/
theorem run_send (l : Ledger) (c x : AccountId) (m : Decimal) :
    (send c x m).run l =
      match Lifecycle.fresh.handle (.send c x m) with
      | .error f => .error f l
      | .ok e =>
        match l.findAccount x with
        | .error f => .error f l
        | .ok _ => (commit none e).run l := by
  simp only [send_eq, EStateM.run_bind, Call.run_ofExcept]
  cases Lifecycle.fresh.handle (.send c x m) with
  | error f => rfl
  | ok e =>
    simp only [Call.run_read]
    cases l.findAccount x <;> rfl

/-- A request runs in the same three steps, the payer read in place of the payee. -/
theorem run_request (l : Ledger) (c x : AccountId) (m : Decimal) :
    (request c x m).run l =
      match Lifecycle.fresh.handle (.request x c m) with
      | .error f => .error f l
      | .ok e =>
        match l.findAccount x with
        | .error f => .error f l
        | .ok _ => (commit none e).run l := by
  simp only [request_eq, EStateM.run_bind, Call.run_ofExcept]
  cases Lifecycle.fresh.handle (.request x c m) with
  | error f => rfl
  | ok e =>
    simp only [Call.run_read]
    cases l.findAccount x <;> rfl

end Engine

namespace Ledger

section Rules

variable (l : Ledger)

/-- A send whose amount and accounts passed the checks is recorded by one unit: the money
moves between the two accounts as `transferRule` says, and the send is stored settled. -/
theorem run_recordSend_send {c x : AccountId} {m : Decimal} {u : Int}
    (hpos : m.isPositive = true) (hu : m.toCents = .ok u) (hcx : c ≠ x) :
    (Call.unit (·.recordSend (Draft.send c x m))).run l =
      match l.transferRule c x m with
      | .ok _ l₁ =>
        let r : TransferRecord := ⟨l.nextTransferId, .send, .approved, c, x, u⟩
        .ok r { l₁ with transfers := l₁.transfers ++ [r] }
      | .error f _ => .error f l := by
  have hv : (Draft.send c x m).validate = .ok u :=
    (Draft.validate_eq_ok_iff _ _).mpr ⟨hpos, hcx, by simp [Draft.send], hu⟩
  have hk : (Draft.send c x m).kind = .send := rfl
  have hrec : l.recordSend (Draft.send c x m) =
      (l.moveFunds c x m).bind fun l₁ => l₁.insert (Draft.send c x m) := by
    simp only [recordSend, hv, hk, bind, Except.bind, ne_eq, not_true_eq_false, if_false]
    rfl
  rw [Call.run_unit, hrec, moveFunds_eq l hcx]
  cases hrule : l.transferRule c x m with
  | error f l₁ => rfl
  | ok a l₁ =>
    -- the rule went through, so both accounts exist and the money moved; the send is then
    -- stored on the moved ledger, whose transfers are still those of `l`
    obtain ⟨u', z, y, hu', hz, hy, rfl⟩ := transferRule_eq_ok hrule
    obtain rfl : u' = u := Except.ok.inj (hu'.symm.trans hu)
    have hfound : ∀ b, (l.findAccount? b).isSome →
        (({ l with accounts := paid l.accounts c x u' } : Ledger).findAccount? b).isSome := by
      intro b hb
      rw [show ({ l with accounts := paid l.accounts c x u' } : Ledger) =
        ⟨paid l.accounts c x u', l.transfers⟩ from rfl, findAccount?_paid, Option.isSome_map]
      exact hb
    simp only [Except.bind]
    rw [insert_of_valid hv (hfound c (by simp [hz])) (hfound x (by simp [hy]))]
    rfl

/-- The engine's send follows `sendRule` on every ledger. -/
theorem run_send_eq_sendRule (c x : AccountId) (m : Decimal) :
    (Engine.send c x m).run l = l.sendRule c x m := by
  rw [Engine.run_send, Lifecycle.handle_send, Lifecycle.checkNew_fresh]
  cases hpos : m.isPositive with
  | false => simp [sendRule, hpos]
  | true =>
    cases hu : m.toCents with
    | error f => simp [sendRule, hpos, hu]
    | ok u =>
      by_cases hcx : c = x
      · simp [sendRule, hpos, hu, hcx]
      · cases hy : l.findAccount? x with
        | none => simp [sendRule, hpos, hu, hcx, hy, findAccount]
        | some y =>
          -- the payee exists: the unit that records the send with its money decides the rest
          simp only [hcx, if_false, Bool.true_eq_false, findAccount, hy, Engine.commit]
          rw [run_recordSend_send l hpos hu hcx]
          cases hz : l.findAccount? c with
          | none => simp [transferRule, sendRule, hpos, hu, hcx, hy, hz]
          | some z =>
            by_cases hcover : z.balance < u
            · simp [transferRule, sendRule, hpos, hu, hcx, hy, hz, hcover]
            · by_cases hroom : maxBalance - u < y.balance
              · have hover : maxBalance < y.balance + u := by omega
                simp [transferRule, sendRule, hpos, hu, hcx, hy, hz, hcover, hroom, hover]
              · have hfit : ¬ maxBalance < y.balance + u := by omega
                simp [transferRule, sendRule, hpos, hu, hcx, hy, hz, hcover, hroom, hfit]

/-- The engine's request follows `requestRule` on every ledger whose ids are numbered, where
the request stored under the next id is the one read back. -/
theorem run_request_eq_requestRule (hl : l.Numbered) (c x : AccountId) (m : Decimal) :
    (Engine.request c x m).run l = l.requestRule c x m := by
  rw [Engine.run_request, Lifecycle.handle_request, Lifecycle.checkNew_fresh]
  cases hpos : m.isPositive with
  | false => simp [requestRule, hpos]
  | true =>
    cases hu : m.toCents with
    | error f => simp [requestRule, hpos, hu]
    | ok u =>
      by_cases hcx : c = x
      · subst hcx
        simp [requestRule, hpos, hu]
      · have hxc : x ≠ c := Ne.symm hcx
        cases hy : l.findAccount? x with
        | none => simp [requestRule, hpos, hu, hcx, hxc, hy, findAccount]
        | some y =>
          have hv : (Draft.request x c m).validate = .ok u :=
            (Draft.validate_eq_ok_iff _ _).mpr ⟨hpos, hxc, by simp [Draft.request], hu⟩
          have hp : (Draft.request x c m).payer = x := rfl
          have hq : (Draft.request x c m).payee = c := rfl
          simp only [hxc, if_false, Bool.true_eq_false, findAccount, hy, Engine.commit,
            EStateM.run_bind, Call.run_unit]
          cases hz : l.findAccount? c with
          | none =>
            -- the caller is missing: storing the request breaks the reference to it
            have hcreate : l.create (Draft.request x c m) = .error .missingParty := by
              simp [create, insert, hv, hp, hq, hy, hz, bind, Except.bind, throw, throwThe,
                MonadExceptOf.throw]
            simp [hcreate, requestRule, hpos, hu, hcx, hy, hz]
          | some z =>
            let r : TransferRecord := ⟨l.nextTransferId, .request, .pending, x, c, u⟩
            let l' : Ledger := { l with transfers := l.transfers ++ [r] }
            have hins : l.insert (Draft.request x c m) = .ok (r, l') :=
              insert_of_valid hv (by simp [hp, hy]) (by simp [hq, hz])
            have hcreate : l.create (Draft.request x c m) = .ok (l.nextTransferId, l') := by
              simp [create, hins, bind, Except.bind, pure, Except.pure, r]
            -- the request is the one transfer under the next id, so reading it back finds it
            have hfind : l'.findTransfer? l.nextTransferId = some r :=
              (hl.insert hins).findTransfer?_of_mem (r := r) (by simp [l'])
            rw [hcreate]
            simp [findTransfer, hfind, requestRule, hpos, hu, hcx, hy, hz, r, l']

end Rules

end Ledger

/-- On a ledger whose ids are numbered, the engine's send follows `Ledger.sendRule` and its
request follows `Ledger.requestRule`: the checks in their precedence, a refusal that leaves
the ledger as it was, and a transfer stored under the next id. -/
theorem send_and_request_follow_rules (l : Ledger) (hl : l.Numbered) (c x : AccountId)
    (m : Decimal) :
    (Engine.send c x m).run l = l.sendRule c x m ∧
      (Engine.request c x m).run l = l.requestRule c x m :=
  ⟨Ledger.run_send_eq_sendRule l c x m, Ledger.run_request_eq_requestRule l hl c x m⟩

/-- The holder of 1.00 sends 0.30 to an empty account, and asks it for 0.30. -/
theorem send_and_request_follow_rules_two_accounts :
    let l : Ledger := ⟨[⟨⟨1⟩, ⟨1⟩, 100⟩, ⟨⟨2⟩, ⟨2⟩, 0⟩], []⟩
    let m : Decimal := ⟨false, 30, 2⟩
    l.Numbered ∧
      ((Engine.send ⟨1⟩ ⟨2⟩ m).run l = l.sendRule ⟨1⟩ ⟨2⟩ m ∧
        (Engine.request ⟨1⟩ ⟨2⟩ m).run l = l.requestRule ⟨1⟩ ⟨2⟩ m) := by
  intro l m
  have hl : l.Numbered := ⟨rfl, rfl⟩
  exact ⟨hl, send_and_request_follow_rules l hl _ _ _⟩

end Remit
