import Remit.Proofs.Conservation
import Remit.Proofs.TransferLog

/-!
# Approved transfers account for every balance

Over every run from the empty ledger made of openings, the engine's commands, the
session's acts and reads, each account's balance is its opening balance plus what the
approved transfers paid to it less what the approved transfers took from it, and every
send is approved (`approved_transfers_account_for_balances`). A pending or rejected request
counts for nothing in that sum: it has moved no money.

Besides openings the engine writes by four units, and each keeps the equation
(`Ledger.Settled`): a send stores an approved transfer and moves its money in one unit, a
request stores a pending transfer, an approval marks the pending transfer approved and
moves its money in one unit, and a rejection only marks it. An approval moves the stored
amount because stored amounts are at least one cent within 64 bits (`Ledger.Logged`), and
it marks only the transfer it found because ids are unique.
-/

set_option autoImplicit false

namespace Remit

namespace TransferRecord

/-- The cents an approved transfer moved with the account in the role: paid by it as the
payer, or to it as the payee. A transfer that is not approved moved nothing. -/
def movedWith (r : TransferRecord) (role : Role) (a : AccountId) : Int :=
  if r.status = .approved ∧ r.party role = a then r.amount else 0

/-- A transfer that is not approved moved nothing with any account. -/
theorem movedWith_of_ne_approved {r : TransferRecord} (h : r.status ≠ .approved) (role : Role)
    (a : AccountId) : r.movedWith role a = 0 := by
  simp [movedWith, h]

/-- An approved transfer moved its amount with the account in the role, and nothing with any other.
-/
theorem movedWith_of_approved {r : TransferRecord} (h : r.status = .approved) (role : Role)
    (a : AccountId) : r.movedWith role a = if a = r.party role then r.amount else 0 := by
  by_cases ha : a = r.party role
  · simp [movedWith, h, ha]
  · simp [movedWith, h, ha, Ne.symm ha]

end TransferRecord

/-- The cents that the approved transfers of a log moved with the account in the role. -/
def moved (role : Role) (a : AccountId) : List TransferRecord → Int
  | [] => 0
  | r :: rs => r.movedWith role a + moved role a rs

/-- What a log moved is the sum of what its two parts moved. -/
theorem moved_append (role : Role) (a : AccountId) (ts us : List TransferRecord) :
    moved role a (ts ++ us) = moved role a ts + moved role a us := by
  induction ts with
  | nil => simp [moved]
  | cons r rs ih =>
    rw [List.cons_append, moved, moved, ih]
    omega

/-- What a log of one transfer moved is what that transfer moved. -/
theorem moved_singleton (role : Role) (a : AccountId) (r : TransferRecord) :
    moved role a [r] = r.movedWith role a := by
  simp [moved]

/-- A log in which no transfer has the account in the role moved nothing with it. -/
theorem moved_eq_zero {role : Role} {a : AccountId} {ts : List TransferRecord}
    (h : ∀ r ∈ ts, r.party role ≠ a) : moved role a ts = 0 := by
  induction ts with
  | nil => rfl
  | cons r rs ih =>
    have hr : r.movedWith role a = 0 := by
      simp [TransferRecord.movedWith, h r (List.mem_cons_self ..)]
    rw [moved, hr, ih fun x hx => h x (List.mem_cons_of_mem _ hx), Int.add_zero]

/-- Marking the one transfer with an id changes the sums by what it moved before and what
it moves after. -/
theorem moved_restatus_list {ts : List TransferRecord} (hn : (ts.map (·.id)).Nodup)
    {t : TransferId} {r₀ : TransferRecord} (hr₀ : ts.find? (·.id == t) = some r₀) (s : Status)
    (role : Role) (a : AccountId) :
    moved role a (ts.map fun r => if r.id = t then { r with status := s } else r) =
      moved role a ts - r₀.movedWith role a + { r₀ with status := s }.movedWith role a := by
  induction ts with
  | nil => cases hr₀
  | cons y ys ih =>
    rw [List.map_cons, List.nodup_cons] at hn
    by_cases hy : y.id = t
    · -- `y` is the transfer found, and no later transfer carries its id
      rw [List.find?_cons_of_pos (by simpa using hy), Option.some.injEq] at hr₀
      subst hr₀
      have hrest : (ys.map fun r => if r.id = t then { r with status := s } else r) = ys := by
        conv => rhs; rw [← List.map_id ys]
        apply List.map_congr_left
        intro z hz
        have hz' : z.id ≠ t := fun hzt => hn.1 (hy ▸ hzt ▸ List.mem_map_of_mem hz)
        rw [if_neg hz']
        rfl
      rw [List.map_cons, if_pos hy, hrest, moved, moved]
      omega
    · rw [List.find?_cons_of_neg (by simpa using hy)] at hr₀
      rw [List.map_cons, if_neg hy, moved, moved, ih hn.2 hr₀]
      omega

/-- Changing one transfer's status changes what the log moved by the difference between the transfer
as it was and as it becomes. -/
theorem Ledger.moved_restatus {l : Ledger} (hn : l.Numbered) {t : TransferId}
    {r₀ : TransferRecord} (hr₀ : l.findTransfer? t = some r₀) (s : Status) (role : Role)
    (a : AccountId) :
    moved role a (l.restatus t s).transfers =
      moved role a l.transfers - r₀.movedWith role a + { r₀ with status := s }.movedWith role a :=
  moved_restatus_list hn.transferIds_nodup hr₀ s role a

/-- An account as it stands, against the account as it was opened: the same id and user,
and a balance that is the opening balance plus what the approved transfers of the log paid
to it less what they took from it. -/
def Accounted (ts : List TransferRecord) (a₀ a : Account) : Prop :=
  a.id = a₀.id ∧ a.user = a₀.user ∧
    a.balance = a₀.balance + moved .payee a.id ts - moved .payer a.id ts

namespace Accounted

variable {ts ts' : List TransferRecord} {a₀ x : Account}

/-- Accounting for an account depends only on what the log moved. -/
theorem of_moved (hm : ∀ role a, moved role a ts' = moved role a ts) (h : Accounted ts a₀ x) :
    Accounted ts' a₀ x := by
  obtain ⟨hid, hu, hb⟩ := h
  exact ⟨hid, hu, by rw [hm, hm]; exact hb⟩

/-- Changing each balance by what the log comes to move more with its account. -/
theorem shift {δ : AccountId → Int}
    (hδ : ∀ a, moved .payee a ts' - moved .payer a ts' =
      moved .payee a ts - moved .payer a ts + δ a)
    (h : Accounted ts a₀ x) : Accounted ts' a₀ { x with balance := x.balance + δ x.id } := by
  obtain ⟨hid, hu, hb⟩ := h
  have hx := hδ x.id
  refine ⟨hid, hu, ?_⟩
  dsimp only
  omega

end Accounted

namespace Ledger

/-- The accounts of the ledger are, in order, the accounts `opened` as they were opened,
each with the balance that the approved transfers account for; and every send is
approved. -/
structure Settled (opened : List Account) (l : Ledger) : Prop where
  logged : l.Logged
  accounts : List.Forall₂ (Accounted l.transfers) opened l.accounts
  sends : ∀ r ∈ l.transfers, r.kind = .send → r.status = .approved

/-- The empty ledger is settled, with no account opened. -/
theorem settled_empty : Settled [] empty :=
  ⟨logged_empty, .nil, (fun _ h => by cases h)⟩

namespace Settled

variable {opened : List Account} {l l' : Ledger}

/-- Marking the transfer found keeps every send approved, when a send is only ever marked
approved. -/
theorem sends_restatus (h : Settled opened l) {t : TransferId} {r₀ : TransferRecord}
    (hr₀ : l.findTransfer? t = some r₀) {s : Status} (hs : r₀.kind = .send → s = .approved) :
    ∀ r ∈ (l.restatus t s).transfers, r.kind = .send → r.status = .approved := by
  intro r hr hk
  obtain ⟨r', hr', rfl⟩ := List.mem_map.mp hr
  by_cases hid : r'.id = t
  · rw [if_pos hid] at hk ⊢
    rw [h.logged.numbered.eq_of_findTransfer? hr' hid hr₀] at hk
    exact hs hk
  · rw [if_neg hid] at hk ⊢
    exact h.sends r' hr' hk

/-- A new account is accounted for by its opening balance alone: no stored transfer names
its id. -/
theorem openAccount (h : Settled opened l) {u : UserId} {b : Decimal} {a : Account}
    (ho : l.openAccount u b = .ok (a, l')) : Settled (opened ++ [a]) l' := by
  obtain ⟨c, -, -, -, rfl, hacc, htr⟩ := openAccount_eq_ok ho
  have hfresh : ∀ role, moved role l.nextAccountId l.transfers = 0 := by
    intro role
    apply moved_eq_zero
    intro r hr hparty
    have hmem : r.party role ∈ l.accounts.map (·.id) := by
      obtain ⟨-, hp, hq⟩ := h.logged.parties r hr
      cases role
      · exact hp
      · exact hq
    exact h.logged.numbered.nextAccountId_not_mem (hparty ▸ hmem)
  refine ⟨h.logged.openAccount ho, ?_, ?_⟩
  · rw [hacc, htr]
    refine List.rel_append h.accounts (.cons ⟨rfl, rfl, ?_⟩ .nil)
    dsimp only
    rw [hfresh, hfresh]
    omega
  · rw [htr]
    exact h.sends

/-- A send stores an approved transfer and moves its money, in one unit. -/
theorem send (h : Settled opened l) {p q : AccountId} {m : Decimal} {r : TransferRecord}
    (hr : l.recordSend (Draft.send p q m) = .ok (r, l')) : Settled opened l' := by
  obtain ⟨-, l₁, hm, hi⟩ := recordSend_eq_ok hr
  obtain ⟨c, hv, -, -, rfl, htr, hacc⟩ := insert_eq_ok hi
  obtain ⟨c', hc', hacc₁⟩ := accounts_moveFunds hm
  -- the money moved is the amount stored
  have hcc : c' = c := by
    have hc : (Draft.send p q m).amount.transferCents = .ok c := Draft.transferCents_of_validate hv
    rw [hc'] at hc
    exact Except.ok.inj hc
  subst hcc
  have htr' : l'.transfers = l.transfers ++ [(Draft.send p q m).toRecord l₁.nextTransferId c'] := by
    rw [htr, moveFunds_transfers _ _ _ _ _ hm]
  have hδ : ∀ a, moved .payee a l'.transfers - moved .payer a l'.transfers =
      moved .payee a l.transfers - moved .payer a l.transfers +
        ((if a = q then c' else 0) - (if a = p then c' else 0)) := by
    intro a
    rw [htr', moved_append, moved_append, moved_singleton, moved_singleton,
      TransferRecord.movedWith_of_approved rfl, TransferRecord.movedWith_of_approved rfl]
    simp only [TransferRecord.party, Draft.toRecord, Draft.send]
    by_cases hq : a = q <;> by_cases hp : a = p <;> simp [hq, hp] <;> omega
  refine ⟨(h.logged.moveFunds hm).insert hi, ?_, ?_⟩
  · rw [hacc, hacc₁]
    exact List.forall₂_map_right_iff.mpr (h.accounts.imp fun a₀ x hx => hx.shift hδ)
  · intro x hx hk
    rw [htr', List.mem_append, List.mem_singleton] at hx
    rcases hx with hx | rfl
    · exact h.sends x hx hk
    · rfl

/-- A request stores a pending transfer and moves nothing. -/
theorem request (h : Settled opened l) {p q : AccountId} {m : Decimal} {t : TransferId}
    (hc : l.create (Draft.request p q m) = .ok (t, l')) : Settled opened l' := by
  obtain ⟨r, hi, -⟩ := create_eq_ok hc
  obtain ⟨c, -, -, -, rfl, htr, hacc⟩ := insert_eq_ok hi
  have hpending : ((Draft.request p q m).toRecord l.nextTransferId c).status ≠ .approved := by
    simp [Draft.toRecord, Draft.request]
  have hm : ∀ role a, moved role a l'.transfers = moved role a l.transfers := by
    intro role a
    rw [htr, moved_append, moved_singleton,
      TransferRecord.movedWith_of_ne_approved hpending, Int.add_zero]
  refine ⟨h.logged.insert hi, ?_, ?_⟩
  · rw [hacc]
    exact h.accounts.imp fun a₀ x hx => hx.of_moved hm
  · intro x hx hk
    rw [htr, List.mem_append, List.mem_singleton] at hx
    rcases hx with hx | rfl
    · exact h.sends x hx hk
    · simp [Draft.toRecord, Draft.request] at hk

/-- An approval marks the pending transfer approved and moves its stored amount, in one
unit. -/
theorem approve (h : Settled opened l) {t : TransferId} {r : TransferRecord}
    (ha : l.approve t = .ok (r, l')) : Settled opened l' := by
  obtain ⟨r₀, hr₀, hp, rfl, hm⟩ := approve_eq_ok ha
  obtain ⟨hpos, hfits⟩ := h.logged.amounts r₀ (List.mem_of_find?_eq_some hr₀)
  obtain ⟨c, hc, hacc⟩ := accounts_moveFunds hm
  -- the money moved is the amount stored, which converts back unchanged
  have hcr : c = r₀.amount := by
    have hstored : (Decimal.ofCents r₀.amount).transferCents = .ok r₀.amount :=
      Decimal.transferCents_ofCents (by omega) hfits
    have hc₀ : (Decimal.ofCents r₀.amount).transferCents = .ok c := hc
    rw [hstored] at hc₀
    exact (Except.ok.inj hc₀).symm
  subst hcr
  have htr : l'.transfers = (l.restatus t .approved).transfers :=
    moveFunds_transfers _ _ _ _ _ hm
  have hnone : ∀ role a, r₀.movedWith role a = 0 :=
    TransferRecord.movedWith_of_ne_approved (by rw [hp]; decide)
  have hδ : ∀ a, moved .payee a l'.transfers - moved .payer a l'.transfers =
      moved .payee a l.transfers - moved .payer a l.transfers +
        ((if a = r₀.payee then r₀.amount else 0) - (if a = r₀.payer then r₀.amount else 0)) := by
    intro a
    rw [htr, moved_restatus h.logged.numbered hr₀, moved_restatus h.logged.numbered hr₀,
      hnone, hnone, TransferRecord.movedWith_of_approved rfl,
      TransferRecord.movedWith_of_approved rfl]
    simp only [TransferRecord.party]
    by_cases hq : a = r₀.payee <;> by_cases hp : a = r₀.payer <;> simp [hq, hp] <;> omega
  refine ⟨(h.logged.restatus t .approved).moveFunds hm, ?_, ?_⟩
  · rw [hacc]
    exact List.forall₂_map_right_iff.mpr (h.accounts.imp fun a₀ x hx => hx.shift hδ)
  · rw [htr]
    exact h.sends_restatus hr₀ fun _ => rfl

/-- A rejection only marks the pending transfer rejected: it moved nothing before and
moves nothing after. -/
theorem reject (h : Settled opened l) {t : TransferId} (hs : l.settle t .rejected = .ok l') :
    Settled opened l' := by
  obtain ⟨-, r₀, hr₀, hp, rfl⟩ := settle_pending _ _ _ _ hs
  have hm : ∀ role a, moved role a (l.restatus t .rejected).transfers = moved role a l.transfers := by
    intro role a
    have hbefore : r₀.movedWith role a = 0 :=
      TransferRecord.movedWith_of_ne_approved (by rw [hp]; decide) role a
    have hafter : ({ r₀ with status := .rejected } : TransferRecord).movedWith role a = 0 :=
      TransferRecord.movedWith_of_ne_approved (show Status.rejected ≠ .approved by decide) role a
    rw [moved_restatus h.logged.numbered hr₀, hbefore, hafter]
    omega
  refine ⟨h.logged.restatus t .rejected, h.accounts.imp fun a₀ x hx => hx.of_moved hm, ?_⟩
  -- the rejected transfer was pending, so it is no send
  refine h.sends_restatus hr₀ fun hk => ?_
  have happroved := h.sends r₀ (List.mem_of_find?_eq_some hr₀) hk
  rw [hp] at happroved
  cases happroved

/-- Every write the engine makes keeps the ledger settled against the same opened accounts. -/
theorem engineWrites (h : Settled opened l) (hw : EngineWrites l l') : Settled opened l' := by
  cases hw with
  | send hr => exact h.send hr
  | request hc => exact h.request hc
  | approve ha => exact h.approve ha
  | reject hs => exact h.reject hs

/-- One operation of someone who uses the engine keeps the ledger settled, with the
account it opened, if any, added to the opened ones. -/
theorem call (h : Settled opened l) (op : Operation) (hv : op.viaEngine = true) :
    Settled (opened ++ op.openedBy (op.call.answer l)) (op.call.after l) := by
  rcases op.after_cases (op.call_within_engine hv) l with
    ⟨hkeep, hnone⟩ | ⟨hw, hnone⟩ | ⟨u, b, a, hopen, hone⟩
  · rw [hkeep, hnone, List.append_nil]
    exact h
  · rw [hnone, List.append_nil]
    exact h.engineWrites hw
  · rw [hone]
    exact h.openAccount hopen

/-- A run of operations made through the engine keeps the ledger settled, against the accounts
opened before it and those the run opened. -/
theorem runOps (h : Settled opened l) (ops : List Operation)
    (hops : ∀ op ∈ ops, op.viaEngine = true) :
    Settled (opened ++ Operation.opened ops (l.runOps ops).1) (l.runOps ops).2 :=
  runOps_induction (P := Settled) ops (fun op hop _ _ h => h.call op (hops op hop)) opened l h

end Settled

end Ledger

/-- Over every run from the empty ledger of openings, engine commands, session acts and
reads, the accounts are, in order, the accounts as they were opened, each with its opening
balance plus what approved transfers paid to it less what approved transfers took from it;
and every send is approved. -/
theorem approved_transfers_account_for_balances (ops : List Operation)
    (hops : ∀ op ∈ ops, op.viaEngine = true) :
    let run := Ledger.empty.runOps ops
    List.Forall₂ (fun (a₀ a : Account) => a.id = a₀.id ∧ a.user = a₀.user ∧
        a.balance = a₀.balance + moved .payee a.id run.2.transfers -
          moved .payer a.id run.2.transfers)
      (Operation.opened ops run.1) run.2.accounts ∧
      ∀ r ∈ run.2.transfers, r.kind = .send → r.status = .approved := by
  intro run
  have hs := Ledger.settled_empty.runOps ops hops
  rw [List.nil_append] at hs
  exact ⟨hs.accounts, hs.sends⟩

/-- Two users open accounts, one sends to the other, asks for money back and the request
is approved: a run of the engine alone. -/
theorem approved_transfers_account_for_balances_two_users :
    let ops : List Operation :=
      [.openAccount ⟨1⟩ ⟨false, 1000, 2⟩, .openAccount ⟨2⟩ ⟨false, 0, 0⟩,
        .session ⟨1⟩ (.send ⟨2⟩ ⟨false, 250, 2⟩), .session ⟨2⟩ (.request ⟨1⟩ ⟨false, 1, 0⟩),
        .session ⟨1⟩ (.approve ⟨2⟩)]
    (∀ op ∈ ops, op.viaEngine = true) ∧
      let run := Ledger.empty.runOps ops
      List.Forall₂ (fun (a₀ a : Account) => a.id = a₀.id ∧ a.user = a₀.user ∧
          a.balance = a₀.balance + moved .payee a.id run.2.transfers -
            moved .payer a.id run.2.transfers)
        (Operation.opened ops run.1) run.2.accounts ∧
        ∀ r ∈ run.2.transfers, r.kind = .send → r.status = .approved :=
  ⟨by decide, approved_transfers_account_for_balances _ (by decide)⟩

end Remit
