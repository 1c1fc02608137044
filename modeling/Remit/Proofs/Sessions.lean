import Remit.Proofs.Resolution

/-!
# What a session can do to the balances

A session acts for one user, as that user's account. In every state that a run reaches,
whatever the session does, the only balance it can lower is its own; asking for money,
rejecting a request and reading move no money at all; a send or an approval that goes
through moves one positive amount from the session's account to the other party of the
transfer it records or decides, and touches no third balance; deciding a transfer that
someone else pays is refused and changes nothing; and a transfer is shown only to its payer
and payee (`session_moves_only_its_own_money`).

The engine's send and request are first taken apart into what a successful run committed
(`Engine.send_run_ok`, `Engine.request_run_ok`); decisions follow `Ledger.decisionRule`. A
send that goes through pays its amount from its payer to its payee
(`Ledger.recordSend_send`), and paying never lowers a balance other than the payer's
(`Ledger.centsOf_paid_of_ne`).
-/

set_option autoImplicit false

namespace Remit

namespace SessionAct

/-- Whether the act may move money: a send, or an approval. -/
def movesMoney : SessionAct → Bool
  | .send .. | .approve _ => true
  | _ => false

end SessionAct

namespace Lifecycle

/-- Whatever the state of the transfer, a send it accepts has its sent event. -/
theorem handle_send_eq_ok {t : Lifecycle} {p q : AccountId} {a : Decimal} {e : Event}
    (h : t.handle (.send p q a) = .ok e) : e = .sent p q a := by
  simp only [handle, bind, Except.bind] at h
  split at h
  · cases h
  · cases h
    rfl

/-- Whatever the state of the transfer, a request it accepts has its requested event. -/
theorem handle_request_eq_ok {t : Lifecycle} {p q : AccountId} {a : Decimal} {e : Event}
    (h : t.handle (.request p q a) = .ok e) : e = .requested p q a := by
  simp only [handle, bind, Except.bind] at h
  split at h
  · cases h
  · cases h
    rfl

end Lifecycle

namespace Engine

/-- A send that goes through has recorded the send with its money, in one unit. -/
theorem send_run_ok {l l' : Ledger} {c q : AccountId} {m : Decimal} {r : TransferRecord}
    (h : (send c q m).run l = .ok r l') : l.recordSend (Draft.send c q m) = .ok (r, l') := by
  simp only [send_eq, EStateM.run_bind, Call.run_ofExcept, Call.run_read] at h
  cases he : Lifecycle.fresh.handle (.send c q m) with
  | error f => simp [he] at h
  | ok e =>
    obtain rfl := Lifecycle.handle_send_eq_ok he
    simp only [he] at h
    cases hq : l.findAccount q with
    | error f => simp [hq] at h
    | ok x =>
      simp only [hq, commit] at h
      exact Call.unit_run_ok h

/-- A request that goes through has stored the request, pending, in one unit. -/
theorem request_run_ok {l l' : Ledger} {c p : AccountId} {m : Decimal} {r : TransferRecord}
    (h : (request c p m).run l = .ok r l') :
    ∃ t, l.create (Draft.request p c m) = .ok (t, l') := by
  simp only [request_eq, EStateM.run_bind, Call.run_ofExcept, Call.run_read] at h
  cases he : Lifecycle.fresh.handle (.request p c m) with
  | error f => simp [he] at h
  | ok e =>
    obtain rfl := Lifecycle.handle_request_eq_ok he
    simp only [he] at h
    cases hp : l.findAccount p with
    | error f => simp [hp] at h
    | ok x =>
      simp only [hp, commit, EStateM.run_bind] at h
      cases hc : (Call.unit fun l => l.create (Draft.request p c m)).run l with
      | ok t l₁ =>
        -- the read that follows the unit leaves the ledger it found
        rw [hc] at h
        have hread : Call.Reads (Call.read fun l : Ledger => l.findTransfer t) := Call.within_read _
        have hl : l' = l₁ := (hread.ok l₁ r l' h).resolve_right id
        exact ⟨t, hl ▸ Call.unit_run_ok hc⟩
      | error f l₁ =>
        rw [hc] at h
        cases h

end Engine

namespace Ledger

/-- Looking an account up after a payment finds it with what it received less what it paid. -/
theorem findAccount?_paid (l : Ledger) (p q : AccountId) (c : Int)
    (transfers : List TransferRecord) (b : AccountId) :
    (⟨paid l.accounts p q c, transfers⟩ : Ledger).findAccount? b =
      (l.findAccount? b).map fun x =>
        { x with balance := x.balance + ((if x.id = q then c else 0) - (if x.id = p then c else 0)) } := by
  simp only [findAccount?, paid, List.find?_map]
  rfl

/-- The balance of an account after a payment: what it received less what it paid. -/
theorem centsOf_paid (l : Ledger) (p q : AccountId) (c : Int) (transfers : List TransferRecord)
    {b : AccountId} {x : Account} (hx : l.findAccount? b = some x) :
    (⟨paid l.accounts p q c, transfers⟩ : Ledger).centsOf b =
      x.balance + ((if b = q then c else 0) - (if b = p then c else 0)) := by
  have hid : x.id = b := by simpa using List.find?_some hx
  simp [centsOf, findAccount?_paid, hx, hid]

/-- Paying a non-negative amount lowers no balance but the payer's. -/
theorem centsOf_paid_of_ne (l : Ledger) {p q b : AccountId} {c : Int} (hc : 0 ≤ c) (hb : b ≠ p)
    (transfers : List TransferRecord) :
    l.centsOf b ≤ (⟨paid l.accounts p q c, transfers⟩ : Ledger).centsOf b := by
  cases hx : l.findAccount? b with
  | none => simp [centsOf, findAccount?_paid, hx]
  | some x =>
    rw [centsOf_paid l p q c transfers hx, centsOf_of_find? hx, if_neg hb]
    split <;> omega

/-- A send that goes through pays a positive amount from its payer to another account, both
of them existing, and stores itself as the last transfer. -/
theorem recordSend_send {l l' : Ledger} {p q : AccountId} {m : Decimal} {r : TransferRecord}
    (h : l.recordSend (Draft.send p q m) = .ok (r, l')) :
    r.payer = p ∧ r.payee = q ∧ p ≠ q ∧ 0 < r.amount ∧ (l.findAccount? p).isSome ∧
      (l.findAccount? q).isSome ∧ l'.accounts = paid l.accounts p q r.amount ∧
      l'.transfers = l.transfers ++ [r] := by
  obtain ⟨-, l₁, hm, hi⟩ := recordSend_eq_ok h
  obtain ⟨c, hv, -, -, rfl, htr, hacc⟩ := insert_eq_ok hi
  obtain ⟨hpos, hne, -, hcents⟩ := (Draft.validate_eq_ok_iff _ _).mp hv
  obtain ⟨c', hc', l₀, hd, hcr⟩ := moveFunds_eq_ok hm
  -- the cents moved are the cents stored
  have hcc : c' = c := by
    have hc : (Draft.send p q m).amount.transferCents = .ok c := Draft.transferCents_of_validate hv
    rw [hc'] at hc
    exact Except.ok.inj hc
  subst hcc
  obtain ⟨x, hx, -, rfl⟩ := debit_eq_ok hd
  obtain ⟨y, hy, -, rfl⟩ := credit_eq_ok hcr
  -- the payee was found after the debit, so it was there before
  have hq : (l.findAccount? q).isSome := by
    have hsome := congrArg Option.isSome hy
    rw [findAccount?_adjust, Option.isSome_map] at hsome
    exact hsome
  refine ⟨rfl, rfl, hne, Decimal.toCents_pos hpos hcents, Option.isSome_iff_exists.mpr ⟨x, hx⟩,
    hq, ?_, ?_⟩
  · rw [hacc, adjust_adjust]
    rfl
  · rw [htr, moveFunds_transfers _ _ _ _ _ hm]

end Ledger

namespace Member

variable {l : Ledger}

/-- Asking for money stores a request and moves none; a failed request changes nothing. -/
theorem requestFrom_accounts (m : Member) (u : UserId) (a : Decimal) :
    ((m.requestFrom u a).after l).accounts = l.accounts := by
  cases hrun : (m.requestFrom u a).run l with
  | error f l' => rw [Call.after_of_run_error hrun, (m.requestFrom_within u a).error l f l' hrun]
  | ok r l' =>
    rw [Call.after_of_run_ok hrun]
    simp only [requestFrom, EStateM.run_bind, Call.run_read] at hrun
    cases hu : l.findUser u with
    | error f => simp [hu] at hrun
    | ok payer =>
      simp only [hu] at hrun
      obtain ⟨t, hc⟩ := Engine.request_run_ok hrun
      obtain ⟨r', hi, -⟩ := Ledger.create_eq_ok hc
      obtain ⟨-, -, -, -, -, -, hacc⟩ := Ledger.insert_eq_ok hi
      exact hacc

/-- A decision as the session's account follows the rule of decisions. -/
theorem run_decide (m : Member) (hl : l.Logged) (t : TransferId) (d : Decision) :
    (m.decide t d).run l = l.decisionRule m.account t d :=
  resolve_follows_decisionRule l hl m.account t d

/-- On a ledger whose log is well formed, a member's rejection moves no money, whether it goes
through or not. -/
theorem reject_accounts (m : Member) (hl : l.Logged) (t : TransferId) :
    ((m.decide t .reject).after l).accounts = l.accounts := by
  simp only [Call.after, run_decide m hl, Ledger.decisionRule]
  cases l.findTransfer? t with
  | none => rfl
  | some r =>
    by_cases hc : m.account ≠ r.payer
    · simp [hc]
    · by_cases hp : r.status ≠ .pending
      · simp [hc, hp]
      · simp [hc, hp]

end Member

namespace Ledger

/-- An approval that the rule lets through was made by the payer of a pending transfer: it
marks the transfer approved and pays its amount from the payer to the payee. -/
theorem decisionRule_approve_ok {l l' : Ledger} {c : AccountId} {t : TransferId}
    {r : TransferRecord} (h : l.decisionRule c t .approve = .ok r l') :
    ∃ r₀, l.findTransfer? t = some r₀ ∧ c = r₀.payer ∧ r₀.status = .pending ∧
      r = { r₀ with status := .approved } ∧
      l' = ⟨paid l.accounts r₀.payer r₀.payee r₀.amount, (l.restatus t .approved).transfers⟩ := by
  unfold decisionRule at h
  split at h
  · cases h
  · next r₀ hr₀ =>
    by_cases hc : c = r₀.payer
    · by_cases hp : r₀.status = .pending
      · by_cases hcover : l.centsOf r₀.payer < r₀.amount
        · simp [hc, hp, hcover] at h
        · by_cases hover : maxBalance < l.centsOf r₀.payee + r₀.amount
          · simp [hc, hp, hcover, hover] at h
          · simp only [hc, hp, hcover, hover, ne_eq, not_true_eq_false, if_false] at h
            cases h
            exact ⟨r₀, hr₀, hc, hp, rfl, rfl⟩
      · simp [hc, hp] at h
    · simp [hc] at h

/-- Two ledgers with the same accounts give every account the same cents. -/
theorem centsOf_of_accounts {l l' : Ledger} (h : l'.accounts = l.accounts) (b : AccountId) :
    l'.centsOf b = l.centsOf b := by
  simp [centsOf, findAccount?, h]

end Ledger

namespace Member

variable {l : Ledger}

/-- Asking for money, rejecting and reading move no money, whether they go through or not. -/
theorem act_accounts (m : Member) (hl : l.Logged) (a : SessionAct) (ha : a.movesMoney = false) :
    ((m.act a).after l).accounts = l.accounts := by
  cases a with
  | whoami => rfl
  | balance => simp [act]
  | send u amount => cases ha
  | request u amount => simp only [act, Call.after_map]; exact m.requestFrom_accounts u amount
  | approve t => cases ha
  | reject t => simp only [act, Call.after_map]; exact m.reject_accounts hl t
  | history => simp [act]
  | pending r => simp [act]
  | transfer t => simp [act]

/-- A send or an approval that goes through pays a positive amount from the session's account
to the other party of the transfer it returns, which is stored as returned. -/
theorem act_pays (m : Member) (hl : l.Logged) {a : SessionAct} (ha : a.movesMoney = true)
    {rep : Reply} {l' : Ledger} (h : (m.act a).run l = .ok rep l') :
    ∃ r, rep = .transfer r ∧ r.payer = m.account ∧ r.payee ≠ m.account ∧ 0 < r.amount ∧
      (l.findAccount? m.account).isSome ∧ (l.findAccount? r.payee).isSome ∧
      l'.accounts = Ledger.paid l.accounts m.account r.payee r.amount ∧
      l'.findTransfer? r.id = some r := by
  cases a with
  | send u amount =>
    simp only [act, Call.run_map] at h
    cases hs : (m.sendTo u amount).run l with
    | error f l₁ => simp [hs] at h
    | ok r l₁ =>
      simp only [hs, EStateM.Result.ok.injEq] at h
      obtain ⟨rfl, rfl⟩ := h
      simp only [sendTo, EStateM.run_bind, Call.run_read] at hs
      cases hu : l.findUser u with
      | error f => simp [hu] at hs
      | ok payee =>
        simp only [hu] at hs
        have hrec := Engine.send_run_ok hs
        obtain ⟨hp, hq, hne, hpos, hpf, hqf, hacc, htr⟩ := Ledger.recordSend_send hrec
        -- the send is stored as the last transfer of a ledger that is still numbered
        have hn : l₁.Numbered := (hl.commits (.write (.recordSend hrec))).numbered
        have hmem : r ∈ l₁.transfers := by simp [htr]
        refine ⟨r, rfl, hp, ?_, hpos, hpf, ?_, ?_, hn.findTransfer?_of_mem hmem⟩
        · rw [hq]
          exact Ne.symm hne
        · rw [hq]
          exact hqf
        · rw [hacc, hq]
  | approve t =>
    simp only [act, decide, Call.run_map, resolve_follows_decisionRule l hl] at h
    cases hd : l.decisionRule m.account t .approve with
    | error f l₁ => simp [hd] at h
    | ok r l₁ =>
      simp only [hd, EStateM.Result.ok.injEq] at h
      obtain ⟨rfl, rfl⟩ := h
      obtain ⟨r₀, hr₀, hc, -, rfl, rfl⟩ := Ledger.decisionRule_approve_ok hd
      have hmem := List.mem_of_find?_eq_some hr₀
      obtain ⟨hne, hpids, hqids⟩ := hl.parties r₀ hmem
      obtain ⟨hpos, -⟩ := hl.amounts r₀ hmem
      have hid : r₀.id = t := by simpa using List.find?_some hr₀
      subst hid
      refine ⟨{ r₀ with status := .approved }, rfl, hc.symm, ?_, by simp; omega, ?_, ?_, ?_, ?_⟩
      · rw [hc]
        exact Ne.symm hne
      · rw [hc]
        exact Option.isSome_iff_exists.mpr (hl.numbered.findAccount?_of_mem_ids hpids)
      · exact Option.isSome_iff_exists.mpr (hl.numbered.findAccount?_of_mem_ids hqids)
      · rw [hc]
      · exact Ledger.findTransfer?_restatus_self hr₀ .approved
  | _ => cases ha

/-- Whatever the session does, it lowers no balance but its own account's. -/
theorem act_lowers_only_own (m : Member) (hl : l.Logged) (a : SessionAct) {b : AccountId}
    (hb : b ≠ m.account) : l.centsOf b ≤ ((m.act a).after l).centsOf b := by
  cases ha : a.movesMoney with
  | false => exact Int.le_of_eq (Ledger.centsOf_of_accounts (m.act_accounts hl a ha) b).symm
  | true =>
    cases hrun : (m.act a).run l with
    | error f l' =>
      have hkeep : (m.act a).after l = l := by
        rw [Call.after_of_run_error hrun, (m.act_within a).error l f l' hrun]
      exact Int.le_of_eq (congrArg (·.centsOf b) hkeep).symm
    | ok rep l' =>
      obtain ⟨r, -, -, -, hpos, -, -, hacc, -⟩ := m.act_pays hl ha hrun
      have hcents : l'.centsOf b =
          (⟨Ledger.paid l.accounts m.account r.payee r.amount, l'.transfers⟩ : Ledger).centsOf b :=
        Ledger.centsOf_of_accounts hacc b
      rw [Call.after_of_run_ok hrun, hcents]
      exact Ledger.centsOf_paid_of_ne l (by omega) hb l'.transfers

/-- Deciding a transfer that another account pays is refused, and changes nothing. -/
theorem decide_of_not_payer (m : Member) (hl : l.Logged) {t : TransferId} {r : TransferRecord}
    (hr : l.findTransfer? t = some r) (hc : r.payer ≠ m.account) (d : Decision) :
    (m.decide t d).run l = .error .unauthorized l := by
  rw [run_decide m hl]
  simp [Ledger.decisionRule, hr, Ne.symm hc]

/-- A stored transfer is shown to its payer and payee, and refused to everyone else. -/
theorem run_transfer (m : Member) {t : TransferId} {r : TransferRecord}
    (hr : l.findTransfer? t = some r) :
    (m.act (.transfer t)).run l =
      if r.involves m.account then .ok (.transfer r) l else .error .unauthorized l := by
  by_cases hi : r.involves m.account
  · simp [act, transfer, Ledger.details, Ledger.findTransfer_of_find? hr, hi, bind, Except.bind,
      pure, Except.pure]
  · simp [act, transfer, Ledger.details, Ledger.findTransfer_of_find? hr, hi, bind, Except.bind,
      throw, throwThe, MonadExceptOf.throw]

end Member

namespace Operation

/-- A session operation of a user with an account is the act of that account. -/
theorem run_session {l : Ledger} {u : UserId} {acc : Account} (h : l.findUser? u = some acc)
    (a : SessionAct) : (session u a).call.run l = (Member.act ⟨acc.id, acc.user⟩ a).run l := by
  have hm : l.member u = .ok ⟨acc.id, acc.user⟩ := (Ledger.member_eq_ok_iff l u _).mpr ⟨acc, h, rfl⟩
  simp only [call, EStateM.run_bind, Call.run_read, hm]

/-- A session of a user with an account leaves what the member's act leaves. -/
theorem after_session {l : Ledger} {u : UserId} {acc : Account} (h : l.findUser? u = some acc)
    (a : SessionAct) : (session u a).call.after l = (Member.act ⟨acc.id, acc.user⟩ a).after l := by
  simp only [Call.after, run_session h]

end Operation

/-- In every state that a run reaches, the session of a user with an account, whatever it
does: lowers no balance but that account's; moves no money when it asks for money, rejects or
reads; when a send or an approval goes through, moves a positive amount from that account to
the other party of the transfer it returns, and no other balance; is refused, changing
nothing, when it decides an existing transfer that another account pays; and is shown an
existing transfer exactly when that account pays or receives it. -/
theorem session_moves_only_its_own_money (ops : List Operation) (u : UserId) (acc : Account) :
    let l := (Ledger.empty.runOps ops).2
    l.findUser? u = some acc →
    (∀ (a : SessionAct) (b : AccountId), b ≠ acc.id →
      l.centsOf b ≤ ((Operation.session u a).call.after l).centsOf b) ∧
    (∀ a : SessionAct, a.movesMoney = false →
      ((Operation.session u a).call.after l).accounts = l.accounts) ∧
    (∀ (a : SessionAct) (rep : Reply) (l' : Ledger), a.movesMoney = true →
      (Operation.session u a).call.run l = .ok rep l' →
      ∃ r, rep = .transfer r ∧ r.payer = acc.id ∧ r.payee ≠ acc.id ∧ 0 < r.amount ∧
        (l.findAccount? acc.id).isSome ∧ (l.findAccount? r.payee).isSome ∧
        l'.accounts = Ledger.paid l.accounts acc.id r.payee r.amount ∧
        l'.findTransfer? r.id = some r) ∧
    (∀ (t : TransferId) (r : TransferRecord), l.findTransfer? t = some r → r.payer ≠ acc.id →
      (Operation.session u (.approve t)).call.run l = .error .unauthorized l ∧
        (Operation.session u (.reject t)).call.run l = .error .unauthorized l) ∧
    (∀ (t : TransferId) (r : TransferRecord), l.findTransfer? t = some r →
      (Operation.session u (.transfer t)).call.run l =
        if r.involves acc.id then .ok (.transfer r) l else .error .unauthorized l) := by
  intro l hu
  have hl : l.Logged := Ledger.logged_empty.runOps ops
  -- every operation of the session is an act of the account of `u`
  refine ⟨fun a b hb => ?_, fun a ha => ?_, fun a rep l' ha h => ?_, fun t r hr hc => ?_,
    fun t r hr => ?_⟩
  · rw [Operation.after_session hu]
    exact Member.act_lowers_only_own _ hl a hb
  · rw [Operation.after_session hu]
    exact Member.act_accounts _ hl a ha
  · rw [Operation.run_session hu] at h
    exact Member.act_pays _ hl ha h
  · have hno := Member.decide_of_not_payer ⟨acc.id, acc.user⟩ hl hr hc
    rw [Operation.run_session hu, Operation.run_session hu]
    simp [Member.act, hno]
  · rw [Operation.run_session hu]
    exact Member.run_transfer _ hr

/-- Two users with accounts, one of them holding 1.00: the run that opened them. -/
theorem session_moves_only_its_own_money_two_users :
    let ops : List Operation := [.openAccount ⟨1001⟩ ⟨false, 100, 2⟩, .openAccount ⟨1002⟩ ⟨false, 0, 2⟩]
    (Ledger.empty.runOps ops).2.findUser? ⟨1001⟩ = some ⟨⟨1⟩, ⟨1001⟩, 100⟩ ∧
      let l := (Ledger.empty.runOps ops).2
      (∀ (a : SessionAct) (b : AccountId), b ≠ ⟨1⟩ →
        l.centsOf b ≤ ((Operation.session ⟨1001⟩ a).call.after l).centsOf b) := by
  intro ops
  have hu : (Ledger.empty.runOps ops).2.findUser? ⟨1001⟩ = some ⟨⟨1⟩, ⟨1001⟩, 100⟩ := rfl
  exact ⟨hu, (session_moves_only_its_own_money ops ⟨1001⟩ _ hu).1⟩

end Remit
