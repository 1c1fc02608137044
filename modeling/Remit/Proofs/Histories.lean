import Remit.Proofs.TransferLog

/-!
# Histories and pending lists

An account's history lists the stored transfers it pays or receives; its pending lists, one per
role, the pending transfers in which it takes that role. Ids are handed out increasingly: on a
numbered ledger the stored transfers carry the ids `1, 2, …` in the order they were stored
(`Ledger.Numbered.transfers_sorted`). The lists are read newest first, so on every ledger a run
reaches the history holds each of the account's transfers once, in strictly decreasing id
(`Ledger.history_sorted`); a pending list is the history's subsequence of pending transfers in
which the account takes the role (`Ledger.pending_eq_filter_history`); and since no transfer
pays its own payer, the two pending lists share no transfer and together hold exactly the
pending transfers of the history (`Ledger.pending_perm`). The main statement is
`history_lists_newest_first`.
-/

set_option autoImplicit false

namespace Remit

namespace Ledger

variable {l : Ledger}

/-- The stored transfers carry increasing ids, in the order they were stored. -/
theorem Numbered.transfers_sorted (h : l.Numbered) :
    l.transfers.Pairwise (fun r r' => r.id.val < r'.id.val) := by
  have hserial : (serial TransferId.mk l.transfers.length).Pairwise (·.val < ·.val) := by
    simp only [serial, List.pairwise_map]
    exact List.pairwise_lt_range.imp fun hij => by omega
  rw [← h.transfers, List.pairwise_map] at hserial
  exact hserial

/-- The history of an account holds exactly the stored transfers that it pays or receives. -/
theorem mem_history {a : AccountId} {r : TransferRecord} :
    r ∈ l.history a ↔ r ∈ l.transfers ∧ (r.payer = a ∨ r.payee = a) := by
  simp [history, TransferRecord.involves]

/-- A history is newest first: its ids strictly decrease. -/
theorem history_sorted (h : l.Numbered) (a : AccountId) :
    (l.history a).Pairwise (fun r r' => r'.id.val < r.id.val) := by
  rw [history, List.pairwise_reverse]
  exact h.transfers_sorted.filter _

/-- A history holds each transfer once. -/
theorem history_nodup (h : l.Numbered) (a : AccountId) : (l.history a).Nodup :=
  (history_sorted h a).imp fun hlt heq => by rw [heq] at hlt; exact Int.lt_irrefl _ hlt

/-- A pending list is the history's subsequence of the pending transfers in which the account
takes the role. -/
theorem pending_eq_filter_history (l : Ledger) (a : AccountId) (role : Role) :
    l.pending a role =
      (l.history a).filter fun r => r.party role == a && r.status == .pending := by
  rw [pending, history, List.filter_reverse, List.filter_filter]
  congr 1
  apply List.filter_congr
  intro r _
  -- taking the role makes the account a party, so the history's own test is implied
  cases role <;> by_cases hp : r.payer = a <;> by_cases hq : r.payee = a <;>
    simp [TransferRecord.party, TransferRecord.involves, hp, hq]

/-- The pending list of an account in a role holds exactly the stored pending transfers in which it
takes that role. -/
theorem mem_pending {a : AccountId} {role : Role} {r : TransferRecord} :
    r ∈ l.pending a role ↔ r ∈ l.transfers ∧ r.party role = a ∧ r.status = .pending := by
  simp [pending]

/-- No transfer is pending with the account both as its payer and as its payee. -/
theorem pending_disjoint (hl : l.Logged) {a : AccountId} {r : TransferRecord}
    (hr : r ∈ l.pending a .payer) : r ∉ l.pending a .payee := by
  intro hr'
  obtain ⟨hmem, hpayer, -⟩ := mem_pending.mp hr
  obtain ⟨-, hpayee, -⟩ := mem_pending.mp hr'
  exact (hl.parties r hmem).1 (hpayer.trans hpayee.symm)

/-- The two pending lists together hold the pending transfers of the history, each once. -/
theorem pending_perm (hl : l.Logged) (a : AccountId) :
    (l.pending a .payer ++ l.pending a .payee).Perm
      ((l.history a).filter (·.status == .pending)) := by
  have hnodup := history_nodup hl.numbered a
  have hsub : ∀ role, (l.pending a role).Sublist (l.history a) := fun role => by
    rw [pending_eq_filter_history]
    exact List.filter_sublist
  apply (List.perm_ext_iff_of_nodup _ (hnodup.sublist List.filter_sublist)).mpr
  · intro r
    simp only [List.mem_append, mem_pending, List.mem_filter, mem_history, beq_iff_eq,
      TransferRecord.party]
    constructor
    · rintro (⟨hmem, rfl, hs⟩ | ⟨hmem, rfl, hs⟩)
      · exact ⟨⟨hmem, .inl rfl⟩, hs⟩
      · exact ⟨⟨hmem, .inr rfl⟩, hs⟩
    · rintro ⟨⟨hmem, hp | hq⟩, hs⟩
      · exact .inl ⟨hmem, hp, hs⟩
      · exact .inr ⟨hmem, hq, hs⟩
  · exact List.nodup_append.mpr ⟨(hnodup.sublist (hsub .payer)), hnodup.sublist (hsub .payee),
      fun r hr r' hr' heq => pending_disjoint hl hr (heq ▸ hr')⟩

end Ledger

/-- On every ledger a run from the empty ledger reaches, and for every account: the stored
transfers carry increasing ids in the order they were stored; the account's history holds
exactly the stored transfers it pays or receives, each once, newest first, in strictly decreasing
id; each pending list is the history's subsequence of pending transfers in which the account
takes the role; and the two pending lists share no transfer and together hold exactly the pending
transfers of the history. -/
theorem history_lists_newest_first (ops : List Operation) (a : AccountId) :
    let l := (Ledger.empty.runOps ops).2
    l.transfers.Pairwise (fun r r' => r.id.val < r'.id.val) ∧
      (∀ r, r ∈ l.history a ↔ r ∈ l.transfers ∧ (r.payer = a ∨ r.payee = a)) ∧
      (l.history a).Nodup ∧
      (l.history a).Pairwise (fun r r' => r'.id.val < r.id.val) ∧
      (∀ role, l.pending a role =
        (l.history a).filter fun r => r.party role == a && r.status == .pending) ∧
      (∀ r ∈ l.pending a .payer, r ∉ l.pending a .payee) ∧
      (l.pending a .payer ++ l.pending a .payee).Perm
        ((l.history a).filter (·.status == .pending)) := by
  intro l
  have hl : l.Logged := Ledger.logged_empty.runOps ops
  exact ⟨hl.numbered.transfers_sorted, fun _ => Ledger.mem_history,
    Ledger.history_nodup hl.numbered a, Ledger.history_sorted hl.numbered a,
    Ledger.pending_eq_filter_history l a, fun _ hr => Ledger.pending_disjoint hl hr,
    Ledger.pending_perm hl a⟩

end Remit
