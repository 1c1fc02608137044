import Remit.Ledger.Basic

/-!
# The balance report

The closing report lists every account, in the order of account ids, as comma separated
lines `account,user,balance` under a header line of those three words. The header is
written with the first account, so a ledger without accounts reports nothing.

The main statements: `report_eq_empty_iff` (the report is empty exactly when there is no
account) and `report_lines` (one line per account after the header).
-/

set_option autoImplicit false

namespace Remit

namespace Ledger

/-- The header line of the report (`src/src/query/account.rs:12-20`). -/
def reportHeader : String := "account,user,balance\n"

/-- The report line of one account (`src/src/query/account.rs:34-40`). -/
def reportLine (a : Account) : String :=
  toString a.id ++ "," ++ toString a.user ++ "," ++ (Decimal.ofCents a.balance).render ++ "\n"

/-- The report of the ledger's accounts (`src/src/query/account.rs:26-43`). -/
def report (l : Ledger) : String :=
  match l.accounts with
  | [] => ""
  | as => reportHeader ++ String.join (as.map reportLine)

/-- The report is empty exactly when the ledger has no account: the header comes with the
first account. -/
theorem report_eq_empty_iff (l : Ledger) : l.report = "" ↔ l.accounts = [] := by
  unfold report
  split
  · next h => simp [h]
  · next h =>
    -- the header alone is text, so the report of some account is not empty
    have hheader : reportHeader ++ String.join (l.accounts.map reportLine) ≠ "" := by
      intro he
      have hlen := congrArg String.length he
      simp [reportHeader, String.length_append] at hlen
    exact ⟨fun he => absurd he hheader, fun hnil => absurd hnil h⟩

example : report empty = "" := rfl

/-- The report of a ledger with accounts is the header and one line per account, in order. -/
theorem report_lines (l : Ledger) (h : l.accounts ≠ []) :
    l.report = reportHeader ++ String.join (l.accounts.map reportLine) := by
  unfold report
  split
  · contradiction
  · rfl

end Ledger

end Remit
