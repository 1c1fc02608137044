/-!
# Identifiers

Accounts, users and transfers are named by signed 64-bit integers. Each kind of name
has its own type, so that an account id is never passed where a user id is meant; all
three print as their integer.
-/

set_option autoImplicit false

namespace Remit

/-- The name of an account, given by the ledger when the account is opened
(`src/src/domain/props.rs:14`). -/
structure AccountId where
  val : Int
  deriving DecidableEq, Repr, Inhabited

/-- The name of a user, chosen outside the ledger; a user holds at most one account
(`src/src/domain/props.rs:19`). -/
structure UserId where
  val : Int
  deriving DecidableEq, Repr, Inhabited

/-- The name of a transfer, given by the ledger when the transfer is stored
(`src/src/domain/props.rs:24`). -/
structure TransferId where
  val : Int
  deriving DecidableEq, Repr, Inhabited

instance : ToString AccountId := ⟨fun a => toString a.val⟩

instance : ToString UserId := ⟨fun u => toString u.val⟩

instance : ToString TransferId := ⟨fun t => toString t.val⟩

end Remit
