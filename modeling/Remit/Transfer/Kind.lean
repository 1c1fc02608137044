/-!
# Kinds of transfer, statuses, decisions and roles

A transfer is a send, which is settled the moment it is made, or a request, which
waits for its payer. Its status is pending until a decision approves or rejects it;
approved and rejected are final. Each kind and status has a small numeric id, the
form in which the ledger stores it.

The main statements: `Status.ofId?_id` and `Kind.ofId?_id` (ids read back), and
`Status.isTerminal_iff` (only pending is not final).
-/

set_option autoImplicit false

namespace Remit

/-- Whether a transfer was sent by its payer or requested by its payee
(`src/src/domain/props.rs:60-65`). -/
inductive Kind where
  | request
  | send
  deriving DecidableEq, Repr, Inhabited

/-- Where a transfer stands (`src/src/domain/props.rs:84-89`). -/
inductive Status where
  | pending
  | approved
  | rejected
  deriving DecidableEq, Repr, Inhabited

/-- A payer's answer to a request (`src/src/domain/props.rs:115-120`). -/
inductive Decision where
  | approve
  | reject
  deriving DecidableEq, Repr, Inhabited

/-- The side an account takes in a transfer: the payer's money leaves, the payee's
arrives (`src/src/domain/props.rs:131-136`). -/
inductive Role where
  | payer
  | payee
  deriving DecidableEq, Repr, Inhabited

namespace Kind

/-- The stored id: a request is 1, a send 2 (`src/src/domain/props.rs:68-73`). -/
def id : Kind → Int
  | .request => 1
  | .send => 2

/-- The kind stored under an id (`src/src/domain/props.rs:75-81`). -/
def ofId? (n : Int) : Option Kind :=
  if n = 1 then some .request else if n = 2 then some .send else none

/-- The printed name. -/
def name : Kind → String
  | .request => "Request"
  | .send => "Send"

/-- The kind printed under a name. -/
def ofName? (s : String) : Option Kind :=
  if s = "Request" then some .request else if s = "Send" then some .send else none

/-- Every kind is read back from its stored id. -/
theorem ofId?_id (k : Kind) : ofId? k.id = some k := by
  cases k <;> rfl

/-- Every kind is read back from its printed name. -/
theorem ofName?_name (k : Kind) : ofName? k.name = some k := by
  cases k <;> rfl

end Kind

namespace Status

/-- The stored id: pending is 1, approved 2, rejected 3 (`src/src/domain/props.rs:92-98`). -/
def id : Status → Int
  | .pending => 1
  | .approved => 2
  | .rejected => 3

/-- The status stored under an id (`src/src/domain/props.rs:100-107`). -/
def ofId? (n : Int) : Option Status :=
  if n = 1 then some .pending
  else if n = 2 then some .approved
  else if n = 3 then some .rejected
  else none

/-- The printed name. -/
def name : Status → String
  | .pending => "Pending"
  | .approved => "Approved"
  | .rejected => "Rejected"

/-- The status printed under a name. -/
def ofName? (s : String) : Option Status :=
  if s = "Pending" then some .pending
  else if s = "Approved" then some .approved
  else if s = "Rejected" then some .rejected
  else none

/-- Whether no decision can change the status any more (`src/src/domain/props.rs:109-112`). -/
def isTerminal : Status → Bool
  | .pending => false
  | _ => true

/-- Every status is read back from its stored id. -/
theorem ofId?_id (s : Status) : ofId? s.id = some s := by
  cases s <;> rfl

/-- Every status is read back from its printed name. -/
theorem ofName?_name (s : Status) : ofName? s.name = some s := by
  cases s <;> rfl

/-- The final statuses are exactly those other than pending. -/
theorem isTerminal_iff (s : Status) : s.isTerminal = true ↔ s ≠ .pending := by
  cases s <;> simp [isTerminal]

end Status

namespace Decision

/-- The printed name. -/
def name : Decision → String
  | .approve => "Approve"
  | .reject => "Reject"

/-- The decision printed under a name. -/
def ofName? (s : String) : Option Decision :=
  if s = "Approve" then some .approve else if s = "Reject" then some .reject else none

/-- The status a decision moves a pending transfer to (`src/src/domain/props.rs:123-128`). -/
def target : Decision → Status
  | .approve => .approved
  | .reject => .rejected

/-- Every decision is read back from its printed name. -/
theorem ofName?_name (d : Decision) : ofName? d.name = some d := by
  cases d <;> rfl

/-- Every decision leads to a final status. -/
theorem target_isTerminal (d : Decision) : d.target.isTerminal = true := by
  cases d <;> rfl

end Decision

namespace Role

/-- The printed name. -/
def name : Role → String
  | .payer => "Payer"
  | .payee => "Payee"

/-- The role printed under a name. -/
def ofName? (s : String) : Option Role :=
  if s = "Payer" then some .payer else if s = "Payee" then some .payee else none

/-- Every role is read back from its printed name. -/
theorem ofName?_name (r : Role) : ofName? r.name = some r := by
  cases r <;> rfl

end Role

end Remit
