import Remit.Batch

/-!
# What one call does to the ledger

Every operation is a call made of reads and units of the store, and a unit writes the
whole of its change or nothing. `Call.Within R c` says what that gives for one call `c`:
started on any ledger, it leaves the ledger as it was when it fails, and as it was or as
one step related to it by `R` made it when it answers. For every operation the relation
is `Commits`, one unit of the store; for an operation that opens no account it is
`Writes`, and for the engine's commands and the session's acts `EngineWrites`, one of
the units the engine makes.

`Within` goes through the ways calls are put together: a read followed by any call
(`Within.bind_of_reads`), and a unit followed by a read that cannot fail
(`Within.bind_of_reads_ok`). The second is what the engine needs twice: a request reads
its transfer back after storing it, and a rejection after settling it, and both reads
find it (`findTransfer_of_create`, `findTransfer_of_settle`). With a read that could
fail there, a call could fail after its unit had written.

The main statements are `Operation.call_within`, `Operation.call_within_writes` and
`Operation.call_within_engine`, and `CommandRow.handle_within` for the rows of a command
file.
-/

set_option autoImplicit false

namespace Remit

/-- The ledger `l'` is what one unit of the store that opens no account made of `l`. -/
inductive Writes (l : Ledger) : Ledger → Prop
  | move {p q : AccountId} {m : Decimal} {l' : Ledger} : l.move p q m = .ok l' → Writes l l'
  | create {d : Draft} {t : TransferId} {l' : Ledger} : l.create d = .ok (t, l') → Writes l l'
  | recordSend {d : Draft} {r : TransferRecord} {l' : Ledger} :
      l.recordSend d = .ok (r, l') → Writes l l'
  | settle {t : TransferId} {s : Status} {l' : Ledger} : l.settle t s = .ok l' → Writes l l'
  | approve {t : TransferId} {r : TransferRecord} {l' : Ledger} :
      l.approve t = .ok (r, l') → Writes l l'

/-- The ledger `l'` is what one unit of the store made of `l`: an opening, or a write. -/
inductive Commits (l : Ledger) : Ledger → Prop
  | openAccount {u : UserId} {b : Decimal} {a : Account} {l' : Ledger} :
      l.openAccount u b = .ok (a, l') → Commits l l'
  | write {l' : Ledger} : Writes l l' → Commits l l'

/-- The ledger `l'` is what one of the engine's units did to `l`: a send recorded with its
money, a request stored pending, an approval with its money, or a rejection. -/
inductive EngineWrites (l : Ledger) : Ledger → Prop
  | send {p q : AccountId} {m : Decimal} {r : TransferRecord} {l' : Ledger} :
      l.recordSend (Draft.send p q m) = .ok (r, l') → EngineWrites l l'
  | request {p q : AccountId} {m : Decimal} {t : TransferId} {l' : Ledger} :
      l.create (Draft.request p q m) = .ok (t, l') → EngineWrites l l'
  | approve {t : TransferId} {r : TransferRecord} {l' : Ledger} :
      l.approve t = .ok (r, l') → EngineWrites l l'
  | reject {t : TransferId} {l' : Ledger} : l.settle t .rejected = .ok l' → EngineWrites l l'

/-- Every unit the engine makes is a write that opens no account. -/
theorem EngineWrites.writes {l l' : Ledger} (h : EngineWrites l l') : Writes l l' := by
  cases h with
  | send h => exact .recordSend h
  | request h => exact .create h
  | approve h => exact .approve h
  | reject h => exact .settle h

namespace Call

/-- Started on any ledger, the call leaves it as it was when it fails, and as it was or
as one step related to it by `R` made it when it answers. -/
structure Within {ε α : Type} (R : Ledger → Ledger → Prop) (c : Call ε α) : Prop where
  error : ∀ l e l', c.run l = .error e l' → l' = l
  ok : ∀ l a l', c.run l = .ok a l' → l' = l ∨ R l l'

/-- A call that only reads: it leaves every ledger as it found it. -/
abbrev Reads {ε α : Type} (c : Call ε α) : Prop := Within (fun _ _ => False) c

variable {ε ε' α β : Type} {R S : Ledger → Ledger → Prop}

/-- A unit that answers ran its store function to that answer and ledger. -/
theorem unit_run_ok {u : Ledger → Except Fault (α × Ledger)} {l l' : Ledger} {a : α}
    (h : (unit u).run l = .ok a l') : u l = .ok (a, l') := by
  rw [run_unit] at h
  split at h
  · cases h
    assumption
  · cases h

/-- A write that answers ran its store function to that ledger. -/
theorem write_run_ok {u : Ledger → Except Fault Ledger} {l l' : Ledger} {a : Unit}
    (h : (write u).run l = .ok a l') : u l = .ok l' := by
  rw [run_write] at h
  split at h
  · cases h
    assumption
  · cases h

/-- What a call leaves behind, whether it answered or failed. -/
theorem Within.after {c : Call ε α} (h : Within R c) (l : Ledger) :
    c.after l = l ∨ R l (c.after l) := by
  cases hc : c.run l with
  | ok a l' =>
    rw [after_of_run_ok hc]
    exact h.ok l a l' hc
  | error e l' =>
    rw [after_of_run_error hc]
    exact .inl (h.error l e l' hc)

/-- A call that keeps within a relation keeps within every weaker one. -/
theorem Within.mono {c : Call ε α} (h : Within R c) (hRS : ∀ l l', R l l' → S l l') :
    Within S c :=
  ⟨h.error, fun l a l' hc => (h.ok l a l' hc).imp_right (hRS l l')⟩

/-- A call that only answers keeps within every relation. -/
theorem within_pure (a : α) : Within R (pure a : Call ε α) := by
  constructor
  · intro l e l' h
    cases h
  · intro l b l' h
    cases h
    exact .inl rfl

/-- A call that only fails keeps within every relation. -/
theorem within_throw (e : ε) : Within R (throw e : Call ε α) := by
  constructor
  · intro l e' l' h
    cases h
    rfl
  · intro l b l' h
    cases h

/-- A read keeps within every relation: it never changes the ledger. -/
theorem within_read (r : Ledger → Except Fault α) : Within R (read r) := by
  constructor
  · intro l e l' h
    rw [run_read] at h
    split at h <;> cases h
    rfl
  · intro l a l' h
    rw [run_read] at h
    split at h <;> cases h
    exact .inl rfl

/-- A call that lifts a computed answer keeps within every relation. -/
theorem within_ofExcept (r : Except ε α) : Within R (MonadExcept.ofExcept r : Call ε α) := by
  cases r with
  | error e => exact within_throw e
  | ok a => exact within_pure a

/-- A unit keeps within every relation that holds of each ledger its store function makes. -/
theorem within_unit {u : Ledger → Except Fault (α × Ledger)}
    (hu : ∀ l a l', u l = .ok (a, l') → R l l') : Within R (unit u) := by
  constructor
  · intro l e l' h
    rw [run_unit] at h
    split at h <;> cases h
    rfl
  · intro l a l' h
    exact .inr (hu l a l' (unit_run_ok h))

/-- A write keeps within every relation that holds of each ledger its store function makes. -/
theorem within_write {u : Ledger → Except Fault Ledger} (hu : ∀ l l', u l = .ok l' → R l l') :
    Within R (write u) := by
  constructor
  · intro l e l' h
    rw [run_write] at h
    split at h <;> cases h
    rfl
  · intro l a l' h
    exact .inr (hu l l' (write_run_ok h))

/-- Mapping a call's answer keeps it within its relation. -/
theorem Within.map {c : Call ε α} (h : Within R c) (f : α → β) : Within R (f <$> c) := by
  constructor
  · intro l e l' hc
    cases hcl : c.run l with
    | ok a l₁ => simp [hcl] at hc
    | error e' l₁ =>
      simp only [run_map, hcl, EStateM.Result.error.injEq] at hc
      obtain ⟨-, rfl⟩ := hc
      exact h.error l e' _ hcl
  · intro l b l' hc
    cases hcl : c.run l with
    | ok a l₁ =>
      simp only [run_map, hcl, EStateM.Result.ok.injEq] at hc
      obtain ⟨-, rfl⟩ := hc
      exact h.ok l a _ hcl
    | error e' l₁ => simp [hcl] at hc

/-- Renaming a call's faults keeps it within its relation. -/
theorem Within.adaptExcept {c : Call ε α} (h : Within R c) (f : ε → ε') :
    Within R (EStateM.adaptExcept f c : Call ε' α) := by
  constructor
  · intro l e l' hc
    cases hcl : c.run l with
    | ok a l₁ => simp [hcl] at hc
    | error e' l₁ =>
      simp only [EStateM.run_adaptExcept, hcl, EStateM.Result.error.injEq] at hc
      obtain ⟨-, rfl⟩ := hc
      exact h.error l e' _ hcl
  · intro l b l' hc
    cases hcl : c.run l with
    | ok a l₁ =>
      simp only [EStateM.run_adaptExcept, hcl, EStateM.Result.ok.injEq] at hc
      obtain ⟨-, rfl⟩ := hc
      exact h.ok l a _ hcl
    | error e' l₁ => simp [hcl] at hc

/-- A read followed by a call does what the call does. -/
theorem Within.bind_of_reads {x : Call ε α} {f : α → Call ε β} (hx : Reads x)
    (hf : ∀ a, Within R (f a)) : Within R (x >>= f) := by
  constructor
  · intro l e l' h
    rw [EStateM.run_bind] at h
    cases hxl : x.run l with
    | ok a l₁ =>
      have hl : l₁ = l := (hx.ok l a l₁ hxl).resolve_right id
      simp only [hxl] at h
      rw [(hf a).error l₁ e l' h, hl]
    | error e' l₁ =>
      simp only [hxl] at h
      cases h
      exact hx.error l _ _ hxl
  · intro l b l' h
    rw [EStateM.run_bind] at h
    cases hxl : x.run l with
    | ok a l₁ =>
      have hl : l₁ = l := (hx.ok l a l₁ hxl).resolve_right id
      simp only [hxl] at h
      subst hl
      exact (hf a).ok l₁ b l' h
    | error e' l₁ =>
      simp only [hxl] at h
      cases h

/-- A call followed by a read that finds what it looks for after every answer of the
call does what the call does: the read can no longer fail once the call has written. -/
theorem Within.bind_of_reads_ok {x : Call ε α} {f : α → Call ε β} (hx : Within R x)
    (hf : ∀ a, Reads (f a)) (hok : ∀ l a l', x.run l = .ok a l' → ∃ b, (f a).run l' = .ok b l') :
    Within R (x >>= f) := by
  constructor
  · intro l e l' h
    rw [EStateM.run_bind] at h
    cases hxl : x.run l with
    | ok a l₁ =>
      obtain ⟨b, hb⟩ := hok l a l₁ hxl
      simp only [hxl, hb] at h
      cases h
    | error e' l₁ =>
      simp only [hxl] at h
      cases h
      exact hx.error l _ _ hxl
  · intro l b l' h
    rw [EStateM.run_bind] at h
    cases hxl : x.run l with
    | ok a l₁ =>
      simp only [hxl] at h
      have hl : l' = l₁ := ((hf a).ok l₁ b l' h).resolve_right id
      subst hl
      exact hx.ok l a _ hxl
    | error e' l₁ =>
      simp only [hxl] at h
      cases h

end Call

namespace Ledger

/-- Storing a new transfer is inserting its record, and answers the record's id. -/
theorem create_eq_ok {l l' : Ledger} {d : Draft} {t : TransferId} (h : l.create d = .ok (t, l')) :
    ∃ r, l.insert d = .ok (r, l') ∧ t = r.id := by
  simp only [create, bind, Except.bind] at h
  split at h
  · cases h
  · next p hp =>
    simp only [pure, Except.pure, Except.ok.injEq, Prod.mk.injEq] at h
    obtain ⟨rfl, rfl⟩ := h
    exact ⟨p.1, hp, rfl⟩

/-- A stored request is found under the id its storing gave. -/
theorem findTransfer_of_create {l l' : Ledger} {d : Draft} {t : TransferId}
    (h : l.create d = .ok (t, l')) : ∃ r, l'.findTransfer t = .ok r := by
  obtain ⟨r, hi, rfl⟩ := create_eq_ok h
  obtain ⟨-, ht, -⟩ := insert_transfers l l' d r hi
  cases hf : l'.findTransfer? r.id with
  | some r' => exact ⟨r', by simp [findTransfer, hf]⟩
  | none =>
    have hr := List.find?_eq_none.mp hf r (by simp [ht])
    simp at hr

/-- A settled transfer is still found under its id. -/
theorem findTransfer_of_settle {l l' : Ledger} {t : TransferId} {s : Status}
    (h : l.settle t s = .ok l') : ∃ r, l'.findTransfer t = .ok r := by
  obtain ⟨-, r, hr, -, rfl⟩ := settle_pending l l' t s h
  have hmem : r ∈ l.transfers := List.mem_of_find?_eq_some hr
  have hid : r.id = t := by simpa using List.find?_some hr
  cases hf : (l.restatus t s).findTransfer? t with
  | some r' => exact ⟨r', by simp [findTransfer, hf]⟩
  | none =>
    have hr' := List.find?_eq_none.mp hf { r with status := s }
      (List.mem_map.mpr ⟨r, hmem, by simp [hid]⟩)
    simp [hid] at hr'

end Ledger

namespace Engine

open Call

/-- Every commit of an event writes at most one of the engine's units. -/
theorem commit_within (t? : Option TransferId) (e : Event) :
    Within EngineWrites (commit t? e) := by
  match e, t? with
  | .sent p q a, none => exact within_unit fun l r l' h => .send h
  | .requested p q a, none =>
    refine (within_unit fun l t l' h => .request h).bind_of_reads_ok
      (fun t => within_read _) ?_
    intro l t l' h
    obtain ⟨r, hr⟩ := Ledger.findTransfer_of_create (unit_run_ok h)
    exact ⟨r, by simp [hr]⟩
  | .approved .., some t => exact within_unit fun l r l' h => .approve h
  | .rejected .., some t =>
    refine (within_write fun l l' h => .reject h).bind_of_reads_ok (fun _ => within_read _) ?_
    intro l _ l' h
    obtain ⟨r, hr⟩ := Ledger.findTransfer_of_settle (write_run_ok h)
    exact ⟨r, by simp [hr]⟩
  | .sent .., some _ => exact within_throw _
  | .requested .., some _ => exact within_throw _
  | .approved .., none => exact within_throw _
  | .rejected .., none => exact within_throw _

/-- A send writes at most one of the engine's units. -/
theorem send_within (caller payee : AccountId) (m : Decimal) :
    Within EngineWrites (send caller payee m) := by
  rw [send_eq]
  exact (within_ofExcept _).bind_of_reads fun e =>
    (within_read _).bind_of_reads fun _ => commit_within none e

/-- A request writes at most one of the engine's units. -/
theorem request_within (caller payer : AccountId) (m : Decimal) :
    Within EngineWrites (request caller payer m) := by
  rw [request_eq]
  exact (within_ofExcept _).bind_of_reads fun e =>
    (within_read _).bind_of_reads fun _ => commit_within none e

/-- A resolution writes at most one of the engine's units. -/
theorem resolve_within (caller : AccountId) (t : TransferId) (d : Decision) :
    Within EngineWrites (resolve caller t d) := by
  rw [resolve_eq]
  exact (within_read _).bind_of_reads fun _ =>
    (within_ofExcept _).bind_of_reads fun e => commit_within (some t) e

end Engine

namespace Member

open Call

/-- A member's send to a user writes at most one of the engine's units. -/
theorem sendTo_within (m : Member) (u : UserId) (amount : Decimal) :
    Within EngineWrites (m.sendTo u amount) :=
  (within_read _).bind_of_reads fun _ => Engine.send_within _ _ _

/-- A member's request from a user writes at most one of the engine's units. -/
theorem requestFrom_within (m : Member) (u : UserId) (amount : Decimal) :
    Within EngineWrites (m.requestFrom u amount) :=
  (within_read _).bind_of_reads fun _ => Engine.request_within _ _ _

/-- Every act of a session writes at most one of the engine's units. -/
theorem act_within (m : Member) (a : SessionAct) : Within EngineWrites (m.act a) := by
  cases a with
  | whoami => exact within_pure _
  | balance => exact (within_read _).map _
  | send u amount => exact (m.sendTo_within u amount).map _
  | request u amount => exact (m.requestFrom_within u amount).map _
  | approve t => exact (Engine.resolve_within _ t _).map _
  | reject t => exact (Engine.resolve_within _ t _).map _
  | history => simp only [act]; exact within_read _
  | pending r => simp only [act]; exact within_read _
  | transfer t => exact (within_read _).map _

end Member

namespace Operation

open Call

/-- Whether the operation opens an account. -/
def opens : Operation → Bool
  | .openAccount _ _ => true
  | _ => false

/-- The operations of someone who uses the engine: openings, the engine's commands, the
session's acts, and the reads. The other units of the store are the engine's own. -/
def viaEngine : Operation → Bool
  | .move _ _ _ | .create _ | .recordSend _ | .settle _ _ | .approve _ => false
  | _ => true

/-- Opening an account answers with the account, or fails and writes nothing. -/
theorem run_call_openAccount (u : UserId) (b : Decimal) (l : Ledger) :
    (openAccount u b).call.run l = match l.openAccount u b with
      | .ok (a, l') => .ok (.account a) l'
      | .error f => .error f l := by
  simp only [call, run_map, run_unit]
  cases l.openAccount u b <;> rfl

/-- An operation of someone who uses the engine that opens no account writes at most one
of the engine's units, and none when it fails. -/
theorem call_within_engine (op : Operation) (h : op.viaEngine = true) (ho : op.opens = false) :
    Within EngineWrites op.call := by
  cases op with
  | account a => exact (within_read _).map _
  | balance a => exact (within_read _).map _
  | accountOfUser u => exact (within_read _).map _
  | accounts => simp only [call]; exact within_read _
  | validate d => exact (within_read _).map _
  | transfer t => exact (within_read _).map _
  | history a => simp only [call]; exact within_read _
  | pending a r => simp only [call]; exact within_read _
  | report => simp only [call]; exact within_read _
  | send c q m => exact (Engine.send_within c q m).map _
  | request c p m => exact (Engine.request_within c p m).map _
  | resolve c t d => exact (Engine.resolve_within c t d).map _
  | details c t => exact (within_read _).map _
  | session u a => exact (within_read _).bind_of_reads fun m => m.act_within a
  | openAccount _ _ => simp [opens] at ho
  | move _ _ _ | create _ | recordSend _ | settle _ _ | approve _ => simp [viaEngine] at h

/-- An operation that opens no account writes at most one unit of the store, and none
when it fails. -/
theorem call_within_writes (op : Operation) (ho : op.opens = false) : Within Writes op.call := by
  cases op with
  | move p q m => exact (within_write fun l l' h => .move h).map _
  | create d => exact (within_unit fun l t l' h => .create h).map _
  | recordSend d => exact (within_unit fun l r l' h => .recordSend h).map _
  | settle t s => exact (within_write fun l l' h => .settle h).map _
  | approve t => exact (within_unit fun l r l' h => .approve h).map _
  | openAccount _ _ => simp [opens] at ho
  | _ => exact (call_within_engine _ rfl rfl).mono fun l l' h => h.writes

/-- Every operation commits at most one unit of the store, and none when it fails. -/
theorem call_within (op : Operation) : Within Commits op.call := by
  cases ho : op.opens with
  | false => exact (call_within_writes op ho).mono fun l l' h => .write h
  | true =>
    cases op with
    | openAccount u b => exact (within_unit fun l a l' h => .openAccount h).map _
    | _ => simp [opens] at ho

end Operation

namespace CommandRow

open Call

/-- A row of a command file commits at most one unit of the store, and none when it is
refused. -/
theorem handle_within (row : CommandRow) : Within Commits row.handle :=
  (within_ofExcept _).bind_of_reads fun op =>
    ((op.call_within).adaptExcept _).bind_of_reads_ok (fun _ => within_pure _)
      fun _ _ _ _ => ⟨(), rfl⟩

end CommandRow

end Remit
