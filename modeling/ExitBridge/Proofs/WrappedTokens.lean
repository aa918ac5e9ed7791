/-
  Registering wrapped tokens.

  * `register_eq_ok`, `register_eq_error`: a registration is refused exactly when the origin or the
    address is registered already.
  * `Records`: what a table says of the registrations made so far; `Records.register`: of one more.
  * `selectAsset_of_newWrappedToken`: a claim creates a token only for an origin without one.
-/
import Mathlib.Data.List.Nodup
import Mathlib.Tactic.Common
import ExitBridge.Ledger.Claim

namespace ExitBridge

namespace WrappedTokens

variable {H : NodeHasher} {w w' : WrappedTokens} {origin : TokenOrigin} {wrapped : Address}

theorem register_eq_ok (h : w.register H origin wrapped = .ok w') :
    w.resolve? H origin = none ∧ w.byAddress.contains wrapped = false ∧
      w' = ⟨w.bySalt.insert (origin.salt H) wrapped, w.byAddress.insert wrapped origin⟩ := by
  rw [register] at h
  split at h
  · cases h
  · rename_i free
    rw [Bool.or_eq_true, not_or, Bool.not_eq_true, Bool.not_eq_true] at free
    exact ⟨Std.HashMap.getElem?_eq_none_of_contains_eq_false free.1, free.2,
      (Except.ok.inj h).symm⟩

theorem exists_register (free : w.resolve? H origin = none)
    (free' : w.byAddress.contains wrapped = false) : ∃ w', w.register H origin wrapped = .ok w' := by
  have salt : w.bySalt.contains (origin.salt H) = false := by
    rw [Std.HashMap.contains_eq_isSome_getElem?, ← resolve?, free]
    rfl
  rw [register, salt, free']
  exact ⟨_, rfl⟩

theorem register_eq_error {e : LedgerError} (h : w.register H origin wrapped = .error e) :
    (w.resolve? H origin).isSome = true ∨ w.byAddress.contains wrapped = true := by
  rw [register] at h
  split at h
  · rename_i taken
    rw [Bool.or_eq_true] at taken
    exact taken.imp_left fun salt => by rwa [resolve?, Std.HashMap.isSome_getElem?_eq_contains]
  · cases h

end WrappedTokens

/-! ## The registrations made so far -/

/-- Where a new wrapped token natively lives. -/
def NewWrappedToken.origin (e : NewWrappedToken) : TokenOrigin :=
  ⟨e.originNetwork, e.originTokenAddress⟩

namespace WrappedTokens

/-- The table has these registrations and no others; no two of them have one salt, and no two one
    address. -/
structure Records (H : NodeHasher) (all : List NewWrappedToken) (w : WrappedTokens) : Prop where
  bySalt : ∀ salt token, w.bySalt[salt]? = some token ↔
    ∃ e ∈ all, e.origin.salt H = salt ∧ e.wrappedTokenAddress = token
  byAddress : ∀ token origin, w.origin? token = some origin ↔
    ∃ e ∈ all, e.wrappedTokenAddress = token ∧ e.origin = origin
  salts : (all.map fun e => e.origin.salt H).Nodup
  addresses : (all.map (·.wrappedTokenAddress)).Nodup
  size_bySalt : w.bySalt.size = all.length
  size : w.size = all.length

namespace Records

variable {H : NodeHasher} {all : List NewWrappedToken} {w w' : WrappedTokens} {e : NewWrappedToken}
  {origin : TokenOrigin} {token : Address}

theorem empty (H : NodeHasher) : WrappedTokens.empty.Records H [] where
  bySalt := by simp [WrappedTokens.empty]
  byAddress := by simp [WrappedTokens.empty, origin?]
  salts := List.nodup_nil
  addresses := List.nodup_nil
  size_bySalt := by simp [WrappedTokens.empty]
  size := by simp [WrappedTokens.empty, WrappedTokens.size]

theorem resolve? (h : w.Records H all) : w.resolve? H origin = some token ↔
    ∃ e ∈ all, e.origin.salt H = origin.salt H ∧ e.wrappedTokenAddress = token :=
  h.bySalt (origin.salt H) token

theorem salt_ne (h : w.Records H all) (free : w.resolve? H origin = none) :
    ∀ e ∈ all, e.origin.salt H ≠ origin.salt H := by
  intro e he same
  have taken := h.resolve?.2 ⟨e, he, same, rfl⟩
  rw [free] at taken
  cases taken

/-- The table is registered both ways: a token with an origin is the one that the origin has. -/
theorem resolve?_of_origin? (h : w.Records H all) (known : w.origin? token = some origin) :
    w.resolve? H origin = some token := by
  obtain ⟨e, he, address, rfl⟩ := (h.byAddress token origin).1 known
  exact h.resolve?.2 ⟨e, he, rfl, address⟩

theorem eq_of_address (h : w.Records H all) {e' : NewWrappedToken} (he : e ∈ all) (he' : e' ∈ all)
    (same : e.wrappedTokenAddress = e'.wrappedTokenAddress) : e = e' :=
  List.inj_on_of_nodup_map h.addresses he he' same

theorem register (h : w.Records H all)
    (registered : w.register H e.origin e.wrappedTokenAddress = .ok w') :
    w'.Records H (all ++ [e]) := by
  obtain ⟨freeSalt, freeAddress, rfl⟩ := register_eq_ok registered
  have newSalt := h.salt_ne freeSalt
  have unknown : w.origin? e.wrappedTokenAddress = none :=
    Std.HashMap.getElem?_eq_none_of_contains_eq_false freeAddress
  have newAddress : ∀ e' ∈ all, e'.wrappedTokenAddress ≠ e.wrappedTokenAddress := by
    intro e' he' same
    have taken := (h.byAddress _ _).2 ⟨e', he', same, rfl⟩
    rw [unknown] at taken
    cases taken
  refine ⟨fun salt token => ?_, fun token origin => ?_, ?_, ?_, ?_, ?_⟩
  · rw [Std.HashMap.getElem?_insert]
    simp only [List.mem_append, List.mem_singleton, or_and_right, exists_or, exists_eq_left,
      ← h.bySalt]
    by_cases same : e.origin.salt H = salt
    · have free : w.bySalt[salt]? = none := same ▸ freeSalt
      simp [same, free]
    · simp [same]
  · rw [origin?, Std.HashMap.getElem?_insert]
    simp only [List.mem_append, List.mem_singleton, or_and_right, exists_or, exists_eq_left,
      ← h.byAddress]
    by_cases same : e.wrappedTokenAddress = token
    · have free : w.origin? token = none := same ▸ unknown
      simp [same, free]
    · simp [same, origin?]
  · rw [List.map_append, List.nodup_append]
    refine ⟨h.salts, List.nodup_singleton _, ?_⟩
    simpa using newSalt
  · rw [List.map_append, List.nodup_append]
    refine ⟨h.addresses, List.nodup_singleton _, ?_⟩
    simpa using newAddress
  · have absent : e.origin.salt H ∉ w.bySalt := by
      rw [Std.HashMap.mem_iff_isSome_getElem?, ← WrappedTokens.resolve?, freeSalt]
      nofun
    rw [Std.HashMap.size_insert, if_neg absent, h.size_bySalt, List.length_append,
      List.length_singleton]
  · have absent : e.wrappedTokenAddress ∉ w.byAddress := by
      rw [Std.HashMap.mem_iff_isSome_getElem?, ← WrappedTokens.origin?, unknown]
      nofun
    rw [WrappedTokens.size, Std.HashMap.size_insert, if_neg absent, List.length_append,
      List.length_singleton]
    exact congrArg (· + 1) h.size

end Records

end WrappedTokens

/-! ## What a claim creates -/

/-- A claim creates a token only for an origin that has none; then its effects deploy the token
    first. -/
theorem selectAsset_of_newWrappedToken {D : Deployment} {w : WrappedTokens} {c : Claim}
    {token : Address} (h : (selectAsset D w c).newWrappedToken = some token) :
    w.resolve? D.hasher ⟨c.originNetwork, c.originAddress⟩ = none ∧
      (selectAsset D w c).effects =
        [.deployWrapped token c.metadata, .mintWrapped token c.destinationAddress c.amount] := by
  unfold selectAsset at h ⊢
  grind

end ExitBridge
