/-
  Registrations one after another.

  Registrations come in any order, of any origins and tokens, and some are refused. The table holds
  those that were taken, and goes both ways: the origin of a token leads back to the token, and the
  token of an origin to an origin with the same salt.

  * `WrappedTokens.registerEach`: registrations one after another, and their answers. `taken`: those
    that were not refused.
  * `registerOrKeep_of_free`, `registerOrKeep_of_taken`: one registration.
  * `Records.registerEach`: the table holds what was taken. `Records.kept`: and goes on to do so.
  * `registrations_two_way`: over all sequences of registrations.
-/
import ExitBridge.Proofs.WrappedTokens

namespace ExitBridge.WrappedTokens

/-- Registers a token: the answer, and the table afterwards. A refused registration leaves it as it
    is. -/
def registerOrKeep (H : NodeHasher) (w : WrappedTokens) (e : NewWrappedToken) :
    Except LedgerError Unit × WrappedTokens :=
  match w.register H e.origin e.wrappedTokenAddress with
  | .ok w' => (.ok (), w')
  | .error reason => (.error reason, w)

/-- Registers tokens one after another: the answers, and the table afterwards. -/
def registerEach (H : NodeHasher) : WrappedTokens → List NewWrappedToken →
    List (Except LedgerError Unit) × WrappedTokens
  | w, [] => ([], w)
  | w, e :: later =>
    let (answer, w) := w.registerOrKeep H e
    let (answers, w) := registerEach H w later
    (answer :: answers, w)

/-- The registrations that were not refused. -/
def taken (calls : List NewWrappedToken) (answers : List (Except LedgerError Unit)) :
    List NewWrappedToken :=
  ((calls.zip answers).filter (·.2.isOk)).map (·.1)

variable {H : NodeHasher} {w : WrappedTokens} {e : NewWrappedToken}
  {all calls more : List NewWrappedToken}

/-! ## One registration -/

theorem registerOrKeep_of_free (salt : w.resolve? H e.origin = none)
    (address : w.origin? e.wrappedTokenAddress = none) :
    ∃ w', w.register H e.origin e.wrappedTokenAddress = .ok w' ∧
      w.registerOrKeep H e = (.ok (), w') := by
  have free : w.byAddress.contains e.wrappedTokenAddress = false := by
    rw [Std.HashMap.contains_eq_isSome_getElem?, ← origin?, address]
    rfl
  obtain ⟨w', registered⟩ := exists_register salt free
  exact ⟨w', registered, by rw [registerOrKeep, registered]⟩

theorem registerOrKeep_of_taken
    (known : ¬(w.resolve? H e.origin = none ∧ w.origin? e.wrappedTokenAddress = none)) :
    w.registerOrKeep H e = (.error (.wrappedTokenAlreadyRegistered e.originNetwork), w) := by
  have clash : (w.bySalt.contains (e.origin.salt H) ||
      w.byAddress.contains e.wrappedTokenAddress) = true := by
    rw [Bool.or_eq_true, Std.HashMap.contains_eq_isSome_getElem?,
      Std.HashMap.contains_eq_isSome_getElem?, ← resolve?, ← origin?, ← Option.ne_none_iff_isSome,
      ← Option.ne_none_iff_isSome]
    exact not_and_or.1 known
  rw [registerOrKeep, WrappedTokens.register, if_pos clash]
  rfl

/-! ## Sequences -/

theorem length_answers (H : NodeHasher) (w : WrappedTokens) (calls : List NewWrappedToken) :
    (w.registerEach H calls).1.length = calls.length := by
  induction calls generalizing w with
  | nil => rfl
  | cons e calls ih => exact congrArg (· + 1) (ih _)

theorem length_taken {answers : List (Except LedgerError Unit)}
    (each : answers.length = calls.length) :
    (taken calls answers).length = answers.countP (·.isOk) := by
  have snd : (calls.zip answers).map (·.2) = answers := List.map_snd_zip (Nat.le_of_eq each)
  conv_rhs => rw [← snd, List.countP_map]
  rw [taken, List.length_map, ← List.countP_eq_length_filter]
  rfl

namespace Records

theorem registerOrKeep (h : w.Records H all) (e : NewWrappedToken) :
    (w.registerOrKeep H e).2.Records H (all ++ taken [e] [(w.registerOrKeep H e).1]) := by
  by_cases free : w.resolve? H e.origin = none ∧ w.origin? e.wrappedTokenAddress = none
  · obtain ⟨w', registered, answered⟩ := registerOrKeep_of_free free.1 free.2
    rw [answered]
    exact h.register registered
  · rw [registerOrKeep_of_taken free]
    rw [show taken [e] [.error _] = [] from rfl, List.append_nil]
    exact h

/-- **After any registrations** the table holds those that were taken. -/
theorem registerEach (h : w.Records H all) (calls : List NewWrappedToken) :
    (w.registerEach H calls).2.Records H (all ++ taken calls (w.registerEach H calls).1) := by
  induction calls generalizing w all with
  | nil => rwa [taken, List.zip_nil_left, List.filter_nil, List.map_nil, List.append_nil]
  | cons e calls ih =>
    have next := ih (h.registerOrKeep e)
    have first (answer : Except LedgerError Unit) (answers : List (Except LedgerError Unit)) :
        taken (e :: calls) (answer :: answers) = taken [e] [answer] ++ taken calls answers := by
      rw [taken, List.zip_cons_cons, ← List.singleton_append, List.filter_append, List.map_append]
      rfl
    rw [WrappedTokens.registerEach, first, ← List.append_assoc]
    exact next

theorem kept (h : w.Records H all) (more : List NewWrappedToken) :
    (∀ origin token, w.resolve? H origin = some token →
      (w.registerEach H more).2.resolve? H origin = some token) ∧
    ∀ token origin, w.origin? token = some origin →
      (w.registerEach H more).2.origin? token = some origin := by
  have later := h.registerEach more
  constructor
  · intro origin token known
    obtain ⟨e, he, same⟩ := h.resolve?.1 known
    exact later.resolve?.2 ⟨e, List.mem_append_left _ he, same⟩
  · intro token origin known
    obtain ⟨e, he, same⟩ := (h.byAddress token origin).1 known
    exact (later.byAddress token origin).2 ⟨e, List.mem_append_left _ he, same⟩

/-- The token of an origin has an origin, with the same salt. -/
theorem exists_origin? (h : w.Records H all) {origin : TokenOrigin} {token : Address}
    (known : w.resolve? H origin = some token) :
    ∃ origin', w.origin? token = some origin' ∧ origin'.salt H = origin.salt H := by
  obtain ⟨e, he, salt, address⟩ := h.resolve?.1 known
  exact ⟨e.origin, (h.byAddress token e.origin).2 ⟨e, he, address, rfl⟩, salt⟩

end Records

/-- **The table goes both ways.** After any registrations, another one is taken exactly if neither
    the salt of its origin nor its token is in the table; otherwise it is refused and nothing
    changes. The origin of a token leads back to the token, and the token of an origin to an origin
    with the same salt, so that no token stands for two salts. The table holds what was taken and
    nothing else, as many tokens as there were such registrations, and nothing leaves it or changes
    by whatever is registered later. -/
theorem registrations_two_way (H : NodeHasher) (calls : List NewWrappedToken) :
    let (answers, w) := empty.registerEach H calls
    (∀ e : NewWrappedToken,
      ((w.registerOrKeep H e).1 = .ok () ↔
        w.resolve? H e.origin = none ∧ w.origin? e.wrappedTokenAddress = none) ∧
      ((w.registerOrKeep H e).1 ≠ .ok () → w.registerOrKeep H e =
        (.error (.wrappedTokenAlreadyRegistered e.originNetwork), w))) ∧
    (∀ token origin, w.origin? token = some origin → w.resolve? H origin = some token) ∧
    (∀ origin token, w.resolve? H origin = some token →
      ∃ origin', w.origin? token = some origin' ∧ origin'.salt H = origin.salt H) ∧
    (∀ origin origin' token, w.resolve? H origin = some token →
      w.resolve? H origin' = some token → origin.salt H = origin'.salt H) ∧
    (∀ token origin, w.origin? token = some origin ↔
      ∃ e ∈ taken calls answers, e.wrappedTokenAddress = token ∧ e.origin = origin) ∧
    (∀ more : List NewWrappedToken,
      (∀ origin token, w.resolve? H origin = some token →
        (w.registerEach H more).2.resolve? H origin = some token) ∧
      ∀ token origin, w.origin? token = some origin →
        (w.registerEach H more).2.origin? token = some origin) ∧
    w.size = answers.countP (·.isOk) := by
  have records := (Records.empty H).registerEach calls
  have each := length_answers H empty calls
  generalize empty.registerEach H calls = result at records each ⊢
  obtain ⟨answers, w⟩ := result
  simp only [List.nil_append] at records each
  refine ⟨fun e => ?_, fun token origin => records.resolve?_of_origin?,
    fun origin token => records.exists_origin?, fun origin origin' token known known' => ?_,
    records.byAddress, records.kept, records.size.trans (length_taken each)⟩
  · by_cases free : w.resolve? H e.origin = none ∧ w.origin? e.wrappedTokenAddress = none
    · obtain ⟨w', -, answered⟩ := registerOrKeep_of_free free.1 free.2
      rw [answered]
      exact ⟨iff_of_true rfl free, fun refused => absurd rfl refused⟩
    · rw [registerOrKeep_of_taken free]
      exact ⟨iff_of_false nofun free, fun _ => rfl⟩
  · obtain ⟨first, known, salt⟩ := records.exists_origin? known
    obtain ⟨second, known', salt'⟩ := records.exists_origin? known'
    obtain rfl := Option.some.inj (known.symm.trans known')
    exact salt.symm.trans salt'

end ExitBridge.WrappedTokens
