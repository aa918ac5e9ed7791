/-
  Replicas agree with the authority under any delivery.

  A replica is handed pages of the authority's journal, old or new, again and again, in any order,
  while the authority goes on. What it then knows depends on the set of the events it was handed
  only, and the authority knows it with the same timestamp.

  * `Delivers`: the rule for one replica; all other ledgers may be called in any way.
  * `DeliveredTo`, `AnnouncedIn`: the events that were handed over, and those there were.
  * `Run.mem_ledgersOf`: the ledgers of a session are those of the run.
  * `replica_agrees_with_authority`: over all such runs.
-/
import ExitBridge.Proofs.Session.Lessons

namespace ExitBridge

/-! ## The rule -/

/-- The network's ledger is handed pages of the mainnet's journal, as it is or once was, and no
    global exit root otherwise. -/
def Delivers (mainnet n : UInt32) (states : List Federation) (called : UInt32) : Call → Prop
  | .importGlobalExitRoot _ _ => called ≠ n
  | .ingestPeerEvents batch => called = n → ∃ g ∈ states, ∃ A start limit, g mainnet = some A ∧
      A.ledger.journal.since start limit = .ok batch
  | _ => True

/-- The mainnet's journal tells of the event at some moment. -/
def AnnouncedIn (mainnet : UInt32) (states : List Federation) (e : L1InfoTreeUpdate) : Prop :=
  ∃ g ∈ states, ∃ A, g mainnet = some A ∧ .updateL1InfoTree e ∈ A.ledger.journal.events

section

variable {σ : Type}

/-- The network's ledger has been handed the event. -/
def DeliveredTo (past : List (Moment σ)) (n : UInt32) (e : L1InfoTreeUpdate) : Prop :=
  ∃ m ∈ past, m.network = n ∧ ∃ batch, m.call = .ingestPeerEvents batch ∧
    .updateL1InfoTree e ∈ batch.entries.map (·.event)

/-- The global exit root that the event tells of. -/
def L1InfoTreeUpdate.hash (H : NodeHasher) (e : L1InfoTreeUpdate) : Digest :=
  GlobalExitRoot.hash H ⟨e.mainnetExitRoot, e.rollupExitRoot⟩

theorem mem_stepsOf {past : List (Moment σ)} {n : UInt32} {s : Step σ} :
    s ∈ stepsOf past n ↔ ∃ m ∈ past, m.network = n ∧ m.step = s := by
  simp [stepsOf, List.mem_filterMap]

variable [ExecutionHost σ] {H : NodeHasher} {mainnet n : UInt32}
  {rule rule' : List Federation → UInt32 → Call → Prop} {past : List (Moment σ)} {f g : Federation}
  {A R M : Member}

/-! ## Runs and sessions -/

theorem Run.mono (h : Run H mainnet rule past f)
    (le : ∀ states n call, rule states n call → rule' states n call) :
    Run H mainnet rule' past f := by
  induction h with
  | start genesis => exact .start genesis
  | step m run called allowed ih => exact .step m ih called (le _ _ _ allowed)

theorem Run.mem_ledgersOf (run : Run H mainnet rule past f) (hM : f n = some M) {host : σ}
    {l : Ledger} : l ∈ ledgersOf (stepsOf past n) ⟨M.ledger, host⟩ ↔
      ∃ g ∈ statesOf past f, ∃ M₀, g n = some M₀ ∧ M₀.ledger = l := by
  induction run generalizing M host with
  | start genesis => simp [ledgersOf, stepsOf, statesOf, hM, eq_comm]
  | @step past m run called allowed ih =>
    have states : (∃ g ∈ statesOf (past ++ [m]) m.result, ∃ M₀, g n = some M₀ ∧ M₀.ledger = l) ↔
        (∃ g ∈ statesOf past m.before, ∃ M₀, g n = some M₀ ∧ M₀.ledger = l) ∨ l = M.ledger := by
      simp [mem_statesOf_snoc, or_and_right, exists_or, hM, eq_comm]
    rw [states, stepsOf_snoc]
    rw [Moment.result] at hM
    by_cases hn : n = m.network
    · subst hn
      have before : l ∈ ledgersOf (stepsOf past m.network) ⟨m.member.ledger, host⟩ ↔ _ := ih called
      rw [ledgersOf] at before
      rw [if_pos rfl, Option.toList_some, ledgersOf, List.map_append, List.mem_append]
      exact or_congr before List.mem_singleton
    · rw [if_neg hn] at hM
      rw [if_neg (Ne.symm hn), Option.toList_none, List.append_nil, ih hM]
      constructor
      · exact .inl
      · rintro (old | rfl)
        · exact old
        · exact ⟨_, mem_statesOf_self _ _, M, hM, rfl⟩

/-- What every move keeps holds between the ledger of a network at any moment and its ledger now. -/
theorem Run.kept_of_mem_statesOf {P : Ledger → Ledger → Prop} (run : Run H mainnet rule past f)
    (hg : g ∈ statesOf past f) (hM : g n = some M) (hR : f n = some R) (refl : ∀ l, P l l)
    (trans : ∀ {l l₁ l'}, P l l₁ → P l₁ l' → P l l')
    (move : ∀ {l m l'}, l.Moves R.deployment m l' → P l l') : P M.ledger R.ledger := by
  obtain ⟨host, session⟩ := run.session hR
  exact session.of_mem_ledgersOf refl trans move ((run.mem_ledgersOf hR).2 ⟨g, hg, M, hM, rfl⟩)

/-! ## Deliveries -/

theorem Run.announced_of_delivered (run : Run H mainnet (Delivers mainnet n) past f)
    {e : L1InfoTreeUpdate} (h : DeliveredTo past n e) :
    AnnouncedIn mainnet (statesOf past f) e := by
  obtain ⟨m, hm, called, batch, hcall, hmem⟩ := h
  obtain ⟨earlier, later, rfl⟩ := List.append_of_mem hm
  obtain ⟨-, -, allowed⟩ := run.cut rfl
  rw [hcall] at allowed
  obtain ⟨g, hg, A, start, limit, hA, hsince⟩ := allowed called
  exact ⟨g, mem_statesOf_of_cut hg, A, hA, Journal.mem_of_since hsince hmem⟩

/-- What was delivered is all that the calls have taught. -/
theorem Run.mem_taughtBy (run : Run H mainnet (Delivers mainnet n) past f) {p : Lesson} :
    p ∈ taughtBy (stepsOf past n) ↔ ∃ e, DeliveredTo past n e ∧ e.lesson = p := by
  rw [taughtBy, List.mem_flatMap]
  constructor
  · rintro ⟨s, hs, hp⟩
    obtain ⟨m, hm, called, rfl⟩ := mem_stepsOf.1 hs
    obtain ⟨earlier, later, rfl⟩ := List.append_of_mem hm
    obtain ⟨-, -, allowed⟩ := run.cut rfl
    change p ∈ m.call.lessons at hp
    cases hcall : m.call with
    | importGlobalExitRoot roots timestamp =>
      rw [hcall] at allowed
      exact absurd called allowed
    | ingestPeerEvents batch =>
      rw [hcall] at hp
      obtain ⟨e, hmem, rfl⟩ := mem_lessonsOf.1 hp
      exact ⟨e, ⟨m, hm, called, batch, hcall, hmem⟩, rfl⟩
    | _ =>
      rw [hcall] at hp
      cases hp
  · rintro ⟨e, ⟨m, hm, called, batch, hcall, hmem⟩, rfl⟩
    refine ⟨m.step, mem_stepsOf.2 ⟨m, hm, called, rfl⟩, ?_⟩
    change e.lesson ∈ m.call.lessons
    rw [hcall]
    exact mem_lessonsOf.2 ⟨e, hmem, rfl⟩

/-! ## The authority -/

/-- What was announced at any moment, the authority has recorded with its timestamp. -/
theorem Run.timestamp_of_announced (run : Run H mainnet rule past f) (hA : f mainnet = some A)
    {e : L1InfoTreeUpdate} (h : AnnouncedIn mainnet (statesOf past f) e) :
    A.ledger.roots.timestamp? (e.hash H) = some e.timestamp := by
  obtain ⟨g, hg, A₀, hA₀, told⟩ := h
  obtain ⟨earlier, -, run₀, -⟩ := run.of_mem_statesOf hg
  obtain ⟨host, session⟩ := run₀.session hA₀
  obtain ⟨news, announcing⟩ := session.exists_announcing
  obtain ⟨n, hn, rfl⟩ := announcing.told e told
  have records := announcing.records
  rw [(run₀.invariant hA₀).hasher] at records
  have recorded := records.record? hn
  have kept := run.kept_of_mem_statesOf (P := fun l l' => ∀ d record,
      l.roots.record? d = some record → l'.roots.record? d = some record) hg hA₀ hA
    (fun _ _ _ h => h) (fun h h' d record old => h' d record (h d record old))
    (fun moved _ _ old => moved.record?_eq_some old)
  rw [recorded.2]
  exact RootStore.timestamp?_of_record? (kept _ _ recorded.1)

/-- What the authority knows was announced at some moment. -/
theorem Run.announced_of_isKnown (run : Run H mainnet rule past f) (hA : f mainnet = some A)
    {d : Digest} (known : A.ledger.roots.isKnown d = true) :
    ∃ e, AnnouncedIn mainnet (statesOf past f) e ∧ e.hash H = d := by
  obtain ⟨host, session⟩ := run.session hA
  obtain ⟨news, announcing⟩ := session.exists_announcing
  have invariant := run.invariant hA
  have records := announcing.records
  rw [invariant.hasher] at records
  have role := invariant.isAuthority_roots
  rw [beq_self_eq_true] at role
  obtain ⟨n, hn, rfl⟩ := (records.isKnown role d).1 known
  obtain ⟨l, hl, told⟩ := announcing.seen n hn
  obtain ⟨g, hg, A₀, hA₀, rfl⟩ := (run.mem_ledgersOf hA).1 hl
  exact ⟨n.update, ⟨g, hg, A₀, hA₀, told⟩, rfl⟩

/-! ## The replica -/

theorem Run.isAuthority_of_other (run : Run H mainnet rule past f) (hR : f n = some R)
    (other : n ≠ mainnet) : R.ledger.roots.isAuthority = false := by
  rw [(run.invariant hR).isAuthority_roots]
  exact beq_eq_false_iff_ne.2 other

theorem Run.learned (run : Run H mainnet rule past f) (hR : f n = some R) (other : n ≠ mainnet) :
    R.ledger.roots.Learned H (taughtBy (stepsOf past n)) := by
  obtain ⟨host, session⟩ := run.session hR
  have learned := session.learned (run.isAuthority_of_other hR other)
  rwa [(run.invariant hR).hasher] at learned

/-- A replica takes in every page that it is handed, counts the global exit roots that are new, and
    knows those that the page tells of. -/
theorem Run.ingested (run : Run H mainnet rule past f) (other : n ≠ mainnet) {m : Moment σ}
    (hm : m ∈ past) (called : m.network = n) {batch : EventBatch}
    (hcall : m.call = .ingestPeerEvents batch) :
    ∃ count, m.answer = .ok (.learned count) ∧
      m.after.roots.knownCount = m.member.ledger.roots.knownCount + count ∧
      ∀ d, m.after.roots.isKnown d = true ↔ m.member.ledger.roots.isKnown d = true ∨
        ∃ e, .updateL1InfoTree e ∈ batch.entries.map (·.event) ∧ e.hash H = d := by
  subst called
  obtain ⟨earlier, later, rfl⟩ := List.append_of_mem hm
  obtain ⟨run, hM, -⟩ := run.cut rfl
  have replica := run.isAuthority_of_other hM other
  have before := run.learned hM other
  have lessons : m.step.call.lessons = lessonsOf (batch.entries.map (·.event)) := by
    rw [Moment.step, hcall]
    rfl
  have after : m.after.roots.Learned H
      (taughtBy (stepsOf earlier m.network) ++ lessonsOf (batch.entries.map (·.event))) := by
    rw [← (run.invariant hM).hasher, ← lessons, ← m.ledger_after_step]
    rw [← (run.invariant hM).hasher] at before
    exact Step.learned before
  obtain ⟨count, s', hrun, counted⟩ := Call.exists_ingest (D := m.member.deployment)
    (s := ⟨m.member.ledger, m.host⟩) batch replica
  rw [← hcall] at hrun
  refine ⟨count, by rw [Moment.answer, hrun], ?_, fun d => ?_⟩
  · rw [Moment.after, hrun]
    exact counted
  · rw [after.isKnown, before.isKnown]
    simp only [List.mem_append, or_and_right, exists_or, mem_lessonsOf]
    refine or_congr_right ⟨?_, ?_⟩
    · rintro ⟨_, ⟨e, hmem, rfl⟩, rfl⟩
      exact ⟨e, hmem, rfl⟩
    · rintro ⟨e, hmem, rfl⟩
      exact ⟨_, ⟨e, hmem, rfl⟩, rfl⟩

/-- **Replicas agree with the authority under any delivery.** In any run in which a replica is
    handed pages of the authority's journal only: what the replica knows, the authority knows with
    the same timestamp. It is what the events tell of that were delivered, whatever their order and
    however often they came. Each page is taken in, and the answer is the number of global exit
    roots that were new. When all events that there were have been delivered, both know the same. -/
theorem replica_agrees_with_authority (run : Run H mainnet (Delivers mainnet n) past f)
    (other : n ≠ mainnet) (hA : f mainnet = some A) (hR : f n = some R) :
    (∀ d, R.ledger.roots.isKnown d = true → A.ledger.roots.isKnown d = true ∧
      ∃ t, R.ledger.roots.timestamp? d = some t ∧ A.ledger.roots.timestamp? d = some t) ∧
    (∀ d, R.ledger.roots.isKnown d = true ↔ ∃ e, DeliveredTo past n e ∧ e.hash H = d) ∧
    (∀ m ∈ past, m.network = n → ∀ batch, m.call = .ingestPeerEvents batch →
      ∃ count, m.answer = .ok (.learned count) ∧
        m.after.roots.knownCount = m.member.ledger.roots.knownCount + count ∧
        ∀ d, m.after.roots.isKnown d = true ↔ m.member.ledger.roots.isKnown d = true ∨
          ∃ e, .updateL1InfoTree e ∈ batch.entries.map (·.event) ∧ e.hash H = d) ∧
    ((∀ e, AnnouncedIn mainnet (statesOf past f) e → DeliveredTo past n e) →
      ∀ d, R.ledger.roots.isKnown d = A.ledger.roots.isKnown d) := by
  have learned := run.learned hR other
  have delivered (d : Digest) :
      R.ledger.roots.isKnown d = true ↔ ∃ e, DeliveredTo past n e ∧ e.hash H = d := by
    rw [learned.isKnown]
    simp only [run.mem_taughtBy]
    constructor
    · rintro ⟨_, ⟨e, he, rfl⟩, rfl⟩
      exact ⟨e, he, rfl⟩
    · rintro ⟨e, he, rfl⟩
      exact ⟨_, ⟨e, he, rfl⟩, rfl⟩
  have agrees (d : Digest) (known : R.ledger.roots.isKnown d = true) :
      A.ledger.roots.isKnown d = true ∧
        ∃ t, R.ledger.roots.timestamp? d = some t ∧ A.ledger.roots.timestamp? d = some t := by
    obtain ⟨t, ht⟩ := (RootStore.isKnown_iff_timestamp _ d).1 known
    obtain ⟨p, hp, rfl, rfl⟩ := learned.timestamp ht
    obtain ⟨e, he, rfl⟩ := run.mem_taughtBy.1 hp
    have dated := run.timestamp_of_announced hA (run.announced_of_delivered he)
    exact ⟨(RootStore.isKnown_iff_timestamp _ _).2 ⟨_, dated⟩, _, ht, dated⟩
  refine ⟨agrees, delivered, fun m hm called batch hcall => run.ingested other hm called hcall,
    fun complete d => Bool.eq_iff_iff.2 ⟨fun known => (agrees d known).1, fun known => ?_⟩⟩
  obtain ⟨e, announced, rfl⟩ := run.announced_of_isKnown hA known
  exact (delivered _).2 ⟨e, complete e announced, rfl⟩

end

/-! ## A first delivery -/

theorem Journal.exists_since (j : Journal) : ∃ batch,
    j.since j.oldest j.events.size = .ok batch ∧
      batch.entries.map (·.event) = j.events.toList := by
  have reached : ¬j.head < j.oldest := Nat.not_lt.2 (Nat.le_add_right _ _)
  rw [since, if_neg reached, if_neg (Nat.lt_irrefl _)]
  refine ⟨_, rfl, ?_⟩
  have whole : j.events.toList.take j.events.size = j.events.toList :=
    List.take_of_length_le (Nat.le_of_eq Array.length_toList)
  simp [whole, Function.comp_def]

/-- Who is handed pages only of the mainnet's journal learns by delivery. -/
theorem Follows.delivers {mainnet n called : UInt32} {states : List Federation} {call : Call}
    (h : Follows mainnet states called call) (other : n ≠ mainnet) :
    Delivers mainnet n states called call := by
  cases call with
  | importGlobalExitRoot roots timestamp => exact fun same => other (same.symm.trans h)
  | ingestPeerEvents batch =>
    exact fun same => h.resolve_left fun mainnet => other (same.symm.trans mainnet)
  | _ => trivial

/-- Network 1 is handed the journal of network 0, and then knows what network 0 knows. -/
theorem replica_agrees_with_authority_first :
    ∃ (past : List (Moment Host)) (f : Federation) (A R : Member) (d : Digest),
      Run .keccak 0 (Delivers 0 1) past f ∧ f 0 = some A ∧ f 1 = some R ∧
        A.ledger.roots.isKnown d = true ∧ R.ledger.roots.isKnown d = true := by
  let fold : Moment Host := .firstFold .keccak Host.accepting
  obtain ⟨batch, since, events⟩ := fold.after.journal.exists_since
  let delivery : Moment Host :=
    { before := fold.result
      network := 1
      member :=
        ⟨(Member.first .keccak 1).deployment, (Moment.firstMessage .keccak Host.accepting).after⟩
      host := .accepting
      call := .ingestPeerEvents batch }
  have run : Run .keccak 0 (Delivers 0 1) [.firstMessage .keccak Host.accepting, fold, delivery]
      delivery.result := by
    have first : Run .keccak 0 (Delivers 0 1) [.firstMessage .keccak Host.accepting, fold]
        fold.result :=
      (Run.first .keccak Host.accepting).mono fun _ _ _ follows => follows.delivers (by decide)
    exact .step delivery first rfl fun _ =>
      ⟨fold.result, mem_statesOf_self _ _, _, _, _, rfl, since⟩
  obtain ⟨a, authority, -, known, -⟩ := Moment.exists_firstFold .keccak Host.accepting
  rw [← RootStore.isKnown, ← authority] at known
  obtain ⟨-, -, -, complete⟩ :=
    replica_agrees_with_authority run (by decide) (A := ⟨_, fold.after⟩) rfl rfl
  refine ⟨_, _, _, _, _, run, rfl, rfl, known, ?_⟩
  rw [complete fun e announced => ?_]
  · exact known
  · -- before it folded in a root, network 0 had nothing to tell of
    have told : .updateL1InfoTree e ∈ fold.after.journal.events := by
      obtain ⟨g, hg, A, hA, told⟩ := announced
      simp only [statesOf, List.map_cons, List.map_nil, List.cons_append, List.nil_append,
        List.mem_cons, List.not_mem_nil, or_false] at hg
      rcases hg with rfl | rfl | rfl | rfl
      · cases hA
        exact absurd told (Array.not_mem_empty _)
      · cases hA
        exact absurd told (Array.not_mem_empty _)
      · cases hA
        exact told
      · cases hA
        exact told
    refine ⟨delivery, by simp, rfl, batch, rfl, ?_⟩
    rw [events]
    exact Array.mem_def.1 told

end ExitBridge
