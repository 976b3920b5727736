import TokenBridge.Tracking.Reconciliation

/-!
# The history of a receipt

A caller brings its receipt in line with a relay network again and again, and keeps the receipt that
it has when a call ends in a fault. What sources answer is up to them, call by call.

A step does one of two things. It leaves the receipt as it was, where there was nothing to ask about,
a fault, or no record; or it gives the receipt what a record says (`after_eq`). What a record says is
a state with the error that belongs to it (`StatusRecord.verdict`), so **state and error stay in step**
(`Receipt.InStep.after`), and since a verdict leaves nothing of an earlier one, **only the last record
counts** (`Receipt.afterAll_eq`): what a caller ends with does not depend on how it got there.
-/

namespace TokenBridge.Tracking

/-- A call to bring a receipt in line with what a source answers for a network. -/
structure Call where
  network : Value
  source : Source

/-- What a record says of a transfer: the relay failed, with the error that the record describes, or
it did not. Without a message of its own the error names the status. -/
def StatusRecord.verdict (record : StatusRecord) : TransferState × Value :=
  if record.failed.truthy then
    (.failed, .relayError
      (if record.message.truthy then record.message
        else .text ("Relay failed with status: " ++ record.status.plainText))
      record.status record.url record.explorer)
  else (.attested, .null)

namespace Receipt

/-- The receipt that a caller has after a call. -/
def after (receipt : Receipt) (call : Call) : Receipt :=
  match (receipt.reconcile call.network call.source).result with
  | .ok next => next
  | .error _ => receipt

/-- The receipt that a caller has after calls one after another. -/
def afterAll (receipt : Receipt) (calls : List Call) : Receipt := calls.foldl after receipt

/-- The queries that calls one after another ask. -/
def queriesOf (receipt : Receipt) : List Call → List Query
  | [] => []
  | call :: calls =>
    (receipt.reconcile call.network call.source).queries ++ queriesOf (receipt.after call) calls

/-- The first record that the source of a call has for the receipt, if it answers any. -/
def firstRecord? (receipt : Receipt) (call : Call) : Option StatusRecord :=
  match (call.source (receipt.query call.network)).result with
  | .ok (record :: _) => some record
  | _ => none

/-- The first record of the last answer that has one. -/
def lastRecord? (receipt : Receipt) (calls : List Call) : Option StatusRecord :=
  (calls.filterMap receipt.firstRecord?).getLast?

/-- The receipt with a state and its error. -/
def withVerdict (receipt : Receipt) (verdict : TransferState × Value) : Receipt :=
  { receipt with state := verdict.1, error := verdict.2 }

/-! ## The transfer that a receipt is about -/

/-- Two receipts are about one transfer. -/
structure SameTransfer (r s : Receipt) : Prop where
  fromChain : r.fromChain = s.fromChain
  toChain : r.toChain = s.toChain
  originTransactions : r.originTransactions = s.originTransactions

variable {r s t : Receipt} {call : Call} {calls : List Call} {record : StatusRecord}

theorem SameTransfer.refl (r : Receipt) : SameTransfer r r := ⟨rfl, rfl, rfl⟩

theorem SameTransfer.symm (h : SameTransfer r s) : SameTransfer s r :=
  ⟨h.fromChain.symm, h.toChain.symm, h.originTransactions.symm⟩

theorem SameTransfer.trans (h : SameTransfer r s) (h' : SameTransfer s t) : SameTransfer r t :=
  ⟨h.fromChain.trans h'.fromChain, h.toChain.trans h'.toChain,
    h.originTransactions.trans h'.originTransactions⟩

theorem SameTransfer.withVerdict (r : Receipt) (verdict : TransferState × Value) :
    SameTransfer r (r.withVerdict verdict) := ⟨rfl, rfl, rfl⟩

theorem SameTransfer.latest_eq (h : SameTransfer r s) : r.latest = s.latest := by
  simp only [latest, h.originTransactions]

/-- One transfer is asked about in one way. -/
theorem SameTransfer.query_eq (h : SameTransfer r s) (network : Value) :
    r.query network = s.query network := by
  simp only [query, h.latest_eq, h.fromChain]

theorem SameTransfer.firstRecord?_eq (h : SameTransfer r s) : r.firstRecord? = s.firstRecord? := by
  funext call
  simp only [firstRecord?, h.query_eq]

/-- Nothing but the transfer is left of a receipt that is given a verdict. -/
theorem SameTransfer.withVerdict_eq (h : SameTransfer r s) (verdict : TransferState × Value) :
    r.withVerdict verdict = s.withVerdict verdict := by
  obtain ⟨_, _, _, _, _, _⟩ := r
  obtain ⟨_, _, _, _, _, _⟩ := s
  obtain ⟨rfl, rfl, rfl⟩ := h
  rfl

/-! ## One step -/

/-- A receipt that the relay network has no say about is left alone, and nothing is asked. -/
theorem reconcile_of_not_isReconcilable (h : r.state.isReconcilable = false) (network : Value)
    (source : Source) : r.reconcile network source = ⟨.ok r, false, [], [], []⟩ := by
  simp [reconcile, h]

theorem queries_reconcile (h : r.state.isReconcilable = true) (network : Value) (source : Source) :
    (r.reconcile network source).queries = [r.query network] := by
  simp only [reconcile, h, if_true]
  split <;> rfl

/-- **A step gives the receipt what the first record says**, or leaves it as it was. -/
theorem after_eq (h : r.state.isReconcilable = true) :
    r.after call = ((r.firstRecord? call).map r.apply).getD r := by
  simp only [after, firstRecord?, reconcile, h, if_true]
  cases (call.source (r.query call.network)).result with
  | error fault => rfl
  | ok records =>
    cases records with
    | nil => rfl
    | cons record records => rfl

theorem SameTransfer.apply (r : Receipt) (record : StatusRecord) : SameTransfer r (r.apply record) := by
  unfold Receipt.apply
  split
  · exact ⟨rfl, rfl, rfl⟩
  · split
    · exact ⟨rfl, rfl, rfl⟩
    · exact .refl r

theorem SameTransfer.after (r : Receipt) (call : Call) : SameTransfer r (r.after call) := by
  cases h : r.state.isReconcilable with
  | false =>
    simp only [Receipt.after, reconcile_of_not_isReconcilable h]
    exact .refl r
  | true =>
    rw [after_eq h]
    cases r.firstRecord? call with
    | none => exact .refl r
    | some record => exact .apply r record

/-! ## State and error -/

/-- The error of a receipt is the one that its state calls for. -/
inductive InStep (r : Receipt) : Prop
  | attested : r.state = .attested → r.error = .null → InStep r
  | failed (e : RelayError) : r.state = .failed → r.error = e.toValue → InStep r

theorem InStep.isReconcilable (h : r.InStep) : r.state.isReconcilable = true := by
  cases h with
  | attested hs _ => rw [hs]; rfl
  | failed e hs _ => rw [hs]; rfl

theorem InStep.withVerdict (r : Receipt) (record : StatusRecord) :
    (r.withVerdict record.verdict).InStep := by
  unfold StatusRecord.verdict
  split
  · exact .failed ⟨_, _, _, _⟩ rfl rfl
  · exact .attested rfl rfl

/-- In step, a record leaves nothing of what was there before. -/
theorem InStep.apply_eq (h : r.InStep) (record : StatusRecord) :
    r.apply record = r.withVerdict record.verdict := by
  unfold apply StatusRecord.verdict
  by_cases hfailed : record.failed.truthy = true
  · rw [if_pos hfailed, if_pos hfailed]
    rfl
  · rw [if_neg hfailed, if_neg hfailed]
    cases h with
    | failed e hs _ => rw [if_pos hs]; rfl
    | attested hs he =>
      have hne : ¬ r.state = .failed := by rw [hs]; decide
      rw [if_neg hne]
      -- the verdict is what the receipt says already
      simp only [Receipt.withVerdict, ← hs, ← he]

theorem InStep.after (h : r.InStep) (call : Call) : (r.after call).InStep := by
  rw [after_eq h.isReconcilable]
  cases r.firstRecord? call with
  | none => exact h
  | some record =>
    show (r.apply record).InStep
    rw [h.apply_eq]
    exact .withVerdict r record

theorem failureMessage_ne_empty (status : String) : Executor.failureMessage status ≠ "" := by
  show "Relay failed with status: " ++ status ≠ ""
  intro h
  have hempty := (String.append_eq_empty_iff.mp h).1
  exact absurd hempty (by decide)

/-- The error that a record describes says something, whatever the record does. -/
theorem truthy_message_relayError (record : StatusRecord) :
    record.relayError.message.truthy = true := by
  unfold StatusRecord.relayError
  by_cases h : record.message.truthy = true
  · simp only [h, if_true]
  · simp only [h]
    show (!(Executor.failureMessage record.status.plainText).isEmpty) = true
    simp [failureMessage_ne_empty]

/-- A receipt whose relay failed by a record has the error that the record describes. -/
theorem verdict_failed (h : record.verdict.1 = .failed) :
    record.verdict.2 = record.relayError.toValue := by
  unfold StatusRecord.verdict at *
  by_cases hfailed : record.failed.truthy = true
  · rw [if_pos hfailed]
    rfl
  · rw [if_neg hfailed] at h
    cases h

/-! ## Many steps -/

theorem afterAll_of_not_isReconcilable (h : r.state.isReconcilable = false) :
    r.afterAll calls = r ∧ r.queriesOf calls = [] := by
  induction calls with
  | nil => exact ⟨rfl, rfl⟩
  | cons call calls ih =>
    have hstep : r.after call = r := by
      simp only [after, reconcile_of_not_isReconcilable h]
    simp only [afterAll, List.foldl_cons, queriesOf, hstep, reconcile_of_not_isReconcilable h,
      List.nil_append]
    exact ih

theorem SameTransfer.afterAll (r : Receipt) (calls : List Call) :
    SameTransfer r (r.afterAll calls) := by
  induction calls generalizing r with
  | nil => exact .refl r
  | cons call calls ih => exact (SameTransfer.after r call).trans (ih (r.after call))

theorem InStep.afterAll (h : r.InStep) (calls : List Call) : (r.afterAll calls).InStep := by
  induction calls generalizing r with
  | nil => exact h
  | cons call calls ih => exact ih (h.after call)

/-- Every query is about the transfer that the receipt is about. -/
theorem mem_queriesOf {query : Query} (h : query ∈ r.queriesOf calls) :
    query.tx = r.latest.txid ∧ query.chain = r.fromChain := by
  induction calls generalizing r with
  | nil => simp [queriesOf] at h
  | cons call calls ih =>
    rcases List.mem_append.mp h with hnow | hlater
    · cases hr : r.state.isReconcilable with
      | false => simp [reconcile_of_not_isReconcilable hr] at hnow
      | true =>
        rw [queries_reconcile hr] at hnow
        obtain rfl := List.mem_singleton.mp hnow
        exact ⟨rfl, rfl⟩
    · have hsame := SameTransfer.after r call
      rw [hsame.latest_eq, hsame.fromChain]
      exact ih hlater

/-- **Only the last record counts**: calls end with what it says of the transfer. -/
theorem afterAll_eq (h : r.InStep) :
    r.afterAll calls = ((r.lastRecord? calls).map (r.withVerdict ·.verdict)).getD r := by
  induction calls generalizing r with
  | nil => rfl
  | cons call calls ih =>
    have hstep : r.afterAll (call :: calls) = (r.after call).afterAll calls := rfl
    rw [hstep, ih (h.after call)]
    have hlast : (r.after call).lastRecord? calls = r.lastRecord? calls := by
      simp only [lastRecord?, (SameTransfer.after r call).firstRecord?_eq]
    rw [hlast, after_eq h.isReconcilable]
    cases hfirst : r.firstRecord? call with
    | none => simp [lastRecord?, hfirst]
    | some record =>
      -- an earlier record is overwritten by any later one
      simp only [lastRecord?, List.filterMap_cons, hfirst, Option.map_some, Option.getD_some,
        h.apply_eq, List.getLast?_cons]
      cases (calls.filterMap r.firstRecord?).getLast? with
      | none => rfl
      | some later => exact (SameTransfer.withVerdict r _).symm.withVerdict_eq _

/-! ## Histories -/

/-- **What calls do to a receipt.** The transfer that it is about never changes, and every query is
about it. A receipt that waits for no relay stays as it is, and nothing is asked. A receipt whose
error is the one that its state calls for stays one, with an error that says something where a record
put it there; and it ends as the last record says, so that two histories of one transfer with one
last record end in one receipt. -/
theorem history (start : Receipt) (calls : List Call) :
    SameTransfer start (start.afterAll calls) ∧
    (∀ query ∈ start.queriesOf calls,
      query.tx = start.latest.txid ∧ query.chain = start.fromChain) ∧
    (start.state ≠ .attested → start.state ≠ .failed →
      start.afterAll calls = start ∧ start.queriesOf calls = []) ∧
    (start.InStep →
      (start.afterAll calls).InStep ∧
      (∀ record, start.lastRecord? calls = some record →
        start.afterAll calls = start.withVerdict record.verdict ∧
        ((start.afterAll calls).state = .failed → ∃ e : RelayError,
          (start.afterAll calls).error = e.toValue ∧ e.message.truthy = true)) ∧
      (start.lastRecord? calls = none → start.afterAll calls = start) ∧
      ∀ (other : Receipt) (others : List Call) (record : StatusRecord),
        SameTransfer start other → other.InStep →
        start.lastRecord? calls = some record → other.lastRecord? others = some record →
        start.afterAll calls = other.afterAll others) := by
  refine ⟨.afterAll start calls, fun query h => mem_queriesOf h, ?_, ?_⟩
  · intro hattested hfailed
    have hnot : start.state.isReconcilable = false := by
      cases hs : start.state with
      | attested => exact absurd hs hattested
      | failed => exact absurd hs hfailed
      | _ => rfl
    exact afterAll_of_not_isReconcilable hnot
  · intro hstep
    have hlast {r : Receipt} (hr : r.InStep) {calls : List Call} {record : StatusRecord}
        (h : r.lastRecord? calls = some record) :
        r.afterAll calls = r.withVerdict record.verdict := by
      rw [afterAll_eq hr, h]
      rfl
    refine ⟨hstep.afterAll calls, ?_, ?_, ?_⟩
    · intro record h
      rw [hlast hstep h]
      refine ⟨rfl, ?_⟩
      intro hfailed
      exact ⟨record.relayError, verdict_failed hfailed, truthy_message_relayError record⟩
    · intro h
      rw [afterAll_eq hstep, h]
      rfl
    · intro other others record hsame hother h h'
      rw [hlast hstep h, hlast hother h']
      exact hsame.withVerdict_eq _

/-- A failure, a fault, a recovery, a failure without a message, and no answer: the last failure
stays. -/
theorem history_lastFailure :
    let answering (records : List StatusRecord) : Call :=
      ⟨.text "Testnet", fun _ => ⟨.ok records, [], []⟩⟩
    let first : StatusRecord := ⟨.text "aborted", .bool true, .text "no", .null, .null⟩
    let last : StatusRecord := ⟨.text "underpaid", .bool true, .null, .text "url", .null⟩
    let calls : List Call :=
      [answering [first], ⟨.null, .missing⟩, answering [.ofStatus "pending", first],
        answering [last, first], answering []]
    let start : Receipt :=
      ⟨.attested, .text "Sepolia", .text "Monad", [⟨.text "Sepolia", .text "0xa"⟩], by simp, .null⟩
    start.InStep ∧ start.lastRecord? calls = some last ∧
    start.afterAll calls = { start with
      state := .failed
      error := .relayError (.text "Relay failed with status: underpaid") (.text "underpaid")
        (.text "url") .null } ∧
    start.queriesOf calls ≠ [] ∧
    { start with state := .completed }.afterAll calls = { start with state := .completed } := by
  intro answering first last calls start
  have hstep : start.InStep := .attested rfl rfl
  have hlast : start.lastRecord? calls = some last := rfl
  obtain ⟨-, -, -, hin⟩ := history start calls
  obtain ⟨-, hverdict, -, -⟩ := hin hstep
  obtain ⟨-, -, hother, -⟩ := history { start with state := .completed } calls
  refine ⟨hstep, hlast, (hverdict last hlast).1, ?_, (hother (by decide) (by decide)).1⟩
  show List.cons _ _ ≠ []
  simp

end Receipt

end TokenBridge.Tracking
