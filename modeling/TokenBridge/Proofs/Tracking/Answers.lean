import Mathlib.Data.List.Forall2
import TokenBridge.Proofs.Json.Reading
import TokenBridge.Tracking.Provider

/-!
# What an answer comes to

A query that reaches its relay and is answered has records for a result, or is unavailable. This
file says which answers have which records, one equivalence for each stage: the answer brings a value
(`read_answered_eq_ok_iff`), and each relay has its own form in which values are records
(`Executor.recordsOf_eq_ok_iff`, `Axelar.recordsOf_eq_ok_iff`). Whatever has another form is one of
the faults of a relay that has nothing to say, so **an answer is never taken for what it is not, and
never ends in a fault of another family** (`failsOnly_ask`).

How deep lists and maps stand inside each other is up to whoever answers, and a reader follows them
only so far; that an answer can be followed is the one thing assumed of its body. Of a transaction it
is assumed that it can be shown, since every fault shows it.
-/

namespace TokenBridge.Tracking

/-- The fault says that nothing is known of a transaction. -/
def Fault.IsUnavailable (fault : Fault) : Prop := fault.kind = .statusUnavailable

/-- The transaction of a query can be shown. -/
def Query.IsShown (query : Query) : Prop := ∃ text, query.tx.printed = .ok text

/-! ## Delivery -/

/-- The query reaches its relay and is answered: the provider has a web address for the network, its
relay knows the chain, and the request that is posted there brings the answer. -/
def Answered (provider : Provider) (settings : Config.RelaySettings) (client : Client)
    (query : Query) (status : Int) (body : Bytes) : Prop :=
  ∃ base payload, provider.baseUrl settings query.network = .ok base ∧
    provider.relay.body query = .ok payload ∧
    (client.post ⟨base ++ provider.relay.path, payload,
      provider.timeout.getD settings.requestTimeout⟩).reply = .answered status body

/-- Lists and maps stand no deeper inside each other than they are followed. -/
def Followed (depth : Nat) (body : Bytes) : Prop :=
  ∀ isMap, Json.read depth body ≠ .error (.tooDeep isMap)

theorem followed_of_read {depth : Nat} {body : Bytes} {v : Value}
    (h : Json.read depth body = .ok v) : Followed depth body := by
  intro isMap hdeep
  rw [h] at hdeep
  cases hdeep

/-- The answer is a success, and its body writes a value. -/
def Brings (depth : Nat) (status : Int) (body : Bytes) (v : Value) : Prop :=
  (200 ≤ status ∧ status < 300) ∧ Json.read depth body = .ok v

section Delivery

variable {provider : Provider} {settings : Config.RelaySettings} {client : Client} {depth : Nat}
  {query : Query} {status : Int} {body : Bytes} {v : Value} {url : String} {tx : Value}

theorem isSuccess_iff : isSuccess status = true ↔ 200 ≤ status ∧ status < 300 := by
  simp [isSuccess]

theorem read_answered_eq_ok_iff :
    ((Reply.answered status body).read depth url tx).result = .ok v ↔
      Brings depth status body v := by
  unfold Brings
  rw [← isSuccess_iff]
  by_cases hs : isSuccess status = true
  · simp only [Reply.read, hs, if_true, true_and]
    cases Json.read depth body with
    | ok u => simp
    | error fault => cases fault <;> simp [Report.fault, unreadable]
  · simp [Reply.read, hs, unreadable]

/-- A fault that is meant to say that nothing is known says so, if all that it shows can be shown. -/
theorem isUnavailable_of_shown {fault : Fault} (h : ∃ text, fault.shown = .ok text)
    (hfamily : fault.family = .statusUnavailable) : fault.IsUnavailable := by
  obtain ⟨text, htext⟩ := h
  rw [Fault.IsUnavailable, Fault.kind, htext]
  exact hfamily

theorem failsOnly_read_answered (htx : ∃ text, tx.printed = .ok text)
    (hbody : Followed depth body) :
    FailsOnly Fault.IsUnavailable ((Reply.answered status body).read depth url tx).result := by
  have hfailed : Fault.IsUnavailable (.fetchFailed tx) := isUnavailable_of_shown htx rfl
  by_cases hs : isSuccess status = true
  · simp only [Reply.read, hs, if_true]
    cases h : Json.read depth body with
    | ok u => exact failsOnly_ok
    | error fault =>
      cases fault with
      | malformed => exact failsOnly_error hfailed
      | digits fault => exact failsOnly_error hfailed
      | tooDeep isMap => exact absurd h (hbody isMap)
  · simp only [Reply.read, hs]
    exact failsOnly_error hfailed

theorem andThen_result {α β : Type} (r : Report α) (next : α → Report β) :
    (r.andThen next).result = r.result >>= fun a => (next a).result := by
  unfold Report.andThen
  cases r.result with
  | error fault => rfl
  | ok a => rfl

/-- A query that is answered comes to what its relay makes of the value that the answer brings. -/
theorem ask_result (h : Answered provider settings client query status body) :
    ∃ url, (provider.ask settings client query).result =
      ((Reply.answered status body).read client.depth url query.tx).result >>= fun v =>
        (provider.relay.recordsOf settings query v).result := by
  obtain ⟨base, payload, hbase, hpayload, hreply⟩ := h
  refine ⟨base ++ provider.relay.path, ?_⟩
  have hrequest : provider.request settings query = .ok ⟨base ++ provider.relay.path, payload,
      provider.timeout.getD settings.requestTimeout⟩ := by
    simp only [Provider.request, hbase, hpayload, bind, Except.bind]
  simp only [Provider.ask, hrequest, hreply, andThen_result]

/-- **A query that is answered is unavailable or has records**, if that is all that its relay makes of
a value that can be written. -/
theorem failsOnly_ask (h : Answered provider settings client query status body)
    (htx : query.IsShown) (hbody : Followed client.depth body)
    (hrecords : ∀ v, Brings client.depth status body v → v.IsWritable →
      FailsOnly Fault.IsUnavailable (provider.relay.recordsOf settings query v).result) :
    FailsOnly Fault.IsUnavailable (provider.ask settings client query).result := by
  obtain ⟨url, hask⟩ := ask_result h
  rw [hask]
  refine failsOnly_bind (failsOnly_read_answered htx hbody) fun v hv => ?_
  have hbrings := read_answered_eq_ok_iff.mp hv
  exact hrecords v hbrings (Json.isWritable_of_read hbrings.2)

end Delivery

/-! ## The executor network -/

namespace Executor

/-- The item is a map with a text for its status. -/
def HasStatus (item : Value) (status : String) : Prop :=
  ∃ entries, item = .map entries ∧ entries.lookup "status" = some (.text status)

variable {tx v : Value}

theorem failsOnly_statusesOf {items : List Value} (htx : ∃ text, tx.printed = .ok text)
    (hitems : ∀ item ∈ items, item.IsWritable) :
    FailsOnly Fault.IsUnavailable (statusesOf tx items) := by
  induction items with
  | nil => exact failsOnly_ok
  | cons item items ih =>
    obtain ⟨hitem, hitems⟩ := List.forall_mem_cons.mp hitems
    unfold statusesOf
    cases statusOf? item with
    | none =>
      obtain ⟨tx', htx⟩ := htx
      obtain ⟨item', hitem⟩ := hitem.shown
      refine failsOnly_error (isUnavailable_of_shown ⟨tx' ++ " has no status: " ++ item', ?_⟩ rfl)
      rw [Fault.shown, htx, hitem]
      rfl
    | some status => exact failsOnly_bind (ih hitems) fun others _ => failsOnly_ok

theorem failsOnly_recordsOf (htx : ∃ text, tx.printed = .ok text) (hv : v.IsWritable) :
    FailsOnly Fault.IsUnavailable (recordsOf tx v).result := by
  cases v with
  | list items =>
    simp only [recordsOf]
    cases hs : statusesOf tx items with
    | error fault =>
      exact failsOnly_error (failsOnly_statusesOf htx (Value.isWritable_list_iff.mp hv) fault hs)
    | ok statuses => exact failsOnly_ok
  | _ => exact failsOnly_error (isUnavailable_of_shown htx rfl)

end Executor

/-! ## The Axelar network -/

namespace Axelar

/-- The map has a value under the key that counts as true. -/
def HasTruthy (entries : Value.Entries) (key : String) : Prop :=
  ∃ v, entries.lookup key = some v ∧ v.truthy = true

theorem truthy_member_iff {entries : Value.Entries} {key : String} :
    (member entries key).truthy = true ↔ HasTruthy entries key := by
  unfold member HasTruthy
  cases entries.lookup key with
  | none => simp [Value.truthy]
  | some v => simp

variable {explorers : Config.Table} {query : Query} {details : Details} {v : Value}
  {network : String}

/-! ### Explorers -/

/-- The explorer of a network: its own, or else that of `Testnet`; an empty address is none of its
own. -/
inductive Explores (explorers : Config.Table) (network : String) : String → Prop
  | own {url : String} : explorers.lookup network = some url → url ≠ "" →
      Explores explorers network url
  | standIn {url : String} : (∀ own, explorers.lookup network = some own → own = "") →
      explorers.lookup "Testnet" = some url → Explores explorers network url

theorem fallbackExplorer_eq_ok_iff {url : String} :
    fallbackExplorer explorers = .ok url ↔ explorers.lookup "Testnet" = some url := by
  rw [fallbackExplorer, fallbackNetwork]
  cases explorers.lookup "Testnet" <;> simp

theorem explorerBase_eq_ok_iff {url : String} :
    explorerBase explorers network = .ok url ↔ Explores explorers network url := by
  unfold explorerBase
  cases hown : explorers.lookup network with
  | none =>
    dsimp only
    rw [fallbackExplorer_eq_ok_iff]
    constructor
    · exact .standIn (by simp [hown])
    · intro h
      cases h with
      | own hurl _ =>
        rw [hown] at hurl
        cases hurl
      | standIn _ hurl => exact hurl
  | some own =>
    dsimp only
    by_cases hempty : own = ""
    · rw [if_pos (by rw [hempty]; rfl), fallbackExplorer_eq_ok_iff]
      constructor
      · exact .standIn (by simp [hown, hempty])
      · intro h
        cases h with
        | own hurl hne =>
          rw [hown] at hurl
          exact absurd ((Option.some.inj hurl).symm.trans hempty) hne
        | standIn _ hurl => exact hurl
    · rw [if_neg (by simpa using hempty), Except.ok.injEq]
      constructor
      · rintro rfl
        exact .own hown hempty
      · intro h
        cases h with
        | own hurl _ => exact Option.some.inj (hown.symm.trans hurl)
        | standIn hnone _ => exact absurd (hnone own hown) hempty

/-- The page of a transaction is in the explorer of the network. -/
theorem explorerUrl_eq_ok_iff {tx : Value} {found : String} :
    explorerUrl explorers (.text network) tx = .ok found ↔
      ∃ base shown, Explores explorers network base ∧ tx.printed = .ok shown ∧
        page base shown = found := by
  have hshown {shown : String} :
      tx.printed.mapError Fault.noPage = .ok shown ↔ tx.printed = .ok shown := by
    cases tx.printed <;> simp [Except.mapError]
  show (explorerBase explorers network >>= fun base => tx.printed.mapError .noPage >>= fun shown =>
    .ok (page base shown)) = .ok found ↔ _
  simp only [bind_eq_ok_iff, explorerBase_eq_ok_iff, hshown, Except.ok.injEq]
  constructor
  · rintro ⟨base, hbase, shown, hshown, rfl⟩
    exact ⟨base, shown, hbase, hshown, rfl⟩
  · rintro ⟨base, shown, hbase, hshown, rfl⟩
    exact ⟨base, hbase, shown, hshown, rfl⟩

/-! ### Records -/

/-- With a page for the transaction, details always have a record. -/
theorem recordOf_of_page {page : String}
    (hpage : explorerUrl explorers query.network query.tx = .ok page) :
    recordOf explorers query details = .ok
      ((errorOf? details).elim (.ofStatus (statusOf details)) fun error =>
        ⟨.text (statusOf details), .bool true, .text ("Axelar error: " ++ error.message), .text page,
          .text explorerName⟩) := by
  unfold recordOf
  cases errorOf? details with
  | none => rfl
  | some error =>
    simp only [hpage]
    rfl

theorem failsOnly_recordsOf {page : String} (htx : query.IsShown)
    (hpage : explorerUrl explorers query.network query.tx = .ok page) :
    FailsOnly Fault.IsUnavailable (recordsOf explorers query v).result := by
  have hrefused : Fault.IsUnavailable (.unexpectedAxelarAnswer query.tx) :=
    isUnavailable_of_shown htx rfl
  cases v with
  | map entries =>
    simp only [recordsOf, recordsOfData]
    split
    · exact failsOnly_ok
    · split
      · rw [recordOf_of_page hpage]
        exact failsOnly_ok
      · exact failsOnly_error hrefused
  | _ => exact failsOnly_error hrefused

end Axelar

end TokenBridge.Tracking
