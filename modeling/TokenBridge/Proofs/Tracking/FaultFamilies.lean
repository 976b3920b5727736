import TokenBridge.Proofs.Tracking.AxelarAnswers

/-!
# In which families a query fails

A caller of a query is meant to handle two families of faults: settings that cannot serve it, and a
relay that has nothing to say. With every exit of a query gone through, there are just two ways out of
them (`ask_expected_iff`). The client may refuse the web address, which the check of settings does
not rule out since it looks only at how an address starts; a query that is `TurnedAway` so ends in the
fault of the client. And where the Axelar network reports a failure, there may be no
explorer that the record could lead to; but settings that were loaded always have one.

What leads out of a query leads out of a reconciliation and of tracking, and nothing else does.
-/

namespace TokenBridge.Tracking

/-- The fault is of a family that a caller of a query is meant to handle. -/
def Fault.IsExpected (fault : Fault) : Prop :=
  fault.kind = .statusUnavailable ∨ fault.kind = .configuration

theorem failsOnly_expected {α : Type} {x : Except Fault α} (h : FailsOnly Fault.IsUnavailable x) :
    FailsOnly Fault.IsExpected x :=
  fun fault hfault => .inl (h fault hfault)

/-- The addresses that a provider was given pass the check of settings. -/
def Provider.IsChecked (provider : Provider) : Prop :=
  ∀ urls, provider.baseUrls = some urls →
    ∃ name table, Config.checkTable name (.map urls) = .ok table

/-- The client does not take the web address that the query goes to. -/
def TurnedAway (provider : Provider) (settings : Config.RelaySettings) (client : Client)
    (query : Query) : Prop :=
  ∃ request reason, provider.request settings query = .ok request ∧
    (client.post request).reply = .refused reason

/-- The Axelar network answers that a call went wrong, on a network without an explorer. -/
def LacksExplorer (provider : Provider) (settings : Config.RelaySettings) (client : Client)
    (query : Query) : Prop :=
  provider.relay = .axelar ∧
    (∃ network, query.network = .text network ∧
      ∀ explorer, ¬ Axelar.Explores settings.axelarExplorer network explorer) ∧
    ∃ status body details message, Answered provider settings client query status body ∧
      Axelar.Reports client.depth status body details ∧ Axelar.WentWrong details message

section Exits

variable {provider : Provider} {settings : Config.RelaySettings} {client : Client}
  {network chain tx : String} {query : Query} {status : Int} {body : Bytes}

/-! ## Before anything is sent -/

/-- A table that the check accepts has only texts for its addresses. -/
theorem exists_endpoint?_eq (h : provider.IsChecked) :
    ∃ found : Option String,
      provider.endpoint? settings (.text network) = found.map Value.text := by
  unfold Provider.endpoint?
  cases hgiven : provider.baseUrls with
  | none => exact ⟨_, rfl⟩
  | some urls =>
    obtain ⟨name, table, htable⟩ := h urls hgiven
    obtain ⟨heq, -⟩ := Config.checkTable_eq_ok_iff.mp htable
    obtain rfl := Value.map.inj heq
    exact ⟨table.lookup network, Config.lookup_tableValue⟩

theorem failsOnly_baseUrl (h : provider.IsChecked) :
    FailsOnly Fault.IsExpected (provider.baseUrl settings (.text network)) := by
  obtain ⟨found, hfound⟩ : ∃ found : Option String,
      provider.endpoint? settings (.text network) = found.map Value.text := exists_endpoint?_eq h
  have hkey : (Value.text network).isKey = true := rfl
  simp only [Provider.baseUrl, hkey, Bool.not_true, Bool.false_eq_true, if_false, hfound]
  cases found with
  | none => exact failsOnly_error (.inr rfl)
  | some url =>
    rw [Option.map_some, Option.filter_some]
    by_cases hurl : (Value.text url).truthy = true
    · rw [if_pos hurl]
      exact failsOnly_ok
    · rw [if_neg hurl]
      exact failsOnly_error (.inr rfl)

theorem failsOnly_body (relay : Relay) :
    FailsOnly Fault.IsExpected (relay.body ⟨.text network, .text tx, .text chain⟩) := by
  cases relay with
  | executor =>
    have hid : Chain.idOf (.text chain) =
        (Chain.id? chain).elim (.error (.unknownName (.text chain))) .ok := rfl
    simp only [Relay.body, hid]
    cases Chain.id? chain with
    | none => exact failsOnly_error (.inr rfl)
    | some id => exact failsOnly_ok
  | axelar =>
    have hname : Axelar.chainNameOf (.text chain) =
        (Axelar.chains.lookup chain).elim (.error (.unsupportedChain (.text chain))) .ok := rfl
    simp only [Relay.body, hname]
    cases Axelar.chains.lookup chain with
    | none => exact failsOnly_error (.inr rfl)
    | some name => exact failsOnly_ok

/-- A query of texts is refused before it is sent only because the settings do not serve it. -/
theorem failsOnly_request (h : provider.IsChecked) :
    FailsOnly Fault.IsExpected
      (provider.request settings ⟨.text network, .text tx, .text chain⟩) := by
  refine failsOnly_bind (failsOnly_baseUrl h) fun base _ => ?_
  exact failsOnly_bind (failsOnly_body provider.relay) fun payload _ => failsOnly_ok

/-! ## How a query goes -/

theorem result_of_turnedAway (h : TurnedAway provider settings client query) :
    ∃ reason, (provider.ask settings client query).result = .error (.addressRefused reason) := by
  obtain ⟨request, reason, hrequest, hrefused⟩ := h
  refine ⟨reason, ?_⟩
  simp only [Provider.ask, hrequest, hrefused]
  rfl

/-- A query cannot be made, is turned away, comes to nothing on the way, or is answered. -/
theorem ask_cases (client : Client) (htx : query.IsShown)
    (hrequest : FailsOnly Fault.IsExpected (provider.request settings query)) :
    FailsOnly Fault.IsExpected (provider.ask settings client query).result ∨
      TurnedAway provider settings client query ∨
      ∃ status body, Answered provider settings client query status body := by
  cases hmade : provider.request settings query with
  | error fault =>
    refine .inl ?_
    simp only [Provider.ask, hmade]
    exact failsOnly_error (hrequest fault hmade)
  | ok request =>
    cases hreply : (client.post request).reply with
    | refused reason => exact .inr (.inl ⟨request, reason, hmade, hreply⟩)
    | failed reason =>
      refine .inl ?_
      simp only [Provider.ask, hmade, hreply]
      exact failsOnly_error (.inl (isUnavailable_of_shown htx rfl))
    | answered status body =>
      obtain ⟨base, hbase, hrest⟩ := bind_eq_ok_iff.mp hmade
      obtain ⟨payload, hpayload, hsame⟩ := bind_eq_ok_iff.mp hrest
      cases hsame
      exact .inr (.inr ⟨status, body, base, payload, hbase, hpayload, hreply⟩)

/-! ## What an answer leads to -/

/-- An answer has records or is refused, if the details that it starts with have a record. -/
theorem Axelar.failsOnly_recordsOf_of_record {explorers : Config.Table} {v : Value}
    (htx : query.IsShown)
    (h : ∀ entries first rest, v = .map entries →
      entries.lookup "data" = some (.list (.map first :: rest)) →
      ∃ record, Axelar.recordOf explorers query first = .ok record) :
    FailsOnly Fault.IsUnavailable (Axelar.recordsOf explorers query v).result := by
  have hrefused : Fault.IsUnavailable (.unexpectedAxelarAnswer query.tx) :=
    isUnavailable_of_shown htx rfl
  cases v with
  | map entries =>
    simp only [Axelar.recordsOf, Axelar.recordsOfData]
    split
    · exact failsOnly_ok
    · split
      · rename_i first rest hdata
        obtain ⟨record, hrecord⟩ := h entries first rest rfl (Axelar.member_eq_list_iff.mp hdata)
        rw [hrecord]
        exact failsOnly_ok
      · exact failsOnly_error hrefused
  | _ => exact failsOnly_error hrefused

/-- Where no explorer is lacking, an answer has records or is unavailable. -/
theorem failsOnly_ask_of_answered (htx : query.IsShown)
    (hanswer : Answered provider settings client query status body)
    (hbody : Followed client.depth body) (h : ¬ LacksExplorer provider settings client query) :
    FailsOnly Fault.IsUnavailable (provider.ask settings client query).result := by
  refine failsOnly_ask hanswer htx hbody fun v hbrings hv => ?_
  cases hrelay : provider.relay with
  | executor => exact Executor.failsOnly_recordsOf htx hv
  | axelar =>
    refine Axelar.failsOnly_recordsOf_of_record htx ?_
    rintro entries first rest rfl hdata
    cases hrecord : Axelar.recordOf settings.axelarExplorer query first with
    | ok record => exact ⟨record, rfl⟩
    | error fault =>
      obtain ⟨network, hnetwork⟩ := exists_network_of_answered hanswer
      obtain ⟨⟨message, hwrong⟩, hnone, -⟩ :=
        (Axelar.recordOf_eq_error_iff hnetwork htx).mp hrecord
      exact absurd ⟨hrelay, ⟨network, hnetwork, hnone⟩, status, body, first, message, hanswer,
        ⟨entries, rest, hbrings, hdata⟩, hwrong⟩ h

theorem result_of_lacksExplorer (htx : query.IsShown)
    (h : LacksExplorer provider settings client query) :
    (provider.ask settings client query).result = .error (.noExplorer "Testnet") := by
  obtain ⟨hrelay, ⟨network, hnetwork, hnone⟩, status, body, details, message, hanswer,
    ⟨entries, rest, hbrings, hdata⟩, hwrong⟩ := h
  have hrecord : Axelar.recordOf settings.axelarExplorer query details =
      .error (.noExplorer "Testnet") :=
    (Axelar.recordOf_eq_error_iff hnetwork htx).mpr ⟨⟨message, hwrong⟩, hnone, rfl⟩
  rw [ask_of_brings hanswer hbrings, hrelay]
  simp only [Relay.recordsOf, Axelar.recordsOf, Axelar.recordsOfData,
    Axelar.member_of_lookup hdata, hrecord]
  rfl

/-! ## The families of a query -/

/-- **A query fails as expected exactly if it is not turned away and lacks no explorer.** -/
theorem failsOnly_ask_iff (htx : query.IsShown)
    (hrequest : FailsOnly Fault.IsExpected (provider.request settings query))
    (hbodies : ∀ request status body, (client.post request).reply = .answered status body →
      Followed client.depth body) :
    FailsOnly Fault.IsExpected (provider.ask settings client query).result ↔
      ¬ TurnedAway provider settings client query ∧
        ¬ LacksExplorer provider settings client query := by
  constructor
  · intro h
    constructor
    · intro hturned
      obtain ⟨reason, hreason⟩ := result_of_turnedAway hturned
      rcases h _ hreason with hkind | hkind <;> cases hkind
    · intro hlacks
      rcases h _ (result_of_lacksExplorer htx hlacks) with hkind | hkind <;> cases hkind
  · intro h
    obtain ⟨hturned, hlacks⟩ := h
    rcases ask_cases client htx hrequest with hown | hturned' | ⟨status, body, hanswer⟩
    · exact hown
    · exact absurd hturned' hturned
    · have hbody : Followed client.depth body := by
        obtain ⟨_, _, _, _, hsent⟩ := hanswer
        exact hbodies _ _ _ hsent
      exact failsOnly_expected (failsOnly_ask_of_answered htx hanswer hbody hlacks)

/-- A reconciliation adds only a transaction that nothing is known of. -/
theorem failsOnly_reconcile_iff (receipt : Receipt) (network : Value) (source : Source)
    (htx : (receipt.query network).IsShown) :
    FailsOnly Fault.IsExpected (receipt.reconcile network source).result ↔
      receipt.state.isReconcilable = true →
        FailsOnly Fault.IsExpected (source (receipt.query network)).result := by
  unfold Receipt.reconcile
  by_cases hstate : receipt.state.isReconcilable = true
  · simp only [hstate, if_true, forall_const]
    cases hresult : (source (receipt.query network)).result with
    | error fault => exact failsOnly_error_iff.trans failsOnly_error_iff.symm
    | ok records =>
      refine iff_of_true ?_ failsOnly_ok
      cases records with
      | nil => exact failsOnly_error (.inl (isUnavailable_of_shown htx rfl))
      | cons record rest => exact failsOnly_ok
  · simp only [hstate]
    exact iff_of_true failsOnly_ok fun h => nomatch h

end Exits

/-- **The ways out of the families that a caller handles.** With addresses that the check of settings
accepts, a query fails as expected, whatever becomes of its request, unless the client refuses the
address or a failure has no explorer to lead to; and settings that were loaded have one. A
reconciliation and tracking fail as expected exactly when the query does that they ask. -/
theorem ask_expected_iff (provider : Provider) (settings : Config.RelaySettings)
    (client : Client) (network chain tx : String) (hurls : provider.IsChecked)
    (hbodies : ∀ request status body, (client.post request).reply = .answered status body →
      Followed client.depth body) :
    let query : Query := ⟨.text network, .text tx, .text chain⟩
    let expected : Prop := ¬ TurnedAway provider settings client query ∧
      ¬ LacksExplorer provider settings client query
    (FailsOnly Fault.IsExpected (provider.ask settings client query).result ↔ expected) ∧
    (TurnedAway provider settings client query → ∃ reason,
      (provider.ask settings client query).result = .error (.addressRefused reason)) ∧
    (LacksExplorer provider settings client query →
      (provider.ask settings client query).result = .error (.noExplorer "Testnet")) ∧
    (settings.Loaded → ¬ LacksExplorer provider settings client query) ∧
    ∀ receipt : Receipt, receipt.query (.text network) = query →
      (FailsOnly Fault.IsExpected
          (receipt.reconcile (.text network) (provider.ask settings client)).result ↔
        (receipt.state.isReconcilable = true → expected)) ∧
      ∀ (relay : Relay) (given : Option Source),
        given = some (provider.ask settings client) ∨ given = none ∧ provider = .standard relay →
        (FailsOnly Fault.IsExpected
            (receipt.track relay settings client (.text network) given).result ↔
          (receipt.state.isReconcilable = true → expected)) := by
  intro query expected
  have htx : query.IsShown := ⟨tx, rfl⟩
  have hask : FailsOnly Fault.IsExpected (provider.ask settings client query).result ↔ expected :=
    failsOnly_ask_iff htx (failsOnly_request hurls) hbodies
  have hreconcile (receipt : Receipt) (hquery : receipt.query (.text network) = query) :
      FailsOnly Fault.IsExpected
        (receipt.reconcile (.text network) (provider.ask settings client)).result ↔
        (receipt.state.isReconcilable = true → expected) := by
    rw [failsOnly_reconcile_iff receipt _ _ (hquery ▸ htx), hquery, hask]
  refine ⟨hask, result_of_turnedAway, result_of_lacksExplorer htx, ?_,
    fun receipt hquery => ⟨hreconcile receipt hquery, ?_⟩⟩
  · intro hloaded hlacks
    obtain ⟨-, ⟨other, -, hnone⟩, -⟩ := hlacks
    obtain ⟨explorer, hexplorer⟩ := Axelar.exists_explorer_of_loaded hloaded other
    exact hnone explorer hexplorer
  · intro relay given hgiven
    rcases hgiven with rfl | ⟨rfl, rfl⟩
    · exact hreconcile receipt hquery
    · exact hreconcile receipt hquery

namespace Sample

/-! ## An address that only the client refuses -/

/-- A provider of the executor network with an address of its own. -/
def executorAt (url : String) : Provider := ⟨.executor, some [("Testnet", .text url)], none⟩

theorem isChecked_executorAt {url : String} (hurl : Config.isUrl url = true) :
    (executorAt url).IsChecked := by
  intro urls h
  cases h
  have hvalid : Config.Table.Valid [("Testnet", url)] := by
    simp [Config.Table.Valid, Config.networks, hurl]
  exact ⟨"executor_api", _, Config.checkTable_eq_ok_iff.mpr ⟨rfl, hvalid⟩⟩

/-- A client that takes no port but a number: it refuses an address with the port `b`, and is
answered alike at all others. -/
def portMinding : Client where
  post := fun request =>
    if request.url = "http://a:b/v0/status/tx" then ⟨[], .refused "Invalid port: 'b'"⟩
    else (answering aborted).post request
  depth := (answering aborted).depth

theorem request_executorAt :
    (executorAt "http://e").request settings (waiting.query (.text "Testnet")) =
    .ok ⟨"http://e/v0/status/tx", .map [("txHash", .text "0xa"), ("chainId", .int 2)], .int 30⟩ := by
  cbv

theorem request_executorAt_port :
    (executorAt "http://a:b").request settings (waiting.query (.text "Testnet")) =
    .ok ⟨"http://a:b/v0/status/tx", .map [("txHash", .text "0xa"), ("chainId", .int 2)], .int 30⟩ := by
  cbv

theorem turnedAway_port : TurnedAway (executorAt "http://a:b") settings portMinding
    (waiting.query (.text "Testnet")) :=
  ⟨_, _, request_executorAt_port, rfl⟩

theorem not_turnedAway_executorAt : ¬ TurnedAway (executorAt "http://e") settings portMinding
    (waiting.query (.text "Testnet")) := by
  intro h
  obtain ⟨request, reason, hrequest, hrefused⟩ := h
  rw [request_executorAt] at hrequest
  cases hrequest
  cases hrefused

theorem followed_portMinding {request : Request} {status : Int} {body : Bytes}
    (h : (portMinding.post request).reply = .answered status body) :
    Followed portMinding.depth body := by
  unfold portMinding at h
  dsimp only at h
  split at h
  · cases h
  · cases h
    exact followed_of_read read_aborted

/-- Both addresses start as web addresses do, but the port of one is no number. -/
theorem ask_expected_sample :
    FailsOnly Fault.IsExpected ((executorAt "http://e").ask settings portMinding
      (waiting.query (.text "Testnet"))).result ∧
    ¬ FailsOnly Fault.IsExpected (waiting.track .executor settings portMinding
      (.text "Testnet") (some ((executorAt "http://a:b").ask settings portMinding))).result := by
  have hurl : Config.isUrl "http://e" = true := by simp [Config.isUrl]
  have hport : Config.isUrl "http://a:b" = true := by simp [Config.isUrl]
  constructor
  · obtain ⟨hask, -⟩ := ask_expected_iff (executorAt "http://e") settings portMinding "Testnet"
      "Ethereum" "0xa" (isChecked_executorAt hurl) fun _ _ _ => followed_portMinding
    refine hask.mpr ⟨not_turnedAway_executorAt, ?_⟩
    intro hlacks
    cases hlacks.1
  · obtain ⟨-, -, -, -, hreceipt⟩ := ask_expected_iff (executorAt "http://a:b") settings
      portMinding "Testnet" "Ethereum" "0xa" (isChecked_executorAt hport)
      fun _ _ _ => followed_portMinding
    intro h
    exact (((hreceipt waiting rfl).2 .executor _ (.inl rfl)).mp h rfl).1 turnedAway_port

/-- **Not every fault of a query is one that a caller handles.** An address that the check accepts is
refused by the client, and the fault is of neither family. -/
theorem ask_port_unexpected :
    (executorAt "http://a:b").IsChecked ∧
    ((executorAt "http://a:b").ask settings portMinding
      (waiting.query (.text "Testnet"))).result = .error (.addressRefused "Invalid port: 'b'") ∧
    ¬ FailsOnly Fault.IsExpected ((executorAt "http://a:b").ask settings portMinding
      (waiting.query (.text "Testnet"))).result := by
  have hresult : ((executorAt "http://a:b").ask settings portMinding
      (waiting.query (.text "Testnet"))).result = .error (.addressRefused "Invalid port: 'b'") := by
    simp only [Provider.ask, request_executorAt_port]
    rfl
  refine ⟨isChecked_executorAt (by simp [Config.isUrl]), hresult, ?_⟩
  rw [hresult, failsOnly_error_iff]
  intro h
  rcases h with hkind | hkind <;> cases hkind

end Sample

end TokenBridge.Tracking
