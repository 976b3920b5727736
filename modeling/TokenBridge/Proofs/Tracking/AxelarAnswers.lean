import Mathlib.Data.Set.List
import TokenBridge.Proofs.Config.Precedence
import TokenBridge.Proofs.Tracking.Verdicts

/-!
# Answers of the Axelar network that have another form

An answer of the Axelar network is a map whose data, if there are any, is a list of maps, one for
each call. What is made of an answer looks at less than that: whether the data counts as true, and
whether the first item of a list is a map. So data of another form is refused unless it counts as
false or hides behind a first item of the right form, and `Overlooked` says which answers these are:
**an answer of another form is refused exactly if it is not overlooked** (`ask_axelar_refused_iff`).
-/

namespace TokenBridge.Tracking

/-! ## Delivered values -/

section Delivery

variable {provider : Provider} {settings : Config.RelaySettings} {client : Client}
  {query : Query} {status : Int} {body : Bytes} {v : Value}

theorem ask_of_brings (h : Answered provider settings client query status body)
    (hv : Brings client.depth status body v) :
    (provider.ask settings client query).result =
      (provider.relay.recordsOf settings query v).result := by
  obtain ⟨url, hask⟩ := ask_result h
  rw [hask, read_answered_eq_ok_iff.mpr hv]
  rfl

/-- Web addresses are known for names of networks only. -/
theorem exists_network_of_answered (h : Answered provider settings client query status body) :
    ∃ network, query.network = .text network := by
  obtain ⟨base, -, hbase, -⟩ := h
  unfold Provider.baseUrl at hbase
  split at hbase
  · cases hbase
  · cases hnetwork : query.network with
    | text network => exact ⟨network, rfl⟩
    | _ =>
      rw [hnetwork] at hbase
      cases hbase

end Delivery

namespace Axelar

variable {explorers : Config.Table} {settings : Config.RelaySettings} {query : Query} {v : Value}
  {network : String} {details : Details} {fault : Fault}

/-! ## Pages -/

/-- The page of the transaction of a query: in the explorer of its network. -/
def HasPage (explorers : Config.Table) (query : Query) (page : String) : Prop :=
  ∃ network explorer tx, query.network = .text network ∧ Explores explorers network explorer ∧
    query.tx.printed = .ok tx ∧ page = trimSlashes explorer ++ "/gmp/" ++ tx

theorem explorerUrl_of_hasPage {page : String} (h : HasPage explorers query page) :
    explorerUrl explorers query.network query.tx = .ok page := by
  obtain ⟨network, explorer, tx, hnetwork, hexplorer, htx, rfl⟩ := h
  rw [hnetwork]
  exact explorerUrl_eq_ok_iff.mpr ⟨explorer, tx, hexplorer, htx, rfl⟩

theorem explorerUrl_of_unexplored {tx : Value}
    (h : ∀ explorer, ¬ Explores explorers network explorer) :
    explorerUrl explorers (.text network) tx = .error (.noExplorer "Testnet") := by
  have hfallback {fault : Fault} (hfault : fallbackExplorer explorers = .error fault) :
      fault = .noExplorer "Testnet" := by
    unfold fallbackExplorer fallbackNetwork at hfault
    cases hstandIn : explorers.lookup "Testnet" with
    | none =>
      rw [hstandIn] at hfault
      exact (Except.error.inj hfault).symm
    | some url =>
      rw [hstandIn] at hfault
      cases hfault
  have hbase : explorerBase explorers network = .error (.noExplorer "Testnet") := by
    cases hbase : explorerBase explorers network with
    | ok url => exact absurd (explorerBase_eq_ok_iff.mp hbase) (h url)
    | error fault =>
      unfold explorerBase at hbase
      split at hbase
      · split at hbase
        · rw [hfallback hbase]
        · cases hbase
      · rw [hfallback hbase]
  show (explorerBase explorers network >>= _) = _
  rw [hbase]
  rfl

/-- Details have no record exactly if they say that the call went wrong and there is no explorer. -/
theorem recordOf_eq_error_iff (hnetwork : query.network = .text network) (htx : query.IsShown) :
    recordOf explorers query details = .error fault ↔
      (∃ message, WentWrong details message) ∧
        (∀ explorer, ¬ Explores explorers network explorer) ∧ fault = .noExplorer "Testnet" := by
  by_cases hexplored : ∃ explorer, Explores explorers network explorer
  · obtain ⟨explorer, hexplorer⟩ := hexplored
    obtain ⟨tx, htx⟩ := htx
    have hpage : HasPage explorers query (trimSlashes explorer ++ "/gmp/" ++ tx) :=
      ⟨network, explorer, tx, hnetwork, hexplorer, htx, rfl⟩
    obtain ⟨record, -, hrecord⟩ := exists_hasRecord details (explorerUrl_of_hasPage hpage)
    refine iff_of_false (by simp [hrecord]) ?_
    rintro ⟨-, hnone, -⟩
    exact hnone explorer hexplorer
  · have hnone : ∀ explorer, ¬ Explores explorers network explorer := not_exists.mp hexplored
    have hpage : explorerUrl explorers query.network query.tx = .error (.noExplorer "Testnet") := by
      rw [hnetwork]
      exact explorerUrl_of_unexplored hnone
    unfold recordOf
    cases herror : errorOf? details with
    | none => simp [wentWrong_iff, herror]
    | some error =>
      simp only [hpage, wentWrong_iff, herror, Option.some.injEq]
      constructor
      · intro h
        cases h
        exact ⟨⟨_, error, rfl, rfl⟩, hnone, rfl⟩
      · rintro ⟨-, -, rfl⟩
        rfl

/-- Settings that were loaded have an explorer for every network. -/
theorem exists_explorer_of_loaded (h : settings.Loaded) (network : String) :
    ∃ explorer, Explores settings.axelarExplorer network explorer := by
  obtain ⟨standIn, hstandIn⟩ : ∃ url, (settings.table .axelarExplorer).lookup "Testnet" = some url :=
    Option.isSome_iff_exists.mp (h.isSome_lookup rfl)
  by_cases hown : ∃ url, settings.axelarExplorer.lookup network = some url ∧ url ≠ ""
  · obtain ⟨url, hurl, hne⟩ := hown
    exact ⟨url, .own hurl hne⟩
  · refine ⟨standIn, .standIn (fun url hurl => ?_) hstandIn⟩
    by_contra hne
    exact hown ⟨url, hurl, hne⟩

/-! ## The form of an answer -/

/-- The answer has the details of these calls: it has no data, or a list with one map for each. -/
inductive HasCalls : Value → List Details → Prop
  | missing {entries : Value.Entries} : entries.lookup "data" = none → HasCalls (.map entries) []
  | null {entries : Value.Entries} : entries.lookup "data" = some .null → HasCalls (.map entries) []
  | list {entries : Value.Entries} {calls : List Details} :
      entries.lookup "data" = some (.list (calls.map .map)) → HasCalls (.map entries) calls

/-- The answer has data of another form, and is taken for one with these calls: the data counts as
false, or its first item is a map and a later one is not. -/
inductive Overlooked : Value → List Details → Prop
  | falsy {entries : Value.Entries} {data : Value} : entries.lookup "data" = some data →
      data.truthy = false → data ≠ .null → data ≠ .list [] → Overlooked (.map entries) []
  | tail {entries : Value.Entries} {first : Details} {rest : List Value} :
      entries.lookup "data" = some (.list (.map first :: rest)) →
      (∃ item ∈ rest, ∀ inner, item ≠ .map inner) → Overlooked (.map entries) [first]

theorem member_of_lookup {entries : Value.Entries} {key : String} {data : Value}
    (h : entries.lookup key = some data) : member entries key = data := by
  rw [member, h]
  rfl

theorem recordsOf_of_falsy {entries : Value.Entries}
    (h : (member entries "data").truthy = false) :
    (recordsOf explorers query (.map entries)).result = .ok [] := by
  simp only [recordsOf, recordsOfData, h, Bool.not_false, if_true]

theorem recordsOf_of_no_calls (h : HasCalls v [] ∨ Overlooked v []) :
    (recordsOf explorers query v).result = .ok [] := by
  rcases h with h | h
  · cases h with
    | missing hdata =>
      refine recordsOf_of_falsy ?_
      rw [member, hdata]
      rfl
    | null hdata =>
      refine recordsOf_of_falsy ?_
      rw [member_of_lookup hdata]
      rfl
    | list hdata =>
      refine recordsOf_of_falsy ?_
      rw [member_of_lookup hdata]
      rfl
  · cases h with
    | falsy hdata hfalsy =>
      refine recordsOf_of_falsy ?_
      rw [member_of_lookup hdata]
      exact hfalsy

theorem recordsOf_of_first {first : Details} {others : List Details}
    (h : HasCalls v (first :: others) ∨ Overlooked v (first :: others)) :
    (recordsOf explorers query v).result = (recordOf explorers query first).map ([·]) := by
  obtain ⟨entries, rest, rfl, hdata⟩ : ∃ entries rest, v = .map entries ∧
      entries.lookup "data" = some (.list (.map first :: rest)) := by
    rcases h with h | h
    · cases h with
      | list hdata => exact ⟨_, _, rfl, hdata⟩
    · cases h with
      | tail hdata _ => exact ⟨_, _, rfl, hdata⟩
  simp only [recordsOf, recordsOfData, member_of_lookup hdata]
  rfl

theorem exists_calls_iff {items : List Value} :
    (∃ calls : List Details, calls.map .map = items) ↔
      ∀ item ∈ items, ∃ inner, Value.map inner = item := by
  have hrange := Set.ext_iff.mp (Set.range_list_map Value.map) items
  simpa only [Set.mem_range, Set.mem_ofPred_eq] using hrange

/-- **What is neither of the form of an answer nor overlooked is refused.** -/
theorem recordsOf_refused (hcalls : ∀ calls, ¬ HasCalls v calls)
    (h : ∀ calls, ¬ Overlooked v calls) :
    (recordsOf explorers query v).result = .error (.unexpectedAxelarAnswer query.tx) := by
  cases v with
  | map entries =>
    cases hdata : entries.lookup "data" with
    | none => exact absurd (.missing hdata) (hcalls [])
    | some data =>
      have htruthy : data.truthy = true := by
        rw [← Bool.not_eq_false]
        intro hfalsy
        refine h [] (.falsy hdata hfalsy ?_ ?_)
        · rintro rfl
          exact hcalls [] (.null hdata)
        · rintro rfl
          exact hcalls [] (.list hdata)
      simp only [recordsOf, recordsOfData, member_of_lookup hdata, htruthy, Bool.not_true,
        Bool.false_eq_true, if_false]
      -- a list that starts with a map would be all maps, or hide an item that is none
      split
      · rename_i first rest
        by_cases hrest : ∀ item ∈ rest, ∃ inner, Value.map inner = item
        · obtain ⟨others, rfl⟩ := exists_calls_iff.mpr hrest
          have hall : HasCalls (.map entries) (first :: others) := .list hdata
          exact absurd hall (hcalls _)
        · push Not at hrest
          obtain ⟨item, hitem, hnot⟩ := hrest
          exact absurd (.tail hdata ⟨item, hitem, fun inner => (hnot inner).symm⟩) (h [first])
      · rfl
  | _ => rfl

end Axelar

/-- **What the answers of the Axelar network come to.** An answer without calls has no records and
one with calls has the record of the first; an answer of another form is refused exactly if it is not
overlooked, and an overlooked one is taken for an answer without calls or with a single one. -/
theorem ask_axelar_refused_iff (provider : Provider) (settings : Config.RelaySettings)
    (client : Client) (query : Query) (status : Int) (body : Bytes) (v : Value)
    (hrelay : provider.relay = .axelar) (htx : query.IsShown)
    (hanswer : Answered provider settings client query status body)
    (hbody : Brings client.depth status body v) :
    (Axelar.HasCalls v [] ∨ Axelar.Overlooked v [] →
      (provider.ask settings client query).result = .ok []) ∧
    (∀ page, Axelar.HasPage settings.axelarExplorer query page → ∀ first others,
      Axelar.HasCalls v (first :: others) ∨ Axelar.Overlooked v (first :: others) →
      ∃ record, Axelar.HasRecord first page record ∧
        (provider.ask settings client query).result = .ok [record]) ∧
    (settings.Loaded → ∃ page, Axelar.HasPage settings.axelarExplorer query page) ∧
    ((∀ calls, ¬ Axelar.HasCalls v calls) →
      ((∃ fault, (provider.ask settings client query).result = .error fault ∧
        fault.IsUnavailable) ↔ ∀ calls, ¬ Axelar.Overlooked v calls)) := by
  have hask : (provider.ask settings client query).result =
      (Axelar.recordsOf settings.axelarExplorer query v).result := by
    rw [ask_of_brings hanswer hbody, hrelay]
    rfl
  obtain ⟨network, hnetwork⟩ := exists_network_of_answered hanswer
  rw [hask]
  refine ⟨Axelar.recordsOf_of_no_calls, ?_, ?_, ?_⟩
  · intro page hpage first others h
    obtain ⟨record, hrecord, hrecordOf⟩ :=
      Axelar.exists_hasRecord first (Axelar.explorerUrl_of_hasPage hpage)
    refine ⟨record, hrecord, ?_⟩
    rw [Axelar.recordsOf_of_first h, hrecordOf]
    rfl
  · intro hsettings
    obtain ⟨explorer, hexplorer⟩ := Axelar.exists_explorer_of_loaded hsettings network
    obtain ⟨tx, htx⟩ := htx
    exact ⟨_, network, explorer, tx, hnetwork, hexplorer, htx, rfl⟩
  · intro hcalls
    constructor
    · intro h calls hseen
      obtain ⟨fault, hfault, hkind⟩ := h
      cases calls with
      | nil =>
        rw [Axelar.recordsOf_of_no_calls (.inr hseen)] at hfault
        cases hfault
      | cons first others =>
        rw [Axelar.recordsOf_of_first (.inr hseen)] at hfault
        cases hrecord : Axelar.recordOf settings.axelarExplorer query first with
        | ok record =>
          rw [hrecord] at hfault
          cases hfault
        | error other =>
          obtain ⟨-, -, rfl⟩ := (Axelar.recordOf_eq_error_iff hnetwork htx).mp hrecord
          rw [hrecord] at hfault
          cases hfault
          cases hkind
    · intro h
      exact ⟨_, Axelar.recordsOf_refused hcalls h, isUnavailable_of_shown htx rfl⟩

namespace Sample

/-! ## Data of other forms -/

/-- A provider of the Axelar network with an address of its own. -/
def axelarAt : Provider := ⟨.axelar, some [("Testnet", .text "http://a/")], none⟩

/-- A query about a transaction on a chain that the Axelar network serves. -/
def sepolia : Query := ⟨.text "Testnet", .text "0xdef", .text "Sepolia"⟩

/-- What comes of the query when it is answered. -/
def sepoliaResult (body : Bytes) : Except Fault (List StatusRecord) :=
  (axelarAt.ask Config.initialRelay (answering body) sepolia).result

theorem answered_sepolia (body : Bytes) :
    Answered axelarAt Config.initialRelay (answering body) sepolia 200 body :=
  ⟨"http://a", .map [("sourceChain", .text "ethereum-sepolia"), ("txHash", .text "0xdef")],
    by cbv, by cbv, rfl⟩

/-- A list for data, and behind the details of a call something that is none. -/
def mixedData : Bytes :=
  "\x7b\"data\":[\x7b\"status\":\"executed\"\x7d,true]\x7d".toUTF8.toList

theorem read_mixedData : Json.read 100 mixedData = .ok
    (.map [("data", .list [.map [("status", .text "executed")], .bool true])]) := by cbv

/-- A map for data, with nothing in it. -/
def emptyMapData : Bytes := "\x7b\"data\":\x7b\x7d\x7d".toUTF8.toList

theorem read_emptyMapData : Json.read 100 emptyMapData = .ok (.map [("data", .map [])]) := by cbv

/-- A truth value for data. -/
def truthData : Bytes := "\x7b\"data\":true\x7d".toUTF8.toList

theorem read_truthData : Json.read 100 truthData = .ok (.map [("data", .bool true)]) := by cbv

theorem not_hasCalls_of_not_list {data : Value} (hnull : data ≠ .null)
    (hlist : ∀ items, data ≠ .list items) (calls : List Axelar.Details) :
    ¬ Axelar.HasCalls (.map [("data", data)]) calls := by
  intro h
  cases h with
  | missing hdata => cases hdata
  | null hdata => exact hnull (Option.some.inj hdata)
  | list hdata => exact hlist _ (Option.some.inj hdata)

theorem not_hasCalls_mixedData (calls : List Axelar.Details) : ¬ Axelar.HasCalls
    (.map [("data", .list [.map [("status", .text "executed")], .bool true])]) calls := by
  intro h
  cases h with
  | missing hdata => cases hdata
  | null hdata => cases hdata
  | list hdata =>
    have hitems := Value.list.inj (Option.some.inj hdata)
    have hall := Axelar.exists_calls_iff.mp ⟨calls, hitems.symm⟩ (.bool true) (by simp)
    obtain ⟨inner, hinner⟩ := hall
    cases hinner

theorem hasPage_sepolia : Axelar.HasPage Config.initialRelay.axelarExplorer sepolia
    "https://testnet.axelarscan.io/gmp/0xdef" :=
  ⟨"Testnet", "https://testnet.axelarscan.io", "0xdef", rfl, .own rfl (by decide), rfl, by cbv⟩

/-- A truth value is refused; an empty map counts as false, and is taken for no calls. -/
theorem ask_axelar_refused_sample :
    (∃ fault, sepoliaResult truthData = .error fault ∧ fault.IsUnavailable) ∧
    sepoliaResult emptyMapData = .ok [] ∧
    ∃ record, sepoliaResult mixedData = .ok [record] := by
  have hask (body : Bytes) (v : Value) (hv : Json.read 100 body = .ok v) :=
    ask_axelar_refused_iff axelarAt Config.initialRelay (answering body) sepolia 200
      body v rfl ⟨"0xdef", rfl⟩ (answered_sepolia body) ⟨by decide, hv⟩
  obtain ⟨-, -, -, htruth⟩ := hask _ _ read_truthData
  obtain ⟨hempty, -⟩ := hask _ _ read_emptyMapData
  obtain ⟨-, hmixed, -⟩ := hask _ _ read_mixedData
  refine ⟨(htruth (not_hasCalls_of_not_list nofun nofun)).mpr ?_,
    hempty (.inr (.falsy rfl rfl nofun nofun)), ?_⟩
  · intro calls h
    cases h with
    | falsy hdata hfalsy =>
      cases hdata
      cases hfalsy
    | tail hdata => cases hdata
  · obtain ⟨record, -, hresult⟩ :=
      hmixed _ hasPage_sepolia _ [] (.inr (.tail rfl ⟨.bool true, by simp, nofun⟩))
    exact ⟨record, hresult⟩

/-- **Not every answer of another form is refused.** An empty map for data comes to no records, and
details of a call before something that is no map come to the record of that call. -/
theorem ask_axelar_overlooked :
    (Brings 100 200 emptyMapData (.map [("data", .map [])]) ∧
      (∀ calls, ¬ Axelar.HasCalls (.map [("data", .map [])]) calls) ∧
      sepoliaResult emptyMapData = .ok []) ∧
    Brings 100 200 mixedData
      (.map [("data", .list [.map [("status", .text "executed")], .bool true])]) ∧
    (∀ calls, ¬ Axelar.HasCalls
      (.map [("data", .list [.map [("status", .text "executed")], .bool true])]) calls) ∧
    sepoliaResult mixedData = .ok [.ofStatus "destination_executed"] := by
  have hempty : Brings 100 200 emptyMapData (.map [("data", .map [])]) :=
    ⟨by decide, read_emptyMapData⟩
  have hmixed : Brings 100 200 mixedData
      (.map [("data", .list [.map [("status", .text "executed")], .bool true])]) :=
    ⟨by decide, read_mixedData⟩
  refine ⟨⟨hempty, not_hasCalls_of_not_list nofun nofun, ?_⟩, hmixed, not_hasCalls_mixedData, ?_⟩
  · rw [sepoliaResult, ask_of_brings (answered_sepolia _) hempty]
    rfl
  · rw [sepoliaResult, ask_of_brings (answered_sepolia _) hmixed]
    rfl

end Sample

end TokenBridge.Tracking
