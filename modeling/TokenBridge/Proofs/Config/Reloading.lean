import TokenBridge.Proofs.Config.Precedence
import TokenBridge.Proofs.Run
import TokenBridge.Proofs.Text.LetterCase

/-!
# Runs of reloads

A reload replaces four things one after another, and may fail. All that can fail is the loading,
and it comes before the first replacement, so that a reload is one equation
(`Session.run_reloading`): new settings with everything in step, or a fault and the session as it
was.

What follows for a run of any length is that **its last successful call decides**, with the name of
the environment that was in use before that call (`Session.madeBy_afterAll`). The name is carried
from one load to the next and is read in lower case each time; it stays the same because a
lower-case form is its own.
-/

namespace TokenBridge.Config

/-- A call to reload the settings. -/
structure Call where
  env : Option String
  vars : Variables
  overrides : Value

/-- The call names no environment. -/
def Call.KeepsName (call : Call) : Prop := call.env = none ∨ call.env = some ""

/-- What a call loads where an environment is in use. -/
def Call.load (call : Call) (kept : String) : Except Fault Settings :=
  Config.load (some (nameOrKept call.env kept)) call.vars call.overrides

/-- Settings that were loaded. -/
def Settings.Loaded (x : Settings) : Prop :=
  ∃ env vars overrides, load env vars overrides = .ok x

namespace Session

/-- What a call answers. -/
def answer (session : Session) (call : Call) : Except Fault Settings :=
  match (reloading call.env call.vars call.overrides).run session with
  | .ok x _ => .ok x
  | .error fault _ => .error fault

/-- The session that a call leaves, whether it succeeds or fails. -/
def after (session : Session) (call : Call) : Session :=
  match (reloading call.env call.vars call.overrides).run session with
  | .ok _ next => next
  | .error _ next => next

/-- The session that calls one after another leave. -/
def afterAll (session : Session) (calls : List Call) : Session := calls.foldl after session

/-- The last call that succeeds, and the environment that was in use before it. -/
def lastLoad? (session : Session) (calls : List Call) : Option (Call × String) :=
  lastEffect? after (fun session call =>
    (session.answer call).toOption.map fun _ => (call, session.settings.env)) session calls

/-- The session is the one that a call makes where an environment is in use. -/
def MadeBy (session : Session) (last : Call × String) : Prop :=
  ∃ x, last.1.load last.2 = .ok x ∧ session = ofSettings x

/-- What is handed out on its own is that of the settings in use. -/
structure InStep (session : Session) : Prop where
  network : session.network = session.settings.network
  relayTimeout : session.relayTimeout = session.settings.relay.requestTimeout
  logging : session.logging = session.settings.logging

theorem inStep_ofSettings (x : Settings) : (ofSettings x).InStep := ⟨rfl, rfl, rfl⟩

variable {session : Session} {call : Call} {calls : List Call} {x start : Settings}
  {vars vars' : Variables} {fault : Fault} {kept : String}

/-! ## One reload -/

/-- **A reload replaces everything or nothing.** -/
theorem run_reloading (session : Session) (call : Call) :
    (reloading call.env call.vars call.overrides).run session =
      match call.load session.settings.env with
      | .ok x => .ok x (ofSettings x)
      | .error fault => .error fault session := by
  simp only [reloading, EStateM.run_bind, EStateM.run_get, Call.load]
  cases load (some (nameOrKept call.env session.settings.env)) call.vars call.overrides with
  | ok x => rfl
  | error fault => rfl

/-- A reload gives the session that the call leaves, if it succeeds. -/
theorem reload_eq (session : Session) (call : Call) :
    session.reload call.env call.vars call.overrides =
      (session.answer call).map fun _ => session.after call := by
  unfold reload answer after
  cases (reloading call.env call.vars call.overrides).run session <;> rfl

theorem answer_eq (session : Session) (call : Call) :
    session.answer call = call.load session.settings.env := by
  rw [answer, run_reloading]
  cases call.load session.settings.env <;> rfl

theorem after_of_ok (h : call.load session.settings.env = .ok x) :
    session.after call = ofSettings x := by
  rw [after, run_reloading, h]

theorem after_of_error (h : call.load session.settings.env = .error fault) :
    session.after call = session := by
  rw [after, run_reloading, h]

/-! ## Names of environments -/

theorem env_of_load {env : Option String} {overrides : Value}
    (h : load env vars overrides = .ok x) :
    x.env = environmentName env vars := by
  obtain ⟨entries, -, hcheck⟩ := bind_eq_ok_iff.mp h
  obtain ⟨relay, logging, hx⟩ := check_eq_ok_iff.mp hcheck
  exact hx.env

theorem lowercase_env (h : x.Loaded) : Text.lowercase x.env = x.env := by
  obtain ⟨env, vars, overrides, h⟩ := h
  rw [env_of_load h]
  unfold environmentName
  exact Text.lowercase_lowercase _

/-- The name in use is loaded again, whatever the variables say. -/
theorem environmentName_kept (h : x.Loaded) (hne : x.env ≠ "") (hcall : call.KeepsName) :
    environmentName (some (nameOrKept call.env x.env)) vars = x.env := by
  have hkept : nameOrKept call.env x.env = x.env := by
    rcases hcall with hcall | hcall <;> rw [hcall] <;> rfl
  have hisEmpty : x.env.isEmpty = false := by
    rw [← Bool.not_eq_true, String.isEmpty_iff]
    exact hne
  rw [hkept, environmentName]
  simp only [hisEmpty, Bool.false_eq_true, if_false]
  exact lowercase_env h

theorem layVariables_congr {table : List (String × List String × Reading)}
    (h : ∀ entry ∈ table, vars.lookup entry.1 = vars'.lookup entry.1) :
    ∀ {layer : Value.Entries}, layVariables vars table layer = layVariables vars' table layer := by
  induction table with
  | nil => intro layer; rfl
  | cons entry table ih =>
    intro layer
    obtain ⟨name, path, reading⟩ := entry
    obtain ⟨hname, htable⟩ := List.forall_mem_cons.mp h
    rw [layVariables, layVariables, ← hname]
    cases vars.lookup name with
    | none => exact ih htable
    | some text =>
      refine congrArg (readVariable name reading text >>= ·) ?_
      funext v
      exact ih htable

/-- Variables that differ at most in the name of the environment lay the same over the defaults. -/
theorem variableLayer_congr (h : ∀ name, name ≠ "NTT_ENV" → vars.lookup name = vars'.lookup name) :
    variableLayer vars = variableLayer vars' := by
  have hnames : ∀ entry ∈ variablePaths, entry.1 ≠ "NTT_ENV" := by decide
  exact layVariables_congr fun entry hentry => h entry.1 (hnames entry hentry)

theorem load_kept_congr (h : x.Loaded) (hne : x.env ≠ "") (hcall : call.KeepsName)
    (hvars : ∀ name, name ≠ "NTT_ENV" → call.vars.lookup name = vars'.lookup name) :
    call.load x.env = { call with vars := vars' }.load x.env := by
  have hname (vars : Variables) :
      environmentName (some (nameOrKept call.env x.env)) vars = x.env :=
    environmentName_kept h hne hcall
  rw [Call.load, Call.load, load, load, hname, hname, layered, layered, variableLayer_congr hvars]

/-! ## Runs -/

theorem madeBy_after {last : Call × String}
    (h : ((session.answer call).toOption.map fun _ => (call, session.settings.env)) = some last) :
    (session.after call).MadeBy last := by
  rw [answer_eq] at h
  cases hload : call.load session.settings.env with
  | ok x =>
    rw [hload] at h
    cases h
    exact ⟨x, hload, after_of_ok hload⟩
  | error fault =>
    rw [hload] at h
    cases h

theorem after_of_no_effect
    (h : ((session.answer call).toOption.map fun _ => (call, session.settings.env)) = none) :
    session.after call = session := by
  rw [answer_eq] at h
  cases hload : call.load session.settings.env with
  | ok x =>
    rw [hload] at h
    cases h
  | error fault => exact after_of_error hload

theorem afterAll_of_none (h : session.lastLoad? calls = none) : session.afterAll calls = session :=
  foldl_of_lastEffect?_eq_none (fun _ _ => after_of_no_effect) h

/-- **The last call that succeeds decides**, with the environment that was in use before it. -/
theorem madeBy_afterAll {last : Call × String} (h : session.lastLoad? calls = some last) :
    (session.afterAll calls).MadeBy last :=
  foldl_of_lastEffect?_eq_some (P := fun last session => MadeBy session last)
    (fun _ _ => after_of_no_effect) (fun _ _ _ => madeBy_after) h

theorem MadeBy.unique {other : Session} {last : Call × String} (h : session.MadeBy last)
    (h' : other.MadeBy last) : other = session := by
  obtain ⟨x, hx, hsession⟩ := h
  obtain ⟨y, hy, hother⟩ := h'
  obtain rfl := Except.ok.inj (hx.symm.trans hy)
  exact hother.trans hsession.symm

/-- Settings in use were loaded, if those at the start were. -/
theorem afterAll_ofSettings (h : start.Loaded) (calls : List Call) :
    ∃ x, x.Loaded ∧ (ofSettings start).afterAll calls = ofSettings x := by
  cases hlast : (ofSettings start).lastLoad? calls with
  | none => exact ⟨start, h, afterAll_of_none hlast⟩
  | some last =>
    obtain ⟨x, hload, hx⟩ := madeBy_afterAll hlast
    exact ⟨x, ⟨_, _, _, hload⟩, hx⟩

/-- **Reloads are atomic.** After any calls, everything that is handed out is that of the settings
in use; a call that fails leaves the session; a call that names no environment loads the one in
use, whatever the variables say of it; and the session is the one that the last successful call
makes, with the name of the environment before it, so that runs with the same such call and name
end alike. -/
theorem reload_run (hstart : start.Loaded) (calls : List Call)
    (hsession : (ofSettings start).afterAll calls = session) :
    session.InStep ∧
    (∀ call fault, session.answer call = .error fault → session.after call = session) ∧
    (∀ (call : Call) (vars : Variables), call.KeepsName → session.settings.env ≠ "" →
      (∀ name, name ≠ "NTT_ENV" → call.vars.lookup name = vars.lookup name) →
      session.answer call = session.answer { call with vars } ∧
      ∀ x, session.answer call = .ok x → x.env = session.settings.env) ∧
    ((ofSettings start).lastLoad? calls = none → session = ofSettings start) ∧
    (∀ last, (ofSettings start).lastLoad? calls = some last → session.MadeBy last ∧
      ∀ (other : Session) (others : List Call), other.lastLoad? others = some last →
        other.afterAll others = session) := by
  obtain ⟨x, hx, hofSettings⟩ := afterAll_ofSettings hstart calls
  rw [hsession] at hofSettings
  refine ⟨hofSettings ▸ inStep_ofSettings x, ?_, ?_, ?_, ?_⟩
  · intro call fault hfault
    rw [answer_eq] at hfault
    exact after_of_error hfault
  · intro call vars hcall hne hvars
    subst hofSettings
    rw [answer_eq, answer_eq]
    refine ⟨load_kept_congr hx hne hcall hvars, ?_⟩
    intro y hy
    exact (env_of_load hy).trans (environmentName_kept hx hne hcall)
  · intro hnone
    exact hsession.symm.trans (afterAll_of_none hnone)
  · intro last hlast
    have hmade : session.MadeBy last := hsession ▸ madeBy_afterAll hlast
    refine ⟨hmade, ?_⟩
    intro other others hother
    exact hmade.unique (madeBy_afterAll hother)

end Session

namespace Sample

/-! ## A load, and a reload that fails -/

/-- The environment `test`, by a name in capitals. -/
def loadTest : Call := ⟨some "TEST", vars, overrides⟩

/-- The variables name another environment, and the timeout cannot be read. -/
def failToReload : Call :=
  ⟨none, [("NTT_ENV", "production"), ("NTT_RELAY_TIMEOUT", "soon")], .null⟩

theorem load_failToReload :
    failToReload.load "test" = .error (.notANumber "NTT_RELAY_TIMEOUT" "soon") := by
  have hread : readVariable "NTT_RELAY_TIMEOUT" .asNumber "soon" =
      .error (.notANumber "NTT_RELAY_TIMEOUT" "soon") := by
    have hnone : Number.float? "soon".toList = none := by decide +kernel
    rw [readVariable, hnone]
  have hvariables : variableLayer failToReload.vars =
      .error (.notANumber "NTT_RELAY_TIMEOUT" "soon") := by
    show (readVariable "NTT_RELAY_TIMEOUT" .asNumber "soon" >>= _) = _
    rw [hread]
    rfl
  rw [Call.load, load, layered, hvariables]
  rfl

theorem afterAll_failToReload :
    (Session.ofSettings initialSettings).afterAll [loadTest, failToReload] =
      Session.ofSettings settings := by
  have hloaded :
      (Session.ofSettings initialSettings).after loadTest = Session.ofSettings settings :=
    Session.after_of_ok load_settings
  have hkept : (Session.ofSettings settings).after failToReload = Session.ofSettings settings :=
    Session.after_of_error load_failToReload
  show ((Session.ofSettings initialSettings).after loadTest).after failToReload = _
  rw [hloaded, hkept]

/-- The failed reload leaves the settings of `test` in use. With a timeout that can be read, the
same call loads `test` again, although the variables name another environment. -/
theorem reload_run_failing :
    initialSettings.Loaded ∧
    (Session.ofSettings initialSettings).afterAll [loadTest, failToReload] =
      Session.ofSettings settings ∧
    (Session.ofSettings settings).InStep ∧
    (Session.ofSettings settings).after failToReload = Session.ofSettings settings ∧
    ∀ x, (Session.ofSettings settings).answer ⟨none, [("NTT_ENV", "production")], .null⟩ = .ok x →
      x.env = "test" := by
  have hstart : initialSettings.Loaded := ⟨none, [], .null, load_initialSettings⟩
  obtain ⟨hinStep, hfailed, hkept, -⟩ := Session.reload_run hstart _ afterAll_failToReload
  have herror : (Session.ofSettings settings).answer failToReload =
      .error (.notANumber "NTT_RELAY_TIMEOUT" "soon") := by
    rw [Session.answer_eq]
    exact load_failToReload
  refine ⟨hstart, afterAll_failToReload, hinStep, hfailed _ _ herror, ?_⟩
  refine (hkept _ [] (.inl rfl) (by decide) ?_).2
  intro name hname
  rw [List.lookup_cons, beq_eq_false_iff_ne.mpr hname]

end Sample

end TokenBridge.Config
